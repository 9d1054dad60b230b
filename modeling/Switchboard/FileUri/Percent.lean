/-
# Percent-encoding

A URI spells a byte that it may not hold as itself by a percent sign and two
hexadecimal digits.  `encode` does so for the bytes outside ASCII, the control
characters and the marks that would end a path segment or be mistaken in one;
`decode` takes it back, and leaves a percent sign alone that no two digits
follow.
-/

import Switchboard.Json.Raw

namespace Switchboard
namespace Percent

/-- Marks that are spelled out in a path segment: blank, quote, `#`, `%`, `/`,
`<`, `>`, `?`, backslash, backquote and braces. -/
def marks : Bytes := [0x20, 0x22, 0x23, 0x25, 0x2F, 0x3C, 0x3E, 0x3F, 0x5C, 0x60, 0x7B, 0x7D]

/-- Whether a byte is spelled out in a path segment. -/
def isSpelled (b : UInt8) : Bool := b < 0x20 || 0x7F ≤ b || marks.contains b

/-- A hexadecimal digit in upper case. -/
def digit (n : Nat) : UInt8 := if n < 10 then UInt8.ofNat (0x30 + n) else UInt8.ofNat (0x37 + n)

/-- The spelling of a byte in a path segment. -/
def encodeByte (b : UInt8) : Bytes :=
  if isSpelled b then [0x25, digit (b.toNat / 16), digit (b.toNat % 16)] else [b]

/-- The spelling of a path segment. -/
def encode (bs : Bytes) : Bytes := bs.flatMap encodeByte

/-- The byte that a percent sign before these bytes spells. -/
def spelled? : Bytes → Option UInt8
  | h :: l :: _ =>
    (Raw.hexDigit? h).bind fun a => (Raw.hexDigit? l).map fun b => UInt8.ofNat (a * 16 + b)
  | _ => none

/-- The bytes that a text spells; the first `skip` of it have been read. -/
def decodeFrom : Nat → Bytes → Bytes
  | _, [] => []
  | skip + 1, _ :: rest => decodeFrom skip rest
  | 0, b :: rest =>
    if b == 0x25 then
      match spelled? rest with
      | some v => v :: decodeFrom 2 rest
      | none => b :: decodeFrom 0 rest
    else b :: decodeFrom 0 rest

/-- The bytes that a text spells. -/
def decode (bs : Bytes) : Bytes := decodeFrom 0 bs

end Percent
end Switchboard
