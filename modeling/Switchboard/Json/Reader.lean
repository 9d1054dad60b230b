/-
# Reading JSON

The value of a text is read in two steps: `Raw.read?` follows the grammar, and
`ofRaw?` judges what the grammar leaves open.  Strings must spell UTF-8 and
pair their surrogates, the nesting is bounded, and a number that is no 64-bit
integer is read as a float: its digits are collected as long as they fit a
64-bit word, the rest of them only count, and the result is scaled by one
rounded power of ten.  A float beyond the range is refused; one too small for
it is zero.
-/

import Switchboard.Json.Raw
import Switchboard.Json.Value

namespace Switchboard

namespace Literal

/-- The significand collected so far and the power of ten that belongs to it. -/
structure Collected where
  significand : Nat
  exponent : Int

/-- Numbers from here on do not fit an unsigned 64-bit word. -/
def wordLimit : Nat := Nat.pow 2 64

/-- The value of an ASCII digit. -/
def digitValue (b : UInt8) : Nat := b.toNat - 0x30

/-- The number that a run of digits spells. -/
def natValue (ds : Bytes) : Nat := ds.foldl (fun n d => n * 10 + digitValue d) 0

/-- Collects the digits before the point; from the first that does not fit on,
each only raises the power of ten. -/
def collectWhole : Nat → Bytes → Collected
  | n, [] => ⟨n, 0⟩
  | n, d :: rest =>
    if n * 10 + digitValue d < wordLimit then collectWhole (n * 10 + digitValue d) rest
    else ⟨n, rest.length + 1⟩

/-- Collects the digits after the point up to the first that does not fit. -/
def collectFraction : Collected → Bytes → Collected
  | c, [] => c
  | c, d :: rest =>
    if c.significand * 10 + digitValue d < wordLimit then
      collectFraction ⟨c.significand * 10 + digitValue d, c.exponent - 1⟩ rest
    else c

/-- Divides by `10 ^ k` in steps of at most `10 ^ 308`. -/
def shrink : Nat → Binary64 → Nat → Binary64
  | 0, f, _ => f
  | fuel + 1, f, k =>
    if k ≤ 308 then f.div (Binary64.powTen k)
    else if f = Binary64.zero then f
    else shrink fuel (f.div (Binary64.powTen 308)) (k - 308)

/-- The float of a collected number, none when it is out of range. -/
def Collected.float? (c : Collected) : Option Binary64 :=
  let f := Binary64.nearest c.significand 1
  if c.exponent < 0 then some (shrink (c.exponent.natAbs / 308 + 1) f c.exponent.natAbs)
  else if c.exponent ≤ 308 then
    let g := f.mul (Binary64.powTen c.exponent.natAbs)
    if g.isBeyond then none else some g
  else if c.significand = 0 then some f else none

/-- Exponents from here on are not computed with. -/
def exponentLimit : Nat := Nat.pow 2 31

/-- The absolute value of a number that is read as a float. -/
def magnitude? (l : Literal) : Option Binary64 :=
  let c := collectFraction (collectWhole 0 l.whole) l.fraction
  match l.exponent with
  | none => c.float?
  | some (positive, ds) =>
    let e := natValue ds
    if exponentLimit ≤ e then
      if c.significand ≠ 0 && positive then none else some Binary64.zero
    else Collected.float? ⟨c.significand, if positive then c.exponent + e else c.exponent - e⟩

/-- The float that a literal spells. -/
def float? (l : Literal) : Option Json :=
  l.magnitude?.map fun f => .float (if l.negative then f.neg else f)

/-- The value that a literal spells: an integer if it is written as one and
fits 64 bits, signed or unsigned, otherwise a float, which `-0` is too. -/
def value? (l : Literal) : Option Json :=
  if l.fraction.isEmpty && l.exponent.isNone then
    let n := natValue l.whole
    if l.negative then
      if 0 < n && n ≤ Nat.pow 2 63 then some (.int (-(n : Int))) else l.float?
    else if n < wordLimit then some (.int n) else l.float?
  else l.float?

end Literal

namespace Raw

/-- The number that four hexadecimal digits spell. -/
def hexValue (a b c d : UInt8) : Nat :=
  let v (x : UInt8) : Nat := (hexDigit? x).getD 0
  ((v a * 16 + v b) * 16 + v c) * 16 + v d

/-- The byte that a short escape stands for. -/
def shortEscape (b : UInt8) : UInt8 :=
  if b == 0x62 then 0x08
  else if b == 0x66 then 0x0C
  else if b == 0x6E then 0x0A
  else if b == 0x72 then 0x0D
  else if b == 0x74 then 0x09
  else b

/-- The bytes of a code point. -/
def codePoint (n : Nat) : Bytes := String.utf8EncodeChar (Char.ofNat n)

/-- The bytes of the character that a `\u` escape spells, its four digits and
everything after them given, and how many bytes after the digits belong to it:
a high surrogate needs a low one behind it, a low one may not stand alone. -/
def unicodeEscape (n : Nat) (rest : Bytes) : Option (Bytes × Nat) :=
  if 0xDC00 ≤ n && n ≤ 0xDFFF then none
  else if 0xD800 ≤ n && n ≤ 0xDBFF then
    match rest with
    | 0x5C :: 0x75 :: a :: b :: c :: d :: _ =>
      let low := hexValue a b c d
      if 0xDC00 ≤ low && low ≤ 0xDFFF then
        some (codePoint (0x10000 + (n - 0xD800) * 0x400 + (low - 0xDC00)), 6)
      else none
    | _ => none
  else some (codePoint n, 0)

/-- The bytes that the content of a string spells; the first `skip` of them
belong to an escape that has been read. -/
def unescape : Nat → Bytes → Option Bytes
  | _, [] => some []
  | skip + 1, _ :: rest => unescape skip rest
  | 0, b :: rest =>
    if b == 0x5C then
      match rest with
      | 0x75 :: h₁ :: h₂ :: h₃ :: h₄ :: after =>
        (unicodeEscape (hexValue h₁ h₂ h₃ h₄) after).bind fun (bytes, n) =>
          (unescape (5 + n) rest).map (bytes ++ ·)
      | e :: _ => (unescape 1 rest).map (shortEscape e :: ·)
      | [] => none
    else (unescape 0 rest).map (b :: ·)

/-- The text that the content of a string spells. -/
def spelled? (escaped : Bytes) : Option String := (unescape 0 escaped).bind Utf8.decode?

end Raw

namespace Json

mutual

/-- The value of a text whose containers may nest `depth` deep. -/
def ofRaw? (depth : Nat) : Raw → Option Json
  | .null => some .null
  | .bool b => some (.bool b)
  | .number l => l.value?
  | .text s => (Raw.spelled? s).map .str
  | .list items => match depth with
    | 0 => none
    | depth + 1 => (ofItems? depth items).map .arr
  | .record members => match depth with
    | 0 => none
    | depth + 1 => (ofMembers? depth members).map ofMembers

/-- The values of the items of an array. -/
def ofItems? (depth : Nat) : List Raw → Option (List Json)
  | [] => some []
  | item :: rest => (ofRaw? depth item).bind fun v => (ofItems? depth rest).map (v :: ·)

/-- The members of an object, in the order of the text. -/
def ofMembers? (depth : Nat) : List (Bytes × Raw) → Option (List (String × Json))
  | [] => some []
  | (key, value) :: rest =>
    (Raw.spelled? key).bind fun k => (ofRaw? depth value).bind fun v =>
      (ofMembers? depth rest).map ((k, v) :: ·)

end

/-- How deep the containers of a text may nest. -/
def maxDepth : Nat := 127

/-- The value of a text with containers at most `depth` deep. -/
def readWithin? (depth : Nat) (bs : Bytes) : Option Json := (Raw.read? bs).bind (ofRaw? depth)

/-- The value of a text. -/
def read? (bs : Bytes) : Option Json := readWithin? maxDepth bs

end Json
end Switchboard
