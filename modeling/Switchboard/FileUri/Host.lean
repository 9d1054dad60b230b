/-
# Hosts

A path can be told from a URI only when the URI names no host, or this one by
its name `localhost`.  A host is a domain name, an IPv4 address in any of its
spellings, or an IPv6 address in brackets; a name is compared as it is read
after its percent escapes are decoded.
-/

import Switchboard.Domain.Name
import Switchboard.FileUri.Percent

namespace Switchboard
namespace Host

/-- What a host text names. -/
inductive Named where
  | loopback
  | other
  deriving DecidableEq, Repr

/-- The value of a digit in a base of at most sixteen. -/
def digit? (base : Nat) (c : Char) : Option Nat :=
  (Raw.hexDigit? (UInt8.ofNat (if c.toNat < 0x80 then c.toNat else 0))).filter (· < base)

/-- The number that a run of digits spells. -/
def number? (base : Nat) (cs : List Char) : Option Nat :=
  cs.foldlM (fun n c => (digit? base c).map fun d => n * base + d) 0

/-- A part of an IPv4 address: decimal, octal after a zero, hexadecimal after `0x`. -/
def part? : List Char → Option Nat
  | [] => none
  | '0' :: 'x' :: rest => number? 16 rest
  | ['0'] => some 0
  | '0' :: rest => number? 8 rest
  | cs => number? 10 cs

/-- The parts of a dotted name, an empty last one left out. -/
def dotted (cs : List Char) : List (List Char) :=
  let parts := cs.splitOn '.'
  if 1 < parts.length && parts.getLast? == some [] then parts.dropLast else parts

/-- Whether a name ends in a number and so has to be an address. -/
def endsInNumber (cs : List Char) : Bool :=
  match (dotted cs).getLast? with
  | none | some [] => false
  | some last => last.all (fun c => '0' ≤ c && c ≤ '9') ||
      (last.take 2 == ['0', 'x'] && (part? last).isSome)

/-- Whether a dotted name is an IPv4 address: at most four parts, the last of
which fills the bytes that the others leave. -/
def isIPv4 (cs : List Char) : Bool :=
  let parts := dotted cs
  parts.length ≤ 4 &&
    match parts.mapM part? with
    | some values =>
      values.dropLast.all (· ≤ 255) && values.getLast?.all (· < Nat.pow 256 (5 - values.length))
    | none => false

/-- How many of the eight groups of an IPv6 address a list of pieces fills. -/
def groups? : List (List Char) → Option Nat
  | [] => some 0
  | [last] =>
    if last.contains '.' then
      let bytes := last.splitOn '.'
      if bytes.length = 4 && bytes.all (fun b =>
          (number? 10 b).any (· ≤ 255) && !b.isEmpty && (b.length = 1 || b.head? != some '0'))
      then some 2 else none
    else if !last.isEmpty && last.length ≤ 4 && (number? 16 last).isSome then some 1 else none
  | piece :: rest =>
    if !piece.isEmpty && piece.length ≤ 4 && (number? 16 piece).isSome then
      (groups? rest).map (· + 1)
    else none

/-- The pieces of one side of an IPv6 address. -/
def pieces (side : List Char) : List (List Char) := if side.isEmpty then [] else side.splitOn ':'

/-- The texts before and after the first double colon. -/
def splitGap : List Char → Option (List Char × List Char)
  | ':' :: ':' :: rest => some ([], rest)
  | c :: rest => (splitGap rest).map fun (before, after) => (c :: before, after)
  | [] => none

/-- Whether a text is an IPv6 address. -/
def isIPv6 (cs : List Char) : Bool :=
  match splitGap cs with
  | none => groups? (pieces cs) == some 8
  | some (before, after) =>
    match groups? (pieces before), groups? (pieces after) with
    | some m, some n => m + n ≤ 7 && !before.contains '.'
    | _, _ => false

/-- The name that is this host. -/
def loopbackName : List Char := "localhost".toList

/-- What a host text of a scheme with network hosts names; none if it is no host. -/
def read? (cs : List Char) : Option Named :=
  match cs with
  | '[' :: rest =>
    if rest.getLast? == some ']' && isIPv6 rest.dropLast then some .other else none
  | _ =>
    (Utf8.decode? (Percent.decode (Utf8.encode (String.ofList cs)))).bind fun decoded =>
      (Domain.name? decoded.toList).bind fun name =>
        if name.isEmpty || (endsInNumber name && !isIPv4 name) then none
        else some (if name = loopbackName then .loopback else .other)

/-- What a host text of any other scheme names: it is taken as it is. -/
def readOpaque? (cs : List Char) : Option Named :=
  match cs with
  | '[' :: rest =>
    if rest.getLast? == some ']' && isIPv6 rest.dropLast then some .other else none
  | _ =>
    if cs.any fun c => "\x00\t\n\r #/:<>?@[\\]^|".toList.contains c then none
    else if cs = loopbackName || cs.isEmpty then some .loopback
    else some .other

end Host
end Switchboard
