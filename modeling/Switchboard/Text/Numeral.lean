/-
# Decimal numerals

Reading is for counts that have to fit a 64-bit word: an optional plus sign,
then ASCII digits only, leading zeros allowed.  Writing gives the digits
without leading zeros.
-/

namespace Switchboard
namespace Numeral

/-- The largest count plus one: numerals from here on are refused. -/
def wordBound : Nat := Nat.pow 2 64

/-- The value of an ASCII digit. -/
def digit? (c : Char) : Option Nat :=
  if '0' ≤ c && c ≤ '9' then some (c.toNat - '0'.toNat) else none

/-- The value of a run of digits read after digits of the value `acc`. -/
def valueFrom (acc : Nat) : List Char → Option Nat
  | [] => some acc
  | c :: rest => (digit? c).bind fun d => valueFrom (acc * 10 + d) rest

/-- The value of a non-empty run of digits. -/
def value? : List Char → Option Nat
  | [] => none
  | cs => valueFrom 0 cs

/-- A word-sized count: `12`, `+12` and `012` are the same, `-0`, `1_0` and
`18446744073709551616` are none. -/
def parse? (cs : List Char) : Option Nat :=
  let digits := match cs with
    | '+' :: rest => rest
    | _ => cs
  (value? digits).filter (· < wordBound)

/-- The digits of a number. -/
def render (n : Nat) : List Char := Nat.toDigits 10 n

example : parse? "+012".toList = some 12 ∧ parse? "-0".toList = none ∧
    parse? "+".toList = none := by
  decide

end Numeral
end Switchboard
