/-
# The shortest decimal of a binary64

Among the decimals that read back as a given binary64, `digits` finds the one
with the fewest digits and, of those, the nearest: for one digit, two digits
and so on it looks at the two neighbours of the value on that decimal grid.
Seventeen digits always suffice.  `render` lays the digits out: positional
between `1e-5` and `1e16`, with a point in any case, otherwise with an exponent,
whose sign is always written.
-/

import Switchboard.Decimal.Binary64

namespace Switchboard
namespace Shortest

/-- A positive decimal `coefficient · 10 ^ exponent`. -/
structure Decimal where
  coefficient : Nat
  exponent : Int
  deriving DecidableEq, Repr

/-- The quotient `num / den` in units of `10 ^ k`. -/
def inUnits (num den : Nat) (k : Int) : Nat × Nat :=
  if k < 0 then (num * Nat.pow 10 k.natAbs, den) else (num, den * Nat.pow 10 k.natAbs)

/-- Whether a decimal reads back as the binary64 with the given bits. -/
def readsBack (bits : Nat) (d : Decimal) : Bool :=
  let (n, m) := inUnits d.coefficient 1 (-d.exponent)
  Binary64.nearestBits n m == bits

/-- The neighbours of `num / den` on the grid of multiples of `10 ^ k`, the
nearer one first and the even one first of two equally near. -/
def neighbours (num den : Nat) (k : Int) : List Decimal :=
  let (n, d) := inUnits num den k
  let q := n / d
  let near := Binary64.roundHalfEven n d
  if near = q then [⟨q, k⟩, ⟨q + 1, k⟩] else [⟨q + 1, k⟩, ⟨q, k⟩]

/-- The first decimal that reads back, on grids of `n` digits and finer. -/
def search (bits num den : Nat) (top : Int) : Nat → Nat → Option Decimal
  | 0, _ => none
  | fuel + 1, n =>
    match (neighbours num den (top - n)).find? (readsBack bits) with
    | some d => some d
    | none => search bits num den top fuel (n + 1)

/-- The number of digits before the point of a quotient, which is zero or
negative for small ones: `10 ^ (top - 1) ≤ num / den < 10 ^ top`. -/
def topOf (num den : Nat) : Int :=
  let guess : Int := ((num.log2 : Int) - (den.log2 : Int)) * 30103 / 100000
  let atLeast (k : Int) : Bool := let (n, d) := inUnits num den k; d ≤ n
  if atLeast (guess + 1) then guess + 2 else if atLeast guess then guess + 1 else guess

/-- Strips factors of ten from a coefficient, at most `fuel` of them. -/
def normalize : Nat → Decimal → Decimal
  | 0, d => d
  | fuel + 1, d =>
    if d.coefficient % 10 = 0 && 0 < d.coefficient then
      normalize fuel ⟨d.coefficient / 10, d.exponent + 1⟩
    else d

/-- The shortest decimal of a positive finite binary64. -/
def decimal (x : Binary64) : Decimal :=
  let (num, den) := x.quotient
  let top := topOf num den
  match search x.magnitude num den top 17 1 with
  | some d => normalize 20 d
  | none => ⟨0, 0⟩

/-- Digits laid out around the point that stands after the first `point` of them. -/
def layout (digits : List Char) (point : Int) : List Char :=
  let n : Int := digits.length
  if n ≤ point && point ≤ 16 then
    digits ++ List.replicate (point - n).toNat '0' ++ ['.', '0']
  else if 0 < point && point ≤ 16 then
    digits.take point.toNat ++ '.' :: digits.drop point.toNat
  else if -5 < point && point ≤ 0 then
    ['0', '.'] ++ List.replicate point.natAbs '0' ++ digits
  else
    let mantissa := match digits with
      | [d] => [d]
      | d :: rest => d :: '.' :: rest
      | [] => []
    let e := point - 1
    let sign := if e < 0 then '-' else '+'
    mantissa ++ 'e' :: sign :: Nat.toDigits 10 e.natAbs

/-- The text of a finite binary64: its shortest decimal, with a point or an
exponent in it, so that it reads back as a float. -/
def render (x : Binary64) : List Char :=
  let sign := if x.isNegative then ['-'] else []
  if x.magnitude = 0 then sign ++ ['0', '.', '0']
  else
    let d := decimal x
    let digits := Nat.toDigits 10 d.coefficient
    sign ++ layout digits (digits.length + d.exponent)

end Shortest
end Switchboard
