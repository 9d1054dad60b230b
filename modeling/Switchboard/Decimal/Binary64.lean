/-
# Binary64 numbers, by their bits

A float that a message carries is kept as its 64 bits, so that equality is
equality of values and nothing depends on a machine's arithmetic.  The one
rounding rule is `nearest`: the binary64 nearest to a quotient of naturals, a
half going to the even neighbour.  Products and quotients of floats are exact
quotients rounded once.
-/

namespace Switchboard

/-- A binary64 number: sign bit, eleven exponent bits, 52 fraction bits. -/
structure Binary64 where
  bits : UInt64
  deriving DecidableEq, Repr

namespace Binary64

/-- The least power of two in the scale of binary64: its quantum is `2 ^ leastScale`. -/
def leastScale : Int := -1074

/-- `2 ^ 52`: significands of normal numbers lie between this and its double. -/
def unit : Nat := Nat.pow 2 52

/-- The bit pattern of infinity. -/
def infinityBits : Nat := 0x7FF * unit

/-- The quotient `num / den` in units of `2 ^ scale`, as a pair of naturals. -/
def scaled (num den : Nat) (scale : Int) : Nat × Nat :=
  if scale < 0 then (num * Nat.pow 2 scale.natAbs, den)
  else (num, den * Nat.pow 2 scale.natAbs)

/-- The quotient rounded to a natural, a half to the even one. -/
def roundHalfEven (num den : Nat) : Nat :=
  let q := num / den
  let r := num % den
  if 2 * r < den then q else if den < 2 * r then q + 1 else q + q % 2

/-- The scale in which a positive quotient has a significand below `2 ^ 53`,
and at least `2 ^ 52` unless it is subnormal. -/
def scaleOf (num den : Nat) : Int :=
  let guess : Int := (num.log2 : Int) - (den.log2 : Int) - 53
  let (n, d) := scaled num den guess
  let scale := if n / d < 2 * unit then guess else guess + 1
  max scale leastScale

/-- The bits of the binary64 nearest to `num / den`; those of infinity when
the quotient is too large. -/
def nearestBits (num den : Nat) : Nat :=
  if num = 0 then 0
  else
    let scale := scaleOf num den
    let (n, d) := scaled num den scale
    min ((scale - leastScale).toNat * unit + roundHalfEven n d) infinityBits

/-- The binary64 nearest to `num / den`, a half going to the even neighbour. -/
def nearest (num den : Nat) : Binary64 := ⟨UInt64.ofNat (nearestBits num den)⟩

/-- Positive zero. -/
def zero : Binary64 := ⟨0⟩

/-- Whether the sign bit is set. -/
def isNegative (x : Binary64) : Bool := Nat.pow 2 63 ≤ x.bits.toNat

/-- The bits without the sign. -/
def magnitude (x : Binary64) : Nat := x.bits.toNat % Nat.pow 2 63

/-- The other sign. -/
def neg (x : Binary64) : Binary64 := ⟨UInt64.ofNat (x.bits.toNat + Nat.pow 2 63)⟩

/-- Infinite or not a number. -/
def isBeyond (x : Binary64) : Bool := infinityBits ≤ x.magnitude

/-- The significand `m` and scale `e` of a finite number `± m · 2 ^ e`. -/
def parts (x : Binary64) : Nat × Int :=
  let exponent := x.magnitude / unit
  let fraction := x.magnitude % unit
  if exponent = 0 then (fraction, leastScale)
  else (unit + fraction, leastScale + (exponent - 1 : Nat))

/-- The absolute value of a finite number as a quotient. -/
def quotient (x : Binary64) : Nat × Nat :=
  let (m, e) := x.parts
  if e < 0 then (m, Nat.pow 2 e.natAbs) else (m * Nat.pow 2 e.natAbs, 1)

/-- The rounded product of two finite non-negative numbers. -/
def mul (x y : Binary64) : Binary64 :=
  let (a, b) := x.quotient
  let (c, d) := y.quotient
  nearest (a * c) (b * d)

/-- The rounded quotient of two finite non-negative numbers, the second positive. -/
def div (x y : Binary64) : Binary64 :=
  let (a, b) := x.quotient
  let (c, d) := y.quotient
  nearest (a * d) (b * c)

/-- The binary64 nearest to a power of ten. -/
def powTen (k : Nat) : Binary64 := nearest (Nat.pow 10 k) 1

example : (nearest 1 1).bits = 0x3FF0000000000000 ∧ (nearest 1 10).bits = 0x3FB999999999999A ∧
    (nearest (2 ^ 53 + 1) 1).bits = 0x4340000000000000 := by decide

end Binary64
end Switchboard
