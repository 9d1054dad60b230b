/-
# Names spelled in ASCII

A label with characters outside ASCII has a spelling in ASCII: its ASCII
characters, a hyphen if there are any, and then a row of numbers, each of which
says how much further the next character and its place lie.  The numbers are
written in base 36, the lowest digit first, and end with a digit below a bound
that follows the size of the numbers before.
-/

namespace Switchboard
namespace Punycode

/-- The base of the numbers. -/
def base : Nat := 36

/-- The greatest bound of a last digit. -/
def maxBound : Nat := 26

/-- Numbers from here on do not fit a 32-bit word and spell nothing. -/
def wordLimit : Nat := Nat.pow 2 32

/-- The value of a digit. -/
def digit? (c : Char) : Option Nat :=
  if 'a' ≤ c && c ≤ 'z' then some (c.toNat - 0x61)
  else if 'A' ≤ c && c ≤ 'Z' then some (c.toNat - 0x41)
  else if '0' ≤ c && c ≤ '9' then some (c.toNat - 0x30 + 26)
  else none

/-- The bound of a last digit at the place `k`, counted in steps of the base. -/
def bound (k bias : Nat) : Nat :=
  if k ≤ bias then 1 else if bias + maxBound ≤ k then maxBound else k - bias

/-- Divides by 35 down to 455 and counts the divisions in steps of the base. -/
def reduce (delta k : Nat) : Nat × Nat :=
  if 455 < delta then reduce (delta / 35) (k + base) else (delta, k)
termination_by delta
decreasing_by exact Nat.div_lt_self (by omega) (by omega)

/-- The bias after a number, of so many characters by then. -/
def adapt (delta count : Nat) (first : Bool) : Nat :=
  let delta := if first then delta / 700 else delta / 2
  let (delta, k) := reduce (delta + delta / count) 0
  k + base * delta / (delta + 38)

/-- A number added to a sum, its digits at the front of a text: the sum and what
follows. -/
def readNumber? (bias k weight sum : Nat) : List Char → Option (Nat × List Char)
  | [] => none
  | c :: rest => (digit? c).bind fun d =>
    let sum := sum + d * weight
    let t := bound k bias
    if wordLimit ≤ sum then none
    else if d < t then some (sum, rest)
    else if wordLimit ≤ weight * (base - t) then none
    else readNumber? bias (k + base) (weight * (base - t)) sum rest

/-- A number takes at least one digit. -/
theorem readNumber_shortens {bias k weight sum : Nat} {cs : List Char} {n : Nat} {rest : List Char}
    (h : readNumber? bias k weight sum cs = some (n, rest)) : rest.length < cs.length := by
  induction cs generalizing k weight sum with
  | nil => simp [readNumber?] at h
  | cons c cs ih =>
    rw [readNumber?] at h
    cases hd : digit? c with
    | none => simp [hd] at h
    | some d =>
      simp only [hd, Option.bind_some] at h
      split at h
      · simp at h
      · split at h
        · simp only [Option.some.injEq, Prod.mk.injEq] at h
          simp [← h.2]
        · split at h
          · simp at h
          · exact Nat.lt_succ_of_lt (ih h)

/-- What has been read: the characters so far, the code point of the last one
added, the place behind it, and the bias. -/
structure Progress where
  chars : List Char
  code : Nat
  place : Nat
  bias : Nat

/-- Adds the character that a number leads to, counted from the last one over
all places of all characters between. -/
def Progress.add? (p : Progress) (sum : Nat) : Option Progress :=
  let count := p.chars.length + 1
  let code := p.code + sum / count
  let place := sum % count
  if h : code.isValidChar then
    some ⟨p.chars.take place ++ Char.ofNatAux code h :: p.chars.drop place, code, place + 1,
      adapt (sum - p.place) count (p.place == 0)⟩
  else none

/-- Reads numbers up to the end. -/
def readNumbers? (p : Progress) (cs : List Char) : Option (List Char) :=
  if cs.isEmpty then some p.chars
  else match _h : readNumber? p.bias base 1 p.place cs with
    | none => none
    | some (sum, rest) => match p.add? sum with
      | none => none
      | some p => readNumbers? p rest
termination_by cs.length
decreasing_by exact readNumber_shortens ‹_›

/-- The label that a text spells. -/
def decode? (cs : List Char) : Option (List Char) :=
  let numbers := (cs.reverse.takeWhile (· != '-')).reverse
  let plain := cs.take (cs.length - numbers.length - 1)
  readNumbers? ⟨plain, 0x80, 0, 72⟩ (if plain.isEmpty then cs else numbers)

example : decode? "mnchen-3ya".toList = some "m\u00FCnchen".toList ∧
    decode? "a".toList = some ['\u0080'] ∧ decode? "-a".toList = none := by decide +kernel

end Punycode
end Switchboard
