/-
# Numbers, dates and truth values in TOML

Integers are decimal without leading zeros, or hexadecimal, octal or binary
behind `0x`, `0o` and `0b`; single underscores may stand between digits.
Floats, dates and times are only checked, for no setting is one.  A number may
be well formed and still beyond every number that can be stored; it spoils a
document only where somebody looks at it.
-/

import Switchboard.Decimal.Binary64
import Switchboard.Toml.Text

namespace Switchboard
namespace Toml

/-- A value that is no string and no container. -/
inductive Scalar where
  | integer (n : Int)
  | moment
  | beyond
  | other
  deriving DecidableEq, Repr

/-- An ASCII digit. -/
def isDigit (c : Char) : Bool := '0' ≤ c && c ≤ '9'

/-- The digits of a run in which single underscores stand between digits. -/
def digits? (isDigitOf : Char → Bool) (cs : List Char) : Option (List Char) :=
  let runs := cs.splitOn '_'
  if runs.all fun run => !run.isEmpty && run.all isDigitOf then some runs.flatten else none

/-- The number that digits of a base spell. -/
def valueOf (base : Nat) (ds : List Char) : Nat :=
  ds.foldl (fun v c => v * base + (hexDigit? c).getD 0) 0

/-- A number without its sign, and whether that sign is a minus. -/
def unsigned : List Char → Bool × List Char
  | '-' :: rest => (true, rest)
  | '+' :: rest => (false, rest)
  | cs => (false, cs)

/-- The digits of a decimal number without a sign and without leading zeros. -/
def decimal? (cs : List Char) : Option (List Char) :=
  (digits? isDigit cs).filter fun ds => ds.length == 1 || ds.head? != some '0'

/-- Whether an integer fits 128 bits, signed or unsigned. -/
def fitsInteger (n : Int) : Bool := -(Nat.pow 2 127 : Nat) ≤ n && n < (Nat.pow 2 128 : Nat)

/-- The integer that a token spells. -/
def integer? (cs : List Char) : Option Int :=
  match cs with
  | '0' :: 'x' :: rest =>
    (digits? (fun c => (hexDigit? c).isSome) rest).map fun ds => valueOf 16 ds
  | '0' :: 'o' :: rest => (digits? (fun c => '0' ≤ c && c ≤ '7') rest).map fun ds => valueOf 8 ds
  | '0' :: 'b' :: rest => (digits? (fun c => c == '0' || c == '1') rest).map fun ds => valueOf 2 ds
  | _ =>
    let (negative, rest) := unsigned cs
    (decimal? rest).map fun ds =>
      if negative then -(valueOf 10 ds : Int) else valueOf 10 ds

/-- Whether a number, a significand times a power of ten, rounds to infinity.
Only at 309 and 310 digits before the point does it have to be computed. -/
def overflows (significand : Nat) (exponent : Int) : Bool :=
  let magnitude := (Nat.toDigits 10 significand).length + exponent
  if significand = 0 || magnitude ≤ 308 then false
  else if 310 < magnitude then true
  else
    let (num, den) := if exponent < 0 then (significand, Nat.pow 10 exponent.natAbs)
      else (significand * Nat.pow 10 exponent.natAbs, 1)
    Binary64.infinityBits ≤ Binary64.nearestBits num den

/-- The exponent that a token spells, its letter left out. -/
def exponent? (cs : List Char) : Option Int :=
  let (negative, rest) := unsigned cs
  (digits? isDigit rest).map fun ds =>
    if negative then -(valueOf 10 ds : Int) else valueOf 10 ds

/-- The float that a token spells: whether it can be stored. -/
def float? (cs : List Char) : Option Scalar :=
  let body := (unsigned cs).2
  if body = "inf".toList || body = "nan".toList then some .other
  else
    let isE (c : Char) : Bool := c == 'e' || c == 'E'
    let mantissa := body.takeWhile fun c => !isE c
    let whole := mantissa.takeWhile (· != '.')
    let hasFraction := whole.length < mantissa.length
    let hasExponent := mantissa.length < body.length
    if hasFraction || hasExponent then do
      let before ← decimal? whole
      let after ←
        if hasFraction then digits? isDigit (mantissa.drop (whole.length + 1)) else some []
      let exponent ← if hasExponent then exponent? (body.drop (mantissa.length + 1)) else some 0
      some (if overflows (valueOf 10 (before ++ after)) (exponent - after.length) then .beyond
        else .other)
    else none

/-- The number of days of a month. -/
def daysOf (year month : Nat) : Nat :=
  if month = 2 then
    if year % 4 = 0 && (year % 100 != 0 || year % 400 = 0) then 29 else 28
  else if month = 4 || month = 6 || month = 9 || month = 11 then 30
  else 31

/-- The number that exactly `n` digits spell, and what follows them. -/
def fixed? (n : Nat) (cs : List Char) : Option (Nat × List Char) :=
  let ds := cs.take n
  if ds.length = n && ds.all isDigit then some (valueOf 10 ds, cs.drop n) else none

/-- What follows one given character. -/
def after? (c : Char) : List Char → Option (List Char)
  | d :: rest => if d = c then some rest else none
  | [] => none

/-- What follows a date. -/
def afterDate? (cs : List Char) : Option (List Char) := do
  let (year, cs) ← fixed? 4 cs
  let (month, cs) ← fixed? 2 (← after? '-' cs)
  let (day, cs) ← fixed? 2 (← after? '-' cs)
  if 1 ≤ month && month ≤ 12 && 1 ≤ day && day ≤ daysOf year month then some cs else none

/-- What follows the seconds of a time, which may be left out. -/
def afterSeconds? (cs : List Char) : Option (List Char) :=
  match cs with
  | ':' :: rest => (fixed? 2 rest).bind fun (second, rest) =>
    if second ≤ 60 then
      match rest with
      | '.' :: fraction =>
        if (fraction.head?.map isDigit).getD false then some (fraction.dropWhile isDigit) else none
      | _ => some rest
    else none
  | _ => some cs

/-- What follows a time of day. -/
def afterTime? (cs : List Char) : Option (List Char) := do
  let (hour, cs) ← fixed? 2 cs
  let (minute, cs) ← fixed? 2 (← after? ':' cs)
  if hour ≤ 23 && minute ≤ 59 then afterSeconds? cs else none

/-- Whether a text is nothing or the offset of a time zone. -/
def isOffset (cs : List Char) : Bool :=
  match cs with
  | [] => true
  | ['Z'] | ['z'] => true
  | c :: rest => (c == '+' || c == '-') && (do
      let (hour, rest) ← fixed? 2 rest
      let (minute, rest) ← fixed? 2 (← after? ':' rest)
      if hour ≤ 23 && minute ≤ 59 && rest.isEmpty then some () else none).isSome

/-- Whether a token is a date, a time or both. -/
def isMoment (cs : List Char) : Bool :=
  match afterDate? cs with
  | some [] => true
  | some (c :: rest) =>
    (c == 'T' || c == 't' || c == ' ') && ((afterTime? rest).map isOffset).getD false
  | none => ((afterTime? cs).map List.isEmpty).getD false

/-- A character of a token. -/
def isTokenChar (c : Char) : Bool :=
  isDigit c || ('a' ≤ c && c ≤ 'z') || ('A' ≤ c && c ≤ 'Z') || c == '+' || c == '-' || c == '_' ||
    c == '.' || c == ':'

/-- The token at the front of a text; a date takes the time behind a blank with it. -/
def token (cs : List Char) : List Char :=
  let first := cs.takeWhile isTokenChar
  match cs.drop first.length with
  | ' ' :: c :: rest =>
    if afterDate? first = some [] && isDigit c then
      first ++ ' ' :: (c :: rest).takeWhile isTokenChar
    else first
  | _ => first

/-- The scalar that a token spells. -/
def scalar? (cs : List Char) : Option Scalar :=
  if cs = "true".toList || cs = "false".toList then some .other
  else if isMoment cs then some .moment
  else match integer? cs with
    | some n => some (if fitsInteger n then .integer n else .beyond)
    | none => float? cs

end Toml
end Switchboard
