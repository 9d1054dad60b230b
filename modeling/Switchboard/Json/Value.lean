/-
# JSON values

A number is an integer when its text is an integer literal that fits a signed
or an unsigned 64-bit word, and a binary64 otherwise.  The members of an
object are kept in ascending order of their keys, one member a key;
`ofMembers` and `insert` keep that order, and a later member replaces an
earlier one of the same key.
-/

import Switchboard.Decimal.Binary64

namespace Switchboard

/-- A JSON value. -/
inductive Json where
  | null
  | bool (b : Bool)
  | int (n : Int)
  | float (x : Binary64)
  | str (s : String)
  | arr (items : List Json)
  | obj (members : List (String × Json))
  deriving Repr, Inhabited

namespace Json

/-- Puts a member into a list of members in ascending order of keys, in the
place of one with the same key. -/
def insert (key : String) (value : Json) : List (String × Json) → List (String × Json)
  | [] => [(key, value)]
  | (k, v) :: rest =>
    if key < k then (key, value) :: (k, v) :: rest
    else if key = k then (key, value) :: rest
    else (k, v) :: insert key value rest

/-- The members of an object written in any order, later ones first to go. -/
def sorted (members : List (String × Json)) : List (String × Json) :=
  members.foldl (fun acc m => insert m.1 m.2 acc) []

/-- The object with these members. -/
def ofMembers (members : List (String × Json)) : Json := obj (sorted members)

/-- The value of the first member with this key. -/
def lookup (key : String) : List (String × Json) → Option Json
  | [] => none
  | (k, v) :: rest => if k = key then some v else lookup key rest

/-- A member of an object; nothing else has members. -/
def member? (key : String) : Json → Option Json
  | obj members => lookup key members
  | _ => none

/-- The text of a string value. -/
def text? : Json → Option String
  | str s => some s
  | _ => none

/-- The items of an array. -/
def items? : Json → Option (List Json)
  | arr items => some items
  | _ => none

/-- Whether a value is the null value. -/
def isNull : Json → Bool
  | null => true
  | _ => false

/-- The smallest natural above every number of `bits` bits. -/
def wordLimit (bits : Nat) : Int := Nat.pow 2 bits

/-- An integer that fits an unsigned word of `bits` bits; a float never does,
also when its value is a whole number. -/
def word? (bits : Nat) : Json → Option Nat
  | int n => if 0 ≤ n ∧ n < wordLimit bits then some n.toNat else none
  | _ => none

/-- The value that a natural number has in a message. -/
def ofNat (n : Nat) : Json := int n

/-- A value that may be absent, absent ones written as null. -/
def orNull : Option Json → Json
  | some v => v
  | none => null

end Json
end Switchboard
