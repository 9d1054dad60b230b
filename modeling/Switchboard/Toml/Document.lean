/-
# TOML tables

A document is built up line by line.  A table is made once: by its header, by
the headers of tables inside it, or by the dotted keys of values inside it.
What dotted keys have made cannot be given a header, what a header has made
cannot be extended by dotted keys, and what is written inline is closed.  The
last table of an array of tables takes no value from a dotted key itself, but
tables inside it do.
-/

import Switchboard.Toml.Scalar

namespace Switchboard
namespace Toml

/-- A value of a document. -/
inductive Value where
  | text (s : String)
  | integer (n : Int)
  | moment
  | beyond
  | other
  | array (items : List Value)
  | table (members : List (String × Value))
  deriving Repr, Inhabited

/-- A scalar as a value. -/
def Value.ofScalar : Scalar → Value
  | .integer n => .integer n
  | .moment => .moment
  | .beyond => .beyond
  | .other => .other

/-- How a table came to be. -/
inductive Origin where
  | header
  | within
  | dotted
  deriving DecidableEq, Repr

/-- A member of a table that is being built; the elements of an array of tables
come last first. -/
inductive Item where
  | value (v : Value)
  | table (origin : Origin) (members : List (String × Item))
  | tables (elements : List (List (String × Item)))
  deriving Inhabited

/-- The members of a table that is being built. -/
abbrev Members := List (String × Item)

namespace Members

/-- The member with a key. -/
def find? (key : String) : Members → Option Item
  | [] => none
  | (k, item) :: rest => if k = key then some item else find? key rest

/-- Members with one replaced or added. -/
def put (key : String) (item : Item) : Members → Members
  | [] => [(key, item)]
  | (k, old) :: rest => if k = key then (key, item) :: rest else (k, old) :: put key item rest

/-- Changes the table that a header path leads to; tables on the way are made
as needed, and an array of tables leads to its last one. -/
def atHeader (change : Members → Option Members) : List String → Members → Option Members
  | [], ms => change ms
  | key :: path, ms =>
    match find? key ms with
    | none => (atHeader change path []).map fun inner => put key (.table .within inner) ms
    | some (.table origin inner) =>
      (atHeader change path inner).map fun inner => put key (.table origin inner) ms
    | some (.tables (last :: before)) =>
      (atHeader change path last).map fun last => put key (.tables (last :: before)) ms
    | some _ => none

/-- Adds a value under a dotted key. -/
def insert (value : Value) (key : String) : List String → Members → Option Members
  | [], ms => match find? key ms with
    | some _ => none
    | none => some (ms ++ [(key, .value value)])
  | step :: path, ms =>
    match find? step ms with
    | none => (insert value key path []).map fun inner => ms ++ [(step, .table .dotted inner)]
    | some (.table .dotted inner) =>
      (insert value key path inner).map fun inner => put step (.table .dotted inner) ms
    | some (.table .within inner) =>
      (insert value key path inner).map fun inner => put step (.table .within inner) ms
    | some (.tables (last :: before)) =>
      if path.isEmpty then none
      else (insert value key path last).map fun last => put step (.tables (last :: before)) ms
    | some _ => none

/-- Gives a table its header. -/
def openTable (key : String) (ms : Members) : Option Members :=
  match find? key ms with
  | none => some (ms ++ [(key, .table .header [])])
  | some (.table .within inner) => some (put key (.table .header inner) ms)
  | some _ => none

/-- Starts one more table of an array of tables. -/
def openElement (key : String) (ms : Members) : Option Members :=
  match find? key ms with
  | none => some (ms ++ [(key, .tables [[]])])
  | some (.tables elements) => some (put key (.tables ([] :: elements)) ms)
  | some _ => none

end Members

mutual

/-- Whether every number in a value can be stored. -/
def Value.isStorable : Value → Bool
  | .beyond => false
  | .array items => areStorable items
  | .table members => membersAreStorable members
  | _ => true

/-- Whether every number in the items of an array can be stored. -/
def areStorable : List Value → Bool
  | [] => true
  | item :: rest => item.isStorable && areStorable rest

/-- Whether every number in the members of a table can be stored. -/
def membersAreStorable : List (String × Value) → Bool
  | [] => true
  | (_, value) :: rest => value.isStorable && membersAreStorable rest

end

mutual

/-- The value that a finished member is. -/
def Item.finish : Item → Value
  | .value v => v
  | .table _ ms => .table (finishMembers ms)
  | .tables elements => .array (finishElements elements).reverse

/-- The members of a finished table. -/
def finishMembers : List (String × Item) → List (String × Value)
  | [] => []
  | (key, item) :: rest => (key, item.finish) :: finishMembers rest

/-- The tables of a finished array of tables, last first. -/
def finishElements : List (List (String × Item)) → List Value
  | [] => []
  | ms :: rest => .table (finishMembers ms) :: finishElements rest

end

end Toml
end Switchboard
