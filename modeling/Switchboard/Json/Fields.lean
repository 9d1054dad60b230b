/-
# Records in JSON

A record with named fields is written as an object, or as an array of exactly
its fields in order.  In an object unknown members are ignored.  A field that
may be absent is absent also when it is null.
-/

import Switchboard.Json.Value

namespace Switchboard
namespace Json

/-- The values of the named fields of a record, absent ones as none. -/
def fields? (names : List String) : Json → Option (List (Option Json))
  | obj members => some (names.map fun name => lookup name members)
  | arr items => if items.length = names.length then some (items.map some) else none
  | _ => none

/-- A field that has to be there. -/
def needed {α : Type} (decode : Json → Option α) (field : Option Json) : Option α :=
  field.bind decode

/-- A field that may be absent or null. -/
def optional {α : Type} (decode : Json → Option α) : Option Json → Option (Option α)
  | none => some none
  | some .null => some none
  | some v => (decode v).map some

/-- Every item of an array, decoded. -/
def listOf {α : Type} (decode : Json → Option α) : Json → Option (List α)
  | arr items => items.mapM decode
  | _ => none

end Json
end Switchboard
