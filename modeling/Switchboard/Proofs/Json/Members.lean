/-
# Members of objects

An object that is made of members has of each key the value of the last member
with that key (`Json.member?_ofMembers`), so what a message carries can be read
off what it is made of.
-/

import Mathlib.Tactic
import Switchboard.Json.Fields
import Switchboard.Wire.Message

namespace Switchboard
namespace Json

/-- A member that is put in is found under its key, and the others under theirs. -/
theorem lookup_insert (key k : String) (v : Json) (members : List (String × Json)) :
    lookup key (insert k v members) = if k = key then some v else lookup key members := by
  induction members with
  | nil => rfl
  | cons m members ih =>
    obtain ⟨k', v'⟩ := m
    unfold insert
    split
    · rfl
    · split
      next heq =>
        simp only [lookup, heq]
        split <;> rfl
      next hne =>
        rw [lookup, ih, lookup]
        split
        next hk' => rw [if_neg fun hk => hne (hk.trans hk'.symm)]
        next => rfl

/-- **The last member of a key counts.** -/
theorem member?_ofMembers (key : String) (members : List (String × Json)) :
    (ofMembers members).member? key =
      members.foldl (fun found m => if m.1 = key then some m.2 else found) none := by
  have hfoldl : ∀ acc : List (String × Json),
      lookup key (members.foldl (fun acc m => insert m.1 m.2 acc) acc) =
        members.foldl (fun found m => if m.1 = key then some m.2 else found) (lookup key acc) := by
    induction members with
    | nil => exact fun _ => rfl
    | cons m members ih =>
      intro acc
      rw [List.foldl_cons, List.foldl_cons, ih, lookup_insert]
  exact hfoldl []

/-- The fields of a record in an object that is made of members. -/
theorem fields?_ofMembers (names : List String) (members : List (String × Json)) :
    (ofMembers members).fields? names =
      some (names.map fun name => (ofMembers members).member? name) := rfl

end Json

namespace Message

/-! ### What a message carries -/

/-- A request carries its number. -/
@[simp] theorem id_request (id : Nat) (method : String) (params : Option Json) :
    (request id method params).member? "id" = some (.int id) := by
  cases params <;> simp [request, Json.member?_ofMembers, version, paramsMember, Json.ofNat]

/-- A request names its method. -/
@[simp] theorem method_request (id : Nat) (method : String) (params : Option Json) :
    (request id method params).member? "method" = some (.str method) := by
  cases params <;> simp [request, Json.member?_ofMembers, version, paramsMember]

/-- A request carries its parameters, if it has any, and no member for them otherwise. -/
@[simp] theorem params_request (id : Nat) (method : String) (params : Option Json) :
    (request id method params).member? "params" = params := by
  cases params <;> simp [request, Json.member?_ofMembers, version, paramsMember]

/-- A notification has no number. -/
@[simp] theorem id_notification (method : String) (params : Option Json) :
    (notification method params).member? "id" = none := by
  cases params <;> simp [notification, Json.member?_ofMembers, version, paramsMember]

/-- A notification names its method. -/
@[simp] theorem method_notification (method : String) (params : Option Json) :
    (notification method params).member? "method" = some (.str method) := by
  cases params <;> simp [notification, Json.member?_ofMembers, version, paramsMember]

/-- A notification carries its parameters, if it has any. -/
@[simp] theorem params_notification (method : String) (params : Option Json) :
    (notification method params).member? "params" = params := by
  cases params <;> simp [notification, Json.member?_ofMembers, version, paramsMember]

/-- An answer repeats the number of the question. -/
@[simp] theorem id_success (id result : Json) : (success id result).member? "id" = some id := by
  simp [success, Json.member?_ofMembers, version]

/-- An answer without an error carries its result. -/
@[simp] theorem result_success (id result : Json) :
    (success id result).member? "result" = some result := by
  simp [success, Json.member?_ofMembers, version]

/-- An answer names no method. -/
@[simp] theorem method_success (id result : Json) :
    (success id result).member? "method" = none := by
  simp [success, Json.member?_ofMembers, version]

/-- An answer with an error repeats the number of the question too. -/
@[simp] theorem id_failure (id : Json) (code : Int) (message : String) :
    (failure id code message).member? "id" = some id := by
  simp [failure, Json.member?_ofMembers, version]

/-- An answer with an error carries its code and its text. -/
@[simp] theorem error_failure (id : Json) (code : Int) (message : String) :
    (failure id code message).member? "error" =
      some (Json.ofMembers [("code", .int code), ("message", .str message)]) := by
  simp [failure, Json.member?_ofMembers, version]

/-- An answer with an error names no method. -/
@[simp] theorem method_failure (id : Json) (code : Int) (message : String) :
    (failure id code message).member? "method" = none := by
  simp [failure, Json.member?_ofMembers, version]

end Message
end Switchboard
