/-
# Messages told apart by their shape

A message is read off its members alone, and its members are the ones that it is
made of, whatever it carries: the keys inside `params` or a result belong to
those, and a null that is carried is not the same as nothing.  So what is written
as a request, a notification or a response is taken for that when it is read back
(`Frame.taken_for_what_is_written`), and a response is a response only if its id
is a number that a client can have given.
-/

import Switchboard.Proofs.Client.Answers
import Switchboard.Proofs.Json.Objects

namespace Switchboard

namespace Json

/-- Whether a value is one that a message can carry: no float is in it, and behind
the message's own object it does not nest too deep. -/
structure IsCarried (j : Json) : Prop where
  fits : j.fits = true
  depth : j.depth < maxDepth

/-- Strings are carried. -/
theorem isCarried_str (s : String) : IsCarried (.str s) := ⟨rfl, (by decide : 0 < maxDepth)⟩

/-- Integers that fit in 64 bits are carried. -/
theorem isCarried_int {n : Int} (h₁ : -(2 ^ 63) ≤ n) (h₂ : n < 2 ^ 64) : IsCarried (.int n) := by
  constructor
  · rw [Json.fits, Bool.and_eq_true, decide_eq_true_iff, decide_eq_true_iff]
    exact ⟨h₁, h₂⟩
  · show 0 < maxDepth
    decide

/-- The value that a natural number has fits if the number fits a word. -/
theorem isCarried_ofNat {n : Nat} (h : n < 2 ^ 64) : IsCarried (.ofNat n) :=
  isCarried_int (by omega) (by omega)

end Json

namespace Incoming

variable {frame id : Json} {n : Nat}

/-! ### Shapes -/

/-- A request is taken for a request. -/
theorem classify_request (id : Nat) (method : String) (params : Option Json) :
    classify (Message.request id method params) = some (.request (.ofNat id) method params) :=
  Receiver.classify_request_iff.2
    ⟨Message.id_request .., Message.method_request .., Message.params_request ..⟩

/-- A notification is taken for a notification. -/
theorem classify_notification (method : String) (params : Option Json) :
    classify (Message.notification method params) = some (.notification method params) := by
  rw [classify, Message.id_notification, Message.method_notification, Message.params_notification]
  rfl

/-- A success under a number of 64 bits is taken for the response to it. -/
theorem classify_success (h : n < 2 ^ 64) (result : Json) :
    classify (Message.success (.ofNat n) result) =
      some (.response n (Message.success (.ofNat n) result)) := by
  refine Receiver.classify_response_iff.2 ⟨rfl, ⟨_, rfl⟩, Message.id_success .., h, ?_, ?_⟩
  · exact .inl (by simp)
  · intro method
    simp

/-- A failure under a number of 64 bits is taken for the response to it. -/
theorem classify_failure (h : n < 2 ^ 64) (code : Int) (message : String) :
    classify (Message.failure (.ofNat n) code message) =
      some (.response n (Message.failure (.ofNat n) code message)) := by
  refine Receiver.classify_response_iff.2 ⟨rfl, ⟨_, rfl⟩, Message.id_failure .., h, ?_, ?_⟩
  · refine .inr ?_
    rw [Message.error_failure]
    simp
  · intro method
    simp

/-- Whatever is no natural number below the bound is no word. -/
theorem word?_eq_none (h : ∀ n < 2 ^ 64, id ≠ .ofNat n) : id.word? 64 = none := by
  rw [Option.eq_none_iff_forall_ne_some]
  intro n hn
  obtain ⟨hid, hlt⟩ := Receiver.word?_eq_some_iff.1 hn
  exact h n hlt hid

/-- A frame with an id that is no word, and no method, is nothing. -/
theorem classify_eq_none (hid : frame.member? "id" = some id)
    (hmethod : frame.member? "method" = none) (hword : id.word? 64 = none) :
    classify frame = none := by
  rw [classify, hid, hmethod]
  simp [hword]

end Incoming

namespace Frame

/-! ### What is read back -/

/-- Whether a message is read back when it has been written.  Of its frame nothing but the
message is read, and it is read unless it is larger than a frame may be. -/
def IsReadBack (m : Json) : Prop :=
  ∀ rest value more, next (write m ++ rest) = .frame value more ↔
    m.write.length ≤ maxBytes ∧ value = m ∧ more = rest

/-- Whether a message is read back, and taken for this. -/
structure ReadAs (m : Json) (what : Incoming) : Prop where
  read : IsReadBack m
  shape : Incoming.classify m = some what

/-- Whether a message is taken for nothing, as it is and as it is read back. -/
structure ReadAsNothing (m : Json) : Prop where
  shape : Incoming.classify m = none
  read : ∀ rest value more, next (write m ++ rest) = .frame value more →
    Incoming.classify value = none

/-- A message whose members can be carried is read back. -/
theorem isReadBack_of_isCarried {members : List (String × Json)}
    (h : ∀ m ∈ members, m.2.IsCarried) : IsReadBack (Json.ofMembers members) := by
  have hfits : (Json.ofMembers members).fits = true :=
    Json.fits_ofMembers fun m hm => (h m hm).fits
  have hdepth : (Json.ofMembers members).depth ≤ Json.maxDepth - 1 + 1 :=
    Json.depth_ofMembers fun m hm => Nat.le_sub_one_of_lt (h m hm).depth
  intro rest value more
  rw [write, next_frameOf_iff, Json.read?_write hfits hdepth, Option.some.injEq,
    eq_comm (a := value)]

/-! ### What is carried -/

/-- Params are carried as a member if they are carried at all. -/
theorem isCarried_paramsMember {params : Option Json} (h : ∀ p ∈ params, p.IsCarried) :
    ∀ m ∈ Message.paramsMember params, m.2.IsCarried := by
  cases params with
  | none => exact fun m hm => absurd hm List.not_mem_nil
  | some p =>
    intro m hm
    rw [List.mem_singleton.1 hm]
    exact h p rfl

/-- A response carries an id and one value. -/
theorem isCarried_response {id value : Json} (hid : id.IsCarried) (hvalue : value.IsCarried)
    (key : String) : ∀ m ∈ [Message.version, ("id", id), (key, value)], m.2.IsCarried := by
  intro m hm
  simp only [List.mem_cons, List.not_mem_nil, or_false] at hm
  rcases hm with rfl | rfl | rfl
  · exact Json.isCarried_str _
  · exact hid
  · exact hvalue

/-- The error of a failure is carried if its code fits in 64 bits. -/
theorem isCarried_error {code : Int} (h : -(2 ^ 63) ≤ code ∧ code < 2 ^ 63) (message : String) :
    (Json.ofMembers [("code", .int code), ("message", .str message)]).IsCarried := by
  constructor
  · refine Json.fits_ofMembers fun m hm => ?_
    simp only [List.mem_cons, List.not_mem_nil, or_false] at hm
    rcases hm with rfl | rfl
    · exact (Json.isCarried_int h.1 (by omega)).fits
    · rfl
  · have hdepth : (Json.ofMembers [("code", .int code), ("message", .str message)]).depth ≤
        0 + 1 := by
      refine Json.depth_ofMembers fun m hm => ?_
      simp only [List.mem_cons, List.not_mem_nil, or_false] at hm
      rcases hm with rfl | rfl <;> exact Nat.le_refl 0
    exact lt_of_le_of_lt hdepth (by decide)

/-! ### What it is taken for -/

/-- A request that is written out is read as that request. -/
theorem readAs_request {id : Nat} (hid : id < 2 ^ 64) (method : String) {params : Option Json}
    (hparams : ∀ p ∈ params, p.IsCarried) :
    ReadAs (Message.request id method params) (.request (.ofNat id) method params) := by
  refine ⟨isReadBack_of_isCarried fun m hm => ?_, Incoming.classify_request id method params⟩
  rcases List.mem_append.1 hm with hm | hm
  · simp only [List.mem_cons, List.not_mem_nil, or_false] at hm
    rcases hm with rfl | rfl | rfl
    · exact Json.isCarried_str _
    · exact Json.isCarried_ofNat hid
    · exact Json.isCarried_str _
  · exact isCarried_paramsMember hparams m hm

/-- A notification that is written out is read as that notification. -/
theorem readAs_notification (method : String) {params : Option Json}
    (hparams : ∀ p ∈ params, p.IsCarried) :
    ReadAs (Message.notification method params) (.notification method params) := by
  refine ⟨isReadBack_of_isCarried fun m hm => ?_, Incoming.classify_notification method params⟩
  rcases List.mem_append.1 hm with hm | hm
  · simp only [List.mem_cons, List.not_mem_nil, or_false] at hm
    rcases hm with rfl | rfl
    · exact Json.isCarried_str _
    · exact Json.isCarried_str _
  · exact isCarried_paramsMember hparams m hm

/-- A success that is written out is read back as it was. -/
theorem isReadBack_success {id result : Json} (hid : id.IsCarried) (hresult : result.IsCarried) :
    IsReadBack (Message.success id result) :=
  isReadBack_of_isCarried (isCarried_response hid hresult "result")

/-- A failure that is written out is read back as it was. -/
theorem isReadBack_failure {id : Json} (hid : id.IsCarried) {code : Int}
    (hcode : -(2 ^ 63) ≤ code ∧ code < 2 ^ 63) (message : String) :
    IsReadBack (Message.failure id code message) :=
  isReadBack_of_isCarried (isCarried_response hid (isCarried_error hcode message) "error")

/-- **A message with an id that is no word, and without a method, is nothing**, also
when it is read back and its floats are not what they were. -/
theorem readAsNothing_of_id {members : List (String × Json)} {id : Json}
    (hid : (Json.ofMembers members).member? "id" = some id)
    (hmethod : (Json.ofMembers members).member? "method" = none) (hword : id.word? 64 = none) :
    ReadAsNothing (Json.ofMembers members) := by
  refine ⟨Incoming.classify_eq_none hid hmethod hword, fun rest value more h => ?_⟩
  obtain ⟨-, hread, -⟩ := next_frameOf_iff.1 h
  obtain ⟨id', hid', hraw⟩ := (Json.member?_of_read? hread).2 id hid
  have hmethod' : value.member? "method" = none := (Json.member?_of_read? hread).1 hmethod
  have hword' : id'.word? 64 = none := by rw [Json.word?_of_ofRaw? hraw, hword]
  exact Incoming.classify_eq_none hid' hmethod' hword'

/-- **What is written is taken for what it is.**  A request and a notification are read back
with the method that was written and the same `params`, and none if there were none; a
response is read back with its id and the whole message for its body.  A response with any
other id than an unsigned word of 64 bits is nothing, whatever it carries; it is read back as
well. -/
theorem taken_for_what_is_written {id : Nat} (hid : id < 2 ^ 64) (method message : String)
    {params : Option Json} (hparams : ∀ p ∈ params, p.IsCarried) {result : Json}
    (hresult : result.IsCarried) {code : Int} (hcode : -(2 ^ 63) ≤ code ∧ code < 2 ^ 63) :
    ReadAs (Message.request id method params) (.request (.ofNat id) method params) ∧
      ReadAs (Message.notification method params) (.notification method params) ∧
      ReadAs (Message.success (.ofNat id) result)
        (.response id (Message.success (.ofNat id) result)) ∧
      ReadAs (Message.failure (.ofNat id) code message)
        (.response id (Message.failure (.ofNat id) code message)) ∧
      ∀ other : Json, (∀ n < 2 ^ 64, other ≠ .ofNat n) →
        (∀ any, ReadAsNothing (Message.success other any)) ∧
          (∀ any text, ReadAsNothing (Message.failure other any text)) ∧
          (other.IsCarried → IsReadBack (Message.success other result) ∧
            IsReadBack (Message.failure other code message)) := by
  have hword : (Json.ofNat id).IsCarried := Json.isCarried_ofNat hid
  refine ⟨readAs_request hid method hparams, readAs_notification method hparams,
    ⟨isReadBack_success hword hresult, Incoming.classify_success hid result⟩,
    ⟨isReadBack_failure hword hcode message, Incoming.classify_failure hid code message⟩,
    fun other hother => ?_⟩
  have hnone : other.word? 64 = none := Incoming.word?_eq_none hother
  refine ⟨?_, ?_, ?_⟩
  · intro any
    exact readAsNothing_of_id (Message.id_success other any) (Message.method_success other any)
      hnone
  · intro any text
    exact readAsNothing_of_id (Message.id_failure other any text)
      (Message.method_failure other any text) hnone
  · intro hcarried
    exact ⟨isReadBack_success hcarried hresult, isReadBack_failure hcarried hcode message⟩

/-- `params` with the keys that tell messages apart, a null that is carried, and an id
that is a float. -/
theorem taken_for_what_is_written_borrowed :
    let params := Json.obj [("error", .null), ("id", .int 1), ("method", .str "exit"),
      ("result", .arr [.null])]
    (2 ^ 64 - 1 < 2 ^ 64) ∧ params.IsCarried ∧ Json.null.IsCarried ∧
      ReadAs (Message.request (2 ^ 64 - 1) "initialize" (some params))
        (.request (.ofNat (2 ^ 64 - 1)) "initialize" (some params)) ∧
      ReadAs (Message.notification "exit" (some .null)) (.notification "exit" (some .null)) ∧
      ReadAs (Message.notification "exit" none) (.notification "exit" none) ∧
      ReadAsNothing (Message.success (.float (.nearest 3 2)) params) := by
  intro params
  have hid : 2 ^ 64 - 1 < 2 ^ 64 := by decide
  have hparams : params.IsCarried := ⟨by decide, by decide⟩
  have hnull : Json.null.IsCarried := ⟨rfl, by decide⟩
  have hsome : ∀ p ∈ some params, p.IsCarried := fun p hp => Option.mem_some_iff.1 hp ▸ hparams
  have hcarried : ∀ p ∈ some Json.null, p.IsCarried := fun p hp => Option.mem_some_iff.1 hp ▸ hnull
  have hnone : ∀ p ∈ (none : Option Json), p.IsCarried := fun p hp => absurd hp (by simp)
  have hcode : -(2 ^ 63) ≤ Message.methodNotFound ∧ Message.methodNotFound < 2 ^ 63 := by decide
  obtain ⟨hrequest, -, -, -, hother⟩ :=
    taken_for_what_is_written hid "initialize" "" hsome hnull hcode
  obtain ⟨-, hnotified, -⟩ := taken_for_what_is_written hid "exit" "" hcarried hnull hcode
  obtain ⟨-, habsent, -⟩ := taken_for_what_is_written hid "exit" "" hnone hnull hcode
  exact ⟨hid, hparams, hnull, hrequest, hnotified, habsent,
    (hother (.float (.nearest 3 2)) fun n _ => by simp [Json.ofNat]).1 params⟩

end Frame
end Switchboard
