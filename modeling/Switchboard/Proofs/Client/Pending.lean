/-
# Which requests wait

Requests and responses of both sides share their ids, and only the shape of a
frame tells a response from the rest (`Receiver.Answers`).  A frame reaches the
request that it answers exactly when that request waits, and then the request
waits no more (`Receiver.handle_delivered_iff`, `Receiver.mem_pending_handle`).
So in every sequence of requests and frames the requests that wait are those
that have not been answered since they began to wait, and none is answered
twice (`Receiver.Exact`, `Receiver.deliveries_exact`).
-/

import Switchboard.Client.Receiver
import Switchboard.Proofs.History

namespace Switchboard
namespace Receiver

/-- What a receiving side goes through: a request begins to wait, or a frame comes in. -/
inductive Turn where
  | expected (id : Nat)
  | came (frame : Json)

/-- A frame answers a request when it is an object with the request's id, with a
result or an error, and without the name of a method. -/
structure Answers (frame : Json) (id : Nat) : Prop where
  isObject : ∃ members, frame = .obj members
  id_eq : frame.member? "id" = some (.int id)
  id_lt : id < 2 ^ 64
  replies : frame.member? "result" ≠ none ∨ frame.member? "error" ≠ none
  unnamed : ∀ method, frame.member? "method" ≠ some (.str method)

variable {r : Receiver} {frame body : Json} {id : Nat}

/-- A frame answers one request at most. -/
theorem Answers.unique {id' : Nat} (h : Answers frame id) (h' : Answers frame id') : id = id' := by
  have heq := h.id_eq.symm.trans h'.id_eq
  simpa using heq

/-- What has a member is an object. -/
theorem isObject_of_member? {key : String} {value : Json} (h : frame.member? key = some value) :
    ∃ members, frame = .obj members := by
  cases frame with
  | obj members => exact ⟨members, rfl⟩
  | _ => exact absurd h (by simp [Json.member?])

/-- A word is an integer from zero up to the bound. -/
theorem word?_eq_some_iff {j : Json} {n : Nat} :
    j.word? 64 = some n ↔ j = .int n ∧ n < 2 ^ 64 := by
  have hlimit : Json.wordLimit 64 = 2 ^ 64 := rfl
  cases j with
  | int m =>
    rw [Json.word?, hlimit]
    split
    · rw [Option.some.injEq, Json.int.injEq]
      omega
    · rw [Json.int.injEq]
      constructor
      · exact fun h => absurd h (by simp)
      · intro h
        omega
  | _ => simp [Json.word?]

/-- What is not a string is no text. -/
theorem text?_eq_none_iff {value : Option Json} :
    value.bind Json.text? = none ↔ ∀ text, value ≠ some (.str text) := by
  cases value with
  | none => simp
  | some v => cases v <;> simp [Json.text?]

/-- Exactly the frames that answer a request are taken for responses, whole. -/
theorem classify_response_iff :
    Incoming.classify frame = some (.response id body) ↔ body = frame ∧ Answers frame id := by
  have hresult : ∀ key, (frame.member? key).isSome = true ↔ frame.member? key ≠ none :=
    fun key => Option.isSome_iff_ne_none
  constructor
  · intro h
    unfold Incoming.classify at h
    dsimp only at h
    split at h
    · exact absurd h (by simp)
    · exact absurd h (by simp)
    next value hid hmethod =>
      split at h
      next hreplies =>
        obtain ⟨n, hn, hincoming⟩ := Option.map_eq_some_iff.1 h
        obtain ⟨rfl, rfl⟩ := Incoming.response.inj hincoming
        obtain ⟨rfl, hlt⟩ := word?_eq_some_iff.1 hn
        rw [Bool.or_eq_true, hresult, hresult] at hreplies
        exact ⟨rfl, isObject_of_member? hid, hid, hlt, hreplies, text?_eq_none_iff.1 hmethod⟩
      · exact absurd h (by simp)
    · exact absurd h (by simp)
  · rintro ⟨rfl, hanswers⟩
    have hreplies := hanswers.replies
    rw [← hresult, ← hresult, ← Bool.or_eq_true] at hreplies
    have hword : Json.word? 64 (.int id) = some id := word?_eq_some_iff.2 ⟨rfl, hanswers.id_lt⟩
    rw [Incoming.classify, hanswers.id_eq, text?_eq_none_iff.2 hanswers.unnamed]
    simp only [hreplies, if_true, hword, Option.map_some]

/-- A notification is delivered to no request, and not answered either. -/
theorem notified_ne (r : Receiver) (method : String) (params : Json) :
    (∀ id body, r.notified method params ≠ .delivered id body) ∧
      ∀ answer, r.notified method params ≠ .answered answer := by
  unfold notified publish
  split <;> (repeat' split) <;> exact ⟨fun _ _ => by simp, fun _ => by simp⟩

/-- Exactly the requests of the server are answered. -/
theorem handle_answered_iff {answer : Json} :
    (r.handle frame).1 = .answered answer ↔ ∃ id method params,
      Incoming.classify frame = some (.request id method params) ∧
        answer = answerTo id method params := by
  constructor
  · intro h
    unfold handle at h
    split at h
    · split at h <;> exact absurd h (by simp)
    next id method params hclass =>
      exact ⟨id, method, params, hclass, (Outcome.answered.inj h).symm⟩
    next method params _ => exact absurd h ((r.notified_ne method params).2 answer)
    · exact absurd h (by simp)
    · exact absurd h (by simp)
  · rintro ⟨id, method, params, hclass, rfl⟩
    rw [handle, hclass]

/-- **A frame is delivered to the request that it answers, whole, exactly when
that request waits.** -/
theorem handle_delivered_iff :
    (r.handle frame).1 = .delivered id body ↔
      body = frame ∧ Answers frame id ∧ id ∈ r.pending := by
  constructor
  · intro h
    unfold handle at h
    split at h
    next n b hclass =>
      split at h
      next hmem =>
        obtain ⟨rfl, rfl⟩ := Outcome.delivered.inj h
        obtain ⟨hbody, hanswers⟩ := classify_response_iff.1 hclass
        exact ⟨hbody, hanswers, hmem⟩
      · exact absurd h (by simp)
    · exact absurd h (by simp)
    next method params _ => exact absurd h ((r.notified_ne method params).1 id body)
    · exact absurd h (by simp)
    · exact absurd h (by simp)
  · rintro ⟨hbody, hanswers, hmem⟩
    rw [handle, classify_response_iff.2 ⟨hbody, hanswers⟩]
    simp only [hmem, if_true]

/-- A frame keeps every request waiting but the one that it answers. -/
theorem mem_pending_handle :
    id ∈ (r.handle frame).2.pending ↔ id ∈ r.pending ∧ ¬ Answers frame id := by
  unfold handle
  split
  next n b hclass =>
    obtain ⟨-, hanswers⟩ := classify_response_iff.1 hclass
    have hiff : Answers frame id ↔ id = n := ⟨fun h => h.unique hanswers, fun h => h ▸ hanswers⟩
    rw [hiff]
    split
    · simp [forget]
    next hmem =>
      constructor
      · exact fun h => ⟨h, fun heq => hmem (heq ▸ h)⟩
      · exact fun h => h.1
  -- No other frame answers a request or changes which requests wait.
  all_goals
    rename_i hclass
    have hnone : ¬ Answers frame id := fun hanswers =>
      absurd (hclass.symm.trans (classify_response_iff.2 ⟨rfl, hanswers⟩)) (by simp)
    exact ⟨fun h => ⟨h, hnone⟩, fun h => h.1⟩

/-- The receiver waits for the new id and for those that it waited for. -/
theorem mem_pending_expect {id' : Nat} :
    id ∈ (r.expect id').pending ↔ id = id' ∨ id ∈ r.pending := by
  unfold expect
  split
  next hmem =>
    constructor
    · exact fun h => .inr h
    · rintro (rfl | h)
      · exact hmem
      · exact h
  · rw [List.mem_append, List.mem_singleton, or_comm]

/-! ### Requests and frames in any order -/

/-- The receiving side after a turn. -/
def after (r : Receiver) : Turn → Receiver
  | .expected id => r.expect id
  | .came frame => (r.handle frame).2

/-- The receiving side after turns in order. -/
def afterAll (r : Receiver) (turns : List Turn) : Receiver := turns.foldl after r

/-- Turns one row after the other are the turns of both. -/
theorem afterAll_append (r : Receiver) (turns more : List Turn) :
    r.afterAll (turns ++ more) = (r.afterAll turns).afterAll more := List.foldl_append

/-- A request waits after some turns when no frame has answered it since it
began to wait, for the last time if it did so more than once. -/
def Waits (turns : List Turn) (id : Nat) : Prop :=
  ∃ front back, turns = front ++ .expected id :: back ∧
    ∀ frame, .came frame ∈ back → ¬ Answers frame id

/-- Without a turn nothing is waited for. -/
theorem not_waits_nil : ¬ Waits [] id := by
  rintro ⟨front, back, h, -⟩
  exact absurd h (by simp)

/-- What a turn does to the requests that wait. -/
theorem waits_concat {turns : List Turn} {t : Turn} :
    Waits (turns ++ [t]) id ↔
      t = .expected id ∨ Waits turns id ∧ ∀ frame, t = .came frame → ¬ Answers frame id := by
  constructor
  · rintro ⟨front, back, h, hback⟩
    rcases History.split_concat h with ⟨-, rfl, -⟩ | ⟨rest, hturns, rfl⟩
    · exact .inl rfl
    · refine .inr ⟨⟨front, rest, hturns, fun frame hframe => ?_⟩, fun frame ht => ?_⟩
      · exact hback frame (by simp [hframe])
      · exact hback frame (by simp [ht])
  · rintro (rfl | ⟨⟨front, back, rfl, hback⟩, ht⟩)
    · exact ⟨turns, [], rfl, by simp⟩
    · refine ⟨front, back ++ [t], by simp, fun frame hframe => ?_⟩
      rcases List.mem_append.1 hframe with hframe | hframe
      · exact hback frame hframe
      · exact ht frame (List.mem_singleton.1 hframe).symm

/-- The requests that wait after some turns are those that have not been
answered since they began to wait. -/
theorem mem_pending_afterAll (hr : r.pending = []) (turns : List Turn) :
    id ∈ (r.afterAll turns).pending ↔ Waits turns id := by
  induction turns using List.reverseRecOn with
  | nil =>
    have hnone : id ∉ r.pending := hr ▸ List.not_mem_nil
    exact ⟨fun h => absurd h hnone, fun h => absurd h not_waits_nil⟩
  | append_singleton turns t ih =>
    rw [afterAll_append, waits_concat, ← ih]
    cases t with
    | expected id' =>
      change id ∈ ((r.afterAll turns).expect id').pending ↔ _
      rw [mem_pending_expect, Turn.expected.injEq, eq_comm]
      simp
    | came frame =>
      change id ∈ ((r.afterAll turns).handle frame).2.pending ↔ _
      rw [mem_pending_handle]
      simp

/-- A frame is delivered to a request in a turn. -/
def Delivers (r : Receiver) (front : List Turn) (frame : Json) (id : Nat) : Prop :=
  ∃ body, ((r.afterAll front).handle frame).1 = .delivered id body

/-- Between two frames that a request is delivered it begins to wait again. -/
theorem expected_between (hr : r.pending = []) {front mid : List Turn} {f g : Json}
    (hf : r.Delivers front f id) (hg : r.Delivers (front ++ .came f :: mid) g id) :
    .expected id ∈ mid := by
  obtain ⟨_, hf⟩ := hf
  obtain ⟨_, hg⟩ := hg
  have hanswers : Answers f id := (handle_delivered_iff.1 hf).2.1
  have hwaits := (mem_pending_afterAll hr _).1 (handle_delivered_iff.1 hg).2.2
  obtain ⟨before, since, hsplit, hsince⟩ := hwaits
  -- It did not begin to wait before the first frame, for that frame has answered it.
  rcases List.append_eq_append_iff.1 hsplit with ⟨a, hbefore, hmid⟩ | ⟨a, hfront, hmid⟩
  · cases a with
    | nil => exact absurd (List.cons.inj hmid).1 (by simp)
    | cons t a =>
      rw [(List.cons.inj hmid).2]
      simp
  · cases a with
    | nil => exact absurd (List.cons.inj hmid).1 (by simp)
    | cons t a =>
      refine absurd hanswers (hsince f ?_)
      rw [(List.cons.inj hmid).2]
      simp

/-- What holds of the deliveries in some turns, and of the requests that wait. -/
structure Exact (r : Receiver) (turns : List Turn) : Prop where
  /-- A frame reaches the request that it answers, whole, if that one waits, and no other. -/
  delivered_iff : ∀ front frame back, turns = front ++ .came frame :: back → ∀ id body,
    ((r.afterAll front).handle frame).1 = .delivered id body ↔
      body = frame ∧ Answers frame id ∧ id ∈ (r.afterAll front).pending
  /-- The request that a frame reaches waits no more, and all others wait as before. -/
  released : ∀ front frame back, turns = front ++ .came frame :: back → ∀ id,
    id ∈ (r.afterAll (front ++ [.came frame])).pending ↔
      id ∈ (r.afterAll front).pending ∧ ¬ r.Delivers front frame id
  /-- A request that has begun to wait once is delivered one frame at most. -/
  once : ∀ front f mid g back, turns = front ++ .came f :: (mid ++ .came g :: back) → ∀ id,
    r.Delivers front f id → r.Delivers (front ++ .came f :: mid) g id → .expected id ∈ mid
  /-- A frame that names a method reaches no request, whatever its id. -/
  named : ∀ front frame back, turns = front ++ .came frame :: back →
    (∃ method, frame.member? "method" = some (.str method)) → ∀ id, ¬ r.Delivers front frame id
  /-- In the end the requests wait that have not been answered since they began to. -/
  waiting : ∀ id, id ∈ (r.afterAll turns).pending ↔ Waits turns id

/-- **Every response reaches the request that it answers, and no other frame
reaches any**, in every sequence of requests and frames. -/
theorem deliveries_exact (session : SessionId) (projects : List Project) (turns : List Turn) :
    Exact (ofProjects session projects) turns := by
  have hr : (ofProjects session projects).pending = [] := rfl
  generalize ofProjects session projects = r at hr ⊢
  refine ⟨fun _ _ _ _ _ _ => handle_delivered_iff, fun front frame _ _ id => ?_, ?_, ?_,
    fun id => mem_pending_afterAll hr turns⟩
  · rw [afterAll_append]
    change id ∈ ((r.afterAll front).handle frame).2.pending ↔ _
    rw [mem_pending_handle]
    simp only [Delivers, handle_delivered_iff]
    constructor
    · rintro ⟨hmem, hanswers⟩
      exact ⟨hmem, fun ⟨_, _, h, _⟩ => hanswers h⟩
    · rintro ⟨hmem, hdelivers⟩
      exact ⟨hmem, fun h => hdelivers ⟨frame, rfl, h, hmem⟩⟩
  · intro front f mid g back _ id hf hg
    exact expected_between hr hf hg
  · rintro front frame _ _ ⟨method, hmethod⟩ id ⟨body, hdelivers⟩
    exact (handle_delivered_iff.1 hdelivers).2.1.unnamed method hmethod

end Receiver
end Switchboard
