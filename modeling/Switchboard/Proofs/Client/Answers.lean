/-
# Answers

A server may block on its own requests, so none may go without an answer.  A
frame asks for one when it has an id, of whatever kind, and the name of a method
(`Receiver.asks`); whether it carries a result or an error as well does not
matter.  Each frame that asks is answered at once and no other frame is
(`Receiver.answers_handleAll`), and what a client reads adds just these answers
to what it writes next (`Client.hasAnswered_readWithin`).
-/

import Switchboard.Client.Basic
import Switchboard.Proofs.Client.Pending
import Switchboard.Proofs.Json.Members
import Switchboard.Proofs.Wire.RoundTrip

namespace Switchboard

/-- The answer that is written back. -/
def Outcome.answer? : Outcome → Option Json
  | .answered answer => some answer
  | _ => none

namespace Receiver

variable {r : Receiver} {frame answer id : Json} {method : String} {params : Option Json}

/-! ### Frames that ask -/

/-- Whether a frame asks for an answer: it has an id, and a string for its method. -/
def asks (frame : Json) : Bool :=
  (frame.member? "id").isSome && ((frame.member? "method").bind Json.text?).isSome

/-- How many settings a frame asks for: as many as its parameters have items, and
none when the items are no array. -/
def wanted (frame : Json) : Nat :=
  match (frame.member? "params").bind (Json.member? "items") with
  | some (.arr items) => items.length
  | _ => 0

/-- An answer settles a frame that asks: it has the frame's id, and either a
result or an error.  The settings that a frame asks for are null, one by one. -/
structure Settles (frame answer : Json) : Prop where
  isObject : ∃ members, answer = .obj members
  version : answer.member? "jsonrpc" = some (.str "2.0")
  unnamed : answer.member? "method" = none
  id_eq : answer.member? "id" = frame.member? "id"
  either : answer.member? "result" = none ↔ answer.member? "error" ≠ none
  settings : frame.member? "method" = some (.str "workspace/configuration") →
    answer.member? "result" = some (.arr (List.replicate (wanted frame) .null))

/-- Only a string is a text. -/
theorem text?_eq_some_iff {value : Option Json} {text : String} :
    value.bind Json.text? = some text ↔ value = some (.str text) := by
  cases value with
  | none => simp
  | some v => cases v <;> simp [Json.text?]

/-- A frame asks if it has an identity and names a method. -/
theorem asks_iff : asks frame = true ↔
    ∃ id method, frame.member? "id" = some id ∧ frame.member? "method" = some (.str method) := by
  rw [asks, Bool.and_eq_true, Option.isSome_iff_exists, Option.isSome_iff_exists]
  simp only [text?_eq_some_iff, exists_and_left, exists_and_right]

/-- Exactly the frames that ask are taken for requests, whatever else they carry. -/
theorem classify_request_iff :
    Incoming.classify frame = some (.request id method params) ↔
      frame.member? "id" = some id ∧ frame.member? "method" = some (.str method) ∧
        frame.member? "params" = params := by
  rw [← text?_eq_some_iff]
  unfold Incoming.classify
  dsimp only
  split
  next hid hmethod => simp [hid, hmethod]
  next hid hmethod => simp [hid]
  next hid hmethod =>
    split
    · simp [hid, hmethod, Option.map_eq_some_iff]
    · simp [hmethod]
  next hid hmethod => simp [hid]

/-! ### One frame -/

/-- There is one item for each setting that is wanted. -/
theorem length_askedItems : (askedItems (frame.member? "params")).length = wanted frame := by
  unfold askedItems wanted
  cases (frame.member? "params").bind (Json.member? "items") with
  | none => rfl
  | some items => cases items <;> rfl

/-- A success settles what is asked, if it is as long as the settings wanted. -/
theorem settles_success {result : Json} (hid : frame.member? "id" = some id)
    (hsettings : frame.member? "method" = some (.str "workspace/configuration") →
      result = .arr (List.replicate (wanted frame) .null)) :
    Settles frame (Message.success id result) := by
  refine ⟨⟨_, rfl⟩, ?_, Message.method_success .., ?_, ?_, fun h => ?_⟩
  · simp [Message.success, Json.member?_ofMembers, Message.version]
  · rw [hid, Message.id_success]
  · simp [Message.success, Json.member?_ofMembers, Message.version]
  · rw [Message.result_success, hsettings h]

/-- A failure settles what is asked, settings apart. -/
theorem settles_failure (hid : frame.member? "id" = some id)
    (hmethod : frame.member? "method" ≠ some (.str "workspace/configuration")) (code : Int)
    (message : String) : Settles frame (Message.failure id code message) := by
  refine ⟨⟨_, rfl⟩, ?_, Message.method_failure .., ?_, ?_, fun h => absurd h hmethod⟩
  · simp [Message.failure, Json.member?_ofMembers, Message.version]
  · rw [hid, Message.id_failure]
  · simp [Message.failure, Json.member?_ofMembers, Message.version]

/-- What a frame that asks is answered settles it. -/
theorem settles_answerTo (hid : frame.member? "id" = some id)
    (hmethod : frame.member? "method" = some (.str method)) :
    Settles frame (answerTo id method (frame.member? "params")) := by
  have hne : method ≠ "workspace/configuration" →
      frame.member? "method" ≠ some (.str "workspace/configuration") := by
    rw [hmethod]
    simp
  unfold answerTo
  split
  · refine settles_success hid fun _ => ?_
    rw [List.map_const', length_askedItems]
  next hother =>
    split
    · exact settles_success hid fun h => absurd h (hne hother)
    · exact settles_failure hid (hne hother) _ _

/-- **A frame that asks is answered**, whatever requests wait. -/
theorem handle_of_asks (r : Receiver) (h : asks frame = true) :
    ∃ answer, (r.handle frame).1 = .answered answer ∧ Settles frame answer := by
  obtain ⟨id, method, hid, hmethod⟩ := asks_iff.1 h
  exact ⟨_, handle_answered_iff.2 ⟨id, method, _, classify_request_iff.2 ⟨hid, hmethod, rfl⟩, rfl⟩,
    settles_answerTo hid hmethod⟩

/-- A frame that does not ask is not answered. -/
theorem answer?_handle_of_not_asks (r : Receiver) (h : asks frame = false) :
    (r.handle frame).1.answer? = none := by
  cases houtcome : (r.handle frame).1 with
  | answered answer =>
    obtain ⟨id, method, params, hclass, -⟩ := handle_answered_iff.1 houtcome
    obtain ⟨hid, hmethod, -⟩ := classify_request_iff.1 hclass
    have hasks := asks_iff.2 ⟨id, method, hid, hmethod⟩
    exact absurd (hasks.symm.trans h) (by simp)
  | _ => rfl

/-- The answers to one more frame are those to the others behind its own, if it
asks for one. -/
theorem settles_cons (r : Receiver) (frame : Json) {frames answers : List Json}
    (h : List.Forall₂ Settles (frames.filter asks) answers) :
    List.Forall₂ Settles ((frame :: frames).filter asks)
      ((r.handle frame).1.answer?.toList ++ answers) := by
  cases hasks : asks frame with
  | true =>
    obtain ⟨answer, houtcome, hsettles⟩ := r.handle_of_asks hasks
    rw [List.filter_cons_of_pos hasks, houtcome]
    exact .cons hsettles h
  | false =>
    rw [List.filter_cons_of_neg (by simp [hasks]), r.answer?_handle_of_not_asks hasks]
    exact h

/-! ### Frames in a row -/

/-- **Every request of a server is answered exactly once, in order, and nothing
else is**: what is written back for some frames are answers to those frames that
ask, one for each, whatever requests wait meanwhile. -/
theorem answers_handleAll (r : Receiver) (frames : List Json) :
    List.Forall₂ Settles (frames.filter asks)
      ((r.handleAll frames).1.filterMap Outcome.answer?) := by
  induction frames generalizing r with
  | nil => exact .nil
  | cons frame frames ih =>
    have hanswers := settles_cons r frame (ih (r.handle frame).2)
    rw [handleAll]
    dsimp only
    rw [List.filterMap_cons]
    cases houtcome : (r.handle frame).1.answer? with
    | none => rwa [houtcome] at hanswers
    | some answer => rwa [houtcome] at hanswers

/-- A request for settings with an error in it, and a notification: the request is
answered with two nulls. -/
example : ((ofProjects 1 []).handleAll
    [.obj [("error", .null), ("id", .null), ("method", .str "workspace/configuration"),
      ("params", .obj [("items", .arr [.int 1, .str "a"])])],
      .obj [("method", .str "workspace/configuration")]]).1.filterMap Outcome.answer? =
    [.obj [("id", .null), ("jsonrpc", .str "2.0"), ("result", .arr [.null, .null])]] := by
  rfl

end Receiver

/-! ### What a client writes back -/

namespace Client

variable {c c' : Client}

/-- Some frames have been taken off what the server has written, and the answers
to them, and nothing else, wait to be written behind what has waited before. -/
def HasAnswered (c c' : Client) : Prop :=
  ∃ frames answers, Frame.nextN frames.length c.unread = some (frames, c'.unread) ∧
    c'.outbox = c.outbox ++ answers ∧
    List.Forall₂ Receiver.Settles (frames.filter Receiver.asks) answers

/-- Whether all is answered is a matter of what is unread and of the outbox. -/
theorem HasAnswered.of_eq (hunread : c'.unread = c.unread) (houtbox : c'.outbox = c.outbox) :
    c.HasAnswered c' :=
  ⟨[], [], by rw [hunread]; rfl, by rw [houtbox, List.append_nil], .nil⟩

/-- Acting on a frame puts its answer into the outbox, and no more. -/
theorem outbox_act (hw : c.writing = true) (s : Site) (outcome : Outcome) :
    (c.act s outcome).1.outbox = c.outbox ++ outcome.answer?.toList ∧
      (c.act s outcome).1.writing = true ∧ (c.act s outcome).1.unread = c.unread := by
  cases outcome with
  | answered answer =>
    rw [act, push, if_pos hw]
    exact ⟨rfl, hw, rfl⟩
  | _ => exact ⟨(List.append_nil _).symm, hw, rfl⟩

/-- **A client that can write has answered all that it reads**, and has nothing
else to write for that. -/
theorem hasAnswered_readWithin (fuel : Nat) (hw : c.writing = true) (s : Site) :
    c.HasAnswered (readWithin fuel c s).1 := by
  induction fuel generalizing c s with
  | zero => exact .of_eq rfl rfl
  | succ fuel ih =>
    unfold readWithin
    split
    · exact .of_eq rfl rfl
    · split
      next value rest hnext =>
        dsimp only
        split
        · exact .of_eq rfl rfl
        let c₁ : Client := { c with receiver := (c.receiver.handle value).2, unread := rest }
        let s₁ : Site := s.note c.session c.process.program (.read value)
        obtain ⟨houtbox, hwriting, hunread⟩ :=
          outbox_act (c := c₁) hw s₁ (c.receiver.handle value).1
        obtain ⟨frames, answers, hframes, hmore, hsettles⟩ :=
          ih hwriting (c₁.act s₁ (c.receiver.handle value).1).2
        refine ⟨value :: frames, (c.receiver.handle value).1.answer?.toList ++ answers, ?_, ?_,
          Receiver.settles_cons c.receiver value hsettles⟩
        · rw [hunread] at hframes
          rw [List.length_cons, Frame.nextN, hnext]
          dsimp only
          rw [hframes]
          rfl
        · rw [hmore, houtbox, List.append_assoc]
      · exact .of_eq rfl rfl
      · split
        · exact .of_eq rfl rfl
        · exact .of_eq rfl rfl

end Client
end Switchboard
