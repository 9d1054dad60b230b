/-
# What a client does, one thing after the other

All that happens between a client and its server while the client waits comes down to
six things (`Client.Move`): complaints are logged, a message is heard or lost, a frame
is read, the reading side ends, or somebody waits in vain for room.  What a client
does on its own account besides is as little (`Client.Act`).  So what each of these
keeps, every operation of a client keeps: `moves_takeTurns` and the lemmas after it
take the operations apart, once for all that is to be shown of them.
-/

import Mathlib.Logic.Relation
import Switchboard.Client.Life

namespace Switchboard
namespace Client

open Relation (ReflTransGen)

variable {c : Client} {s : Site} {p q : Client × Site}

/-- One thing that happens between a client and its server. -/
inductive Move : Client × Site → Client × Site → Prop
  | complain (c : Client) (s : Site) : Move (c, s) (c.logComplaints s)
  | tell {c : Client} (s : Site) {m : Json} {rest : List Json} (houtbox : c.outbox = m :: rest)
      (hheard : c.isHeard = true) :
    Move (c, s) ({ c with
        process := (c.process.hear m).2, unread := c.unread ++ (c.process.hear m).1,
        outbox := rest },
      s.note c.session c.process.program (.heard m))
  | lose {c : Client} (s : Site) (hheard : c.isHeard = false) (hblocked : c.isBlocked = false) :
    Move (c, s) ({ c with writing := false, outbox := [] },
      s.log c.channel .warn writeFailure)
  | receive {c : Client} {s : Site} {frame : Json} {rest : Bytes} (hended : c.ended = none)
      (hheld : s.holds c.session = false) (hnext : Frame.next c.unread = .frame frame rest)
      (hroom : (c.receiver.handle frame).1.isAnswered = true → c.isFull = false) :
    Move (c, s) (act { c with receiver := (c.receiver.handle frame).2, unread := rest }
      (s.note c.session c.process.program (.read frame)) (c.receiver.handle frame).1)
  | finish {c : Client} {s : Site} (hended : c.ended = none) (hheld : s.holds c.session = false)
      (hnext : ∀ frame rest, Frame.next c.unread ≠ .frame frame rest) (reason : StopReason) :
    Move (c, s) (c.finish s reason)
  | halt {c : Client} (s : Site) (hblocked : c.isBlocked = true) (hfull : c.isFull = true) :
    Move (c, s) (c, s.halt)

/-- Things that happen one after the other. -/
abbrev Moves : Client × Site → Client × Site → Prop := ReflTransGen Move

/-! ### Taking turns -/

/-- Writing messages comes to moves, one for each. -/
theorem moves_writeAll (c : Client) (s : Site) (ms : List Json) :
    Moves ({ c with outbox := ms }, s) (c.writeAll s ms) := by
  induction ms generalizing c s with
  | nil => exact .refl
  | cons m ms ih =>
    simp only [writeAll]
    split
    next hheard => exact .head (.tell s rfl hheard) (ih { c with
        process := (c.process.hear m).2, unread := c.unread ++ (c.process.hear m).1 } _)
    next hheard =>
      split
      · exact .refl
      next hblocked =>
        exact .single (.lose s (Bool.eq_false_iff.2 hheard) (Bool.eq_false_iff.2 hblocked))

/-- Writing what is in the outbox comes to moves. -/
theorem moves_flush (c : Client) (s : Site) : Moves (c, s) (c.flush s) :=
  moves_writeAll c s c.outbox

/-- Nothing that a frame comes to ends the reading. -/
theorem ended_act (c : Client) (s : Site) (o : Outcome) : (c.act s o).1.ended = c.ended := by
  cases o with
  | answered answer => simp only [act, push]; split <;> rfl
  | _ => rfl

/-- Reading frames comes to moves. -/
theorem moves_readWithin (fuel : Nat) (s : Site) (hc : c.ended = none) :
    Moves (c, s) (readWithin fuel c s) := by
  induction fuel generalizing c s with
  | zero => exact .refl
  | succ fuel ih =>
    unfold readWithin
    split
    · exact .refl
    next hheld =>
      split
      next frame rest hnext =>
        dsimp only
        split
        · exact .refl
        next hfull =>
          exact .head (.receive hc (Bool.eq_false_iff.2 hheld) hnext
            fun h => by simpa [h] using hfull) (ih _ ((ended_act ..).trans hc))
      next hnext =>
        exact .single (.finish hc (Bool.eq_false_iff.2 hheld) (fun _ _ h => by simp [hnext] at h) _)
      next hnext =>
        split
        · exact .refl
        · exact .single
            (.finish hc (Bool.eq_false_iff.2 hheld) (fun _ _ h => by simp [hnext] at h) _)

/-- Reading what is there comes to moves. -/
theorem moves_read (c : Client) (s : Site) : Moves (c, s) (c.read s) := by
  unfold read
  cases hc : c.ended with
  | some reason => exact .refl
  | none => exact moves_readWithin _ s hc

/-- Turns of writing and reading come to moves. -/
theorem moves_takeTurns (done : Client → Bool) (turns : Nat) (c : Client) (s : Site) :
    Moves (c, s) (c.takeTurns done turns s) := by
  induction turns generalizing c s with
  | zero => exact moves_flush c s
  | succ turns ih =>
    have hturn := (moves_flush c s).trans (moves_read (c.flush s).1 (c.flush s).2)
    simp only [takeTurns]
    split
    · exact hturn.trans (moves_flush ..)
    · exact hturn.trans (ih ..)

/-- What comes after the first turn. -/
theorem moves_of_turn (done : Client → Bool) (turns : Nat) (c : Client) (s : Site) :
    Moves ((c.flush s).1.read (c.flush s).2) (c.takeTurns done (turns + 1) s) := by
  simp only [takeTurns]
  split
  · exact moves_flush ..
  · exact moves_takeTurns ..

/-- Settling comes to moves. -/
theorem moves_settle (c : Client) (s : Site) : Moves (c, s) (c.settle s) :=
  .head (.complain c s) (moves_takeTurns ..)

/-- Making room comes to moves, the one that waits for ever included. -/
theorem moves_makeRoom (c : Client) (s : Site) : Moves (c, s) (c.makeRoom s) := by
  have hsettle := moves_settle c s
  unfold makeRoom
  generalize c.settle s = p at hsettle ⊢
  split
  · exact .refl
  · dsimp only
    split
    next h =>
      obtain ⟨hblocked, hfull⟩ := Bool.and_eq_true_iff.1 h
      exact hsettle.tail (.halt _ hblocked hfull)
    · exact hsettle

/-! ### What waits -/

/-- Nothing waits, or it waits for the server to read. -/
def Written (c : Client) : Prop := c.outbox = [] ∨ c.isBlocked = true

/-- After writing nothing is left that could have been written. -/
theorem written_writeAll (c : Client) (s : Site) (ms : List Json) :
    (c.writeAll s ms).1.Written := by
  induction ms generalizing c s with
  | nil => exact .inl rfl
  | cons m ms ih =>
    unfold writeAll
    split
    · exact ih ..
    · split
      next hblocked => exact .inr hblocked
      · exact .inl rfl

/-- After a row of turns nothing is left that could have been written. -/
theorem written_takeTurns (done : Client → Bool) (turns : Nat) (c : Client) (s : Site) :
    (c.takeTurns done turns s).1.Written := by
  induction turns generalizing c s with
  | zero => exact written_writeAll ..
  | succ turns ih =>
    simp only [takeTurns]
    split
    · exact written_writeAll ..
    · exact ih ..

/-- After settling nothing is left that could have been written. -/
theorem written_settle (c : Client) (s : Site) : (c.settle s).1.Written :=
  written_takeTurns ..

/-- An answer that has come has come when all was written that could be. -/
theorem written_await {c : Client} {s : Site} {id : Nat} {method : String} {patience : Nat}
    {body : Json} (h : (c.await s id method patience).1 = .ok body) :
    (c.await s id method patience).2.1.Written := by
  unfold await at h ⊢
  split at h
  · exact absurd h (by simp)
  next hpatience =>
    rw [if_neg hpatience]
    have hwritten := written_takeTurns (fun c => (c.answer? id).isSome) patience
      (c.logComplaints s).1 (c.logComplaints s).2
    dsimp only at h ⊢
    split
    · exact hwritten
    · exact hwritten

/-- Where a request has its answer, all has been written that could be. -/
theorem written_request {c : Client} {s : Site} {method : String} {params : Option Json}
    {patience : Nat} {body : Json} (h : (c.request s method params patience).1 = .ok body) :
    (c.request s method params patience).2.1.Written := by
  unfold request at h ⊢
  split at h
  · exact absurd h (by simp)
  · exact written_await h

/-- Where the server reads, nothing waits. -/
theorem Written.mem_of_free {c : Client} {m : Json} (h : c.Written)
    (hm : m ∈ c.process.heard ++ c.outbox) (hfree : c.isBlocked = false) : m ∈ c.process.heard := by
  rcases h with hempty | hblocked
  · rwa [hempty, List.append_nil] at hm
  · exact absurd (hfree.symm.trans hblocked) (by simp)

/-- Where nothing waits but for the server, writing changes nothing. -/
theorem flush_of_written (h : c.Written) (s : Site) : c.flush s = (c, s) := by
  unfold flush
  cases houtbox : c.outbox with
  | nil => exact congrArg (fun ms => ({ c with outbox := ms }, s)) houtbox.symm
  | cons m ms =>
    have hblocked := h.resolve_left (by simp [houtbox])
    have hheard : c.isHeard = false := by
      obtain ⟨-, hon⟩ := Bool.and_eq_true_iff.1 hblocked
      rw [Bool.not_eq_eq_eq_not, Bool.not_true] at hon
      rw [isHeard, Process.hears, hon, Bool.and_false]
    rw [writeAll, hheard, if_neg Bool.false_ne_true, if_pos hblocked]
    exact congrArg (fun ms => ({ c with outbox := ms }, s)) houtbox.symm

/-! ### Requests -/

/-- One thing that a client does, besides what happens between it and its server. -/
inductive Act : Client × Site → Client × Site → Prop
  | move {p q : Client × Site} (h : Move p q) : Act p q
  | log (c : Client) (s : Site) (level : Level) (line : String) :
    Act (c, s) (c, s.log c.channel level line)
  | push (c : Client) (s : Site) (m : Json) : Act (c, s) (c.push m, s)
  | count (c : Client) (s : Site) :
    Act (c, s) ({ c with nextId := c.nextId + 1, receiver := c.receiver.expect c.nextId }, s)
  | forget (c : Client) (s : Site) (id : Nat) :
    Act (c, s) ({ c with receiver := c.receiver.forget id }, s)
  | take (c : Client) (s : Site) (id : Nat) :
    Act (c, s) ({ c with delivered := c.delivered.filter fun d => d.1 != id }, s)
  | welcome (c : Client) (s : Site) (w : Option Welcome) : Act (c, s) ({ c with welcome := w }, s)
  | closeInput (c : Client) (s : Site) :
    Act (c, s) ({ c with process := c.process.closeInput c.backlog, writing := false }, s)

/-- Things that a client does one after the other. -/
abbrev Acts : Client × Site → Client × Site → Prop := ReflTransGen Act

/-- Moves are acts. -/
theorem Acts.of_moves (h : Moves p q) : Acts p q := h.lift id fun _ _ => .move

/-- Sending a message comes to acts. -/
theorem acts_send (c : Client) (s : Site) (m : Json) : Acts (c, s) (c.send s m).2 := by
  have hroom := Acts.of_moves (moves_makeRoom c s)
  simp only [send]
  split
  · exact hroom.tail (.push ..)
  · exact hroom

/-- Making a request comes to acts, also where there is no server any more. -/
theorem acts_ask (c : Client) (s : Site) (method : String) (params : Option Json) :
    Acts (c, s) (c.ask s method params).2 := by
  unfold ask
  split
  · exact .refl
  · have hsend := (ReflTransGen.single (.count c s)).trans (acts_send { c with
      nextId := c.nextId + 1, receiver := c.receiver.expect c.nextId } s
      (Message.request c.nextId method params))
    dsimp only
    split
    next heq => rwa [heq] at hsend
    next heq =>
      rw [heq] at hsend
      exact hsend.tail (.forget ..)

/-- Greeting the server comes to acts. -/
theorem acts_greet (c : Client) (s : Site) (h : Handshake) : Acts (c, s) (c.greet s h).2 :=
  .head (.log c s .debug (advertised h)) (acts_ask ..)

/-- Waiting for an answer comes to acts. -/
theorem acts_await (c : Client) (s : Site) (id : Nat) (method : String) (patience : Nat) :
    Acts (c, s) (c.await s id method patience).2 := by
  unfold await
  split
  · exact .single (.forget ..)
  · have hturns := (ReflTransGen.single (Move.complain c s)).trans
      (moves_takeTurns (fun c => (c.answer? id).isSome) patience (c.logComplaints s).1
        (c.logComplaints s).2)
    dsimp only
    split
    · exact (Acts.of_moves hturns).tail (.take ..)
    · exact (Acts.of_moves hturns).tail (.forget ..)

/-- A request and the wait for its answer come to acts. -/
theorem acts_request (c : Client) (s : Site) (method : String) (params : Option Json)
    (patience : Nat) : Acts (c, s) (c.request s method params patience).2 := by
  have hask := acts_ask c s method params
  unfold request
  split
  next heq => rwa [heq] at hask
  next heq =>
    rw [heq] at hask
    exact hask.trans (acts_await ..)

/-- Being welcomed comes to acts. -/
theorem acts_complete (c : Client) (s : Site) (id : Nat) : Acts (c, s) (c.complete s id).2 := by
  have hawait := acts_await c s id "initialize" c.patience
  unfold complete
  split
  next heq => rwa [heq] at hawait
  next heq =>
    rw [heq] at hawait
    split
    · exact hawait
    · exact (hawait.tail (.welcome ..)).trans (acts_send ..)

/-- Asking for actions comes to acts. -/
theorem acts_codeActions (c : Client) (s : Site) (uri : String) (only : List String) :
    Acts (c, s) (c.codeActions s uri only).2 := by
  unfold codeActions
  split
  · exact .refl
  next doc _ =>
    have hrequest := acts_request c s "textDocument/codeAction"
      (some (Message.codeAction uri doc.lines only)) c.patience
    dsimp only
    split
    next heq => rwa [heq] at hrequest
    next heq => rwa [heq] at hrequest

/-! ### Leaving -/

/-- Saying goodbye comes to acts. -/
theorem acts_sayGoodbye (c : Client) (s : Site) : Acts (c, s) (c.sayGoodbye s) := by
  unfold sayGoodbye
  split
  · have hrequest := acts_request c s "shutdown" none c.stopPatience
    split
    next heq => rwa [heq] at hrequest
    next heq =>
      rw [heq] at hrequest
      split
      · exact hrequest.trans (acts_send ..)
      · exact hrequest
  · exact .refl

/-- **Leaving the server comes to acts**, up to the message that ends the writing. -/
theorem acts_leave (c : Client) (s : Site) : Acts (c, s) (c.leave s) := by
  have hgoodbye := acts_sayGoodbye c s
  unfold leave
  generalize c.sayGoodbye s = p at hgoodbye ⊢
  have hleft : Acts (c, s) _ := hgoodbye.trans
    (Acts.of_moves ((moves_makeRoom p.1 p.2).trans (moves_flush ..)))
  dsimp only
  split
  · exact (hleft.tail (.closeInput ..)).trans (Acts.of_moves (moves_read ..))
  · exact hleft.trans (Acts.of_moves (moves_read ..))

end Client
end Switchboard
