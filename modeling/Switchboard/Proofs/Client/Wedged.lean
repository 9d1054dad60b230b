/-
# A client and a server that wait for each other

A server that does not read, with its pipe full and as many messages behind it as may wait,
and that nothing can get to read again, is waited for in vain (`Client.Wedged`).  It may have
stalled; or it waits itself for somebody to read what it has written, and that is not read
because the client has no room for an answer, or the site none for a report.  Nothing that
the client does ends that (`Client.Acts.wedged`), and whoever makes room for a message there
waits for ever, as does whoever wants to leave (`Client.Wedged.stuck_leave`).
-/

import Switchboard.Proofs.Client.Ready
import Switchboard.Proofs.Client.Reports
import Switchboard.Proofs.Wire.RoundTrip

namespace Switchboard
namespace Client

variable {c : Client} {s : Site} {p q : Client × Site}

/-! ### What does not fit -/

/-- With one more message no less is left over. -/
theorem beyond_concat_le (room : Nat) (ms : List Json) (m : Json) :
    (beyond room ms).length ≤ (beyond room (ms ++ [m])).length := by
  induction ms generalizing room with
  | nil => exact Nat.zero_le _
  | cons first ms ih =>
    rw [List.cons_append]
    unfold beyond
    dsimp only
    split
    · exact ih _
    · simp

/-- What does not fit is no more than there is. -/
theorem length_beyond_le (room : Nat) (ms : List Json) :
    (beyond room ms).length ≤ ms.length := by
  induction ms generalizing room with
  | nil => exact le_rfl
  | cons m ms ih =>
    unfold beyond
    dsimp only
    split
    · exact (ih _).trans (Nat.le_succ _)
    · exact le_rfl

/-- Every message takes some room. -/
theorem length_le_add_beyond (room : Nat) (ms : List Json) :
    ms.length ≤ room + (beyond room ms).length := by
  induction ms generalizing room with
  | nil => exact Nat.zero_le _
  | cons m ms ih =>
    have hsome := Frame.length_write_pos m
    unfold beyond
    dsimp only
    split
    next hfits =>
      have hrest := ih (room - (Frame.write m).length)
      rw [List.length_cons]
      omega
    · omega

/-- The channel is full when more than its bound does not fit into the pipe. -/
theorem isFull_iff : c.isFull = true ↔ outboxLimit < (beyond pipeSize c.outbox).length :=
  decide_eq_true_iff

/-- A full channel stays full when a message is added. -/
theorem isFull_push (h : c.isFull = true) (m : Json) : (c.push m).isFull = true := by
  unfold push
  split
  · rw [isFull_iff] at h ⊢
    exact h.trans_le (beyond_concat_le ..)
  · exact h

/-- An outbox that is full is long. -/
theorem length_of_isFull (h : c.isFull = true) : ¬ c.outbox.length < outboxLimit := by
  have hlong := (isFull_iff.1 h).trans_le (length_beyond_le ..)
  omega

/-! ### Waiting for each other -/

/-- A client whose server is there and does not read, and will not: it has stalled, or it waits
for the client to read a frame that the client does not get to. -/
structure Wedged (c : Client) (s : Site) : Prop where
  isOpen_eq : c.process.isOpen = true
  isFull_eq : c.isFull = true
  waits : c.process.stalled = true ∨ c.ended = none ∧
    (∃ size, c.process.behaviour.room = some size ∧ size < c.unread.length) ∧
    ∃ frame rest, Frame.next c.unread = .frame frame rest ∧
      (s.holds c.session = true ∨
        ∃ id method params, Incoming.classify frame = some (.request id method params))

/-- A server that is wedged does not get on. -/
theorem Wedged.getsOn (h : c.Wedged s) : c.process.getsOn c.backlog = false := by
  unfold Process.getsOn
  rcases h.waits with hstalled | ⟨hended, ⟨size, hsize, hmany⟩, frame, rest, hnext, -⟩
  · rw [hstalled]
    rfl
  · have hbacklog : c.backlog = c.unread.length := by
      rw [backlog, hended, hnext]
      rfl
    rw [hbacklog, hsize, Option.all_some, decide_eq_false (by omega), Bool.and_false]

/-- A client whose server is wedged is blocked. -/
theorem Wedged.isBlocked (h : c.Wedged s) : c.isBlocked = true := by
  rw [Client.isBlocked, Process.blocks, h.isOpen_eq, h.getsOn]
  rfl

/-- A client whose server is wedged is not heard. -/
theorem Wedged.isHeard (h : c.Wedged s) : c.isHeard = false := by
  rw [Client.isHeard, Process.hears, h.getsOn, Bool.and_false]

/-- Whether a client waits in vain depends on no more than these. -/
theorem Wedged.congr (h : c.Wedged s) {c' : Client} {s' : Site} (hprocess : c'.process = c.process)
    (hfull : c'.isFull = true) (hended : c'.ended = c.ended) (hunread : c'.unread = c.unread)
    (hholds : s.holds c.session = true → s'.holds c'.session = true) : c'.Wedged s' := by
  refine ⟨hprocess ▸ h.isOpen_eq, hfull, ?_⟩
  rw [hprocess, hended, hunread]
  exact h.waits.imp_right fun ⟨hgoes, hsize, frame, rest, hnext, hwhy⟩ =>
    ⟨hgoes, hsize, frame, rest, hnext, hwhy.imp_left hholds⟩

/-- **Nothing that happens between a client and its server ends that they wait for each other.** -/
theorem Move.wedged (h : Move p q) (hp : p.1.Wedged p.2) : q.1.Wedged q.2 := by
  have hholds (hheld : p.2.holds p.1.session = true) := Site.holds_of_grows h.grows hheld
  cases h with
  | complain c s => exact hp.congr rfl hp.isFull_eq rfl rfl hholds
  | tell s houtbox hheard => exact absurd (hp.isHeard.symm.trans hheard) (by simp)
  | lose s hheard hblocked => exact absurd (hp.isBlocked.symm.trans hblocked) (by simp)
  | @receive c s frame rest hended hheld hnext hroom =>
    rcases hp.waits with hstalled | ⟨-, -, frame', rest', hnext', hwhy⟩
    · have hprocess := (process_act
        { c with receiver := (c.receiver.handle frame).2, unread := rest }
        (s.note c.session c.process.program (.read frame)) (c.receiver.handle frame).1).1
      refine ⟨?_, ?_, .inl ?_⟩
      · rw [hprocess]
        exact hp.isOpen_eq
      · cases (c.receiver.handle frame).1 with
        | answered answer =>
          exact isFull_push (c := { c with
            receiver := (c.receiver.handle frame).2, unread := rest }) hp.isFull_eq answer
        | _ => exact hp.isFull_eq
      · rw [hprocess]
        exact hstalled
    · obtain ⟨rfl, -⟩ := Frame.Next.frame.inj (hnext.symm.trans hnext')
      rcases hwhy with hheld' | ⟨id, method, params, hclass⟩
      · exact absurd (hheld.symm.trans hheld') (by simp)
      · have hanswered : (c.receiver.handle frame).1.isAnswered = true := by
          rw [Receiver.handle, hclass]
          rfl
        exact absurd ((hroom hanswered).symm.trans hp.isFull_eq) (by simp)
  | finish hended hheld hnext reason =>
    rcases hp.waits with hstalled | ⟨-, -, frame, rest, hframe, -⟩
    · exact ⟨hp.isOpen_eq, hp.isFull_eq, .inl hstalled⟩
    · exact absurd hframe (hnext frame rest)
  | halt => exact hp.congr rfl hp.isFull_eq rfl rfl hholds

/-- A client that is wedged stays so, whatever it does. -/
theorem Act.wedged (h : Act p q) (hp : p.1.Wedged p.2) : q.1.Wedged q.2 := by
  cases h with
  | move h => exact h.wedged hp
  | push c s m =>
    have hpush : (c.push m).ended = c.ended ∧ (c.push m).unread = c.unread ∧
        (c.push m).session = c.session := by
      unfold Client.push
      split <;> exact ⟨rfl, rfl, rfl⟩
    exact hp.congr (process_push c m) (isFull_push hp.isFull_eq m) hpush.1 hpush.2.1
      fun hheld => hpush.2.2.symm ▸ hheld
  | closeInput c s =>
    have hopen : ({ c.process with alive := c.process.alive &&
        (c.process.behaviour.lingers || !c.process.reading || !c.process.getsOn c.backlog) } :
        Process).isOpen = true := by
      obtain ⟨halive, hreading⟩ := Bool.and_eq_true_iff.1 hp.isOpen_eq
      rw [Process.isOpen, halive, hreading, hp.getsOn]
      simp
    exact ⟨hopen, hp.isFull_eq, hp.waits⟩
  | _ => exact hp.congr rfl hp.isFull_eq rfl rfl id

/-- A client that is wedged stays so over a row of things it does. -/
theorem Acts.wedged (h : Acts p q) (hp : p.1.Wedged p.2) : q.1.Wedged q.2 := by
  induction h with
  | refl => exact hp
  | tail _ h ih => exact h.wedged ih

/-! ### Waiting for ever -/

/-- **Who waits for ever waits for ever.** -/
theorem Act.stuck (h : Act p q) (hp : p.2.stuck = true) : q.2.stuck = true := by
  cases h with
  | move h =>
    cases h with
    | complain c s => exact (stuck_logAll ..).trans hp
    | @receive c s frame rest =>
      exact (process_act { c with receiver := (c.receiver.handle frame).2, unread := rest }
        (s.note c.session c.process.program (.read frame)) (c.receiver.handle frame).1).2.trans hp
    | halt => rfl
    | tell | lose | finish => exact hp
  | _ => exact hp

/-- Who is stuck stays stuck. -/
theorem Acts.stuck (h : Acts p q) (hp : p.2.stuck = true) : q.2.stuck = true := by
  induction h with
  | refl => exact hp
  | tail _ h ih => exact h.stuck ih

/-- Who makes room for a message to such a server waits for ever. -/
theorem Wedged.stuck_makeRoom (h : c.Wedged s) : (c.makeRoom s).2.stuck = true := by
  have hsettled := (Acts.of_moves (moves_settle c s)).wedged h
  unfold makeRoom
  generalize c.settle s = p at hsettled ⊢
  rw [if_neg (length_of_isFull h.isFull_eq)]
  dsimp only
  rw [hsettled.isBlocked, hsettled.isFull_eq]
  rfl

/-- **Who leaves such a server waits for ever.** -/
theorem Wedged.stuck_leave (h : c.Wedged s) : (c.leave s).2.stuck = true := by
  have hgoodbye := (acts_sayGoodbye c s).wedged h
  unfold leave
  generalize c.sayGoodbye s = p at hgoodbye ⊢
  have hroom := hgoodbye.stuck_makeRoom
  dsimp only
  generalize p.1.makeRoom p.2 = q at hroom ⊢
  have hflush := (Acts.of_moves (moves_flush q.1 q.2)).stuck hroom
  split
  · exact (Acts.of_moves (moves_read ..)).stuck hflush
  · exact (Acts.of_moves (moves_read ..)).stuck hflush

/-! ### Settling -/

/-- Nobody waits for ever for what happens by itself. -/
theorem stuck_takeTurns (done : Client → Bool) (turns : Nat) (c : Client) (s : Site) :
    (c.takeTurns done turns s).2.stuck = s.stuck := by
  have hwrite (ms : List Json) (c : Client) (s : Site) : (c.writeAll s ms).2.stuck = s.stuck := by
    induction ms generalizing c s with
    | nil => rfl
    | cons m ms ih =>
      simp only [writeAll]
      split
      · exact ih ..
      · split <;> rfl
  have hreadWithin (fuel : Nat) (c : Client) (s : Site) :
      (readWithin fuel c s).2.stuck = s.stuck := by
    induction fuel generalizing c s with
    | zero => rfl
    | succ fuel ih =>
      unfold readWithin
      split
      · rfl
      · split
        next value rest _ =>
          dsimp only
          split
          · rfl
          · exact (ih ..).trans (process_act ..).2
        · rfl
        · split <;> rfl
  have hread (c : Client) (s : Site) : (c.read s).2.stuck = s.stuck := by
    unfold read
    split
    · rfl
    · exact hreadWithin ..
  induction turns generalizing c s with
  | zero => exact hwrite ..
  | succ turns ih =>
    have hturn : ((c.flush s).1.read (c.flush s).2).2.stuck = s.stuck :=
      (hread ..).trans (hwrite ..)
    simp only [takeTurns]
    split
    · exact (hwrite ..).trans hturn
    · exact (ih ..).trans hturn

/-- Settling holds nobody up. -/
theorem stuck_settle (c : Client) (s : Site) : (c.settle s).2.stuck = s.stuck :=
  (stuck_takeTurns ..).trans (stuck_logAll ..)

/-- A request that a server makes, which can be read. -/
structure Asks (frame : Json) : Prop where
  readable : frame.fits = true ∧ frame.depth ≤ Json.maxDepth ∧ frame.write.length ≤ Frame.maxBytes
  asks : ∃ id method params, Incoming.classify frame = some (.request id method params)

/-- A client reads the requests of its server until there is no room for one more answer, or
answers them all. -/
theorem readWithin_asks {frame : Json} (hframe : Asks frame) {n fuel : Nat} (hfuel : n < fuel)
    (hunread : c.unread = Frame.writeAll (List.replicate n frame)) (hwriting : c.writing = true)
    (hheld : s.holds c.session = false) :
    (readWithin fuel c s).1.process = c.process ∧
      ((readWithin fuel c s).1.isFull = true ∨
        c.outbox.length + n ≤ (readWithin fuel c s).1.outbox.length) := by
  obtain ⟨fuel, rfl⟩ := Nat.exists_eq_succ_of_ne_zero (Nat.ne_of_gt (Nat.zero_lt_of_lt hfuel))
  induction n generalizing c s fuel with
  | zero =>
    unfold readWithin
    rw [if_neg (Bool.eq_false_iff.1 hheld), hunread]
    change (if c.process.alive = true then (c, s) else _).1.process = _ ∧ _
    split
    · exact ⟨rfl, .inr le_rfl⟩
    · exact ⟨rfl, .inr le_rfl⟩
  | succ n ih =>
    obtain ⟨⟨hfits, hdepth, hlength⟩, id, method, params, hclass⟩ := hframe
    have hnext : Frame.next c.unread =
        .frame frame (Frame.writeAll (List.replicate n frame)) := by
      rw [hunread, List.replicate_succ, Frame.writeAll, List.flatMap_cons]
      exact Frame.next_write_append _ hfits hdepth hlength
    have hhandle : c.receiver.handle frame =
        (.answered (Receiver.answerTo id method params), c.receiver) := by
      rw [Receiver.handle, hclass]
    unfold readWithin
    rw [if_neg (Bool.eq_false_iff.1 hheld), hnext]
    dsimp only
    rw [hhandle]
    split
    next hfull =>
      obtain ⟨-, hfull⟩ := Bool.and_eq_true_iff.1 hfull
      exact ⟨rfl, .inl hfull⟩
    · let c₁ : Client := { c with unread := Frame.writeAll (List.replicate n frame) }
      let answer := Receiver.answerTo id method params
      have hpushed : (c₁.push answer).unread = c₁.unread ∧ (c₁.push answer).writing = true ∧
          (c₁.push answer).session = c.session ∧
          (c₁.push answer).outbox.length = c.outbox.length + 1 := by
        rw [Client.push, if_pos hwriting]
        exact ⟨rfl, hwriting, rfl, List.length_append⟩
      obtain ⟨hunread', hwriting', hsession', hlonger⟩ := hpushed
      obtain ⟨fuel, rfl⟩ := Nat.exists_eq_succ_of_ne_zero (n := fuel) (by omega)
      obtain ⟨hprocess, hrest⟩ := ih (c := c₁.push answer)
        (s := s.note c.session c.process.program (.read frame)) hunread' hwriting'
        (hsession'.symm ▸ hheld) fuel (by omega)
      have hcount : c.outbox.length + (n + 1) ≤ (c₁.push answer).outbox.length + n := by omega
      exact ⟨hprocess.trans (process_push ..), hrest.imp_right hcount.trans⟩

/-- **A server that asks so much that the answers do not fit, and reads no more, is waited for
in vain.** -/
theorem wedged_settle_of_asks {frame : Json} (hframe : Asks frame) {n : Nat}
    (hn : pipeSize + outboxLimit < n) (hunread : c.unread = Frame.writeAll (List.replicate n frame))
    (hended : c.ended = none) (hwriting : c.writing = true) (hopen : c.process.isOpen = true)
    (hstalled : c.process.stalled = true) (hheld : s.holds c.session = false) :
    (c.settle s).1.Wedged (c.settle s).2 := by
  let c₀ : Client := (c.logComplaints s).1
  let s₀ : Site := (c.logComplaints s).2
  have hwritten : c₀.Written := by
    refine .inr ?_
    change (c.process.isOpen && !c.process.getsOn _) = true
    rw [hopen, Process.getsOn, hstalled]
    rfl
  have hheld₀ : s₀.holds c₀.session = false := by
    have hevents : s₀.events = s.events := Site.events_logAll ..
    have hsupervised : s₀.supervised = s.supervised := (Site.grows_logAll ..).supervised_eq
    rw [Site.holds, hevents, hsupervised]
    exact hheld
  have hread : c₀.read s₀ = readWithin (c.unread.length + 1) c₀ s₀ := by
    have hgoes : ¬ c₀.ended.isSome = true := by
      change ¬ c.ended.isSome = true
      simp [hended]
    exact if_neg hgoes
  have hlength : n < c.unread.length + 1 := by
    have hle := Frame.length_le_writeAll (List.replicate n frame)
    rw [List.length_replicate, ← hunread] at hle
    omega
  obtain ⟨hprocess, hfull⟩ := readWithin_asks (c := c₀) hframe hlength hunread hwriting hheld₀
  have hwedged : (c₀.read s₀).1.Wedged (c₀.read s₀).2 := by
    rw [hread]
    refine ⟨hprocess.symm ▸ hopen, ?_, .inl (hprocess.symm ▸ hstalled)⟩
    refine hfull.elim id fun hlong => isFull_iff.2 ?_
    have hrest := length_le_add_beyond pipeSize
      (readWithin (c.unread.length + 1) c₀ s₀).1.outbox
    omega
  have hmoves := moves_of_turn (fun _ => false) 999 c₀ s₀
  have hlimit : 999 + 1 = turnLimit := by
    unfold turnLimit
    rfl
  rw [flush_of_written hwritten, hlimit] at hmoves
  exact (Acts.of_moves hmoves).wedged hwedged

end Client
end Switchboard
