/-
# What the control loop keeps

The notes are in order (`Orderly`): what has been received and what waits is
what has been sent, and what has been handled and what is set aside is what has
been received and calls for no restart.  The loop does what the notes say
(`Kept`).  Both hold of every state that is reached (`kept_of_reach`).
-/

import Switchboard.Proofs.Supervisor.Watched

namespace Switchboard
namespace Loop

/-! ### The notes -/

/-- Notes that are in order with what has been sent, what waits and what is set
aside, from some workspace folders on. -/
structure Orderly (folders : List Path) (sent : List Event) (waiting aside : List Entry)
    (notices : List Notice) : Prop where
  received_eq : receivedOf notices ++ waiting = sent.zipIdx
  handled_eq : handledOf notices ++ aside = others (receivedOf notices)
  covered : Covered notices
  few : notices.countP Notice.isRestart ≤ (receivedOf notices).countP fun x => x.1.isTrigger
  justified : ∀ front n, front ++ [n] <+: notices → Justified folders front n

namespace Orderly

variable {folders : List Path} {sent : List Event} {waiting aside : List Entry}
  {notices : List Notice} {x : Entry}

/-- At the start the notes are in order with what has been sent. -/
theorem start (folders : List Path) (sent : List Event) :
    Orderly folders sent sent.zipIdx [] [] := by
  refine ⟨rfl, rfl, fun front x back heq => ?_, Nat.le_refl 0, fun front n h => ?_⟩
  · exact absurd heq (by simp)
  · exact absurd h (by simp)

/-- Notes in order stay so when one more event is sent. -/
theorem send (h : Orderly folders sent waiting aside notices) (e : Event) :
    Orderly folders (sent ++ [e]) (waiting ++ [(e, sent.length)]) aside notices := by
  refine ⟨?_, h.handled_eq, h.covered, h.few, h.justified⟩
  rw [← List.append_assoc, h.received_eq, List.zipIdx_append, List.zipIdx_singleton, Nat.zero_add]

/-- One more note, on no restart, is in order if it says where its event goes. -/
theorem note {waiting' aside' : List Entry} (h : Orderly folders sent waiting aside notices)
    {n : Notice} (hreceived : n.received?.toList ++ waiting' = waiting)
    (hhandled : handledOf notices ++ n.handled?.toList ++ aside' =
      others (receivedOf notices ++ n.received?.toList))
    (hcovered : Covered [n]) (hjustified : Justified folders notices n)
    (hrestart : n.isRestart = false) : Orderly folders sent waiting' aside' (notices ++ [n]) := by
  refine ⟨?_, ?_, h.covered.append hcovered, ?_,
    History.forall_concat h.justified hjustified⟩
  · rw [receivedOf_concat, List.append_assoc, hreceived]
    exact h.received_eq
  · rw [receivedOf_concat, handledOf_concat]
    exact hhandled
  · have hnone : [n].countP Notice.isRestart = 0 := by simp [hrestart]
    rw [receivedOf_concat, List.countP_append, List.countP_append, hnone]
    exact Nat.add_le_add h.few (Nat.zero_le _)

/-- A note about the palette changes nothing. -/
theorem pick (h : Orderly folders sent waiting aside notices) (c : Option Command) :
    Orderly folders sent waiting aside (notices ++ [.picked c]) := by
  refine h.note rfl ?_ (covered_singleton (by simp)) trivial rfl
  change handledOf notices ++ [] ++ aside = others (receivedOf notices ++ [])
  rw [List.append_nil, List.append_nil]
  exact h.handled_eq

/-- An event that calls for no restart is received, and is set aside behind the others. -/
theorem receive (h : Orderly folders sent (x :: waiting) aside notices)
    (hx : x.1.isTrigger = false) :
    Orderly folders sent waiting (aside ++ [x]) (notices ++ [.received x]) := by
  have hcovered : Covered [.received x] := covered_singleton fun y hy => by
    obtain rfl := Notice.received.inj hy
    exact hx
  refine h.note rfl ?_ hcovered trivial rfl
  change handledOf notices ++ [] ++ (aside ++ [x]) = others (receivedOf notices ++ [x])
  rw [List.append_nil, ← List.append_assoc, h.handled_eq, others, others, List.filter_append,
    List.filter_cons_of_pos (by simp [hx]), List.filter_nil]

/-- The first event that is set aside is handled. -/
theorem handle (h : Orderly folders sent waiting (x :: aside) notices) :
    Orderly folders sent waiting aside (notices ++ [.handled x]) := by
  have hmem : x ∈ others (receivedOf notices) :=
    h.handled_eq ▸ List.mem_append_right _ (List.mem_cons_self ..)
  refine h.note rfl ?_ (covered_singleton (by simp)) ⟨(List.mem_filter.1 hmem).1, h.covered⟩ rfl
  change handledOf notices ++ [x] ++ aside = others (receivedOf notices ++ [])
  rw [List.append_nil, List.append_assoc]
  exact h.handled_eq

/-- **All that waits is received, and there is a restart**, when the first that
waits calls for one and nothing is set aside. -/
theorem restart (h : Orderly folders sent (x :: waiting) [] notices)
    (hx : x.1.isTrigger = true) :
    Orderly folders sent [] (others waiting) (notices ++ ((x :: waiting).map .received ++
      [.restarted (foldersAfter folders (receivedOf notices ++ x :: waiting))])) := by
  generalize hpaths : foldersAfter folders (receivedOf notices ++ x :: waiting) = paths
  have hreceived : receivedOf (notices ++ ((x :: waiting).map .received ++ [.restarted paths])) =
      receivedOf notices ++ x :: waiting := by
    rw [receivedOf_append, receivedOf_append, receivedOf_received]
    exact congrArg _ (List.append_nil _)
  have hhandled : handledOf (notices ++ ((x :: waiting).map .received ++ [.restarted paths])) =
      handledOf notices := by
    rw [handledOf_append, handledOf_append, handledOf_received]
    exact List.append_nil _
  have hdone : handledOf notices = others (receivedOf notices) :=
    (List.append_nil _).symm.trans h.handled_eq
  have hcaused : Caused (notices ++ (x :: waiting).map .received) :=
    ⟨notices, x, waiting.map .received, rfl, hx, fun paths hmem => by simp at hmem⟩
  have hjustified : Justified folders (notices ++ (x :: waiting).map .received)
      (.restarted paths) := by
    refine ⟨hcaused, ?_⟩
    rw [receivedOf_append, receivedOf_received, hpaths]
  refine ⟨?_, ?_, h.covered.append (covered_received _ _), ?_, ?_⟩
  · rw [hreceived, List.append_nil]
    exact h.received_eq
  · rw [hreceived, hhandled, hdone, others, others, others, List.filter_append,
      List.filter_cons_of_neg (by simp [hx])]
  · have hone : 0 < (x :: waiting).countP fun y => y.1.isTrigger :=
      List.countP_pos_iff.2 ⟨x, List.mem_cons_self .., hx⟩
    rw [hreceived, List.countP_append, List.countP_append, List.countP_append,
      countP_received fun _ => rfl, Nat.zero_add]
    exact Nat.add_le_add h.few hone
  · rw [← List.append_assoc]
    refine History.forall_concat (History.forall_append h.justified fun front n hn => ?_) hjustified
    · have hmem : n ∈ (x :: waiting).map Notice.received :=
        hn.subset (List.mem_append_right _ (List.mem_cons_self ..))
      obtain ⟨y, -, rfl⟩ := List.mem_map.1 hmem
      exact trivial

end Orderly

/-! ### The loop -/

variable {l : Loop} {s : Supervisor}

/-- Handling an event that calls for no restart leaves the queue and the folders alone. -/
theorem beside_attend (l : Loop) (active : Option Path) {e : Event} (h : e.isTrigger = false) :
    l.supervisor.Beside (l.attend active e).supervisor := by
  cases e with
  | folders paths => exact absurd h (by simp [Event.isTrigger])
  | lockFile path => exact absurd h (by simp [Event.isTrigger])
  | command c =>
    unfold attend
    dsimp only
    split
    · exact (Supervisor.same_tell ..).toBeside
    · refine Supervisor.beside_perform _ active fun hc => ?_
      rw [hc] at h
      exact absurd h (by simp [Event.isTrigger])
  | opened path text => exact (Supervisor.unseen_openDocument ..).toBeside
  | changed path text => exact (Supervisor.unseen_changeDocument ..).toBeside
  | closed path => exact (Supervisor.unseen_closeDocument ..).toBeside
  | shutdown => exact Supervisor.beside_stop _

/-- The loop has ended once it has attended to a shutdown. -/
theorem ended_attend (l : Loop) (active : Option Path) (e : Event) :
    (l.attend active e).ended = (l.ended || decide (e = .shutdown)) := by
  cases e with
  | shutdown => exact (Bool.or_true _).symm
  | command c =>
    unfold attend
    dsimp only
    split
    · exact (Bool.or_false _).symm
    · exact (Bool.or_false _).symm
  | _ => exact (Bool.or_false _).symm

/-- Attending to any other event leaves what is set aside as it is. -/
theorem backlog_attend (l : Loop) (active : Option Path) {e : Event} (h : e ≠ .shutdown) :
    (l.attend active e).backlog = l.backlog := by
  cases e with
  | shutdown => exact absurd rfl h
  | command c =>
    unfold attend
    dsimp only
    split
    · rfl
    · rfl
  | _ => rfl

/-- What is absorbed changes the folders, and neither the queue nor the count of restarts. -/
theorem absorb_spec (s : Supervisor) (x : Entry) :
    (absorb s x.1).queue = s.queue ∧ (absorb s x.1).restarts = s.restarts ∧
      (absorb s x.1).folders = foldersAfter s.folders [x] := by
  obtain ⟨e, n⟩ := x
  cases e with
  | _ => exact ⟨rfl, rfl, rfl⟩

/-- Absorbing all events that call for a restart sets the folders as all events do. -/
theorem absorbAll_spec (s : Supervisor) (xs : List Entry) :
    let s' := ((xs.map Prod.fst).filter Event.isTrigger).foldl absorb s
    s'.queue = s.queue ∧ s'.restarts = s.restarts ∧ s'.folders = foldersAfter s.folders xs := by
  induction xs generalizing s with
  | nil => exact ⟨rfl, rfl, rfl⟩
  | cons x xs ih =>
    obtain ⟨hqueue, hrestarts, hfolders⟩ := absorb_spec s x
    have hcons := foldersAfter_append s.folders [x] xs
    dsimp only at ih ⊢
    by_cases hx : x.1.isTrigger = true
    · rw [List.map_cons, List.filter_cons_of_pos hx, List.foldl_cons]
      obtain ⟨hqueue', hrestarts', hfolders'⟩ := ih (absorb s x.1)
      rw [hfolders] at hfolders'
      exact ⟨hqueue'.trans hqueue, hrestarts'.trans hrestarts, hfolders'.trans hcons.symm⟩
    · have hnone : foldersAfter s.folders [x] = s.folders := by
        obtain ⟨e, n⟩ := x
        cases e with
        | folders paths => exact absurd rfl hx
        | _ => rfl
      rw [List.map_cons, List.filter_cons_of_neg hx]
      rw [hnone] at hcons
      obtain ⟨hqueue', hrestarts', hfolders'⟩ := ih s
      exact ⟨hqueue', hrestarts', hfolders'.trans hcons.symm⟩

/-- **What taking in all queued events does**: those that call for no restart are
given, and the folders are those that the last event has set. -/
theorem drain_spec {xs : List Entry} (h : s.queue = xs.map Prod.fst) :
    (drain s).1 = (others xs).map Prod.fst ∧ (drain s).2.queue = [] ∧
      (drain s).2.restarts = s.restarts ∧
      (drain s).2.folders = foldersAfter s.folders xs := by
  unfold drain
  rw [List.partition_eq_filter_filter, h]
  refine ⟨?_, absorbAll_spec { s with queue := [] } xs⟩
  change (xs.map Prod.fst).filter (not ∘ Event.isTrigger) = _
  rw [List.filter_map]
  rfl

/-! ### Steps -/

/-- The loop does what the notes say. -/
structure Kept (s₀ : Supervisor) (w : Watched) : Prop where
  orderly : Orderly s₀.folders w.sent w.waiting w.aside w.notices
  queue_eq : w.loop.supervisor.queue = w.waiting.map Prod.fst
  backlog_eq : w.loop.ended = false → w.loop.backlog = w.aside.map Prod.fst
  folders_eq : w.loop.supervisor.folders = foldersAfter s₀.folders (receivedOf w.notices)
  restarts_eq : w.loop.supervisor.restarts = s₀.restarts + w.notices.countP Notice.isRestart +
    w.notices.countP Notice.isPickedRestart
  going : w.loop.ended = false → ∀ x ∈ handledOf w.notices, x.1 ≠ .shutdown
  gone : w.loop.ended = true → ∃ front x, handledOf w.notices = front ++ [x] ∧ x.1 = .shutdown ∧
    ∀ y ∈ front, y.1 ≠ .shutdown

/-- The steps that the loop can take. -/
inductive Step (w : Watched) (view : HostView) : Watched → Prop where
  | resume {c : Option Command} (hpicking : w.loop.picking = true) (hpick : view.pick = some c) :
    Step w view (w.resume view.active c)
  | aside {x : Entry} {rest : List Entry} (haside : w.aside = x :: rest) :
    Step w view ({ w with aside := rest }.attend view.active x)
  | restart {x : Entry} {rest : List Entry} (haside : w.aside = [])
    (hwaiting : w.waiting = x :: rest) (hx : x.1.isTrigger = true) :
    Step w view ({ w with waiting := rest }.restartFor x)
  | attend {x : Entry} {rest : List Entry} (haside : w.aside = [])
    (hwaiting : w.waiting = x :: rest) (hx : x.1.isTrigger = false) :
    Step w view (({ w with waiting := rest }.note [.received x]).attend view.active x)

namespace Watched

variable {w w' : Watched} {view : HostView}

/-- A step that the loop takes is one of its steps, and it has not ended before. -/
theorem step_of_step? (h : w.step? view = some w') :
    w.loop.ended = false ∧ Step w view w' := by
  unfold step? at h
  split at h
  · exact absurd h (by simp)
  next hended =>
    refine ⟨by simpa using hended, ?_⟩
    split at h
    next hpicking =>
      obtain ⟨c, hpick, rfl⟩ := Option.map_eq_some_iff.1 h
      exact .resume hpicking hpick
    · split at h
      next haside =>
        obtain rfl := Option.some.inj h
        exact .aside haside
      next haside hwaiting =>
        dsimp only at h
        split at h
        next hx =>
          obtain rfl := Option.some.inj h
          exact .restart haside hwaiting hx
        next hx =>
          obtain rfl := Option.some.inj h
          exact .attend haside hwaiting (by simpa using hx)
      · exact absurd h (by simp)

end Watched

namespace Kept

variable {s₀ : Supervisor} {w w' : Watched} {view : HostView}

/-- The events in the queue and those set aside are those that are noted. -/
theorem lined_eq (h : Kept s₀ w) (hended : w.loop.ended = false) : w.lined = w.loop := by
  rw [Watched.lined, ← h.queue_eq, ← h.backlog_eq hended]

/-- A loop that has not begun does what its notes say. -/
theorem start (s₀ : Supervisor) : Kept s₀ (.ofSupervisor s₀) := by
  refine ⟨.start s₀.folders s₀.queue, ?_, fun _ => rfl, rfl, rfl, ?_, ?_⟩
  · exact (List.zipIdx_map_fst 0 s₀.queue).symm
  · exact fun _ x hx => absurd hx List.not_mem_nil
  · exact fun hended => absurd hended Bool.false_ne_true

/-- A loop that does what its notes say goes on so when one more event is sent. -/
theorem send (h : Kept s₀ w) (e : Event) : Kept s₀ (w.send e) := by
  refine ⟨h.orderly.send e, ?_, h.backlog_eq, h.folders_eq, h.restarts_eq, h.going, h.gone⟩
  change w.loop.supervisor.queue ++ [e] = (w.waiting ++ [(e, w.sent.length)]).map Prod.fst
  rw [h.queue_eq, List.map_append]
  rfl

/-- A loop that does what its notes say goes on so when something changes that is not watched. -/
theorem beside (h : Kept s₀ w) {s : Supervisor} (hs : w.loop.supervisor.Beside s) :
    Kept s₀ (w.withSupervisor s) :=
  ⟨h.orderly, hs.queue_eq.trans h.queue_eq, h.backlog_eq, hs.folders_eq.trans h.folders_eq,
    hs.restarts_eq.trans h.restarts_eq, h.going, h.gone⟩

/-- What is picked from the palette is no event, though it can be a restart. -/
theorem resume (h : Kept s₀ w) (hended : w.loop.ended = false) (active : Option Path)
    (c : Option Command) : Kept s₀ (w.resume active c) := by
  have hreceived : receivedOf (w.notices ++ [Notice.picked c]) = receivedOf w.notices :=
    receivedOf_concat.trans (List.append_nil _)
  have hhandled : handledOf (w.notices ++ [Notice.picked c]) = handledOf w.notices :=
    handledOf_concat.trans (List.append_nil _)
  have hdone : ∃ n, n = [Notice.picked c].countP Notice.isPickedRestart ∧
      Supervisor.Beside { w.loop.supervisor with restarts := w.loop.supervisor.restarts + n }
        (w.loop.supervisor.performPicked active c) := by
    refine ⟨_, rfl, ?_⟩
    cases c with
    | none => exact .refl _
    | some c =>
      by_cases hc : c = .restart
      · rw [hc]
        exact Supervisor.beside_restart _
      · have hnone : [Notice.picked (some c)].countP Notice.isPickedRestart = 0 := by
          cases c with
          | restart => exact absurd rfl hc
          | _ => rfl
        rw [hnone]
        exact Supervisor.beside_perform _ active hc
  obtain ⟨n, hn, hbeside⟩ := hdone
  refine ⟨h.orderly.pick c, hbeside.queue_eq.trans h.queue_eq, h.backlog_eq, ?_, ?_, ?_,
    fun hgone => absurd (hended.symm.trans hgone) Bool.false_ne_true⟩
  · exact hbeside.folders_eq.trans (h.folders_eq.trans (congrArg _ hreceived.symm))
  · refine hbeside.restarts_eq.trans ?_
    change w.loop.supervisor.restarts + n = s₀.restarts +
      (w.notices ++ [Notice.picked c]).countP Notice.isRestart +
        (w.notices ++ [Notice.picked c]).countP Notice.isPickedRestart
    rw [List.countP_append, List.countP_append, ← hn, h.restarts_eq, ← Nat.add_assoc]
    rfl
  · intro _ x hx
    exact h.going hended x (hhandled ▸ hx)

/-- An event that calls for no restart is set aside instead of being handled at once. -/
theorem receive (h : Kept s₀ w) (hended : w.loop.ended = false) {x : Entry} {rest : List Entry}
    (haside : w.aside = []) (hwaiting : w.waiting = x :: rest) (hx : x.1.isTrigger = false) :
    Kept s₀ ({ w with
      loop := { w with waiting := rest, aside := [x] }.lined
      waiting := rest
      aside := [x] }.note [.received x]) := by
  have horderly := h.orderly
  rw [haside, hwaiting] at horderly
  have hreceived := horderly.receive hx
  have hhandled : handledOf (w.notices ++ [.received x]) = handledOf w.notices :=
    handledOf_concat.trans (List.append_nil _)
  have hfolders : foldersAfter s₀.folders (receivedOf (w.notices ++ [.received x])) =
      foldersAfter s₀.folders (receivedOf w.notices) := by
    rw [receivedOf_append, foldersAfter_append]
    obtain ⟨e, n⟩ := x
    cases e with
    | folders paths => exact absurd hx (by simp [Event.isTrigger])
    | _ => rfl
  refine ⟨hreceived, rfl, fun _ => rfl, h.folders_eq.trans hfolders.symm, ?_, ?_,
    fun hgone => absurd (hended.symm.trans hgone) Bool.false_ne_true⟩
  · refine h.restarts_eq.trans ?_
    change _ = s₀.restarts + (w.notices ++ [Notice.received x]).countP Notice.isRestart +
      (w.notices ++ [Notice.received x]).countP Notice.isPickedRestart
    rw [List.countP_append, List.countP_append]
    rfl
  · intro _ y hy
    exact h.going hended y (hhandled ▸ hy)

/-- The first event that is set aside is handled. -/
theorem attend (h : Kept s₀ w) (hended : w.loop.ended = false) {x : Entry} {rest : List Entry}
    (haside : w.aside = x :: rest) (active : Option Path) :
    Kept s₀ ({ w with aside := rest }.attend active x) := by
  have horderly := h.orderly
  rw [haside] at horderly
  have hmem : x ∈ others (receivedOf w.notices) :=
    horderly.handled_eq ▸ List.mem_append_right _ (List.mem_cons_self ..)
  have hx : x.1.isTrigger = false := by simpa using (List.mem_filter.1 hmem).2
  have hreceived : receivedOf (w.notices ++ [.handled x]) = receivedOf w.notices :=
    receivedOf_concat.trans (List.append_nil _)
  have hhandled : handledOf (w.notices ++ [.handled x]) = handledOf w.notices ++ [x] :=
    handledOf_concat
  let l := { w with aside := rest }.lined
  have hbeside := l.beside_attend active hx
  have hafter : (l.attend active x.1).ended = decide (x.1 = .shutdown) := by
    rw [Loop.ended_attend, show l.ended = false from hended, Bool.false_or]
  refine ⟨horderly.handle, hbeside.queue_eq, fun hgoing => ?_, ?_, ?_, fun hgoing y hy => ?_,
    fun hgone => ?_⟩
  · exact Loop.backlog_attend l active (of_decide_eq_false (hafter.symm.trans hgoing))
  · exact hbeside.folders_eq.trans (h.folders_eq.trans (congrArg _ hreceived.symm))
  · refine hbeside.restarts_eq.trans (h.restarts_eq.trans ?_)
    change _ = s₀.restarts + (w.notices ++ [Notice.handled x]).countP Notice.isRestart +
      (w.notices ++ [Notice.handled x]).countP Notice.isPickedRestart
    rw [List.countP_append, List.countP_append]
    rfl
  · rcases List.mem_append.1 (hhandled ▸ hy) with hy | hy
    · exact h.going hended y hy
    · rw [List.mem_singleton.1 hy]
      exact of_decide_eq_false (hafter.symm.trans hgoing)
  · exact ⟨handledOf w.notices, x, hhandled, of_decide_eq_true (hafter.symm.trans hgone),
      h.going hended⟩

/-- **A restart takes in all that waits**, and runs with the folders that the
last event has set. -/
theorem restartFor (h : Kept s₀ w) (hended : w.loop.ended = false) {x : Entry}
    {rest : List Entry} (haside : w.aside = []) (hwaiting : w.waiting = x :: rest)
    (hx : x.1.isTrigger = true) : Kept s₀ ({ w with waiting := rest }.restartFor x) := by
  have horderly := h.orderly
  rw [haside, hwaiting] at horderly
  obtain ⟨hqueue, hrestarts, hfolders⟩ :=
    Loop.absorb_spec ({ w with waiting := rest }.lined.supervisor) x
  obtain ⟨hevents, hqueue', hrestarts', hfolders'⟩ := Loop.drain_spec hqueue
  have hpaths : foldersAfter s₀.folders (receivedOf w.notices ++ x :: rest) =
      (Loop.drain (Loop.absorb { w with waiting := rest }.lined.supervisor x.1)).2.folders := by
    rw [hfolders', hfolders, ← foldersAfter_append, foldersAfter_append, ← h.folders_eq]
    rfl
  have hkept := horderly.restart hx
  rw [hpaths] at hkept
  unfold Watched.restartFor
  generalize Loop.drain (Loop.absorb { w with waiting := rest }.lined.supervisor x.1) = p at *
  obtain ⟨events, s⟩ := p
  dsimp only at *
  have hbeside := s.beside_restart
  have hnew : receivedOf (w.notices ++ ((x :: rest).map Notice.received ++
      [Notice.restarted s.folders])) = receivedOf w.notices ++ x :: rest := by
    rw [receivedOf_append, receivedOf_append, receivedOf_received]
    exact congrArg _ (List.append_nil _)
  have hhandled : handledOf (w.notices ++ ((x :: rest).map Notice.received ++
      [Notice.restarted s.folders])) = handledOf w.notices := by
    rw [handledOf_append, handledOf_append, handledOf_received]
    exact List.append_nil _
  refine ⟨hkept, hbeside.queue_eq.trans hqueue', fun _ => hevents, ?_, ?_,
    fun _ y hy => h.going hended y (hhandled ▸ hy),
    fun hgone => absurd (hended.symm.trans hgone) Bool.false_ne_true⟩
  · exact hbeside.folders_eq.trans (hpaths.symm.trans (congrArg _ hnew.symm))
  · refine hbeside.restarts_eq.trans ?_
    change s.restarts + 1 = s₀.restarts +
      (w.notices ++ ((x :: rest).map Notice.received ++ [Notice.restarted s.folders])).countP
        Notice.isRestart +
      (w.notices ++ ((x :: rest).map Notice.received ++ [Notice.restarted s.folders])).countP
        Notice.isPickedRestart
    have hbefore : s.restarts = w.loop.supervisor.restarts := hrestarts'.trans hrestarts
    have hone : [Notice.restarted s.folders].countP Notice.isRestart = 1 := rfl
    have hnone : [Notice.restarted s.folders].countP Notice.isPickedRestart = 0 := rfl
    rw [List.countP_append, List.countP_append, List.countP_append, List.countP_append,
      countP_received fun _ => rfl, countP_received fun _ => rfl, hone, hnone, hbefore,
      h.restarts_eq]
    omega

/-- A loop that does what its notes say goes on so when it takes a step. -/
theorem step (h : Kept s₀ w) (hstep : w.step? view = some w') : Kept s₀ w' := by
  obtain ⟨hended, hstep⟩ := Watched.step_of_step? hstep
  cases hstep with
  | resume _ _ => exact h.resume hended view.active _
  | aside haside => exact h.attend hended haside view.active
  | restart haside hwaiting hx => exact h.restartFor hended haside hwaiting hx
  | attend haside hwaiting hx =>
    have hattended := (h.receive hended haside hwaiting hx).attend hended rfl view.active
    obtain ⟨loop, sent, waiting, aside, notices⟩ := w
    obtain rfl : aside = [] := haside
    exact hattended

end Kept

/-- **The loop does what the notes say in every state that is reached.** -/
theorem kept_of_reach {s₀ : Supervisor} {w : Watched} (h : Reach s₀ w) : Kept s₀ w := by
  induction h with
  | start => exact .start s₀
  | send e _ ih => exact ih.send e
  | step _ hstep ih => exact ih.step hstep
  | beside _ hs ih => exact ih.beside hs

end Loop
end Switchboard
