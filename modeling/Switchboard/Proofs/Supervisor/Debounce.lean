/-
# Reports of a file keep their distance

Of the notifications about a target the filter reports one, and then none until
the window has gone by.  What it remembers of a history is when each target was
last reported (`ChangeFilter.exists_report_of_last?`, `ChangeFilter.le_last?`),
and it looks at nothing else when it decides.  So two reports of a target are at
least the window apart, a change that is not reported comes within the window of
one that was, and notifications about other targets make no difference
(`ChangeFilter.reports_keep_distance`).
-/

import Switchboard.Proofs.History
import Switchboard.Proofs.Path.Uri
import Switchboard.Supervisor.ChangeFilter

namespace Switchboard
namespace ChangeFilter

variable {s s' s'' : State} {n : Notice} {ns : List Notice} {p q : Path} {t : Int}
  {x : Notice × Option Path}

/-- The kinds that count are creation and modification. -/
theorem Kind.counts_iff {k : Kind} : k.counts = true ↔ k = .create ∨ k = .modify := by
  cases k <;> decide

/-! ### What is remembered -/

/-- What is remembered of a path is remembered of its other spellings. -/
theorem last?_of_same (s : State) (h : p.same q = true) : s.last? p = s.last? q := by
  unfold State.last? Path.same
  rw [Path.same_iff.1 h]

/-- A new filter remembers nothing. -/
theorem last?_new (targets : List Path) (window : Nat) (p : Path) :
    (State.new targets window).last? p = none := rfl

/-- A report is remembered for its path, in every spelling, and for no other. -/
theorem last?_remember (s : State) (p q : Path) (t : Int) :
    (s.remember p t).last? q = if p.same q then some t else s.last? q := by
  unfold State.last? State.remember
  dsimp only
  rw [List.find?_cons]
  cases hsame : p.same q with
  | true => rfl
  | false =>
    rw [List.find?_filter]
    refine congrArg (fun found => (List.find? found s.lastSeen).map Prod.snd)
      (funext fun entry => ?_)
    cases hentry : entry.1.same q with
    | false => simp
    | true =>
      have hother : entry.1.same p = false := by
        rw [← Bool.not_eq_true]
        intro h
        have hpq := Path.same_trans (Path.same_symm h) hentry
        exact absurd (hsame.symm.trans hpq) (by simp)
      simp [hother]

/-- A path is quiet while less than a window has passed since it was last reported. -/
theorem isQuiet_iff : s.isQuiet p t = true ↔
    ∃ last, s.last? p = some last ∧ (t - last).toNat < s.window := by
  unfold State.isQuiet
  cases s.last? p <;> simp

/-- A notification is reported when it counts and its subject is not quiet; then the
report is remembered.  Otherwise nothing changes. -/
theorem accept_cases (s : State) (n : Notice) :
    (∃ p, n.kind.counts = true ∧ subject? s n = some p ∧ s.isQuiet p n.time = false ∧
      accept s n = (some p, s.remember p n.time)) ∨
    (accept s n = (none, s) ∧
      ∀ p, n.kind.counts = true → subject? s n = some p → s.isQuiet p n.time = true) := by
  unfold accept
  cases hcounts : n.kind.counts with
  | false => exact .inr ⟨rfl, by simp⟩
  | true =>
    cases hsubject : subject? s n with
    | none => exact .inr ⟨rfl, by simp⟩
    | some p =>
      cases hquiet : s.isQuiet p n.time with
      | false => exact .inl ⟨p, rfl, rfl, hquiet, by simp [hquiet]⟩
      | true => exact .inr ⟨by simp [hquiet], by simpa using hquiet⟩

/-- A notification leaves the targets as they are. -/
@[simp] theorem targets_accept (s : State) (n : Notice) : (accept s n).2.targets = s.targets := by
  rcases accept_cases s n with ⟨p, -, -, -, h⟩ | ⟨h, -⟩
  · rw [h]
    rfl
  · rw [h]

/-- A notification leaves the window as it is. -/
@[simp] theorem window_accept (s : State) (n : Notice) : (accept s n).2.window = s.window := by
  rcases accept_cases s n with ⟨p, -, -, -, h⟩ | ⟨h, -⟩
  · rw [h]
    rfl
  · rw [h]

/-- The subject of a notification is a matter of the targets. -/
theorem subject?_of_targets (h : s'.targets = s.targets) : subject? s' = subject? s := by
  funext n
  rw [subject?, subject?, h]

/-! ### Histories -/

/-- Notifications with what each of them reports. -/
def decisions (s : State) (ns : List Notice) : List (Notice × Option Path) :=
  ns.zip (acceptAll s ns)

/-- What a filter remembers after notifications. -/
def after (s : State) (ns : List Notice) : State := ns.foldl (fun s n => (accept s n).2) s

/-- Whether a decision is to report a path, in some spelling. -/
def Reports (p : Path) (x : Notice × Option Path) : Prop := x.2.any (·.same p) = true

instance (p : Path) : DecidablePred (Reports p) := fun _ => inferInstanceAs (Decidable (_ = true))

/-- A decision reports a path if what it reports is a spelling of it. -/
theorem reports_iff : Reports p x ↔ ∃ q, x.2 = some q ∧ q.same p = true := Option.any_eq_true _ _

/-- The first notification is decided on, and the others by what is remembered then. -/
theorem decisions_cons (s : State) (n : Notice) (ns : List Notice) :
    decisions s (n :: ns) = (n, (accept s n).1) :: decisions (accept s n).2 ns := rfl

/-- The last notification is decided on by what is remembered after the others. -/
theorem decisions_concat (s : State) (ns : List Notice) (n : Notice) :
    decisions s (ns ++ [n]) = decisions s ns ++ [(n, (accept (after s ns) n).1)] := by
  induction ns generalizing s with
  | nil => rfl
  | cons m ns ih => rw [List.cons_append, decisions_cons, ih, decisions_cons]; rfl

/-- One more notification is accepted after the others. -/
theorem after_concat (s : State) (ns : List Notice) (n : Notice) :
    after s (ns ++ [n]) = (accept (after s ns) n).2 := List.foldl_concat ..

/-- Every notification is decided on, in order. -/
theorem map_fst_decisions (s : State) (ns : List Notice) : (decisions s ns).map Prod.fst = ns := by
  induction ns generalizing s with
  | nil => rfl
  | cons n ns ih => rw [decisions_cons, List.map_cons, ih]

/-- Notifications leave the targets as they are. -/
@[simp] theorem targets_after (s : State) (ns : List Notice) :
    (after s ns).targets = s.targets := by
  induction ns using List.reverseRecOn with
  | nil => rfl
  | append_singleton ns n ih => rw [after_concat, targets_accept, ih]

/-- Notifications leave the window as it is. -/
@[simp] theorem window_after (s : State) (ns : List Notice) :
    (after s ns).window = s.window := by
  induction ns using List.reverseRecOn with
  | nil => rfl
  | append_singleton ns n ih => rw [after_concat, window_accept, ih]

/-- What a notification is about does not depend on what is remembered. -/
theorem subject?_after (s : State) (ns : List Notice) : subject? (after s ns) = subject? s :=
  subject?_of_targets (targets_after s ns)

/-- Only notifications that came are decided on. -/
theorem mem_of_mem_decisions (hx : x ∈ decisions s ns) : x.1 ∈ ns := by
  rw [← map_fst_decisions s ns]
  exact List.mem_map_of_mem hx

/-- When times do not run backwards, no decision is later than the next notification. -/
theorem time_le_of_mem (htimes : (ns ++ [n]).Pairwise fun m n => m.time ≤ n.time)
    (hx : x ∈ decisions s ns) : x.1.time ≤ n.time :=
  (List.pairwise_append.1 htimes).2.2 _ (mem_of_mem_decisions hx) n (List.mem_singleton_self n)

/-- One more notification is remembered for the path that it reports. -/
theorem last?_accept (s : State) (n : Notice) (p : Path) : (accept s n).2.last? p =
    if Reports p (n, (accept s n).1) then some n.time else s.last? p := by
  rcases accept_cases s n with ⟨q, -, -, -, h⟩ | ⟨h, -⟩
  · rw [h, last?_remember]
    rfl
  · rw [h]
    rfl

variable {targets : List Path} {window : Nat}

/-- What is remembered of a path is the time of a report. -/
theorem exists_report_of_last? (h : (after (.new targets window) ns).last? p = some t) :
    ∃ x ∈ decisions (.new targets window) ns, Reports p x ∧ x.1.time = t := by
  -- By the last notification: it is the report that is remembered, or an earlier one still is.
  induction ns using List.reverseRecOn with
  | nil => exact absurd h (by simp [after, last?_new])
  | append_singleton ns n ih =>
    rw [after_concat, last?_accept] at h
    rw [decisions_concat]
    split at h
    next hreports =>
      exact ⟨_, List.mem_append_right _ (List.mem_singleton_self _), hreports, Option.some.inj h⟩
    next =>
      obtain ⟨x, hx, hreports, htime⟩ := ih h
      exact ⟨x, List.mem_append_left _ hx, hreports, htime⟩

/-- No report of a path is later than what is remembered of it. -/
theorem le_last? (htimes : ns.Pairwise fun m n => m.time ≤ n.time)
    (hx : x ∈ decisions (.new targets window) ns) (hreports : Reports p x) :
    ∃ last, (after (.new targets window) ns).last? p = some last ∧ x.1.time ≤ last := by
  induction ns using List.reverseRecOn with
  | nil => exact absurd hx (by simp [decisions])
  | append_singleton ns n ih =>
    have hns := (List.pairwise_append.1 htimes).1
    rw [decisions_concat, List.mem_append, List.mem_singleton] at hx
    rw [after_concat, last?_accept]
    split
    next =>
      refine ⟨n.time, rfl, ?_⟩
      rcases hx with hx | rfl
      · exact time_le_of_mem htimes hx
      · exact le_rfl
    next hnot =>
      rcases hx with hx | rfl
      · exact ih hns hx
      · exact absurd hreports hnot

/-! ### What is reported, and what is not -/

/-- Two reports of a path are at least the window apart. -/
theorem reports_spaced (htimes : ns.Pairwise fun m n => m.time ≤ n.time) (p : Path) :
    (decisions (.new targets window) ns).Pairwise fun x y =>
      Reports p x → Reports p y → x.1.time + window ≤ y.1.time := by
  induction ns using List.reverseRecOn with
  | nil => exact .nil
  | append_singleton ns n ih =>
    have hns := (List.pairwise_append.1 htimes).1
    rw [decisions_concat]
    refine List.pairwise_append.2 ⟨ih hns, List.pairwise_singleton .., fun x hx y hy => ?_⟩
    obtain rfl := List.mem_singleton.1 hy
    intro hreports hlast
    obtain ⟨q, hq, hqp⟩ := reports_iff.1 hlast
    have hle : x.1.time ≤ n.time := time_le_of_mem htimes hx
    obtain ⟨r, -, -, hquiet, haccept⟩ | ⟨haccept, -⟩ :=
      accept_cases (after (.new targets window) ns) n
    · obtain rfl : r = q := by simpa [haccept] using hq
      obtain ⟨last, hlast, hxlast⟩ := le_last? hns hx hreports
      have hgone : ¬ (n.time - last).toNat < window := by
        intro hlt
        have hstill : (after (.new targets window) ns).isQuiet r n.time = true :=
          isQuiet_iff.2 ⟨last, (last?_of_same _ hqp).trans hlast, by rwa [window_after]⟩
        exact absurd (hquiet.symm.trans hstill) (by simp)
      -- A window of zero leaves only that time does not run backwards.
      show x.1.time + window ≤ n.time
      omega
    · exact absurd hq (by simp [haccept])

/-- A change that is not reported comes within the window of a report. -/
theorem reported_or_recent (htimes : ns.Pairwise fun m n => m.time ≤ n.time) :
    ∀ front x, front ++ [x] <+: decisions (.new targets window) ns → x.1.kind.counts = true →
      ∀ p, subject? (.new targets window) x.1 = some p → x.2 = some p ∨
        ∃ y ∈ front, Reports p y ∧ y.1.time ≤ x.1.time ∧ x.1.time < y.1.time + window := by
  induction ns using List.reverseRecOn with
  | nil => intro front x h; exact absurd (List.prefix_nil.1 h) (by simp)
  | append_singleton ns n ih =>
    have hns := (List.pairwise_append.1 htimes).1
    rw [decisions_concat]
    refine History.forall_concat (ih hns) fun hcounts p hsubject => ?_
    rw [← subject?_after _ ns] at hsubject
    obtain ⟨q, -, hq, -, haccept⟩ | ⟨-, hquiet⟩ :=
      accept_cases (after (.new targets window) ns) n
    · exact .inl (by rw [haccept, ← hq, hsubject])
    · obtain ⟨last, hlast, hlt⟩ := isQuiet_iff.1 (hquiet p hcounts hsubject)
      obtain ⟨y, hy, hreports, rfl⟩ := exists_report_of_last? hlast
      rw [window_after] at hlt
      have hle : y.1.time ≤ n.time := time_le_of_mem htimes hy
      refine .inr ⟨y, hy, hreports, hle, ?_⟩
      show n.time < y.1.time + window
      have hwindow : (State.new targets window).window = window := rfl
      omega

/-- Only changes that count are reported, and each under its subject. -/
theorem counts_of_reported (hx : x ∈ decisions s ns) (hp : x.2 = some p) :
    x.1.kind.counts = true ∧ subject? s x.1 = some p := by
  induction ns generalizing s with
  | nil => exact absurd hx (by simp [decisions])
  | cons n ns ih =>
    rw [decisions_cons, List.mem_cons] at hx
    rcases hx with rfl | hx
    · obtain ⟨q, hcounts, hsubject, -, haccept⟩ | ⟨haccept, -⟩ := accept_cases s n
      · obtain rfl : q = p := by simpa [haccept] using hp
        exact ⟨hcounts, hsubject⟩
      · exact absurd hp (by simp [haccept])
    · have h := ih hx
      rwa [subject?_of_targets (targets_accept s n)] at h

/-! ### One target apart from the others -/

/-- Whether the subject of a notification is a path. -/
def concerns (s : State) (p : Path) (n : Notice) : Bool := (subject? s n).any (·.same p)

/-- Whom a notification concerns is a matter of the targets. -/
theorem concerns_of_targets (h : s'.targets = s.targets) : concerns s' = concerns s := by
  funext p n
  rw [concerns, concerns, subject?_of_targets h]

/-- Filters that decide alike on a path: they watch the same targets and remember
the same of this one. -/
structure Agree (p : Path) (s s' : State) : Prop where
  targets_eq : s'.targets = s.targets
  window_eq : s'.window = s.window
  last?_eq : s'.last? p = s.last? p

theorem Agree.refl (p : Path) (s : State) : Agree p s s := ⟨rfl, rfl, rfl⟩

theorem Agree.symm (h : Agree p s s') : Agree p s' s :=
  ⟨h.targets_eq.symm, h.window_eq.symm, h.last?_eq.symm⟩

theorem Agree.trans (h₁ : Agree p s s') (h₂ : Agree p s' s'') : Agree p s s'' :=
  ⟨h₂.targets_eq.trans h₁.targets_eq, h₂.window_eq.trans h₁.window_eq,
    h₂.last?_eq.trans h₁.last?_eq⟩

/-- A notification about something else leaves what is remembered of a path. -/
theorem agree_accept (h : concerns s p n = false) : Agree p s (accept s n).2 := by
  refine ⟨targets_accept s n, window_accept s n, ?_⟩
  rw [last?_accept, if_neg]
  rw [reports_iff]
  rintro ⟨q, hq, hqp⟩
  rcases accept_cases s n with ⟨r, -, hr, -, haccept⟩ | ⟨haccept, -⟩
  · obtain rfl : r = q := by simpa [haccept] using hq
    exact absurd h (by simp [concerns, hr, hqp])
  · exact absurd hq (by simp [haccept])

/-- Filters that agree on the subject of a notification decide alike, and agree again. -/
theorem Agree.accept (h : Agree p s s') (hn : concerns s p n = true) :
    (accept s' n).1 = (accept s n).1 ∧ Agree p (accept s n).2 (accept s' n).2 := by
  obtain ⟨q, hq, hqp⟩ := Option.any_eq_true _ _ |>.1 hn
  have hquiet : s'.isQuiet q n.time = s.isQuiet q n.time := by
    rw [State.isQuiet, State.isQuiet, h.window_eq, last?_of_same s' hqp, last?_of_same s hqp,
      h.last?_eq]
  have hfirst : (ChangeFilter.accept s' n).1 = (ChangeFilter.accept s n).1 := by
    simp only [ChangeFilter.accept, subject?_of_targets h.targets_eq, hq, hquiet]
    split_ifs <;> rfl
  refine ⟨hfirst, by simpa using h.targets_eq, by simpa using h.window_eq, ?_⟩
  rw [last?_accept, last?_accept, hfirst, h.last?_eq]

/-- **Notifications about other targets make no difference**: whatever of them is left
out, those about a path are decided on as before. -/
theorem filter_decisions {keep : Notice → Bool} (h : Agree p s s')
    (hkeep : ∀ n, concerns s p n = true → keep n = true) :
    (decisions s' (ns.filter keep)).filter (fun x => concerns s p x.1) =
      (decisions s ns).filter fun x => concerns s p x.1 := by
  induction ns generalizing s s' with
  | nil => rfl
  | cons n ns ih =>
    have hconcerns : concerns (accept s n).2 = concerns s :=
      concerns_of_targets (targets_accept s n)
    have ih' : ∀ s'', Agree p (accept s n).2 s'' →
        (decisions s'' (ns.filter keep)).filter (fun x => concerns s p x.1) =
          (decisions (accept s n).2 ns).filter fun x => concerns s p x.1 := by
      intro s'' hagree
      have hrest := ih hagree (by rwa [hconcerns])
      rwa [hconcerns] at hrest
    cases hn : concerns s p n with
    | true =>
      have hkept := hkeep n hn
      obtain ⟨hfirst, hagree⟩ := h.accept hn
      simp only [List.filter_cons, hkept, decisions_cons, hn, if_true, hfirst, ih' _ hagree]
    | false =>
      have hpassed : Agree p (accept s n).2 s' := (agree_accept hn).symm.trans h
      cases hkept : keep n with
      | true =>
        have hn' : concerns s' p n = false := by rwa [concerns_of_targets h.targets_eq]
        have hboth := hpassed.trans (agree_accept hn')
        simp only [List.filter_cons, hkept, decisions_cons, hn, if_true, Bool.false_eq_true,
          if_false, ih' _ hboth]
      | false =>
        simp only [List.filter_cons, hkept, decisions_cons, hn, Bool.false_eq_true, if_false,
          ih' _ hpassed]

/-- **Reports keep their distance, and nothing else is lost.**  Of notifications whose
times do not run backwards each is decided on, in order.  Two reports of a target are at
least the window apart; a creation or a change, other than in metadata, whose first path
among the targets is `p` is reported as `p` or comes less than the window after a report of
`p`; nothing else is ever reported; and what is decided on the notifications about `p` is
the same whatever of the others is left out. -/
theorem reports_keep_distance (targets : List Path) (window : Nat)
    (htimes : ns.Pairwise fun m n => m.time ≤ n.time) :
    let start := State.new targets window
    let history := decisions start ns
    history.map Prod.fst = ns ∧
    (∀ p, history.Pairwise fun x y =>
      Reports p x → Reports p y → x.1.time + window ≤ y.1.time) ∧
    (∀ front x, front ++ [x] <+: history → (x.1.kind = .create ∨ x.1.kind = .modify) →
      ∀ p, subject? start x.1 = some p → x.2 = some p ∨
        ∃ y ∈ front, Reports p y ∧ y.1.time ≤ x.1.time ∧ x.1.time < y.1.time + window) ∧
    (∀ x ∈ history, ∀ p, x.2 = some p →
      (x.1.kind = .create ∨ x.1.kind = .modify) ∧ subject? start x.1 = some p) ∧
    ∀ p keep, (∀ n, concerns start p n = true → keep n = true) →
      (decisions start (ns.filter keep)).filter (fun x => concerns start p x.1) =
        history.filter fun x => concerns start p x.1 := by
  intro start history
  refine ⟨map_fst_decisions start ns, reports_spaced htimes, fun front x hx hkind => ?_,
    fun x hx p hp => ?_, fun p keep hkeep => filter_decisions (.refl p start) hkeep⟩
  · exact reported_or_recent htimes front x hx (Kind.counts_iff.2 hkind)
  · obtain ⟨hcounts, hsubject⟩ := counts_of_reported hx hp
    exact ⟨Kind.counts_iff.1 hcounts, hsubject⟩

/-- Two lock files with changes at the same time, at the end of a window and within it, and a
change of metadata between them: four reports, of which leaving one file out leaves the
reports of the other. -/
theorem reports_keep_distance_two :
    let a := Path.ofText "/w/yarn.lock"
    let b := Path.ofText "/w/b/yarn.lock"
    let ns : List Notice := [⟨.create, [.ofText "/w", a], 0⟩, ⟨.modify, [b, a], 0⟩,
      ⟨.modify, [a], 50⟩, ⟨.modifyMetadata, [a], 190⟩, ⟨.modify, [.ofText "/w/./yarn.lock"], 200⟩,
      ⟨.modify, [a], 399⟩, ⟨.create, [b], 399⟩]
    ns.Pairwise (fun m n => m.time ≤ n.time) ∧
      acceptAll (.new [a, b] 200) ns =
        [some a, some b, none, none, some (.ofText "/w/./yarn.lock"), none, some b] ∧
      (decisions (.new [a, b] 200) (ns.filter (concerns (.new [a, b] 200) a))).filter
          (fun x => concerns (.new [a, b] 200) a x.1) =
        (decisions (.new [a, b] 200) ns).filter fun x => concerns (.new [a, b] 200) a x.1 := by
  intro a b ns
  have htimes : ns.Pairwise fun m n => m.time ≤ n.time := by decide
  exact ⟨htimes, by decide, (reports_keep_distance [a, b] 200 htimes).2.2.2.2 a _ fun _ h => h⟩

end ChangeFilter
end Switchboard
