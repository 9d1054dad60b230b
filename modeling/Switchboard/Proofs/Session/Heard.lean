/-
# Sessions side by side

Sessions that share a site are `Heard` when each has an identity of its own and a
client in charge of its own files, and, of the reports at the site, those of one
session end with the one that its server has stopped.  That stays so when one of
them goes on (`Heard.replace`), and so do the sessions that have stopped stay
`Quiet`.  From this follows what settling, starting and stopping them one after the
other comes to.
-/

import Switchboard.Proofs.Session.Reports
import Switchboard.Supervisor.Startup

namespace Switchboard

/-- Sessions are heard when each has its own identity below the next one, and a
client that still runs has not said in any report that its server has stopped,
behind which there is none of its session. -/
structure Heard (next : SessionId) (sessions : List Session) (events : List ServerEvent) :
    Prop where
  nodup : (sessions.map Session.id).Nodup
  given : ∀ x ∈ sessions, x.id < next
  own : ∀ x ∈ sessions, ∀ c, x.client? = some c → c.charge = x.charge
  equipped : ∀ x ∈ sessions, x.Equipped
  early : ∀ e ∈ events, e.session < next
  ordered : events.Pairwise ServerEvent.Precedes
  ended : ∀ x ∈ sessions, ∀ c, x.client? = some c →
    ∀ e ∈ events, e.isStopped = true → e.session = x.id → c.ended.isSome = true

/-- Sessions that have run and run no more have no report left. -/
def Quiet (ran : SessionId → Prop) (sessions : List Session) (events : List ServerEvent) : Prop :=
  ∀ x ∈ sessions, x.isRunning = false → ran x.id → ∀ e ∈ events, e.session ≠ x.id

variable {ran : SessionId → Prop} {next : SessionId} {front back xs : List Session}
  {x y : Session} {site : Site} {p : Session × Site} {taken : List ServerEvent}

/-- A session keeps its identity whatever it leaves. -/
theorem Session.Leads.id_eq (h : x.Leads site p) : p.1.id = x.id := by
  obtain ⟨_, h⟩ := h
  exact h.id_eq

/-- What a session leads to adds reports of its own only. -/
theorem Session.Leads.of_mem_events (h : x.Leads site p) {e : ServerEvent}
    (he : e ∈ p.2.events) : e ∈ site.events ∨ e.session = x.id := by
  obtain ⟨left, h⟩ := h
  rw [h.events_eq, List.mem_append] at he
  exact he.imp_right (h.own e)

/-- The client of a session reports for it. -/
theorem Heard.session_eq {events : List ServerEvent} (h : Heard next xs events) (hx : x ∈ xs)
    {c : Client} (hc : x.client? = some c) : c.session = x.id := congrArg Prod.fst (h.own x hx c hc)

/-- Of a list with one entry replaced each is the new entry or one of those around it. -/
theorem mem_replaced {z : Session} (h : z ∈ front ++ y :: back) :
    z = y ∨ z ∈ front ∨ z ∈ back := by
  simp only [List.mem_append, List.mem_cons] at h
  tauto

/-- Sessions that are heard do not share the identity of one among them. -/
theorem Heard.id_ne (h : Heard next (front ++ x :: back) []) {z : Session}
    (hz : z ∈ front ∨ z ∈ back) : z.id ≠ x.id := by
  have hnodup := h.nodup
  simp only [List.map_append, List.map_cons, List.nodup_append, List.nodup_cons, List.mem_cons,
    List.mem_map] at hnodup
  rcases hz with hz | hz
  · exact hnodup.2.2 _ ⟨z, hz, rfl⟩ _ (.inl rfl)
  · exact fun hid => hnodup.2.1.1 ⟨z, hz, hid⟩

/-- Sessions that are heard are so still when reports have been taken. -/
theorem Heard.mono {events events' : List ServerEvent} (h : Heard next xs events)
    (hsub : events'.Sublist events) : Heard next xs events' :=
  ⟨h.nodup, h.given, h.own, h.equipped, fun e he => h.early e (hsub.subset he),
    h.ordered.sublist hsub, fun x hx c hc e he => h.ended x hx c hc e (hsub.subset he)⟩

/-- Sessions that run no more have no report left still when reports have been taken. -/
theorem Quiet.mono {events events' : List ServerEvent} (h : Quiet ran xs events)
    (hsub : events'.Sublist events) : Quiet ran xs events' :=
  fun x hx hrun hran e he => h x hx hrun hran e (hsub.subset he)

/-- **A session that goes on is heard as before.** -/
theorem Heard.replace (h : Heard next (front ++ x :: back) (taken ++ site.events))
    (hx : x.Leads site p) : Heard next (front ++ p.1 :: back) (taken ++ p.2.events) := by
  have hne : ∀ z, z ∈ front ∨ z ∈ back → z.id ≠ x.id :=
    fun z hz => (h.mono (List.nil_sublist _)).id_ne hz
  have hmem : ∀ z, z ∈ front ∨ z ∈ back → z ∈ front ++ x :: back := fun z hz => by
    simp only [List.mem_append, List.mem_cons]
    tauto
  have hself : x ∈ front ++ x :: back := List.mem_append_right _ (List.mem_cons_self ..)
  obtain ⟨left, hx⟩ := hx
  have hid : p.1.id = x.id := hx.id_eq
  have hevents : taken ++ p.2.events = taken ++ site.events ++ left := by
    rw [hx.events_eq, List.append_assoc]
  rw [hevents]
  refine ⟨?_, fun z hz => ?_, fun z hz c hc => ?_, fun z hz => ?_, fun e he => ?_,
    List.pairwise_append.2 ⟨h.ordered, hx.ordered, fun a ha b hb hstopped => ?_⟩,
    fun z hz c hc e he hstopped hown => ?_⟩
  · have hnodup := h.nodup
    rwa [List.map_append, List.map_cons, ← hid, ← List.map_cons, ← List.map_append] at hnodup
  · rcases mem_replaced hz with rfl | hz
    · exact hid ▸ h.given x hself
    · exact h.given z (hmem z hz)
  · rcases mem_replaced hz with rfl | hz
    · obtain ⟨connection', hc', rfl⟩ := Session.exists_of_client? hc
      obtain ⟨connection, hconnection, -, hcharge, -⟩ := hx.kept connection' hc'
      rw [hcharge, h.own x hself _ (Session.client?_eq_some hconnection), Session.charge,
        Session.charge, hid, hx.projects_eq]
    · exact h.own z (hmem z hz) c hc
  · rcases mem_replaced hz with rfl | hz
    · intro connection' hc'
      obtain ⟨connection, hconnection, hselector, -⟩ := hx.kept connection' hc'
      rw [hselector]
      exact hx.projects_eq ▸ h.equipped x hself connection hconnection
    · exact h.equipped z (hmem z hz)
  · rcases List.mem_append.1 he with he | he
    · exact h.early e he
    · exact hx.own e he ▸ h.given x hself
  · -- A session whose server has stopped leaves nothing behind that report.
    intro hsame
    have hsilent := hx.silent fun c hc =>
      h.ended x hself c hc a ha hstopped (hsame.symm.trans (hx.own b hb))
    exact absurd hb (hsilent ▸ List.not_mem_nil)
  · rcases mem_replaced hz with rfl | hz
    · obtain ⟨connection', hc', rfl⟩ := Session.exists_of_client? hc
      obtain ⟨connection, hconnection, -, -, hended⟩ := hx.kept connection' hc'
      rcases List.mem_append.1 he with he | he
      · exact hended (.inl (h.ended x hself _ (Session.client?_eq_some hconnection) e he hstopped
          (hown.trans hid)))
      · exact hended (.inr ⟨e, he, hstopped⟩)
    · rcases List.mem_append.1 he with he | he
      · exact h.ended z (hmem z hz) c hc e he hstopped hown
      · exact absurd ((hx.own e he).symm.trans hown) (hne z hz).symm

/-- Sessions that are heard are so still when one of them goes on. -/
theorem Heard.advance (h : Heard next (front ++ x :: back) site.events) (hx : x.Leads site p) :
    Heard next (front ++ p.1 :: back) p.2.events := by
  have h₀ : Heard next (front ++ x :: back) ([] ++ site.events) := h
  exact h₀.replace hx

/-- A session that goes on as it did leaves the sessions quiet that have stopped. -/
theorem Quiet.replace (h : Heard next (front ++ x :: back) (taken ++ site.events))
    (hq : Quiet ran (front ++ x :: back) (taken ++ site.events)) (hx : x.Leads site p)
    (hrun : p.1.isRunning = x.isRunning) :
    Quiet ran (front ++ p.1 :: back) (taken ++ p.2.events) := by
  have hself : x ∈ front ++ x :: back := List.mem_append_right _ (List.mem_cons_self ..)
  obtain ⟨left, hx⟩ := hx
  intro z hz hstill hran e he
  have hevents : taken ++ p.2.events = taken ++ site.events ++ left := by
    rw [hx.events_eq, List.append_assoc]
  rw [hevents, List.mem_append] at he
  rcases mem_replaced hz with rfl | hz
  · have hnone : ∀ c, x.client? = some c → c.ended.isSome = true := by
      intro c hc
      obtain ⟨connection, hconnection, -⟩ := Session.exists_of_client? hc
      rw [hrun, Session.isRunning, hconnection] at hstill
      exact absurd hstill (by simp)
    rw [hx.silent hnone] at he
    rw [hx.id_eq] at hran ⊢
    exact hq x hself (hrun ▸ hstill) hran e (he.resolve_right List.not_mem_nil)
  · rcases he with he | he
    · exact hq z (by simp only [List.mem_append, List.mem_cons]; tauto) hstill hran e he
    · rw [hx.own e he]
      exact ((h.mono (List.nil_sublist _)).id_ne hz).symm

/-- A server that has just been started is heard when its session had no report. -/
theorem Heard.begin {events : List ServerEvent} (h : Heard next (front ++ x :: back) events)
    (hy : Session.Begun x y) (hnone : ∀ e ∈ events, e.session ≠ x.id) :
    Heard next (front ++ y :: back) events := by
  have hmem : ∀ z, z ∈ front ∨ z ∈ back → z ∈ front ++ x :: back := fun z hz => by
    simp only [List.mem_append, List.mem_cons]
    tauto
  refine ⟨?_, fun z hz => ?_, fun z hz c hc => ?_, fun z hz => ?_, h.early, h.ordered,
    fun z hz c hc e he hstopped hown => ?_⟩
  · have hnodup := h.nodup
    rwa [List.map_append, List.map_cons, ← hy.id_eq, ← List.map_cons, ← List.map_append] at hnodup
  · rcases mem_replaced hz with rfl | hz
    · exact hy.id_eq ▸ h.given x (List.mem_append_right _ (List.mem_cons_self ..))
    · exact h.given z (hmem z hz)
  · rcases mem_replaced hz with rfl | hz
    · rw [(hy.fresh c hc).1, Session.charge, Session.charge, hy.id_eq, hy.projects_eq]
    · exact h.own z (hmem z hz) c hc
  · rcases mem_replaced hz with rfl | hz
    · exact hy.equipped
    · exact h.equipped z (hmem z hz)
  · rcases mem_replaced hz with rfl | hz
    · exact absurd (hown.trans hy.id_eq) (hnone e he)
    · exact h.ended z (hmem z hz) c hc e he hstopped hown

/-! ### Settling -/

namespace Supervisor

/-- Sessions that settle are heard as before, and run as before. -/
theorem settleSessions_spec (front : List Session)
    (h : Heard next (front ++ xs) (taken ++ site.events))
    (hq : Quiet ran (front ++ xs) (taken ++ site.events)) :
    Heard next (front ++ (settleSessions xs site).1) (taken ++ (settleSessions xs site).2.events) ∧
      Quiet ran (front ++ (settleSessions xs site).1)
        (taken ++ (settleSessions xs site).2.events) ∧
      (settleSessions xs site).1.map (fun x => (x.id, x.isRunning)) =
        xs.map fun x => (x.id, x.isRunning) := by
  induction xs generalizing front site with
  | nil => exact ⟨h, hq, rfl⟩
  | cons x xs ih =>
    obtain ⟨hleads, hrun⟩ := Session.leads_settle
      (fun c => h.session_eq (List.mem_append_right _ (List.mem_cons_self ..))) site
    have hid := hleads.id_eq
    have h' := h.replace hleads
    have hq' := hq.replace h hleads hrun
    rw [List.append_cons] at h' hq'
    obtain ⟨h₁, h₂, h₃⟩ := ih (front ++ [(x.settle site).1]) h' hq'
    rw [← List.append_cons] at h₁ h₂
    refine ⟨h₁, h₂, ?_⟩
    simp only [settleSessions, List.map_cons, h₃, hid, hrun]

/-! ### Starting -/

/-- Sessions that begin to start are heard, each as what it has come to. -/
theorem beginStarts_spec (ctx : SessionContext) (front : List Session)
    (h : Heard next (front ++ xs) site.events)
    (hidle : ∀ x ∈ xs, x.connection = none)
    (hnone : ∀ x ∈ xs, ∀ e ∈ site.events, e.session ≠ x.id) :
    Heard next (front ++ (beginStarts ctx xs site).1.map Session.Starting.asSession)
        (beginStarts ctx xs site).2.events ∧
      (∀ p ∈ (beginStarts ctx xs site).1, p.session.connection = none) ∧
      (beginStarts ctx xs site).1.map (fun p => p.asSession.id) = xs.map Session.id := by
  induction xs generalizing front site with
  | nil => exact ⟨h, by simp [beginStarts], rfl⟩
  | cons x xs ih =>
    obtain ⟨hx, hidle⟩ := List.forall_mem_cons.1 hidle
    obtain ⟨hx', hnone⟩ := List.forall_mem_cons.1 hnone
    obtain ⟨y, hbegun, hleads, hp⟩ := Session.beginStart_spec hx site ctx
    have h' := (h.begin hbegun hx').advance hleads
    rw [List.append_cons] at h'
    have hnone' : ∀ z ∈ xs, ∀ e ∈ (x.beginStart site ctx).2.events, e.session ≠ z.id := by
      intro z hz e he
      rcases hleads.of_mem_events he with he | he
      · exact hnone z hz e he
      · rw [he, hbegun.id_eq]
        exact ((h.mono (List.nil_sublist _)).id_ne (.inr hz)).symm
    obtain ⟨h₁, h₂, h₃⟩ := ih _ h' hidle hnone'
    rw [← List.append_cons] at h₁
    refine ⟨h₁, List.forall_mem_cons.2 ⟨hp, h₂⟩, ?_⟩
    exact congrArg₂ List.cons (hleads.id_eq.trans hbegun.id_eq) h₃

/-- Sessions that have started are heard. -/
theorem finishStarts_spec {ps : List Session.Starting} (front : List Session)
    (h : Heard next (front ++ ps.map Session.Starting.asSession) site.events)
    (hidle : ∀ p ∈ ps, p.session.connection = none) :
    Heard next (front ++ (finishStarts ps site).1.map Prod.fst) (finishStarts ps site).2.events ∧
      (finishStarts ps site).1.map (fun result => result.1.id) =
        ps.map fun p => p.asSession.id := by
  induction ps generalizing front site with
  | nil => exact ⟨h, rfl⟩
  | cons p ps ih =>
    obtain ⟨hp, hidle⟩ := List.forall_mem_cons.1 hidle
    have hleads := Session.finish_spec p hp
      (fun c => h.session_eq (List.mem_append_right _ (List.mem_cons_self ..))) site
    have h' := h.advance hleads
    rw [List.append_cons] at h'
    obtain ⟨h₁, h₂⟩ := ih _ h' hidle
    rw [← List.append_cons] at h₁
    exact ⟨h₁, congrArg₂ List.cons hleads.id_eq h₂⟩

end Supervisor
end Switchboard
