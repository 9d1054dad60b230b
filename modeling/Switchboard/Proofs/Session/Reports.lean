/-
# The reports of a session

A session that does something stays the session it is, keeps its client in charge
or loses it, and leaves reports as its client does (`Session.Leads`).  A start is
seen as the session that it has come to (`Starting.asSession`): one that has
greeted its server has a client that leaves reports already, though it does not
run yet.
-/

import Switchboard.Proofs.Client.Reports
import Switchboard.Session.Basic

namespace Switchboard
namespace Session

variable {x y : Session} {s s' : Site} {c : Client} {connection : Connection}

/-- What a session holds while it runs selects the files of its own projects. -/
def Equipped (x : Session) : Prop :=
  ∀ connection, x.connection = some connection →
    Selector.ofProjects x.projects = .ok connection.selector

/-- What the client of a session is in charge of. -/
def charge (x : Session) : SessionId × List Path := (x.id, x.projects.map fun p => p.path.normalize)

/-- A session leaves reports and becomes another one at another site: the same,
with its client where it has got to or without any. -/
structure Leaves (x : Session) (s : Site) (p : Session × Site) (left : List ServerEvent) :
    Prop where
  id_eq : p.1.id = x.id
  projects_eq : p.1.projects = x.projects
  events_eq : p.2.events = s.events ++ left
  own : ∀ e ∈ left, e.session = x.id
  ordered : left.Pairwise ServerEvent.Precedes
  silent : (∀ c, x.client? = some c → c.ended.isSome = true) → left = []
  kept : ∀ connection', p.1.connection = some connection' →
    ∃ connection, x.connection = some connection ∧
      connection'.selector = connection.selector ∧
      connection'.client.charge = connection.client.charge ∧
      ((connection.client.ended.isSome = true ∨ ∃ e ∈ left, e.isStopped = true) →
        connection'.client.ended.isSome = true)

/-- A session becomes another one at another site with whatever reports it leaves. -/
def Leads (x : Session) (s : Site) (p : Session × Site) : Prop := ∃ left, x.Leaves s p left

/-- The client of a session is the one of its connection. -/
theorem client?_eq_some {connection : Connection} (h : x.connection = some connection) :
    x.client? = some connection.client := by
  rw [client?, h]
  rfl

/-- A session with a client has a connection. -/
theorem exists_of_client? (h : x.client? = some c) :
    ∃ connection, x.connection = some connection ∧ connection.client = c :=
  Option.map_eq_some_iff.1 h

/-- What concerns no report leads on. -/
theorem Leads.still (hid : y.id = x.id) (hprojects : y.projects = x.projects)
    (hconnection : y.connection = x.connection) (hevents : s'.events = s.events) :
    x.Leads s (y, s') := by
  refine ⟨[], hid, hprojects, by rw [hevents, List.append_nil], by simp, .nil, fun _ => rfl, ?_⟩
  intro connection hc
  refine ⟨connection, hconnection ▸ hc, rfl, rfl, ?_⟩
  rintro (h | ⟨e, he, -⟩)
  · exact h
  · exact absurd he List.not_mem_nil

theorem Leads.refl (x : Session) (s : Site) : x.Leads s (x, s) := .still rfl rfl rfl rfl

/-- What the client of a session leads to, the session leads to, with its client or without. -/
theorem leads_of_client (hc : x.connection = some connection)
    (hsession : connection.client.session = x.id) (h : connection.client.Leads s (c, s'))
    (hid : y.id = x.id) (hprojects : y.projects = x.projects)
    (hy : ∀ connection', y.connection = some connection' → connection' = ⟨connection.selector, c⟩) :
    x.Leads s (y, s') := by
  obtain ⟨left, h⟩ := h
  refine ⟨left, hid, hprojects, h.events_eq, fun e he => (h.own e he).trans hsession, h.ordered,
    fun hall => h.silent (hall _ (client?_eq_some hc)), fun connection' hc' => ?_⟩
  obtain rfl := hy connection' hc'
  exact ⟨connection, hc, rfl, h.charge_eq, h.ended⟩

/-- What the client of a session that runs leads to leaves the session running. -/
theorem leads_withClient (hc : x.client? = some c) (hsession : c.session = x.id) {c' : Client}
    (h : c.Leads s (c', s')) :
    x.Leads s (x.withClient c', s') ∧ (x.withClient c').isRunning = x.isRunning := by
  obtain ⟨connection, hx, rfl⟩ := exists_of_client? hc
  have hw : (x.withClient c').connection = some ⟨connection.selector, c'⟩ := by
    rw [withClient, hx]
    rfl
  refine ⟨leads_of_client hx hsession h rfl rfl fun connection' hc' => ?_, ?_⟩
  · exact (Option.some.inj (hw.symm.trans hc')).symm
  · rw [isRunning, isRunning, hw, hx]
    rfl

/-! ### Documents and settling -/

/-- A session that brings a document up to date leaves what its client reports, and runs as before.
-/
theorem leads_sync (hsession : ∀ c, x.client? = some c → c.session = x.id) (s : Site) (path : Path)
    (language text : String) : x.Leads s (x.sync s path language text).2 ∧
      (x.sync s path language text).2.1.isRunning = x.isRunning := by
  unfold sync
  split
  · exact ⟨.refl x s, rfl⟩
  · split
    · exact ⟨.refl x s, rfl⟩
    next c hc => exact leads_withClient hc (hsession c hc) (c.leads_sync s _ language text)

/-- A session that closes a document leaves what its client reports, and runs as before. -/
theorem leads_close (hsession : ∀ c, x.client? = some c → c.session = x.id) (s : Site)
    (path : Path) : x.Leads s (x.close s path).2 ∧
      (x.close s path).2.1.isRunning = x.isRunning := by
  unfold close
  split
  · exact ⟨.refl x s, rfl⟩
  · split
    · exact ⟨.refl x s, rfl⟩
    next c hc => exact leads_withClient hc (hsession c hc) (c.leads_close s _)

/-- A session that asks for actions leaves what its client reports, and runs as before. -/
theorem leads_codeActions (hsession : ∀ c, x.client? = some c → c.session = x.id) (s : Site)
    (path : Path) (only : List String) : x.Leads s (x.codeActions s path only).2 ∧
      (x.codeActions s path only).2.1.isRunning = x.isRunning := by
  unfold codeActions
  split
  · exact ⟨.refl x s, rfl⟩
  · split
    · exact ⟨.refl x s, rfl⟩
    next c hc =>
      exact leads_withClient hc (hsession c hc) (Client.acts_codeActions c s _ only).leads

/-- A session that settles leaves what its client reports, and runs as before. -/
theorem leads_settle (hsession : ∀ c, x.client? = some c → c.session = x.id) (s : Site) :
    x.Leads s (x.settle s) ∧ (x.settle s).1.isRunning = x.isRunning := by
  unfold settle
  split
  next c hc => exact leads_withClient hc (hsession c hc) (Client.moves_settle c s).leads
  · exact ⟨.refl x s, rfl⟩

/-! ### Stopping -/

/-- Logging the stop of a session reports nothing. -/
@[simp] theorem events_logStopped (x : Session) (s : Site) :
    (x.logStopped s).events = s.events := by
  unfold logStopped
  split <;> rfl

/-- A session that is stopped runs no more. -/
theorem leads_stop (hsession : ∀ c, x.client? = some c → c.session = x.id) (s : Site) :
    x.Leads s (x.stop s) ∧ (x.stop s).1.isRunning = false := by
  cases hc : x.connection with
  | none =>
    have hstop : x.stop s = (x, s) := by
      rw [stop, beginStop, hc]
      rfl
    rw [hstop]
    exact ⟨.refl x s, by rw [isRunning, hc]; rfl⟩
  | some connection =>
    have hleave := (connection.client.acts_leave s).leads
    have hstop : (x.stop s).1 = { x with connection := none } ∧
        (x.stop s).2.events = (connection.client.leave s).2.events := by
      rw [stop, beginStop, hc]
      dsimp only
      split
      · exact ⟨rfl, events_logStopped ..⟩
      · exact ⟨rfl, events_logStopped ..⟩
    generalize x.stop s = p at hstop ⊢
    obtain ⟨y, s'⟩ := p
    obtain ⟨rfl, hevents⟩ := hstop
    refine ⟨leads_of_client hc (hsession _ (client?_eq_some hc))
      (hleave.trans (.still (p := (_, s')) rfl rfl hevents)) rfl rfl ?_, rfl⟩
    exact fun _ h => absurd h (by simp)

/-! ### Starting -/

/-- A start as the session that it has come to. -/
def Starting.asSession (p : Starting) : Session :=
  match p.progress with
  | .ok (selector, c, _) => { p.session with connection := some ⟨selector, c⟩ }
  | .error _ => p.session

/-- Opening the log of a session reports nothing. -/
theorem events_openChannel (x : Session) (s : Site) (ctx : SessionContext) :
    (x.openChannel s ctx).2.events = s.events := by
  unfold openChannel
  split <;> rfl

/-- A session whose server has just been started, if it has, and has reported nothing. -/
structure Begun (x y : Session) : Prop where
  id_eq : y.id = x.id
  projects_eq : y.projects = x.projects
  equipped : y.Equipped
  fresh : ∀ c, y.client? = some c → c.charge = x.charge ∧ c.ended = none

/-- The first half of a start either starts no server, or starts one and greets it. -/
theorem launch_spec (x : Session) (s : Site) (ctx : SessionContext) (channel : Channel) :
    (∃ fault s', x.launch s ctx channel = (.error ⟨fault, none⟩, s') ∧ s'.events = s.events) ∨
    ∃ (selector : Selector) (c₀ c : Client) (s' : Site),
      Selector.ofProjects x.projects = .ok selector ∧ c₀.charge = x.charge ∧
      c₀.ended = none ∧ c₀.Leads s (c, s') ∧
      ((∃ id, x.launch s ctx channel = (.ok (selector, c, id), s')) ∨
        ∃ fault, x.launch s ctx channel = (.error ⟨fault, some c⟩, s')) := by
  unfold launch
  split
  next e _ => exact .inl ⟨_, _, rfl, rfl⟩
  next selector hselector =>
    dsimp only
    split
    next fault _ => exact .inl ⟨_, _, rfl, rfl⟩
    next c₀ s₀ hspawn =>
      obtain ⟨hcharge, hended, hevents⟩ := Client.spawn_spec hspawn
      have hgreet : c₀.Leads s (c₀.greet s₀ (x.handshake ctx)).2 :=
        (c₀.acts_greet s₀ (x.handshake ctx)).leads.from rfl rfl hevents
      refine .inr ?_
      split
      next fault c s' heq =>
        rw [heq] at hgreet
        exact ⟨selector, c₀, c, s', hselector, hcharge, hended, hgreet, .inr ⟨_, rfl⟩⟩
      next id c s' heq =>
        rw [heq] at hgreet
        exact ⟨selector, c₀, c, s', hselector, hcharge, hended, hgreet, .inl ⟨_, rfl⟩⟩

/-- What a first half of a start comes to: the client that it starts, if it
does, greets, and is dropped if that fails. -/
theorem beginStart_spec (hx : x.connection = none) (s : Site) (ctx : SessionContext) :
    ∃ y, Begun x y ∧ y.Leads s ((x.beginStart s ctx).1.asSession, (x.beginStart s ctx).2) ∧
      (x.beginStart s ctx).1.session.connection = none := by
  have hchannel := events_openChannel x s ctx
  unfold beginStart
  dsimp only
  generalize x.openChannel s ctx = opened at hchannel ⊢
  obtain ⟨channel, s₁⟩ := opened
  rcases launch_spec { x with channel := some channel } s₁ ctx channel with
    ⟨fault, s', hlaunch, hevents⟩ |
    ⟨selector, c₀, c, s', hselector, hcharge, hended, hleads, hlaunch⟩
  · rw [hlaunch]
    refine ⟨x, ⟨rfl, rfl, fun _ h => absurd (hx.symm.trans h) (by simp), fun c h => ?_⟩,
      .still rfl rfl rfl (hevents.trans hchannel), hx⟩
    exact absurd h (by rw [client?, hx]; simp)
  · have hbegun : Begun x { x with connection := some ⟨selector, c₀⟩ } := by
      refine ⟨rfl, rfl, fun connection h => ?_, fun c h => ?_⟩
      · rw [← Option.some.inj h]
        exact hselector
      · rw [← Option.some.inj h]
        exact ⟨hcharge, hended⟩
    have hsession : c₀.session = x.id := congrArg Prod.fst hcharge
    refine ⟨_, hbegun, ?_⟩
    rcases hlaunch with ⟨id, hlaunch⟩ | ⟨fault, hlaunch⟩
    · rw [hlaunch]
      refine ⟨leads_of_client rfl hsession (hleads.from rfl rfl hchannel) rfl rfl ?_, hx⟩
      exact fun connection' h => (Option.some.inj h).symm
    · rw [hlaunch]
      obtain ⟨c', hdrop⟩ := c.leads_drop
        (s'.log channel .error (failureLine { x with channel := some channel } fault))
      refine ⟨leads_of_client rfl hsession ((hleads.from rfl rfl hchannel).trans
        (hdrop.from rfl rfl rfl)) rfl rfl fun connection' h => ?_, hx⟩
      exact absurd (hx.symm.trans h) (by simp)

/-- What a second half of a start comes to: a session that runs with its client
or has dropped it. -/
theorem finish_spec (p : Starting) (hp : p.session.connection = none)
    (hsession : ∀ c, p.asSession.client? = some c → c.session = p.asSession.id) (s : Site) :
    p.asSession.Leads s (p.finish s).2 := by
  obtain ⟨x, channel, progress⟩ := p
  cases progress with
  | error fault => exact .refl x s
  | ok greeted =>
    obtain ⟨selector, c, id⟩ := greeted
    have hcomplete := (c.acts_complete s id).leads
    have hc := hsession c rfl
    unfold Starting.finish connect
    dsimp only
    generalize c.complete s id = completed at hcomplete ⊢
    obtain ⟨r, c', s'⟩ := completed
    cases r with
    | ok =>
      refine leads_of_client rfl hc (hcomplete.trans (.still rfl rfl rfl)) rfl rfl ?_
      exact fun connection' h => (Option.some.inj h).symm
    | error fault =>
      obtain ⟨c'', hdrop⟩ := c'.leads_drop
        (s'.log channel .error (x.failureLine (.handshake x.binary fault)))
      refine leads_of_client rfl hc (hcomplete.trans (hdrop.from rfl rfl rfl)) rfl rfl ?_
      exact fun connection' h => absurd (hp.symm.trans h) (by simp)

end Session
end Switchboard
