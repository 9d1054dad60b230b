/-
# How a session's start comes out

The start of a session has two halves, and other sessions start between and around them.
They add to the site, but what the executable of a session is and does stays as it was, so
the start comes out as it would for a session that has everything to itself
(`Session.alone`, `Session.verdict`), unless a report of the session finds no room.  A
server that would welcome its client can then only be waited for in vain, and one whose
session runs has answered without an error before it has reported more than there is room
for (`Session.ComesOut`).
-/

import Switchboard.Proofs.Client.Ready
import Switchboard.Proofs.Client.Welcome
import Switchboard.Proofs.Session.Reports
import Switchboard.Proofs.Supervisor.Routing

namespace Switchboard

namespace Client

variable {id : Nat} {frames all : List Json}

/-- The frames ahead of the response to a request. -/
def preamble (id : Nat) (frames : List Json) : List Json :=
  frames.takeWhile fun frame => !Receiver.isReply id frame

end Client

namespace Session

variable {x : Session} {s : Site} {ctx : SessionContext} {program : Except DiskFault Behaviour}

/-! ### What a session's own server decides -/

/-- What a session greets its server with. -/
def greeting (x : Session) (ctx : SessionContext) : Json :=
  Message.request 1 "initialize" (some (x.handshake ctx).toJson)

/-- The client of a session that has started a server and greeted it, and keeps no log. -/
def caller (x : Session) (ctx : SessionContext) (server : Behaviour) : Client :=
  { Client.ofProcess ((Receiver.ofProjects x.id x.projects).expect 1) ⟨x.channelName, none⟩
      (.start x.binary server) (ctx.initTimeout * 1000) (ctx.shutdownTimeout * 1000) with
    nextId := 2
    outbox := [x.greeting ctx] }

/-- A site that nobody else uses, and where every report finds room. -/
def nowhere : Site := .ofDisk ⟨.emptyDirectory, [], Platform.linux⟩

/-- What waiting to be welcomed comes to for a session that has everything to itself. -/
def alone (x : Session) (ctx : SessionContext) (server : Behaviour) :
    Except ClientFault Unit × Client × Site :=
  (x.caller ctx server).complete nowhere 1

/-- The frames of its server that such a session reads until then. -/
def greetings (x : Session) (ctx : SessionContext) (server : Behaviour) : List Json :=
  Exchange.frames ((x.alone ctx server).2.2.passages x.id)

/-- What keeps a session from running by what its executable is and does; none if it runs. -/
def verdict (x : Session) (ctx : SessionContext) (program : Except DiskFault Behaviour) :
    Option SessionFault :=
  match program with
  | .error fault => some (.spawn x.binary fault)
  | .ok server => match (x.alone ctx server).1 with
    | .error fault => some (.handshake x.binary fault)
    | .ok () => none

/-- A session is welcomed when its executable has been started and has answered the greeting
in time and without an error, and its input can be written to still. -/
def Welcomed (x : Session) (ctx : SessionContext) (program : Except DiskFault Behaviour) : Prop :=
  ∃ server, program = .ok server ∧
    (∃ response, (x.greetings ctx server).find? (Receiver.isReply 1) = some response ∧
      response.member? "error" = none) ∧ (x.alone ctx server).2.1.writing = true

/-- What a session reports of what its server writes ahead of the response to the greeting. -/
def earlyReports (x : Session) (ctx : SessionContext) (server : Behaviour) : List ServerEvent :=
  ((Receiver.ofProjects x.id x.projects).expect 1).reports
    (Client.preamble 1 (x.greetings ctx server))

/-- How the start of a session comes out: with a fault, or with none when it runs; `held`
says that a report of the session has found no room. -/
structure ComesOut (x : Session) (ctx : SessionContext) (program : Except DiskFault Behaviour)
    (supervised held : Bool) (fault : Option SessionFault) : Prop where
  /-- A session whose reports all find room comes out as its own server decides. -/
  decided : held = false → fault = x.verdict ctx program
  /-- Otherwise it may also be that a server that welcomes its client is waited for in vain. -/
  delayed : x.verdict ctx program = none → fault = none ∨
    held = true ∧ fault = some (.handshake x.binary (.late "initialize" (ctx.initTimeout * 1000)))
  /-- The server of a session that runs has been started and has answered without an error,
  and what it has reported before that has found room. -/
  answered : fault = none → ∃ server response, program = .ok server ∧
    (x.greetings ctx server).find? (Receiver.isReply 1) = some response ∧
    response.member? "error" = none ∧
    (supervised = true → (x.earlyReports ctx server).length ≤ Site.reportLimit)

/-- Once a report has found no room, more can. -/
theorem ComesOut.mono {supervised held held' : Bool} {fault : Option SessionFault}
    (h : ComesOut x ctx program supervised held fault) (hheld : held = true → held' = true) :
    ComesOut x ctx program supervised held' fault := by
  refine ⟨fun hfree => h.decided ?_, fun hnone => ?_, h.answered⟩
  · cases held with
    | true => exact absurd ((hheld rfl).symm.trans hfree) (by simp)
    | false => rfl
  · exact (h.delayed hnone).imp_right fun hlate => ⟨hheld hlate.1, hlate.2⟩

/-! ### The first half -/

/-- The first half of a session's start has found what there is to execute: it has failed
with that, or the server has been started and greeted. -/
structure Starting.Launched (p : Starting) (x : Session) (ctx : SessionContext)
    (program : Except DiskFault Behaviour) : Prop where
  id_eq : p.session.id = x.id
  binary_eq : p.session.binary = x.binary
  failed : ∀ fault, program = .error fault → p.progress = .error (.spawn x.binary fault)
  greeted : ∀ server, program = .ok server → ∃ selector c, p.progress = .ok (selector, c, 1) ∧
    c.Alike (x.caller ctx server) ∧ c.patience = ctx.initTimeout * 1000

/-- Giving a start up holds nobody up. -/
theorem stuck_giveUp (x : Session) (s : Site) (channel : Channel) (failed : FailedStart) :
    (x.giveUp s channel failed).stuck = s.stuck := by
  unfold giveUp
  dsimp only
  split
  · exact Client.stuck_drop ..
  · rfl

/-- There is room for a greeting, since nothing has been said before. -/
theorem stuck_greet {c : Client} (houtbox : c.outbox = []) (s : Site) (h : Handshake) :
    (c.greet s h).2.2.stuck = s.stuck := by
  have hsend (c : Client) (s : Site) (m : Json) (houtbox : c.outbox = []) :
      (c.send s m).2.2.stuck = s.stuck := by
    have hroom : c.makeRoom s = (c, s) := by
      rw [Client.makeRoom, if_pos (by rw [houtbox]; decide)]
    simp only [Client.send, hroom]
    split <;> rfl
  unfold Client.greet Client.ask
  split
  · rfl
  · have hsent := hsend { c with nextId := c.nextId + 1, receiver := c.receiver.expect c.nextId }
      (s.log c.channel .debug (Client.advertised h))
      (Message.request c.nextId "initialize" (some h.toJson)) houtbox
    dsimp only
    split
    next heq =>
      rw [heq] at hsent
      exact hsent
    next heq =>
      rw [heq] at hsent
      exact hsent

/-- Launching a server holds nobody up. -/
theorem stuck_launch (x : Session) (s : Site) (ctx : SessionContext) (channel : Channel) :
    (x.launch s ctx channel).2.stuck = s.stuck := by
  unfold launch
  split
  · rfl
  · dsimp only
    split
    · rfl
    next c s' hspawn =>
      obtain ⟨houtbox, hstuck⟩ := Client.idle_of_spawn hspawn
      have hgreet := (stuck_greet houtbox s' (x.handshake ctx)).trans hstuck
      split
      next heq =>
        rw [heq] at hgreet
        exact hgreet
      next heq =>
        rw [heq] at hgreet
        exact hgreet

/-- The first half of a start waits for nobody. -/
theorem stuck_beginStart (x : Session) (s : Site) (ctx : SessionContext) :
    (x.beginStart s ctx).2.stuck = s.stuck := by
  have hopen : (x.openChannel s ctx).2.stuck = s.stuck := by
    unfold openChannel
    split <;> rfl
  unfold beginStart
  generalize x.openChannel s ctx = opened at hopen ⊢
  obtain ⟨channel, s₁⟩ := opened
  have hlaunch := (stuck_launch { x with channel := some channel } s₁ ctx channel).trans hopen
  dsimp only
  split
  next heq =>
    rw [heq] at hlaunch
    exact (stuck_giveUp ..).trans hlaunch
  next heq =>
    rw [heq] at hlaunch
    exact hlaunch

end Session
end Switchboard
