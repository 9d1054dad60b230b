/-
# Documents

A document is opened in the first session that serves its language and path,
and that session keeps it.  A document that no session serves is not kept.
-/

import Switchboard.Supervisor.Basic

namespace Switchboard

/-- Why something cannot be done with a document. -/
inductive DocumentFault where
  | unreadable (path : Path) (fault : DiskFault)
  | notServed (path : Path)
  | sessionGone (session : SessionId)
  | session (fault : SessionFault)

/-- The text that reports a fault. -/
def DocumentFault.message : DocumentFault → String
  | .unreadable path fault => "reading " ++ path.display ++ ": " ++ fault.message
  | .notServed path => path.display ++ " is not served by any Biome session"
  | .sessionGone id => "session #" ++ toString id ++ " is gone"
  | .session fault => fault.message

namespace Supervisor

/-- The first session that serves a file. -/
def serving? (s : Supervisor) (language : String) (path : Path) : Option Session :=
  s.sessions.find? fun x => x.isMatch language path

/-- Gives a text to a session. -/
def syncIn (s : Supervisor) (x : Session) (path : Path) (language text : String) :
    Except DocumentFault Unit × Supervisor :=
  let (r, x, site) := x.sync s.site path language text
  (r.mapError .session, { s with site }.putSession x)

/-- Opens a document: the session that serves it, if any does. -/
def openDocument (s : Supervisor) (path : Path) (text : String) :
    Except DocumentFault (Option SessionId) × Supervisor :=
  match Language.ofPath? path with
  | none => (.ok none, s)
  | some language => match s.serving? language path with
    | none => (.ok none, s)
    | some x => match s.syncIn x path language text with
      | (.error e, s) => (.error e, s)
      | (.ok (), s) => (.ok (some x.id), { s with documents := setOwner path x.id s.documents })

/-- Forgets which session serves a document. -/
def disown (s : Supervisor) (path : Path) : Supervisor :=
  { s with documents := s.documents.filter fun entry => !entry.1.same path }

/-- Takes in a new text of a document; one that is not open is opened. -/
def changeDocument (s : Supervisor) (path : Path) (text : String) :
    Except DocumentFault (Option SessionId) × Supervisor :=
  match s.ownerOf? path with
  | none => s.openDocument path text
  | some id => match Language.ofPath? path with
    | none => (.ok none, s)
    | some language => match s.session? id with
      | none => (s.disown path).openDocument path text
      | some x => match s.syncIn x path language text with
        | (.error e, s) => (.error e, s)
        | (.ok (), s) => (.ok (some id), s)

/-- Closes a document. -/
def closeDocument (s : Supervisor) (path : Path) : Except DocumentFault Unit × Supervisor :=
  match s.ownerOf? path with
  | none => (.ok (), s)
  | some id =>
    let s := s.disown path
    match s.session? id with
    | none => (.ok (), s)
    | some x =>
      let (r, x, site) := x.close s.site path
      (r.mapError .session, { s with site }.putSession x)

/-- Opens a document with the text of its file, unless it is open. -/
def openFromDisk (s : Supervisor) (path : Path) : Except DocumentFault Unit × Supervisor :=
  if (s.ownerOf? path).isSome then (.ok (), s)
  else
    let s := s.settle
    match s.site.disk.readText path with
    | .error fault => (.error (.unreadable path fault), s)
    | .ok text => match s.openDocument path text with
      | (.error e, s) => (.error e, s)
      | (.ok _, s) => (.ok (), s)

/-- The kind of the action that applies all safe fixes. -/
def fixAllKind : String := "source.fixAll.biome"

/-- The actions that apply all safe fixes to a document, which is opened if need be. -/
def fixAllActions (s : Supervisor) (path : Path) : Except DocumentFault Json × Supervisor :=
  match s.openFromDisk path with
  | (.error e, s) => (.error e, s)
  | (.ok (), s) => match s.ownerOf? path with
    | none => (.error (.notServed path), s)
    | some id => match s.session? id with
      | none => (.error (.sessionGone id), s)
      | some x =>
        let (r, x, site) := x.codeActions s.site path [fixAllKind]
        (r.mapError .session, { s with site }.putSession x)

end Supervisor
end Switchboard
