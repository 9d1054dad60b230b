/-
# Open documents

The documents that a client has open at its server, by URI.  The first text of
a document opens it with version one, every later one changes it and counts
the version up.  For each document its number of lines is kept, so that a
request can span all of it.
-/

import Switchboard.Text.Lines
import Switchboard.Wire.Message

namespace Switchboard

/-- A document as the server knows it.  Versions are counted in words of 32 bits with a sign; a
number without a bound stands for one as long as the document has been changed fewer than
2^31 - 1 times since it was opened. -/
structure OpenDocument where
  version : Nat
  lines : Nat
  deriving DecidableEq, Repr

/-- The open documents by URI. -/
structure Documents where
  entries : List (String × OpenDocument)
  deriving Repr

namespace Documents

/-- No documents. -/
def empty : Documents := ⟨[]⟩

/-- The largest number of lines that is told. -/
def maxLines : Nat := Nat.pow 2 32 - 1

/-- The number of lines of a text and one more, for the line that follows the last line feed. -/
def lineCount (text : String) : Nat := min ((Lines.ofString text).length + 1) maxLines

/-- The document with a URI. -/
def find? (d : Documents) (uri : String) : Option OpenDocument := d.entries.lookup uri

/-- Whether a document is open. -/
def isOpen (d : Documents) (uri : String) : Bool := (d.find? uri).isSome

/-- Entries with the one of a URI replaced or added at the end. -/
def put (uri : String) (doc : OpenDocument) :
    List (String × OpenDocument) → List (String × OpenDocument)
  | [] => [(uri, doc)]
  | (u, old) :: rest => if u = uri then (u, doc) :: rest else (u, old) :: put uri doc rest

/-- Takes in the text of a document: what the server is told, and the documents after it. -/
def sync (d : Documents) (uri language text : String) : Json × Documents :=
  match d.find? uri with
  | some doc =>
    let version := doc.version + 1
    (Message.notification "textDocument/didChange" (some (Message.didChange uri version text)),
      ⟨put uri ⟨version, lineCount text⟩ d.entries⟩)
  | none =>
    (Message.notification "textDocument/didOpen" (some (Message.didOpen uri language 1 text)),
      ⟨put uri ⟨1, lineCount text⟩ d.entries⟩)

/-- Closes a document: what the server is told, nothing if the document is not open. -/
def close (d : Documents) (uri : String) : Option Json × Documents :=
  if d.isOpen uri then
    (some (Message.notification "textDocument/didClose" (some (Message.didClose uri))),
      ⟨d.entries.filter fun entry => entry.1 != uri⟩)
  else (none, d)

end Documents
end Switchboard
