/-
# Frames

A message travels as header lines, a blank line and a body.  One header
counts: `Content-Length`, the number of bytes of the body.  `next` takes the
first frame off a stream of bytes.  Bytes that hold no complete frame yet are
no error as long as more may come, so `next` answers `starved` then, with what
the outcome is if the stream ends there: nothing, when it ends between frames.
-/

import Switchboard.Json.Reader
import Switchboard.Json.Writer
import Switchboard.Text.Blank
import Switchboard.Text.Numeral

namespace Switchboard
namespace Frame

/-- The size that the body of a frame may have at most. -/
def maxBytes : Nat := 16 * 1024 * 1024

/-- What makes a stream unreadable. -/
inductive Fault where
  /-- The stream ends inside a body. -/
  | cutShort
  /-- A header line is not UTF-8. -/
  | headerNotText
  /-- The stream ends inside a header block. -/
  | truncatedHeaders
  /-- A header block ends without a length. -/
  | missingLength
  /-- The value of a length is no count. -/
  | invalidLength (value : String)
  /-- The announced body is larger than a frame may be. -/
  | tooLarge (size : Nat)
  /-- The body is not JSON. -/
  | notJson
  deriving DecidableEq, Repr

/-- The text that reports a stream that bytes cannot be read from or written to. -/
def streamFailure : String := "I/O error on language server stream"

/-- The text that reports a fault. -/
def Fault.message : Fault → String
  | .cutShort | .headerNotText => streamFailure
  | .truncatedHeaders => "stream closed in the middle of a header block"
  | .missingLength => "header block has no Content-Length"
  | .invalidLength value => "invalid Content-Length value '" ++ value ++ "'"
  | .tooLarge size => "frame of " ++ toString size ++ " bytes exceeds the maximum frame size"
  | .notJson => "frame body is not valid JSON"

/-- A header line, read. -/
inductive Header where
  | blank
  | length (n : Nat)
  | other
  deriving DecidableEq, Repr

/-- A character in lower case if it is an ASCII letter. -/
def lower (c : Char) : Char := if 'A' ≤ c && c ≤ 'Z' then Char.ofNat (c.toNat + 32) else c

/-- The name of the header that counts, in lower case. -/
def lengthName : List Char := "content-length".toList

/-- The parts of a line before and after its first colon. -/
def splitColon (line : List Char) : Option (List Char × List Char) :=
  if line.contains ':' then
    some (line.takeWhile (· != ':'), (line.dropWhile (· != ':')).drop 1)
  else none

/-- Reads the text of a header line. -/
def readHeaderText (text : List Char) : Except Fault Header :=
  match Blank.trim text with
  | [] => .ok .blank
  | line => match splitColon line with
    | none => .ok .other
    | some (name, value) =>
      if (Blank.trim name).map lower = lengthName then
        match Numeral.parse? (Blank.trim value) with
        | some n => .ok (.length n)
        | none => .error (.invalidLength (String.ofList (Blank.trim value)))
      else .ok .other

/-- Reads a header line. -/
def readHeader (line : Bytes) : Except Fault Header :=
  match Utf8.decode? line with
  | none => .error .headerNotText
  | some text => readHeaderText text.toList

/-- What stands at the front of a stream. -/
inductive Next where
  | frame (value : Json) (rest : Bytes)
  | failed (fault : Fault)
  | starved (atEnd : Option Fault)

/-- Reads a body of the given length. -/
def readBody (length : Option Nat) (bs : Bytes) : Next :=
  match length with
  | none => .failed .missingLength
  | some n =>
    if maxBytes < n then .failed (.tooLarge n)
    else if bs.length < n then .starved (some .cutShort)
    else match Json.read? (bs.take n) with
      | some value => .frame value (bs.drop n)
      | none => .failed .notJson

/-- What a stream that ends after a header line without a line feed comes to. -/
def cutLine (length : Option Nat) (line : Bytes) : Fault :=
  match readHeader line with
  | .error fault => fault
  | .ok .blank => match readBody length [] with
    | .failed fault => fault
    | _ => .cutShort
  | .ok _ => .truncatedHeaders

/-- Reads header lines up to the blank one, then the body.  `fresh` says that
nothing of the block has been read, `length` is the last length so far, and
`line` holds the bytes of the line that has begun, last byte first. -/
def readBlock (fresh : Bool) (length : Option Nat) (line : Bytes) : Bytes → Next
  | [] =>
    if line = [] then .starved (if fresh then none else some .truncatedHeaders)
    else .starved (some (cutLine length line.reverse))
  | b :: rest =>
    if b == 0x0A then
      match readHeader (b :: line).reverse with
      | .error fault => .failed fault
      | .ok .blank => readBody length rest
      | .ok (.length n) => readBlock false (some n) [] rest
      | .ok .other => readBlock false length [] rest
    else readBlock fresh length (b :: line) rest

/-- The first frame of a stream. -/
def next (bs : Bytes) : Next := readBlock true none [] bs

/-- The frames of a stream that has ended, and the fault that ends them; none
when the stream ends between frames. -/
def readAllWithin : Nat → Bytes → List Json × Option Fault
  | 0, _ => ([], none)
  | fuel + 1, bs => match next bs with
    | .frame value rest =>
      let (values, fault) := readAllWithin fuel rest
      (value :: values, fault)
    | .failed fault => ([], some fault)
    | .starved fault => ([], fault)

/-- All frames of a stream that has ended; every frame takes at least one byte. -/
def readAll (bs : Bytes) : List Json × Option Fault := readAllWithin (bs.length + 1) bs

/-- The bytes of a frame with this body. -/
def frameOf (body : Bytes) : Bytes :=
  Json.ascii ("Content-Length: ".toList ++ Numeral.render body.length ++ "\r\n\r\n".toList) ++ body

/-- The bytes of a message. -/
def write (message : Json) : Bytes := frameOf message.write

/-- The bytes of messages in a row. -/
def writeAll (messages : List Json) : Bytes := messages.flatMap write

end Frame
end Switchboard
