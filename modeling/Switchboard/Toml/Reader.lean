/-
# Reading TOML

A document is a row of lines: a header in brackets, a key with a value, or
nothing, each with an optional comment.  Arrays and inline tables may go over
several lines, with comments between their parts and a comma after the last
item; only the parts of a dotted key stay together.  Arrays and inline tables
nest at most as deep as a key may have parts.
-/

import Switchboard.Toml.Document

namespace Switchboard
namespace Toml

/-- A character of a key without quotes. -/
def isBare (c : Char) : Bool :=
  isDigit c || ('a' ≤ c && c ≤ 'z') || ('A' ≤ c && c ≤ 'Z') || c == '_' || c == '-'

/-- One part of a key. -/
def readKeyPart? (cs : List Char) : Option (String × List Char) :=
  match cs with
  | '"' :: rest => (readBasic? (rest.length + 1) rest).map fun (s, rest) => (String.ofList s, rest)
  | '\'' :: rest => (readLiteral? rest).map fun (s, rest) => (String.ofList s, rest)
  | _ =>
    let part := cs.takeWhile isBare
    if part.isEmpty then none else some (String.ofList part, cs.drop part.length)

/-- How many parts a key may have, and how deep arrays and inline tables may nest. -/
def maxDepth : Nat := 80

/-- The parts of a key, of which there may be so many, with dots between them. -/
def readParts? : Nat → List Char → Option (List String × List Char)
  | 0, _ => none
  | left + 1, cs =>
    (readKeyPart? (skipSpace cs)).bind fun (part, rest) =>
      match skipSpace rest with
      | '.' :: rest => (readParts? left rest).map fun (parts, rest) => (part :: parts, rest)
      | rest => some ([part], rest)

/-- The parts of a key. -/
def readKey? (cs : List Char) : Option (List String × List Char) := readParts? maxDepth cs

/-- What follows a comment, if one starts here; a comment holds no control characters. -/
def afterComment? (cs : List Char) : Option (List Char) :=
  match cs with
  | '#' :: rest =>
    let after := rest.dropWhile isPlain
    if after.isEmpty || (afterBreak? after).isSome then some after else none
  | _ => some cs

/-- What follows blanks, comments and line breaks. -/
def skipLines? : Nat → List Char → Option (List Char)
  | 0, cs => some cs
  | fuel + 1, cs =>
    (afterComment? (skipSpace cs)).bind fun rest =>
      match afterBreak? rest with
      | some rest => skipLines? fuel rest
      | none => some rest

mutual

/-- The value at the front of a text, with so much nesting allowed in it. -/
def readValue? : Nat → Nat → List Char → Option (Value × List Char)
  | 0, _, _ => none
  | fuel + 1, depth, cs =>
    match cs, depth with
    | '[' :: rest, depth + 1 =>
      (readItems? fuel depth rest).map fun (items, rest) => (.array items, rest)
    | '\x7b' :: rest, depth + 1 =>
      (readMembers? fuel depth [] rest).map fun (ms, rest) => (.table (finishMembers ms), rest)
    | '"' :: _, _ => (readString? cs).map fun (s, rest) => (.text (String.ofList s), rest)
    | '\'' :: _, _ => (readString? cs).map fun (s, rest) => (.text (String.ofList s), rest)
    | _, _ =>
      let word := token cs
      (scalar? word).map fun s => (Value.ofScalar s, cs.drop word.length)

/-- The items of an array up to its bracket. -/
def readItems? : Nat → Nat → List Char → Option (List Value × List Char)
  | 0, _, _ => none
  | fuel + 1, depth, cs =>
    (skipLines? cs.length cs).bind fun cs =>
      match cs with
      | ']' :: rest => some ([], rest)
      | _ => (readValue? fuel depth cs).bind fun (item, rest) =>
        (skipLines? rest.length rest).bind fun rest =>
          match rest with
          | ']' :: rest => some ([item], rest)
          | ',' :: rest =>
            (readItems? fuel depth rest).map fun (items, rest) => (item :: items, rest)
          | _ => none

/-- The members of an inline table up to its brace, after those already read. -/
def readMembers? : Nat → Nat → Members → List Char → Option (Members × List Char)
  | 0, _, _, _ => none
  | fuel + 1, depth, ms, cs =>
    (skipLines? cs.length cs).bind fun cs =>
      match cs with
      | '\x7d' :: rest => some (ms, rest)
      | _ => (readKey? cs).bind fun (key, rest) =>
        (skipLines? rest.length rest).bind fun rest =>
          match rest with
          | '=' :: rest => (skipLines? rest.length rest).bind fun rest =>
            (readValue? fuel depth rest).bind fun (value, rest) =>
              (Members.insert value (key.getLast?.getD "") key.dropLast ms).bind fun ms =>
                (skipLines? rest.length rest).bind fun rest =>
                  match rest with
                  | '\x7d' :: rest => some (ms, rest)
                  | ',' :: rest => readMembers? fuel depth ms rest
                  | _ => none
          | _ => none

end

/-- A document as far as it has been read: its members and the header in force. -/
structure Draft where
  members : Members
  header : List String

/-- Takes in a header. -/
def Draft.open? (d : Draft) (element : Bool) (path : List String) : Option Draft :=
  let key := path.getLast?.getD ""
  let change := if element then Members.openElement key else Members.openTable key
  (Members.atHeader change path.dropLast d.members).map fun ms => ⟨ms, path⟩

/-- Takes in a key and its value. -/
def Draft.insert? (d : Draft) (path : List String) (value : Value) : Option Draft :=
  (Members.atHeader (Members.insert value (path.getLast?.getD "") path.dropLast) d.header
    d.members).map fun ms => ⟨ms, d.header⟩

/-- Takes in what a line holds before its comment; gives what follows. -/
def readLine? (d : Draft) (cs : List Char) : Option (Draft × List Char) :=
  match cs with
  | [] => some (d, [])
  | '#' :: _ => some (d, cs)
  | '\n' :: _ => some (d, cs)
  | '\r' :: _ => some (d, cs)
  | '[' :: '[' :: rest => (readKey? rest).bind fun (path, rest) =>
    match rest with
    | ']' :: ']' :: rest => (d.open? true path).map fun d => (d, rest)
    | _ => none
  | '[' :: rest => (readKey? rest).bind fun (path, rest) =>
    match rest with
    | ']' :: rest => (d.open? false path).map fun d => (d, rest)
    | _ => none
  | _ => (readKey? cs).bind fun (path, rest) =>
    match rest with
    | '=' :: rest =>
      (readValue? (2 * cs.length) maxDepth (skipSpace rest)).bind fun (value, rest) =>
        (d.insert? path value).map fun d => (d, rest)
    | _ => none

/-- Reads lines up to the end. -/
def readLines? : Nat → Draft → List Char → Option Draft
  | 0, _, _ => none
  | fuel + 1, d, cs =>
    (readLine? d (skipSpace cs)).bind fun (d, rest) =>
      (afterComment? (skipSpace rest)).bind fun rest =>
        match rest with
        | [] => some d
        | rest => (afterBreak? rest).bind (readLines? fuel d)

/-- The members of a document; a byte order mark before it does not count. -/
def read? (text : String) : Option (List (String × Value)) :=
  let cs := match text.toList with
    | '\uFEFF' :: rest => rest
    | cs => cs
  (readLines? (cs.length + 1) ⟨[], []⟩ cs).map fun d => finishMembers d.members

end Toml
end Switchboard
