/-
# Strings in TOML

Four kinds of strings: basic ones with escapes and literal ones without, each
on one line or, between three quotes, on several.  The first line break of a
long string does not count, every other one is kept as it is written, a
backslash at the end of a line swallows the blanks and breaks after it, and up
to two quotes may stand before the closing three.
-/

import Switchboard.Json.Raw

namespace Switchboard
namespace Toml

/-- A character that may stand in a comment or a string as itself. -/
def isPlain (c : Char) : Bool := c == '\t' || (0x20 ≤ c.toNat && c.toNat != 0x7F)

/-- The text behind a line break, if it starts with one. -/
def afterBreak? : List Char → Option (List Char)
  | '\n' :: rest => some rest
  | '\r' :: '\n' :: rest => some rest
  | _ => none

/-- Blanks within a line. -/
def isSpace (c : Char) : Bool := c == ' ' || c == '\t'

/-- The text behind the blanks at its front. -/
def skipSpace (cs : List Char) : List Char := cs.dropWhile isSpace

/-- The value of a hexadecimal digit. -/
def hexDigit? (c : Char) : Option Nat :=
  if c.toNat < 0x80 then Raw.hexDigit? (UInt8.ofNat c.toNat) else none

/-- The character that `n` hexadecimal digits spell, and what follows them. -/
def readHex? (n : Nat) (cs : List Char) : Option (Char × List Char) :=
  let digits := cs.take n
  if digits.length = n then
    (digits.foldlM (fun v c => (hexDigit? c).map fun d => v * 16 + d) 0).bind fun v =>
      if h : v.isValidChar then some (Char.ofNatAux v h, cs.drop n) else none
  else none

/-- The character that an escape spells, and what follows it. -/
def readEscape? : List Char → Option (Char × List Char)
  | 'b' :: rest => some ('\x08', rest)
  | 't' :: rest => some ('\t', rest)
  | 'n' :: rest => some ('\n', rest)
  | 'f' :: rest => some ('\x0c', rest)
  | 'r' :: rest => some ('\r', rest)
  | 'e' :: rest => some ('\x1b', rest)
  | '"' :: rest => some ('"', rest)
  | '\\' :: rest => some ('\\', rest)
  | 'x' :: rest => readHex? 2 rest
  | 'u' :: rest => readHex? 4 rest
  | 'U' :: rest => readHex? 8 rest
  | _ => none

/-- The text behind the blanks and line breaks at its front. -/
def skipBreaks : Nat → List Char → List Char
  | 0, cs => cs
  | fuel + 1, cs => match afterBreak? (skipSpace cs) with
    | some rest => skipBreaks fuel rest
    | none => skipSpace cs

/-- The rest of a one-line basic string. -/
def readBasic? : Nat → List Char → Option (List Char × List Char)
  | 0, _ => none
  | _, [] => none
  | _ + 1, '"' :: rest => some ([], rest)
  | fuel + 1, '\\' :: rest =>
    (readEscape? rest).bind fun (c, rest) =>
      (readBasic? fuel rest).map fun (s, rest) => (c :: s, rest)
  | fuel + 1, c :: rest =>
    if isPlain c then (readBasic? fuel rest).map fun (s, rest) => (c :: s, rest) else none

/-- The rest of a one-line literal string. -/
def readLiteral? : List Char → Option (List Char × List Char)
  | [] => none
  | '\'' :: rest => some ([], rest)
  | c :: rest =>
    if isPlain c then (readLiteral? rest).map fun (s, rest) => (c :: s, rest) else none

/-- The end of a long string, if the text starts with it: the quotes before the
closing three, of which there are at most two, and what follows. -/
def closing? (quote : Char) (cs : List Char) : Option (List Char × List Char) :=
  let n := (cs.takeWhile (· == quote)).length
  if 3 ≤ n then
    let extra := min (n - 3) 2
    some (List.replicate extra quote, cs.drop (3 + extra))
  else none

/-- The rest of a long string; `escapes` says whether it is a basic one. -/
def readLong? (quote : Char) (escapes : Bool) : Nat → List Char → Option (List Char × List Char)
  | 0, _ => none
  | _, [] => none
  | fuel + 1, c :: rest =>
    match closing? quote (c :: rest) with
    | some found => some found
    | none =>
      if c = '\\' && escapes then
        match afterBreak? (skipSpace rest) with
        | some rest => readLong? quote escapes fuel (skipBreaks rest.length rest)
        | none => (readEscape? rest).bind fun (e, rest) =>
          (readLong? quote escapes fuel rest).map fun (s, rest) => (e :: s, rest)
      else if isPlain c || (afterBreak? (c :: rest)).isSome then
        (readLong? quote escapes fuel rest).map fun (s, rest) => (c :: s, rest)
      else none

/-- A long string whose opening quotes have been read. -/
def readLongOpen? (quote : Char) (escapes : Bool) (cs : List Char) :
    Option (List Char × List Char) :=
  readLong? quote escapes (cs.length + 1) ((afterBreak? cs).getD cs)

/-- The string at the front of a text, short or long; none if there is none. -/
def readString? : List Char → Option (List Char × List Char)
  | '"' :: '"' :: '"' :: rest => readLongOpen? '"' true rest
  | '\'' :: '\'' :: '\'' :: rest => readLongOpen? '\'' false rest
  | '"' :: rest => readBasic? (rest.length + 1) rest
  | '\'' :: rest => readLiteral? rest
  | _ => none

end Toml
end Switchboard
