/-
# Quoted text

How text and paths are written where a reader has to see every character: in
double quotes, with an escape for quotes, backslashes and whatever does not
print.  A path may hold bytes that are no text; each is written by its number.
-/

import Switchboard.Path.Basic
import Switchboard.Text.Printable

namespace Switchboard
namespace Quoted

/-- A character by its number. -/
def byNumber (c : Char) : List Char :=
  ['\\', 'u', '\x7b'] ++ Nat.toDigits 16 c.toNat ++ ['\x7d']

/-- A character inside quotes. -/
def escape (c : Char) : List Char :=
  match c with
  | '\x00' => ['\\', '0']
  | '\t' => ['\\', 't']
  | '\r' => ['\\', 'r']
  | '\n' => ['\\', 'n']
  | '"' => ['\\', '"']
  | '\\' => ['\\', '\\']
  | c => if Printable.isPrintable c then [c] else byNumber c

/-- A text in quotes. -/
def text (s : String) : String := String.ofList ('"' :: s.toList.flatMap escape ++ ['"'])

/-- The upper-case hexadecimal digits of a byte. -/
def byteDigits (b : UInt8) : List Char :=
  [b.toNat / 16, b.toNat % 16].map fun n => if n < 10 then n.digitChar else Char.ofNat (n + 0x37)

/-- A byte that is no text. -/
def strayByte (b : UInt8) : List Char := '\\' :: 'x' :: byteDigits b

/-- A piece of a path. -/
def piece : Utf8.Piece → List Char
  | .char c => escape c
  | .stray bs => bs.flatMap strayByte

/-- A path in quotes. -/
def path (p : Path) : String :=
  String.ofList ('"' :: (Utf8.pieces p.bytes).flatMap piece ++ ['"'])

example : escape '"' = ['\\', '"'] ∧ escape '\n' = ['\\', 'n'] ∧
    strayByte 0xFF = ['\\', 'x', 'F', 'F'] := by decide

end Quoted
end Switchboard
