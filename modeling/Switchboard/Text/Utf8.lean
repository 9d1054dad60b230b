/-
# Bytes and the text they spell

Everything that crosses a process or file boundary is a list of bytes.  Three
readings of such a list as text are needed: the strict one (`decode?`), which
refuses anything that is not UTF-8, the forgiving one (`lossy`), which puts
U+FFFD in the place of each maximal ill-formed piece, and the one that keeps
the ill-formed pieces apart (`pieces`), on which `lossy` is built.
-/

namespace Switchboard

/-- A sequence of bytes, first byte first. -/
abbrev Bytes := List UInt8

namespace Utf8

/-- The UTF-8 form of a text. -/
def encode (s : String) : Bytes := s.toUTF8.data.toList

/-- The text that a byte sequence spells, if all of it is UTF-8. -/
def decode? (bs : Bytes) : Option String := String.fromUTF8? ⟨bs.toArray⟩

/-- A well-formed character, or the bytes of a maximal ill-formed piece. -/
inductive Piece where
  | char (c : Char)
  | stray (bs : Bytes)
  deriving DecidableEq, Repr

/-- A byte of the form `10xxxxxx`. -/
def isTail (b : UInt8) : Bool := 0x80 ≤ b && b ≤ 0xBF

/-- The low six bits that a continuation byte carries. -/
def tailBits (b : UInt8) : Nat := b.toNat % 64

/-- How many bytes a lead byte announces; none for a byte that cannot lead. -/
def leadWidth (b : UInt8) : Option Nat :=
  if b < 0x80 then some 1
  else if 0xC2 ≤ b && b ≤ 0xDF then some 2
  else if 0xE0 ≤ b && b ≤ 0xEF then some 3
  else if 0xF0 ≤ b && b ≤ 0xF4 then some 4
  else none

/-- Which second bytes may follow a lead of three or four bytes: the ranges
exclude overlong forms, surrogates and code points beyond U+10FFFF. -/
def secondOk (lead second : UInt8) : Bool :=
  if lead == 0xE0 then 0xA0 ≤ second && second ≤ 0xBF
  else if lead == 0xED then 0x80 ≤ second && second ≤ 0x9F
  else if lead == 0xF0 then 0x90 ≤ second && second ≤ 0xBF
  else if lead == 0xF4 then 0x80 ≤ second && second ≤ 0x8F
  else isTail second

/-- The piece that starts with the byte `a` when `rest` follows it, and how
many bytes of `rest` belong to it. -/
def firstPiece (a : UInt8) (rest : Bytes) : Piece × Nat :=
  match leadWidth a, rest with
  | some 1, _ => (.char (Char.ofNat a.toNat), 0)
  | some 2, b :: _ =>
    if isTail b then (.char (Char.ofNat (a.toNat % 32 * 64 + tailBits b)), 1)
    else (.stray [a], 0)
  | some 3, b :: rest =>
    if secondOk a b then
      match rest with
      | c :: _ =>
        if isTail c then
          (.char (Char.ofNat ((a.toNat % 16 * 64 + tailBits b) * 64 + tailBits c)), 2)
        else (.stray [a, b], 1)
      | [] => (.stray [a, b], 1)
    else (.stray [a], 0)
  | some 4, b :: rest =>
    if secondOk a b then
      match rest with
      | c :: rest =>
        if isTail c then
          match rest with
          | d :: _ =>
            if isTail d then
              (.char (Char.ofNat
                (((a.toNat % 8 * 64 + tailBits b) * 64 + tailBits c) * 64 + tailBits d)), 3)
            else (.stray [a, b, c], 2)
          | [] => (.stray [a, b, c], 2)
        else (.stray [a, b], 1)
      | [] => (.stray [a, b], 1)
    else (.stray [a], 0)
  | _, _ => (.stray [a], 0)

/-- The pieces of a byte sequence whose first `skip` bytes belong to a piece
that has been read already. -/
def piecesFrom : Nat → Bytes → List Piece
  | _, [] => []
  | skip + 1, _ :: rest => piecesFrom skip rest
  | 0, a :: rest => (firstPiece a rest).1 :: piecesFrom (firstPiece a rest).2 rest

/-- A byte sequence cut into characters and maximal ill-formed pieces. -/
def pieces (bs : Bytes) : List Piece := piecesFrom 0 bs

/-- The character that stands for a piece: U+FFFD for an ill-formed one. -/
def Piece.shown : Piece → Char
  | .char c => c
  | .stray _ => '\uFFFD'

/-- The text of a byte sequence, with U+FFFD for each ill-formed piece. -/
def lossy (bs : Bytes) : String :=
  match decode? bs with
  | some s => s
  | none => String.ofList ((pieces bs).map Piece.shown)

end Utf8
end Switchboard
