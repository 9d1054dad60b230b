/-
# Glob patterns

A pattern is a list of tokens that match one after the other.  Matching works
on bytes and goes through the tokens once, from the last to the first.  It
keeps a mark for every end of the text, the text itself first and the empty end
last: whether what comes after the token at hand can match that end.  A token
turns these marks into those of the tokens from itself on, so the work is the
length of the text for each token, however many ways there are to match.

A star takes anything, separators too, unless the pattern keeps them literal.
Two stars that fill a whole segment take any number of segments: in front of
the pattern, at its end, or between two separators.
-/

import Switchboard.Text.Utf8

namespace Switchboard
namespace Glob

/-- A piece of a pattern. -/
inductive Token where
  | literal (c : Char)
  | any
  | star
  | anyFront
  | anyEnd
  | anyBetween
  | oneOf (negated : Bool) (ranges : List (Char × Char))
  | alternates (branches : List (List Token))
  deriving Repr, Inhabited

/-- A parsed pattern, and whether its stars stop at separators. -/
structure Pattern where
  tokens : List Token
  literalSeparator : Bool

/-- The byte that separates segments. -/
def slash : UInt8 := 0x2F

/-- The bytes of a character. -/
def bytesOf (c : Char) : Bytes := String.utf8EncodeChar c

/-- The byte ranges of a range of characters in a class: the bytes of its ends
stand for themselves, and between the last byte of the first character and the
first byte of the last one the class takes everything. -/
def byteRanges (r : Char × Char) : List (UInt8 × UInt8) :=
  let single (bs : Bytes) : List (UInt8 × UInt8) := bs.map fun b => (b, b)
  if r.1 = r.2 then single (bytesOf r.1)
  else
    single (bytesOf r.1).dropLast ++
      [((bytesOf r.1).getLast?.getD 0, (bytesOf r.2).head?.getD 0)] ++ single ((bytesOf r.2).drop 1)

/-- Whether a class takes a byte. -/
def classTakes (negated : Bool) (ranges : List (Char × Char)) (b : UInt8) : Bool :=
  (ranges.any fun r => (byteRanges r).any fun (lo, hi) => lo ≤ b && b ≤ hi) != negated

/-- For every end of a text, the longest first, whether what follows can match it. -/
abbrev Marks := List Bool

/-- The marks when nothing follows: only the empty end matches. -/
def endMarks (text : Bytes) : Marks := text.map (fun _ => false) ++ [true]

/-- The marks in front of one byte that passes a test. -/
def beforeByte (test : UInt8 → Bool) : Bytes → Marks → Marks
  | b :: text, _ :: marks => (test b && marks.headD false) :: beforeByte test text marks
  | _, _ => [false]

/-- The marks in front of a row of given bytes. -/
def beforeBytes (bs text : Bytes) (marks : Marks) : Marks :=
  bs.foldr (fun b marks => beforeByte (· == b) text marks) marks

/-- The marks in front of any number of bytes, none of them one that stops. -/
def beforeRun (stops : UInt8 → Bool) : Bytes → Marks → Marks
  | b :: text, m :: marks =>
    let later := beforeRun stops text marks
    (m || (!stops b && later.headD false)) :: later
  | _, marks => marks

/-- The marks in front of anything that ends with a separator. -/
def beforeSegments : Bytes → Marks → Marks
  | b :: text, _ :: marks =>
    let later := beforeSegments text marks
    ((b == slash && marks.headD false) || later.headD false) :: later
  | _, _ => [false]

/-- The marks of either of two ways on. -/
def either (xs ys : Marks) : Marks := List.zipWith (· || ·) xs ys

mutual

/-- Whether a branch takes part in its group: one without any token does not. -/
def hasTokens : List Token → Bool
  | [] => false
  | t :: rest => emits t || hasTokens rest

/-- Whether a token stands for anything. -/
def emits : Token → Bool
  | .alternates branches => hasBranches branches
  | _ => true

/-- Whether some branch of a group takes part in it. -/
def hasBranches : List (List Token) → Bool
  | [] => false
  | branch :: rest => hasTokens branch || hasBranches rest

end

mutual

/-- The marks in front of a token. -/
def beforeToken (literalSeparator : Bool) (text : Bytes) : Token → Marks → Marks
  | .literal c, marks => beforeBytes (bytesOf c) text marks
  | .any, marks => beforeByte (fun b => !(literalSeparator && b == slash)) text marks
  | .star, marks => beforeRun (fun b => literalSeparator && b == slash) text marks
  | .anyFront, marks => either marks (beforeSegments text marks)
  | .anyEnd, marks => beforeByte (· == slash) text (beforeRun (fun _ => false) text marks)
  | .anyBetween, marks =>
    beforeByte (· == slash) text (either marks (beforeSegments text marks))
  | .oneOf negated ranges, marks => beforeByte (classTakes negated ranges) text marks
  | .alternates branches, marks =>
    if hasBranches branches then beforeBranches literalSeparator text branches marks else marks

/-- The marks in front of tokens in a row. -/
def beforeTokens (literalSeparator : Bool) (text : Bytes) : List Token → Marks → Marks
  | [], marks => marks
  | t :: rest, marks =>
    beforeToken literalSeparator text t (beforeTokens literalSeparator text rest marks)

/-- The marks in front of one of the branches that take part. -/
def beforeBranches (literalSeparator : Bool) (text : Bytes) : List (List Token) → Marks → Marks
  | [], marks => marks.map fun _ => false
  | branch :: rest, marks =>
    let others := beforeBranches literalSeparator text rest marks
    if hasTokens branch then either (beforeTokens literalSeparator text branch marks) others
    else others

end

/-- Whether a pattern matches a whole text; two stars alone match everything. -/
def Pattern.isMatch (p : Pattern) (text : Bytes) : Bool :=
  match p.tokens with
  | [.anyFront] => true
  | tokens => (beforeTokens p.literalSeparator text tokens (endMarks text)).headD false

end Glob
end Switchboard
