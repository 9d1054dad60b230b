/-
# The pattern of everything below a directory

A directory's text, escaped, with `/**/*` behind it always reads as a pattern
(`compile_below`), and the pattern matches exactly the texts that start with
the directory's text and a separator (`isMatch_below_iff`).

Marks are described by a property of the ends of a text (`marksBy`): what a
token does to marks is what it does to that property, one lemma a token, so a
match is read off the property of the whole text.
-/

import Switchboard.Glob.Reader
import Switchboard.Proofs.Text.Digits

namespace Switchboard
namespace Glob

/-! ### Marks as a property of ends -/

/-- The marks of the ends that have a property. -/
def marksBy (P : Bytes → Bool) (text : Bytes) : Marks := text.tails.map P

/-- Marks by a test say for each place whether the rest of the text passes. -/
theorem marksBy_cons (P : Bytes → Bool) (b : UInt8) (text : Bytes) :
    marksBy P (b :: text) = P (b :: text) :: marksBy P text := rfl

/-- The first mark is that of the whole text. -/
theorem headD_marksBy (P : Bytes → Bool) (text : Bytes) :
    (marksBy P text).headD false = P text := by
  cases text <;> rfl

/-- The marks an empty pattern starts from are those of the empty rest. -/
theorem endMarks_eq (text : Bytes) : endMarks text = marksBy List.isEmpty text := by
  induction text with
  | nil => rfl
  | cons b text ih => exact congrArg (false :: ·) ih

/-- Whether a byte that passes a test comes first and the rest has a property. -/
def startsBy (test : UInt8 → Bool) (P : Bytes → Bool) : Bytes → Bool
  | [] => false
  | b :: rest => test b && P rest

/-- A byte before a pattern is a byte before its test. -/
theorem beforeByte_marksBy (test : UInt8 → Bool) (P : Bytes → Bool) (text : Bytes) :
    beforeByte test text (marksBy P text) = marksBy (startsBy test P) text := by
  induction text with
  | nil => rfl
  | cons b text ih =>
    rw [marksBy_cons, marksBy_cons, beforeByte, ih, headD_marksBy]
    rfl

/-- Whether given bytes come first and the rest has a property. -/
def startsWithBytes (bs : Bytes) (P : Bytes → Bool) : Bytes → Bool :=
  bs.foldr (fun b => startsBy (· == b)) P

/-- Some bytes before a pattern are the bytes before its test. -/
theorem beforeBytes_marksBy (bs : Bytes) (P : Bytes → Bool) (text : Bytes) :
    beforeBytes bs text (marksBy P text) = marksBy (startsWithBytes bs P) text := by
  induction bs with
  | nil => rfl
  | cons b bs ih =>
    change beforeByte (· == b) text (beforeBytes bs text (marksBy P text)) = _
    rw [ih, beforeByte_marksBy]
    rfl

/-- A text passes if it begins with the bytes and its rest passes. -/
theorem startsWithBytes_iff {bs : Bytes} {P : Bytes → Bool} {text : Bytes} :
    startsWithBytes bs P text = true ↔ ∃ rest, text = bs ++ rest ∧ P rest = true := by
  induction bs generalizing text with
  | nil => simp [startsWithBytes]
  | cons b bs ih =>
    cases text with
    | nil => simp [startsWithBytes, startsBy]
    | cons d text =>
      change (d == b && startsWithBytes bs P text) = true ↔ _
      rw [Bool.and_eq_true, beq_iff_eq, ih]
      constructor
      · rintro ⟨rfl, rest, rfl, h⟩
        exact ⟨rest, rfl, h⟩
      · rintro ⟨rest, hrest, h⟩
        obtain ⟨rfl, rfl⟩ := List.cons.inj hrest
        exact ⟨rfl, rest, rfl, h⟩

/-- Bytes come first, and a separator next, exactly if both together come first. -/
theorem startsWithBytes_slash_iff {bs text : Bytes} :
    startsWithBytes bs (startsBy (· == slash) fun _ => true) text = true ↔
      bs ++ [slash] <+: text := by
  rw [startsWithBytes_iff]
  constructor
  · rintro ⟨rest, rfl, h⟩
    cases rest with
    | nil => simp [startsBy] at h
    | cons b rest =>
      obtain rfl : b = slash := by simpa [startsBy] using h
      exact ⟨rest, by simp⟩
  · rintro ⟨rest, rfl⟩
    exact ⟨slash :: rest, by simp, by simp [startsBy]⟩

/-- A run up to the end is before any end in which nothing stops it. -/
theorem beforeRun_endMarks (stop : UInt8 → Bool) (text : Bytes) :
    beforeRun stop text (endMarks text) = marksBy (fun rest => rest.all fun b => !stop b) text := by
  rw [endMarks_eq]
  induction text with
  | nil => rfl
  | cons b text ih =>
    rw [marksBy_cons, marksBy_cons, beforeRun, ih, headD_marksBy]
    rfl

/-- Whether an end has no separator. -/
def isSegment (text : Bytes) : Bool := text.all (· != slash)

/-- Whether some separator has an end behind it that has a property. -/
def afterSeparator (P : Bytes → Bool) : Bytes → Bool
  | [] => false
  | b :: rest => (b == slash && P rest) || afterSeparator P rest

/-- Whole segments before a pattern leave it to be met after some separator. -/
theorem beforeSegments_marksBy (P : Bytes → Bool) (text : Bytes) :
    beforeSegments text (marksBy P text) = marksBy (afterSeparator P) text := by
  induction text with
  | nil => rfl
  | cons b text ih =>
    rw [marksBy_cons, marksBy_cons, beforeSegments, ih, headD_marksBy, headD_marksBy]
    rfl

/-- The marks of two patterns together are those of either test. -/
theorem either_marksBy (P Q : Bytes → Bool) (text : Bytes) :
    either (marksBy P text) (marksBy Q text) = marksBy (fun rest => P rest || Q rest) text := by
  induction text with
  | nil => rfl
  | cons b text ih => exact congrArg ((P (b :: text) || Q (b :: text)) :: ·) ih

/-- Any text is one segment, or one segment behind its last separator. -/
theorem isSegment_or_afterSeparator (text : Bytes) :
    (isSegment text || afterSeparator isSegment text) = true := by
  induction text with
  | nil => rfl
  | cons b text ih =>
    by_cases hb : b = slash
    · subst hb
      simpa [isSegment, afterSeparator] using ih
    · rcases Bool.or_eq_true_iff.1 ih with h | h
      · simp [isSegment, hb] at h ⊢
        exact Or.inl h
      · simp [afterSeparator, h]

/-! ### The tokens of a directory -/

/-- The token of a character that stands for itself. -/
def tokenOf (c : Char) : Token :=
  if "?*[]\x7b\x7d".toList.contains c then .oneOf false [(c, c)] else .literal c

/-- What the two stars and the star behind a directory stand for. -/
def belowTokens : List Token := [.anyBetween, .star]

/-- What ends a directory pattern asks for a separator and takes any rest. -/
theorem beforeTokens_below (text : Bytes) :
    beforeTokens true text belowTokens (endMarks text) =
      marksBy (startsBy (· == slash) fun _ => true) text := by
  have hall : (fun rest => isSegment rest || afterSeparator isSegment rest) = fun _ => true :=
    funext isSegment_or_afterSeparator
  have hrun : beforeRun (· == slash) text (endMarks text) = marksBy isSegment text :=
    beforeRun_endMarks _ text
  simp only [belowTokens, beforeTokens, beforeToken, Bool.true_and]
  rw [hrun, beforeSegments_marksBy, either_marksBy, beforeByte_marksBy, hall]

/-- A character that is special in patterns is one byte, so that its class takes just that. -/
theorem classTakes_special {c : Char} (h : "?*[]\x7b\x7d".toList.contains c = true) :
    ∃ d, bytesOf c = [d] ∧ ∀ b, classTakes false [(c, c)] b = (b == d) := by
  have hc : c ∈ ['?', '*', '[', ']', '\x7b', '\x7d'] := by simpa using h
  have hascii : c.toNat < 128 := by
    simp only [List.mem_cons, List.not_mem_nil, or_false] at hc
    rcases hc with rfl | rfl | rfl | rfl | rfl | rfl <;> decide
  refine ⟨UInt8.ofNat c.toNat, Utf8.utf8EncodeChar_ascii hascii, fun b => ?_⟩
  have hrange : classTakes false [(c, c)] b =
      (decide (UInt8.ofNat c.toNat ≤ b) && decide (b ≤ UInt8.ofNat c.toNat)) := by
    simp [classTakes, byteRanges, bytesOf, Utf8.utf8EncodeChar_ascii hascii]
  rw [hrange, Bool.eq_iff_iff, Bool.and_eq_true, decide_eq_true_eq, decide_eq_true_eq, beq_iff_eq]
  exact ⟨fun hb => UInt8.le_antisymm hb.2 hb.1, fun hb => hb ▸ ⟨UInt8.le_refl _, UInt8.le_refl _⟩⟩

/-- The token of a character asks for the bytes of that character. -/
theorem beforeToken_tokenOf (text : Bytes) (c : Char) (P : Bytes → Bool) :
    beforeToken true text (tokenOf c) (marksBy P text) =
      marksBy (startsWithBytes (bytesOf c) P) text := by
  unfold tokenOf
  split
  case isTrue h =>
    obtain ⟨d, hd, htakes⟩ := classTakes_special h
    rw [beforeToken, beforeByte_marksBy, hd, funext htakes]
    rfl
  case isFalse => rw [beforeToken, beforeBytes_marksBy]

/-- To begin with two rows of bytes is to begin with the one and then the other. -/
theorem startsWithBytes_append (as bs : Bytes) (P : Bytes → Bool) :
    startsWithBytes (as ++ bs) P = startsWithBytes as (startsWithBytes bs P) := by
  rw [startsWithBytes, List.foldr_append]
  rfl

/-- The pattern of a directory asks for its bytes and a separator after them. -/
theorem beforeTokens_directory (text : Bytes) (cs : List Char) :
    beforeTokens true text (cs.map tokenOf ++ belowTokens) (endMarks text) =
      marksBy
        (startsWithBytes (cs.flatMap bytesOf) (startsBy (· == slash) fun _ => true)) text := by
  induction cs with
  | nil => exact beforeTokens_below text
  | cons c cs ih =>
    rw [List.map_cons, List.cons_append, beforeTokens, ih, beforeToken_tokenOf, List.flatMap_cons,
      startsWithBytes_append]

/-! ### Reading the pattern -/

/-- An escaped character is read back as the token of that character. -/
theorem readFrom_escapeChar {c : Char} (hc : c ≠ '\\') (fuel : Nat) (p : Progress)
    (hp : p.groups = []) (rest : List Char) :
    ∃ last, readFrom (fuel + 1) p (escapeChar c ++ rest) =
      readFrom fuel ⟨[], tokenOf c :: p.current, last⟩ rest := by
  obtain ⟨groups, current, last⟩ := p
  subst hp
  unfold escapeChar tokenOf
  split
  case isTrue h =>
    have hmem : c ∈ ['?', '*', '[', ']', '\x7b', '\x7d'] := by simpa using h
    refine ⟨some ']', ?_⟩
    simp only [List.mem_cons, List.not_mem_nil, or_false] at hmem
    rcases hmem with rfl | rfl | rfl | rfl | rfl | rfl <;>
      simp [readFrom, readClass, Progress.push]
  case isFalse h =>
    have hmem : c ∉ ['?', '*', '[', ']', '\x7b', '\x7d'] := by simpa using h
    simp only [List.mem_cons, List.not_mem_nil, or_false, not_or] at hmem
    obtain ⟨h₁, h₂, h₃, -, h₅, h₆⟩ := hmem
    refine ⟨some c, ?_⟩
    cases rest <;> simp [readFrom, Progress.push, hc, h₁, h₂, h₃, h₅, h₆]

/-- Two stars between separators take the separator before them along. -/
theorem readStars_between (current : List Token) (rest : List Char) :
    readStars ⟨[], .literal '/' :: current, some '/'⟩ ('/' :: rest) =
      (⟨[], .anyBetween :: current, some '/'⟩, rest) := rfl

/-- The characters of a directory, escaped, become their tokens. -/
theorem readFrom_escaped {cs : List Char} (hcs : '\\' ∉ cs) (fuel : Nat) (p : Progress)
    (hp : p.groups = []) (hfuel : cs.length + 4 ≤ fuel) :
    readFrom fuel p (cs.flatMap escapeChar ++ "/**/*".toList) =
      .ok (p.current.reverse ++ (cs.map tokenOf ++ belowTokens)) := by
  induction cs generalizing fuel p with
  | nil =>
    obtain ⟨fuel, rfl⟩ : ∃ n, fuel = n + 4 := ⟨fuel - 4, by simp at hfuel; omega⟩
    obtain ⟨groups, current, last⟩ := p
    subst hp
    simp [readFrom, readStars_between, Progress.push, belowTokens]
  | cons c cs ih =>
    obtain ⟨fuel, rfl⟩ : ∃ n, fuel = n + 1 := ⟨fuel - 1, by simp at hfuel; omega⟩
    have hc : c ≠ '\\' := fun h => hcs (h ▸ List.mem_cons_self ..)
    obtain ⟨last, hread⟩ := readFrom_escapeChar hc fuel p hp
      (cs.flatMap escapeChar ++ "/**/*".toList)
    rw [List.flatMap_cons, List.append_assoc, hread,
      ih (fun h => hcs (List.mem_cons_of_mem _ h)) fuel _ rfl (by simp at hfuel; omega)]
    simp

/-- The pattern of everything below a directory. -/
def below (directory : String) : Pattern := ⟨directory.toList.map tokenOf ++ belowTokens, true⟩

/-- **The pattern of everything below a directory always reads.** -/
theorem compile_below {directory : String} (h : '\\' ∉ directory.toList) :
    compile (escape directory ++ "/**/*") true = .ok (below directory) := by
  have hlen : directory.toList.length ≤ (directory.toList.flatMap escapeChar).length := by
    rw [List.length_flatMap]
    refine le_trans ?_ (List.length_le_sum_of_one_le _ fun n hn => ?_)
    · simp
    · obtain ⟨c, -, rfl⟩ := List.mem_map.1 hn
      unfold escapeChar
      split <;> simp
  have hread : read (escape directory ++ "/**/*") =
      .ok (directory.toList.map tokenOf ++ belowTokens) := by
    rw [read, escape, String.toList_append, String.toList_ofList,
      readFrom_escaped h _ _ rfl (by simp at hlen ⊢; omega)]
    rfl
  rw [compile, hread]
  rfl

/-- A string is encoded character by character. -/
theorem encode_eq_flatMap (s : String) : Utf8.encode s = s.toList.flatMap bytesOf := by
  conv_lhs => rw [← String.ofList_toList (s := s), Utf8.encode_ofList]
  rfl

/-- **Exactly the texts below a directory match its pattern.** -/
theorem isMatch_below_iff (directory : String) (text : Bytes) :
    (below directory).isMatch text = true ↔ Utf8.encode directory ++ [slash] <+: text := by
  have hmatch : (below directory).isMatch text =
      startsWithBytes (Utf8.encode directory) (startsBy (· == slash) fun _ => true) text := by
    have htokens : ∀ t, (below directory).tokens ≠ [t] := by
      intro t h
      have := congrArg List.length h
      simp [below, belowTokens] at this
    rw [Pattern.isMatch]
    split
    · exact absurd ‹_› (htokens _)
    · rw [encode_eq_flatMap, ← headD_marksBy (startsWithBytes _ _), ← beforeTokens_directory]
      rfl
  rw [hmatch, startsWithBytes_slash_iff]

end Glob
end Switchboard
