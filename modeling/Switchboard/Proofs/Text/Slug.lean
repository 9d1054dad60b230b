/-
# What a slug is made of

A slug is decided character by character on what has been written so far.  What
comes out is said without that: the runs of ASCII letters and digits of a name, in
lower case (`Slug.words`), with single dashes between them (`Slug.ofChars_eq`).  The
words can be read off a slug again (`Slug.words_ofChars`), so a slug is its own slug
and two names share one exactly when they have the same words.
-/

import Mathlib.Tactic
import Switchboard.Proofs.Text.Digits
import Switchboard.Proofs.Text.Pieces
import Switchboard.Text.Slug

namespace Switchboard
namespace Slug

variable {c : Char} {cs name other out : List Char}

/-! ### Characters -/

/-- A small ASCII letter or a digit. -/
def isPlain (c : Char) : Bool := ('a' ≤ c && c ≤ 'z') || ('0' ≤ c && c ≤ '9')

/-- The plain characters are the small letters and the digits. -/
theorem isPlain_iff :
    isPlain c = true ↔ (97 ≤ c.toNat ∧ c.toNat ≤ 122) ∨ (48 ≤ c.toNat ∧ c.toNat ≤ 57) := by
  simp only [isPlain, Bool.or_eq_true, Bool.and_eq_true, decide_eq_true_iff, Char.le_def,
    UInt32.le_iff_toNat_le]
  rfl

/-- The characters kept are the plain ones and the capitals. -/
theorem isKept_iff :
    isKept c = true ↔ isPlain c = true ∨ (65 ≤ c.toNat ∧ c.toNat ≤ 90) := by
  have hcapital : ('A' ≤ c ∧ c ≤ 'Z') ↔ 65 ≤ c.toNat ∧ c.toNat ≤ 90 := by
    simp only [Char.le_def, UInt32.le_iff_toNat_le]
    rfl
  rw [← hcapital]
  simp only [isKept, isPlain, Bool.or_eq_true, Bool.and_eq_true, decide_eq_true_iff]
  tauto

/-- Plain characters are kept. -/
theorem isKept_of_isPlain (h : isPlain c = true) : isKept c = true := isKept_iff.2 (.inl h)

/-- A dash is not plain. -/
theorem ne_dash_of_isPlain (h : isPlain c = true) : c ≠ '-' := by
  rintro rfl
  exact absurd h (by decide)

/-- A small letter or a digit is in lower case already. -/
theorem lower_of_isPlain (h : isPlain c = true) : lower c = c := by
  refine if_neg ?_
  simp only [Bool.and_eq_true, decide_eq_true_iff, Char.le_def, UInt32.le_iff_toNat_le]
  show ¬ (65 ≤ c.toNat ∧ c.toNat ≤ 90)
  have hrange := isPlain_iff.1 h
  omega

/-- What is kept is plain once it is lowered. -/
theorem isPlain_lower (h : isKept c = true) : isPlain (lower c) = true := by
  rcases isKept_iff.1 h with hplain | hcapital
  · rw [lower_of_isPlain hplain]
    exact hplain
  · have hlower : lower c = Char.ofNat (c.toNat + 32) := by
      refine if_pos ?_
      simp only [Bool.and_eq_true, decide_eq_true_iff, Char.le_def, UInt32.le_iff_toNat_le]
      exact hcapital
    rw [hlower, isPlain_iff, Utf8.toNat_ofNat (by omega)]
    omega

/-- No character that is kept becomes a dash. -/
theorem ne_dash_of_lower (h : isKept c = true) : lower c ≠ '-' :=
  ne_dash_of_isPlain (isPlain_lower h)

/-! ### Words -/

/-- The runs of a name: its maximal runs of characters that a slug keeps. -/
def runs (name : List Char) : List (List Char) :=
  (name.splitOnP fun c => !isKept c).filter fun run => !run.isEmpty

/-- The runs of a name in lower case. -/
def words (name : List Char) : List (List Char) := (runs name).map (List.map lower)

/-- A character that is not kept belongs to no run. -/
theorem runs_cons_of_not_isKept (h : isKept c = false) : runs (c :: cs) = runs cs := by
  rw [runs, List.splitOnP_cons_eq_if_modifyHead, if_pos (by simp [h])]
  exact List.filter_cons_of_neg (by simp)

/-- A character that is kept belongs to the piece in front. -/
theorem exists_runs_cons (h : isKept c = true) : ∃ first rest,
    cs.splitOnP (fun c => !isKept c) = first :: rest ∧
      runs (c :: cs) = (c :: first) :: rest.filter fun run => !run.isEmpty := by
  obtain ⟨first, rest, hsplit⟩ := List.exists_cons_of_ne_nil
    (List.splitOnP_ne_nil (fun c => !isKept c) cs)
  refine ⟨first, rest, hsplit, ?_⟩
  rw [runs, List.splitOnP_cons_eq_if_modifyHead, if_neg (by simp [h]), hsplit]
  exact List.filter_cons_of_pos (by simp)

/-- Between the characters that are not kept all are kept. -/
theorem isKept_of_mem_splitOnP {piece : List Char}
    (h : piece ∈ name.splitOnP fun c => !isKept c) : ∀ c ∈ piece, isKept c = true := by
  intro c hc
  simpa using Pieces.eq_false_of_mem_splitOnP h c hc

/-- A word is not empty and holds small letters and digits alone. -/
theorem isPlain_of_mem_words {word : List Char} (h : word ∈ words name) :
    word ≠ [] ∧ ∀ c ∈ word, isPlain c = true := by
  obtain ⟨run, hrun, rfl⟩ := List.mem_map.1 h
  obtain ⟨hpiece, hne⟩ := List.mem_filter.1 hrun
  constructor
  · intro hnil
    rw [List.map_eq_nil_iff.1 hnil] at hne
    exact absurd hne (by simp)
  · intro c hc
    obtain ⟨d, hd, rfl⟩ := List.mem_map.1 hc
    exact isPlain_lower (isKept_of_mem_splitOnP hpiece d hd)

/-! ### Writing the words -/

/-- What has been written, last character first, with no dash at its end. -/
def tidy (out : List Char) : List Char := (out.dropWhile (· == '-')).reverse

/-- Tidying keeps a last character that is no dash. -/
theorem tidy_cons_of_ne (h : c ≠ '-') : tidy (c :: out) = out.reverse ++ [c] := by
  rw [tidy, List.dropWhile_cons_of_neg (by simpa using h), List.reverse_cons]

/-- Tidying drops the dash at the end. -/
theorem tidy_dash (out : List Char) : tidy ('-' :: out) = tidy out :=
  congrArg List.reverse (List.dropWhile_cons_of_pos (by simp))

/-- A character that is kept is put down in lower case. -/
theorem step_of_isKept (h : isKept c = true) : step out c = lower c :: out := if_pos h

/-- Nothing is put down for what stands before the first run. -/
theorem step_nil_of_not_isKept (h : isKept c = false) : step [] c = [] := if_neg (by simp [h])

/-- One dash is enough between two runs. -/
theorem step_dash_of_not_isKept (h : isKept c = false) :
    step ('-' :: out) c = '-' :: out := if_neg (by simp [h])

/-- The first character after a run that is not kept is put down as a dash. -/
theorem step_letter_of_not_isKept {d : Char} (hd : d ≠ '-') (h : isKept c = false) :
    step (d :: out) c = '-' :: d :: out := by
  unfold step
  rw [if_neg (by simp [h])]
  split
  next hnil => exact absurd hnil (by simp)
  next hdash => exact absurd (List.cons.inj hdash).1 hd
  next => rfl

/-- The words behind a dash each. -/
def behindDashes (pieces : List (List Char)) : List Char :=
  (pieces.filter fun run => !run.isEmpty).flatMap fun run => '-' :: run.map lower

/-- What is written after a letter: while the run goes on it is added to the letter, and every
later run comes behind a dash; after a dash, every run does. -/
theorem tidy_foldl_step (d : Char) (hd : d ≠ '-') (out : List Char) :
    (∀ first rest, cs.splitOnP (fun c => !isKept c) = first :: rest →
      tidy (cs.foldl step (d :: out)) =
        out.reverse ++ d :: first.map lower ++ behindDashes rest) ∧
    tidy (cs.foldl step ('-' :: d :: out)) =
      out.reverse ++ d :: behindDashes (cs.splitOnP fun c => !isKept c) := by
  induction cs generalizing d out with
  | nil =>
    rw [List.splitOnP_nil]
    constructor
    · intro first rest hsplit
      obtain ⟨rfl, rfl⟩ := List.cons.inj hsplit
      exact (tidy_cons_of_ne hd).trans (List.append_nil _).symm
    · exact (tidy_dash _).trans (tidy_cons_of_ne hd)
  | cons c cs ih =>
    rw [List.splitOnP_cons_eq_if_modifyHead]
    cases hc : isKept c with
    | true =>
      -- The run goes on, or a new one begins behind the dash.
      obtain ⟨first, rest, hsplit⟩ := List.exists_cons_of_ne_nil
        (List.splitOnP_ne_nil (fun c => !isKept c) cs)
      have hc' := ne_dash_of_lower hc
      rw [hsplit, if_neg (by simp), List.modifyHead_cons, List.foldl_cons, List.foldl_cons,
        step_of_isKept hc, step_of_isKept hc]
      constructor
      · intro first' rest' hpieces
        obtain ⟨rfl, rfl⟩ := List.cons.inj hpieces
        rw [(ih (lower c) hc' (d :: out)).1 first rest hsplit]
        simp
      · rw [(ih (lower c) hc' ('-' :: d :: out)).1 first rest hsplit]
        simp [behindDashes]
    | false =>
      rw [if_pos (by simp), List.foldl_cons, List.foldl_cons, step_letter_of_not_isKept hd hc,
        step_dash_of_not_isKept hc, (ih d hd out).2]
      constructor
      · intro first rest hpieces
        obtain ⟨rfl, rfl⟩ := List.cons.inj hpieces
        simp
      · simp [behindDashes]

/-- Words joined by dashes are the first word and the others, a dash before each. -/
theorem intercalate_cons (word : List Char) (more : List (List Char)) :
    ['-'].intercalate (word :: more) = word ++ more.flatMap ('-' :: ·) := by
  induction more generalizing word with
  | nil => simp [List.intercalate]
  | cons next more ih => rw [List.intercalate_cons_cons, ih, List.flatMap_cons]; simp

/-- **A slug is the words of a name with single dashes between them.** -/
theorem ofChars_eq (name : List Char) : ofChars name = ['-'].intercalate (words name) := by
  show tidy (name.foldl step []) = _
  induction name with
  | nil => rfl
  | cons c cs ih =>
    cases hc : isKept c with
    | true =>
      obtain ⟨first, rest, hsplit, hruns⟩ := @exists_runs_cons _ cs hc
      have hwritten := (tidy_foldl_step (lower c) (ne_dash_of_lower hc) []).1 first rest hsplit
      rw [List.foldl_cons, step_of_isKept hc, hwritten, words, hruns, List.map_cons,
        intercalate_cons, List.flatMap_map]
      rfl
    | false =>
      rw [List.foldl_cons, step_nil_of_not_isKept hc, words, runs_cons_of_not_isKept hc, ih, words]

/-! ### Reading the words -/

/-- No word has a dash in it. -/
theorem dash_not_mem_words {word : List Char} (h : word ∈ words name) : '-' ∉ word :=
  fun hdash => ne_dash_of_isPlain ((isPlain_of_mem_words h).2 _ hdash) rfl

/-- **A slug holds small letters, digits and dashes alone.** -/
theorem isPlain_or_dash (h : c ∈ ofChars name) : isPlain c = true ∨ c = '-' := by
  rw [ofChars_eq] at h
  cases hwords : words name with
  | nil =>
    rw [hwords] at h
    exact absurd h List.not_mem_nil
  | cons word more =>
    have hplain : ∀ word' ∈ word :: more, ∀ c ∈ word', isPlain c = true :=
      fun word' hword => (isPlain_of_mem_words (hwords ▸ hword)).2
    obtain ⟨hword, hmore⟩ := List.forall_mem_cons.1 hplain
    rw [hwords, intercalate_cons, List.mem_append, List.mem_flatMap] at h
    rcases h with h | ⟨word', hword', h⟩
    · exact .inl (hword c h)
    · rcases List.mem_cons.1 h with rfl | h
      · exact .inr rfl
      · exact .inl (hmore word' hword' c h)

/-- Between its dashes a slug has the words of the name, if there are any. -/
theorem splitOn_ofChars (h : words name ≠ []) : (ofChars name).splitOn '-' = words name := by
  rw [ofChars_eq]
  exact List.splitOn_intercalate '-' (fun word hword => dash_not_mem_words hword) h

/-- A name without a word has the empty slug. -/
theorem ofChars_of_words_nil (h : words name = []) : ofChars name = [] := by
  rw [ofChars_eq, h]
  rfl

/-- Nothing empty stands between the dashes of a slug, or before or behind them. -/
theorem nil_not_mem_splitOn {front back : List Char} (h : ofChars name = front ++ '-' :: back) :
    [] ∉ front.splitOn '-' ∧ [] ∉ back.splitOn '-' := by
  have hwords : words name ≠ [] := by
    intro hnil
    rw [ofChars_of_words_nil hnil] at h
    exact absurd h (by simp)
  have hsplit := splitOn_ofChars hwords
  rw [h, List.splitOn_append_cons_self] at hsplit
  constructor
  · intro hmem
    exact (isPlain_of_mem_words (hsplit ▸ List.mem_append_left _ hmem)).1 rfl
  · intro hmem
    exact (isPlain_of_mem_words (hsplit ▸ List.mem_append_right _ hmem)).1 rfl

/-- The text of a slug: small letters, digits and single dashes between them. -/
structure IsSlug (s : List Char) : Prop where
  plain : ∀ c ∈ s, isPlain c = true ∨ c = '-'
  head : s.head? ≠ some '-'
  last : s.getLast? ≠ some '-'
  single : ¬ ['-', '-'] <:+: s

/-- The slug of any name has the form of a slug. -/
theorem isSlug_ofChars (name : List Char) : IsSlug (ofChars name) := by
  refine ⟨fun c hc => isPlain_or_dash hc, ?_, ?_, ?_⟩
  · intro hhead
    obtain ⟨back, hback⟩ := List.head?_eq_some_iff.1 hhead
    exact (@nil_not_mem_splitOn name [] _ hback).1 (List.mem_singleton_self _)
  · intro hlast
    obtain ⟨front, hfront⟩ := List.getLast?_eq_some_iff.1 hlast
    exact (@nil_not_mem_splitOn name _ [] hfront).2 (List.mem_singleton_self _)
  · rintro ⟨front, back, hdashes⟩
    have hslug : ofChars name = front ++ '-' :: ('-' :: back) := by
      rw [← hdashes]
      simp
    refine (nil_not_mem_splitOn hslug).2 ?_
    have hfirst := List.splitOn_append_cons_self (a := '-') [] back
    rw [List.nil_append] at hfirst
    rw [hfirst]
    exact List.mem_append_left _ (List.mem_singleton_self _)

/-- **The words of a name are read off its slug.** -/
theorem words_ofChars (name : List Char) : words (ofChars name) = words name := by
  by_cases hnil : words name = []
  · rw [ofChars_of_words_nil hnil, hnil]
    rfl
  · have hpieces : (ofChars name).splitOnP (fun c => !isKept c) = words name := by
      rw [← splitOn_ofChars hnil, List.splitOn]
      refine Pieces.splitOnP_congr fun c hc => ?_
      rcases isPlain_or_dash hc with hplain | rfl
      · simp [isKept_of_isPlain hplain, ne_dash_of_isPlain hplain]
      · decide
    have hruns : runs (ofChars name) = words name := by
      rw [runs, hpieces]
      refine List.filter_eq_self.2 fun word hword => ?_
      simpa using (isPlain_of_mem_words hword).1
    rw [words, hruns]
    refine (List.map_congr_left fun word hword => ?_).trans (List.map_id _)
    have hword' := (isPlain_of_mem_words hword).2
    exact (List.map_congr_left fun c hc => lower_of_isPlain (hword' c hc)).trans (List.map_id _)

/-- A slug is its own slug. -/
theorem ofChars_ofChars (name : List Char) : ofChars (ofChars name) = ofChars name := by
  rw [ofChars_eq, words_ofChars, ← ofChars_eq]

/-- **Two names share a slug when they have the same words, and only then.** -/
theorem ofChars_eq_iff : ofChars name = ofChars other ↔ words name = words other := by
  constructor
  · intro h
    rw [← words_ofChars name, h, words_ofChars]
  · intro h
    rw [ofChars_eq, h, ← ofChars_eq]

end Slug
end Switchboard
