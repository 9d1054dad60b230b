/-
# The pattern of one of several names in any directory

Names that hold nothing special, put between braces with commas, read as a choice between
them (`compile_choice`).  A name that is empty takes no part in a choice; with that, the
choice matches in any directory what one of the names matches there
(`isMatch_choice_iff`).
-/

import Switchboard.Proofs.Glob.Anywhere

namespace Switchboard
namespace Glob

/-- The characters that are not read as themselves, inside a choice at least. -/
def special : List Char := "*?[]\x7b\x7d,\\".toList

/-- Whether a name holds no separator and nothing special. -/
def isPlain (name : String) : Bool := name.toList.all fun c => c != '/' && !special.contains c

/-- A plain name has no separator and nothing special in it. -/
theorem isPlain_iff {name : String} : isPlain name = true ↔
    '/' ∉ name.toList ∧ ∀ c ∈ name.toList, c ∉ special := by
  unfold isPlain
  rw [List.all_eq_true]
  constructor
  · intro h
    refine ⟨fun hslash => absurd (h _ hslash) (by simp), fun c hc hspecial => ?_⟩
    exact absurd (h c hc) (by simp [hspecial])
  · rintro ⟨hslash, h⟩ c hc
    have hne : c ≠ '/' := fun heq => hslash (heq ▸ hc)
    simp [hne, h c hc]

/-- The names that a choice is between: the empty one if there is none. -/
def choices (names : List (List Char)) : List (List Char) := if names = [] then [[]] else names

/-- The pattern of one of several names in any directory. -/
def choice (names : List (List Char)) : Pattern :=
  ⟨[.anyFront, .alternates ((choices names).map fun cs => cs.map .literal)], false⟩

/-! ### Reading a choice -/

/-- A character that is not special is read as itself. -/
theorem readFrom_literal {c : Char} (hc : c ∉ special) (fuel : Nat) (p : Progress)
    (rest : List Char) :
    readFrom (fuel + 1) p (c :: rest) = readFrom fuel (p.push (.literal c) c) rest := by
  have hmem : c ∉ ['*', '?', '[', ']', '\x7b', '\x7d', ',', '\\'] := hc
  simp only [List.mem_cons, List.not_mem_nil, or_false, not_or] at hmem
  obtain ⟨h₁, h₂, h₃, -, h₅, h₆, h₇, h₈⟩ := hmem
  cases rest <;> simp [readFrom, h₁, h₂, h₃, h₅, h₆, h₇, h₈]

/-- A row of characters that are not special is read as those characters. -/
theorem readFrom_literals {cs : List Char} (hcs : ∀ c ∈ cs, c ∉ special) (fuel : Nat)
    (groups : List Group) (current : List Token) (last : Option Char) (rest : List Char) :
    ∃ last', readFrom (cs.length + fuel) ⟨groups, current, last⟩ (cs ++ rest) =
      readFrom fuel ⟨groups, (cs.map Token.literal).reverse ++ current, last'⟩ rest := by
  induction cs generalizing current last with
  | nil => exact ⟨last, by simp⟩
  | cons c cs ih =>
    obtain ⟨hc, hcs⟩ := List.forall_mem_cons.1 hcs
    obtain ⟨last', hread⟩ := ih hcs (.literal c :: current) (some c)
    refine ⟨last', ?_⟩
    rw [List.length_cons, Nat.add_right_comm, List.cons_append, readFrom_literal hc, List.map_cons,
      List.reverse_cons, List.append_assoc]
    exact hread

/-- A comma in a choice ends a branch. -/
theorem readFrom_comma (fuel : Nat) (g : Group) (groups : List Group) (current : List Token)
    (last : Option Char) (rest : List Char) :
    readFrom (fuel + 1) ⟨g :: groups, current, last⟩ (',' :: rest) =
      readFrom fuel ⟨⟨g.before, current.reverse :: g.finished⟩ :: groups, [], some ','⟩ rest := by
  cases rest <;> simp [readFrom]

/-- A choice ends with its brace. -/
theorem readFrom_brace (fuel : Nat) (before : List Token) (finished : List (List Token))
    (current : List Token) (last : Option Char) :
    readFrom (fuel + 2) ⟨[⟨before, finished⟩], current, last⟩ ['\x7d'] =
      .ok (before.reverse ++ [.alternates (finished.reverse ++ [current.reverse])]) := by
  simp [readFrom]

/-- The branches of a choice are read one after the other. -/
theorem readFrom_branches {cs : List Char} {names : List (List Char)}
    (h : ∀ n ∈ cs :: names, ∀ c ∈ n, c ∉ special) (fuel : Nat) (before : List Token)
    (finished : List (List Token)) (last : Option Char) :
    readFrom (([','].intercalate (cs :: names)).length + (fuel + 2))
      ⟨[⟨before, finished⟩], [], last⟩ ([','].intercalate (cs :: names) ++ ['\x7d']) =
      .ok (before.reverse ++ [.alternates (finished.reverse ++
        (cs :: names).map fun cs => cs.map .literal)]) := by
  induction names generalizing cs finished last with
  | nil =>
    obtain ⟨hcs, -⟩ := List.forall_mem_cons.1 h
    obtain ⟨last', hread⟩ := readFrom_literals hcs (fuel + 2) [⟨before, finished⟩] [] last ['\x7d']
    rw [List.intercalate_singleton, hread, readFrom_brace, List.append_nil, List.reverse_reverse]
    rfl
  | cons name names ih =>
    obtain ⟨hcs, hnames⟩ := List.forall_mem_cons.1 h
    have hlength : ([','].intercalate (cs :: name :: names)).length + (fuel + 2) =
        cs.length + (([','].intercalate (name :: names)).length + (fuel + 2) + 1) := by
      rw [List.intercalate_cons_cons, List.length_append, List.length_append,
        List.length_singleton]
      omega
    obtain ⟨last', hread⟩ := readFrom_literals hcs
      (([','].intercalate (name :: names)).length + (fuel + 2) + 1) [⟨before, finished⟩] [] last
      (',' :: ([','].intercalate (name :: names) ++ ['\x7d']))
    rw [hlength, List.intercalate_cons_cons, List.append_assoc, List.append_assoc,
      List.singleton_append, hread, readFrom_comma, ih hnames, List.append_nil,
      List.reverse_reverse, List.reverse_cons, List.append_assoc]
    rfl

/-- What the choice is between is written as the names are, joined by commas. -/
theorem intercalate_choices (names : List (List Char)) :
    [','].intercalate (choices names) = [','].intercalate names := by
  unfold choices
  split
  next h =>
    subst h
    rfl
  next => rfl

/-- Two stars and a separator in front of a choice. -/
theorem readFrom_open (fuel : Nat) (rest : List Char) :
    readFrom (fuel + 2) ⟨[], [], none⟩ ('*' :: '*' :: '/' :: '\x7b' :: rest) =
      readFrom fuel ⟨[⟨[.anyFront], []⟩], [], some '\x7b'⟩ rest := by
  have hstars : readStars ⟨[], [], none⟩ ('/' :: '\x7b' :: rest) =
      (⟨[], [.anyFront], some '/'⟩, '\x7b' :: rest) := rfl
  cases rest <;> simp [readFrom, hstars]

/-- The choice of plain names, written out, is read as that choice. -/
theorem read_choice {names : List (List Char)} (h : ∀ n ∈ names, ∀ c ∈ n, c ∉ special) :
    readFrom (([','].intercalate names).length + 6) ⟨[], [], none⟩
      ("**/\x7b".toList ++ [','].intercalate names ++ "\x7d".toList) =
      .ok (choice names).tokens := by
  have hchoices : ∀ n ∈ choices names, ∀ c ∈ n, c ∉ special := by
    unfold choices
    split
    · simp
    · exact h
  have hne : choices names ≠ [] := by
    unfold choices
    split
    · simp
    · assumption
  rw [choice, ← intercalate_choices]
  generalize choices names = cs at hchoices hne
  obtain ⟨first, rest, rfl⟩ := List.exists_cons_of_ne_nil hne
  have hread := readFrom_branches hchoices 2 [.anyFront] [] (some '\x7b')
  exact (readFrom_open _ _).trans hread

/-- **Plain names read as a choice between them.** -/
theorem compile_choice {names : List String} (h : ∀ n ∈ names, isPlain n = true) :
    compile ("**/\x7b" ++ ",".intercalate names ++ "\x7d") false =
      .ok (choice (names.map String.toList)) := by
  have hread : read ("**/\x7b" ++ ",".intercalate names ++ "\x7d") =
      .ok (choice (names.map String.toList)).tokens := by
    rw [read, String.toList_append, String.toList_append, String.toList_intercalate]
    have hnames : ∀ n ∈ names.map String.toList, ∀ c ∈ n, c ∉ special :=
      List.forall_mem_map.2 fun n hn => (isPlain_iff.1 (h n hn)).2
    have hlength : ∀ cs : List Char,
        ("**/\x7b".toList ++ cs ++ "\x7d".toList).length + 1 = cs.length + 6 := by
      intro cs
      simp only [List.length_append, show "**/\x7b".toList.length = 4 from rfl,
        show "\x7d".toList.length = 1 from rfl]
      omega
    rw [hlength]
    exact read_choice hnames
  rw [compile, hread]
  rfl

/-! ### Matching a choice -/

/-- A name has tokens unless it is empty. -/
theorem hasTokens_literals (cs : List Char) :
    hasTokens (cs.map Token.literal) = !cs.isEmpty := by
  cases cs with
  | nil => rfl
  | cons c cs => simp [hasTokens, emits]

/-- A choice has branches unless all its names are empty. -/
theorem hasBranches_literals (names : List (List Char)) :
    hasBranches (names.map fun cs => cs.map .literal) = names.any fun cs => !cs.isEmpty := by
  induction names with
  | nil => rfl
  | cons cs names ih => rw [List.map_cons, hasBranches, ih, hasTokens_literals, List.any_cons]

/-- Whether a text is one of some names, and not empty. -/
def isChosen (names : List (List Char)) (text : Bytes) : Bool :=
  names.any fun cs => !cs.isEmpty && text == cs.flatMap bytesOf

/-- To begin with some bytes and end there is to be those bytes. -/
theorem startsWithBytes_isEmpty (bs : Bytes) :
    startsWithBytes bs List.isEmpty = fun text => text == bs := by
  funext text
  rw [Bool.eq_iff_iff, startsWithBytes_isEmpty_iff, beq_iff_eq]

/-- A choice of names marks the places where the rest is one of them. -/
theorem beforeBranches_literals (text : Bytes) (names : List (List Char)) :
    beforeBranches false text (names.map fun cs => cs.map .literal) (endMarks text) =
      marksBy (isChosen names) text := by
  induction names with
  | nil =>
    rw [endMarks_eq, List.map_nil, beforeBranches, marksBy, marksBy, List.map_map]
    rfl
  | cons cs names ih =>
    rw [List.map_cons, beforeBranches, ih, hasTokens_literals, beforeTokens_literals,
      startsWithBytes_isEmpty]
    cases cs with
    | nil => rfl
    | cons c cs => exact either_marksBy ..

/-- A test that the empty name fails tells nothing of the name put in for none. -/
theorem any_choices {test : List Char → Bool} (htest : test [] = false)
    (names : List (List Char)) : (choices names).any test = names.any test := by
  unfold choices
  split
  next h =>
    subst h
    exact (Bool.or_false _).trans htest
  next => rfl

/-- A choice stands for the names that are not empty, and for nothing if there is none. -/
theorem beforeTokens_choice (text : Bytes) (names : List (List Char)) :
    beforeTokens false text [.alternates ((choices names).map fun cs => cs.map .literal)]
      (endMarks text) =
      marksBy (if names.any fun cs => !cs.isEmpty then isChosen names else List.isEmpty) text := by
  have hchosen : isChosen (choices names) = isChosen names :=
    funext fun text => any_choices rfl names
  rw [beforeTokens, beforeTokens, beforeToken, hasBranches_literals, any_choices rfl,
    beforeBranches_literals, hchosen, endMarks_eq]
  split
  · rfl
  · rfl

/-- A text is chosen if it spells one of the names that are not empty. -/
theorem isChosen_iff {names : List String} {text : Bytes} :
    isChosen (names.map String.toList) text = true ↔
      ∃ n ∈ names, n ≠ "" ∧ text = Utf8.encode n := by
  simp [isChosen, encode_eq_flatMap]

/-- **A choice matches the names that are not empty, at the top and behind any separator.** -/
theorem isMatch_choice_iff {names : List String} (h : ∃ n ∈ names, n ≠ "") (text : Bytes) :
    (choice (names.map String.toList)).isMatch text = true ↔ ∃ n ∈ names, n ≠ "" ∧
      (text = Utf8.encode n ∨ ∃ front, text = front ++ slash :: Utf8.encode n) := by
  have hany : ((names.map String.toList).any fun cs => !cs.isEmpty) = true := by
    simpa using h
  rw [choice, isMatch_anyFront_iff (by simp) (beforeTokens_choice text _), if_pos hany]
  simp only [isChosen_iff]
  constructor
  · rintro (⟨n, hn, hne, htext⟩ | ⟨front, rest, htext, n, hn, hne, rfl⟩)
    · exact ⟨n, hn, hne, .inl htext⟩
    · exact ⟨n, hn, hne, .inr ⟨front, htext⟩⟩
  · rintro ⟨n, hn, hne, htext | ⟨front, htext⟩⟩
    · exact .inl ⟨n, hn, hne, htext⟩
    · exact .inr ⟨front, _, htext, n, hn, hne, rfl⟩

/-- A choice of nothing matches what has nothing behind its last separator. -/
theorem isMatch_choice_empty {names : List String} (h : ∀ n ∈ names, n = "") (text : Bytes) :
    (choice (names.map String.toList)).isMatch text = true ↔
      text = [] ∨ ∃ front, text = front ++ [slash] := by
  have hany : ¬ ((names.map String.toList).any fun cs => !cs.isEmpty) = true := by
    simpa using h
  rw [choice, isMatch_anyFront_iff (by simp) (beforeTokens_choice text _), if_neg hany]
  simp [List.isEmpty_iff]

end Glob
end Switchboard
