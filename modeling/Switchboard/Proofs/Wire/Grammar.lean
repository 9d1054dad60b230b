/-
# What a stream of frames looks like

A stream is read to its end without a fault exactly when it is blocks in a row
(`IsBlock`), one for each value that is read: header lines, a blank line, and a
body of as many bytes as the last length among the header lines says
(`readAll_iff_blocks`).

A header line is described as it stands in the stream.  It is read trimmed, but
neither its name nor the value behind its colon can be told from those of the
trimmed line (`readHeaderText_length_iff`, `readHeaderText_other_iff`).
-/

import Switchboard.Proofs.Wire.Cut

namespace Switchboard

namespace Blank

variable {front back cs : List Char}

/-- A text is what trimming leaves between blanks. -/
theorem exists_trim (cs : List Char) : ∃ front back, cs = front ++ (trim cs ++ back) ∧
    (∀ c ∈ front, isBlank c = true) ∧ ∀ c ∈ back, isBlank c = true := by
  refine ⟨cs.takeWhile isBlank, ((trimStart cs).reverse.takeWhile isBlank).reverse, ?_,
    fun c hc => List.mem_takeWhile_imp hc, fun c hc =>
    List.mem_takeWhile_imp (List.mem_reverse.1 hc)⟩
  have hend : trim cs ++ ((trimStart cs).reverse.takeWhile isBlank).reverse = trimStart cs := by
    rw [trim, trimEnd, ← List.reverse_append, List.takeWhile_append_dropWhile,
      List.reverse_reverse]
  rw [hend]
  exact List.takeWhile_append_dropWhile.symm

/-- Blanks in front are trimmed off. -/
theorem trim_append_left (h : ∀ c ∈ front, isBlank c = true) : trim (front ++ cs) = trim cs := by
  rw [trim, trim, trimStart, List.dropWhile_append_of_pos h]
  rfl

/-- Blanks behind are trimmed off. -/
theorem trim_append_right (h : ∀ c ∈ back, isBlank c = true) : trim (cs ++ back) = trim cs := by
  have hback : ∀ c ∈ back.reverse, isBlank c = true := fun c hc => h c (List.mem_reverse.1 hc)
  have hstart : trimStart (cs ++ back) = trimStart cs ++ back ∨
      trimStart (cs ++ back) = [] ∧ trimStart cs = [] := by
    unfold trimStart
    rw [List.dropWhile_append]
    split
    next hnil =>
      refine .inr ⟨List.dropWhile_eq_nil_iff.2 h, List.isEmpty_iff.1 hnil⟩
    · exact .inl rfl
  rcases hstart with hstart | ⟨hall, hnone⟩
  · rw [trim, trim, hstart, trimEnd, trimEnd, List.reverse_append,
      List.dropWhile_append_of_pos hback]
  · rw [trim, trim, hall, hnone]

/-- What is all blank is trimmed to nothing. -/
theorem trim_eq_nil_iff : trim cs = [] ↔ ∀ c ∈ cs, isBlank c = true := by
  refine ⟨Frame.trim_eq_nil, fun h => ?_⟩
  have htrim : trim (cs ++ []) = trim [] := trim_append_left h
  rwa [List.append_nil] at htrim

end Blank

namespace Frame

variable {text name value line front : List Char} {n : Nat}

/-! ### One header line -/

/-- Whether a header line gives a length, with the text of its value: the text
before its first colon is the name that counts, but for blanks around it and for
the case of its letters. -/
def GivesLength (text value : List Char) : Prop :=
  ∃ name, text = name ++ ':' :: value ∧ ':' ∉ name ∧ (Blank.trim name).map lower = lengthName

/-- A line is not split exactly if it has no colon. -/
theorem splitColon_eq_none_iff : splitColon line = none ↔ ':' ∉ line := by
  unfold splitColon
  split
  next h => exact iff_of_false (by simp) (not_not.2 (List.contains_iff_mem.1 h))
  next h => exact iff_of_true rfl fun hmem => h (List.contains_iff_mem.2 hmem)

/-- A line with a colon is split at the first one. -/
theorem splitColon_eq_some_iff :
    splitColon line = some (name, value) ↔ line = name ++ ':' :: value ∧ ':' ∉ name := by
  constructor
  · intro h
    have hmem : ':' ∈ line := by
      by_contra hnone
      rw [splitColon_eq_none_iff.2 hnone] at h
      exact absurd h (by simp)
    obtain ⟨before, behind, rfl, hbefore⟩ := List.eq_append_cons_of_mem hmem
    rw [splitColon_append hbefore] at h
    obtain ⟨rfl, rfl⟩ := Prod.mk.inj (Option.some.inj h)
    exact ⟨rfl, hbefore⟩
  · rintro ⟨rfl, hname⟩
    exact splitColon_append hname

/-- Trimming a line takes nothing from its name but blanks, and nothing else
from its value. -/
theorem splitColon_trim (text : List Char) :
    (splitColon (Blank.trim text)).map (fun x => (Blank.trim x.1, Blank.trim x.2)) =
      (splitColon text).map fun x => (Blank.trim x.1, Blank.trim x.2) := by
  obtain ⟨front, back, htext, hfront, hback⟩ := Blank.exists_trim text
  have hcolon : ¬ Blank.isBlank ':' = true := by decide
  have hnone : ':' ∉ front ∧ ':' ∉ back :=
    ⟨fun h => hcolon (hfront _ h), fun h => hcolon (hback _ h)⟩
  cases hsplit : splitColon (Blank.trim text) with
  | none =>
    have hmem : ':' ∉ text := by
      rw [htext, List.mem_append, List.mem_append, not_or, not_or]
      exact ⟨hnone.1, splitColon_eq_none_iff.1 hsplit, hnone.2⟩
    rw [splitColon_eq_none_iff.2 hmem]
  | some x =>
    obtain ⟨name, value⟩ := x
    obtain ⟨hline, hname⟩ := splitColon_eq_some_iff.1 hsplit
    have hparts : splitColon text = some (front ++ name, value ++ back) := by
      refine splitColon_eq_some_iff.2 ⟨?_, ?_⟩
      · rw [htext, hline, List.append_assoc, List.append_assoc, List.cons_append]
      · rw [List.mem_append, not_or]
        exact ⟨hnone.1, hname⟩
    rw [hparts, Option.map_some, Option.map_some, Blank.trim_append_left hfront,
      Blank.trim_append_right hback]

/-- **A header line is read as it stands**, as if it had not been trimmed before. -/
theorem readHeaderText_eq (text : List Char) (h : Blank.trim text ≠ []) :
    readHeaderText text =
      match (splitColon text).map fun x => (Blank.trim x.1, Blank.trim x.2) with
      | none => .ok .other
      | some (name, value) =>
        if name.map lower = lengthName then
          match Numeral.parse? value with
          | some n => .ok (.length n)
          | none => .error (.invalidLength (String.ofList value))
        else .ok .other := by
  rw [← splitColon_trim]
  unfold readHeaderText
  split
  next hnil => exact absurd hnil h
  · cases splitColon (Blank.trim text) with
    | none => rfl
    | some x => rfl

/-- A header line is read as blank exactly if it is made of blanks. -/
theorem readHeaderText_blank_iff :
    readHeaderText text = .ok .blank ↔ ∀ c ∈ text, Blank.isBlank c = true := by
  constructor
  · intro h
    by_contra hblank
    push Not at hblank
    obtain ⟨c, hc, hne⟩ := hblank
    exact readHeaderText_ne_blank hc (Bool.eq_false_iff.2 hne) h
  · intro h
    unfold readHeaderText
    rw [Blank.trim_eq_nil_iff.2 h]

/-- A line with a colon is not blank. -/
theorem GivesLength.trim_ne_nil (h : GivesLength text value) : Blank.trim text ≠ [] := by
  obtain ⟨name, rfl, -⟩ := h
  intro hnil
  have hblank := Blank.trim_eq_nil_iff.1 hnil ':' (by simp)
  exact absurd hblank (by decide)

/-- A line that gives a length is one whose length is read, if it is a count. -/
theorem readHeaderText_of_givesLength (h : GivesLength text value) :
    readHeaderText text = match Numeral.parse? (Blank.trim value) with
      | some n => .ok (.length n)
      | none => .error (.invalidLength (String.ofList (Blank.trim value))) := by
  rw [readHeaderText_eq text h.trim_ne_nil]
  obtain ⟨name, rfl, hname, hlength⟩ := h
  rw [splitColon_append hname, Option.map_some]
  dsimp only
  rw [if_pos hlength]

/-- A line that gives no length, and is not blank, is passed over. -/
theorem readHeaderText_of_not_givesLength (hblank : Blank.trim text ≠ [])
    (h : ∀ value, ¬ GivesLength text value) : readHeaderText text = .ok .other := by
  rw [readHeaderText_eq text hblank]
  cases hsplit : splitColon text with
  | none => rfl
  | some x =>
    obtain ⟨name, value⟩ := x
    obtain ⟨hline, hname⟩ := splitColon_eq_some_iff.1 hsplit
    rw [Option.map_some]
    dsimp only
    rw [if_neg fun hlength => h value ⟨name, hline, hname, hlength⟩]

/-! ### Blocks -/

/-- A line of a stream and its text: it ends with its only line feed. -/
structure IsLine (line : Bytes) (text : List Char) : Prop where
  feed : ∃ front, line = front ++ [0x0A] ∧ 0x0A ∉ front
  isText : Utf8.decode? line = some (String.ofList text)

/-- A header line: it is not blank, and if it gives a length then that is a count. -/
inductive IsHeader : Bytes → Option Nat → Prop where
  | length {line : Bytes} {text value : List Char} {n : Nat} (hline : IsLine line text)
    (hgives : GivesLength text value) (hn : Numeral.Spells (Blank.trim value) n) :
    IsHeader line (some n)
  | other {line : Bytes} {text : List Char} (hline : IsLine line text)
    (hblank : Blank.trim text ≠ []) (hnone : ∀ value, ¬ GivesLength text value) :
    IsHeader line none

/-- A blank line. -/
def IsBlankLine (line : Bytes) : Prop := ∃ text, IsLine line text ∧ Blank.trim text = []

/-- Header lines, each with the length that it gives if it gives one, a blank line,
and a body that is JSON for a value.  The last length, of those and the one that has
been given `before`, is that of the body. -/
def IsBlockAfter (before : Option Nat) (value : Json) (block : Bytes) : Prop :=
  ∃ (headers : List (Bytes × Option Nat)) (blank body : Bytes),
    block = (headers.map Prod.fst).flatten ++ (blank ++ body) ∧
    (∀ h ∈ headers, IsHeader h.1 h.2) ∧ IsBlankLine blank ∧
    (before.toList ++ headers.filterMap Prod.snd).getLast? = some body.length ∧
    body.length ≤ maxBytes ∧ Json.read? body = some value

/-- A block: header lines, some of which give a length, a blank line, and as many
bytes as the last length says, which are JSON for a value. -/
def IsBlock (value : Json) (block : Bytes) : Prop :=
  ∃ (headers : List (Bytes × Option Nat)) (blank body : Bytes),
    block = (headers.map Prod.fst).flatten ++ (blank ++ body) ∧
    (∀ h ∈ headers, IsHeader h.1 h.2) ∧ IsBlankLine blank ∧
    (headers.filterMap Prod.snd).getLast? = some body.length ∧
    body.length ≤ maxBytes ∧ Json.read? body = some value

variable {value : Json} {bs rest block blank : Bytes} {length before : Option Nat} {fresh : Bool}

/-- A line of the stream is read as its text is. -/
theorem IsLine.readHeader_eq {line : Bytes} (h : IsLine line text) :
    readHeader line = readHeaderText text := by
  rw [readHeader, h.isText]
  exact congrArg readHeaderText String.toList_ofList

/-- A header line is read to the length that it gives. -/
theorem IsHeader.readHeader_eq {line : Bytes} (h : IsHeader line length) :
    readHeader line = .ok (length.elim .other .length) := by
  cases h with
  | length hline hgives hn =>
    rw [hline.readHeader_eq, readHeaderText_of_givesLength hgives, Numeral.parse?_eq_some_iff.2 hn]
    rfl
  | other hline hblank hnone =>
    rw [hline.readHeader_eq, readHeaderText_of_not_givesLength hblank hnone]
    rfl

/-- A blank line is read as blank. -/
theorem IsBlankLine.readHeader_eq (h : IsBlankLine blank) : readHeader blank = .ok .blank := by
  obtain ⟨text, hline, hblank⟩ := h
  rw [hline.readHeader_eq, readHeaderText_blank_iff]
  exact Blank.trim_eq_nil_iff.1 hblank

/-- **What is read as a header line is one**, and what is read as a blank line is blank. -/
theorem of_readHeader {line front : Bytes} {header : Header} (hfeed : line = front ++ [0x0A])
    (hfront : 0x0A ∉ front) (h : readHeader line = .ok header) :
    header = .blank ∧ IsBlankLine line ∨
      ∃ length : Option Nat, header = length.elim .other .length ∧ IsHeader line length := by
  unfold readHeader at h
  split at h
  · exact absurd h (by simp)
  next text htext =>
    have hdecode : Utf8.decode? line = some (String.ofList text.toList) := by
      rw [htext, String.ofList_toList]
    have hline : IsLine line text.toList := ⟨⟨front, hfeed, hfront⟩, hdecode⟩
    by_cases hblank : Blank.trim text.toList = []
    · rw [readHeaderText_blank_iff.2 (Blank.trim_eq_nil_iff.1 hblank)] at h
      exact .inl ⟨(Except.ok.inj h).symm, _, hline, hblank⟩
    · by_cases hgives : ∃ value, GivesLength text.toList value
      · obtain ⟨value, hgives⟩ := hgives
        rw [readHeaderText_of_givesLength hgives] at h
        split at h
        next n hn =>
          exact .inr ⟨some n, (Except.ok.inj h).symm, .length hline hgives
            (Numeral.parse?_eq_some_iff.1 hn)⟩
        · exact absurd h (by simp)
      · rw [not_exists] at hgives
        rw [readHeaderText_of_not_givesLength hblank hgives] at h
        exact .inr ⟨none, (Except.ok.inj h).symm, .other hline hblank hgives⟩

/-- A header line ends at its only line feed. -/
theorem IsHeader.feed {line : Bytes} (h : IsHeader line length) :
    ∃ front, line = front ++ [0x0A] ∧ 0x0A ∉ front := by
  cases h with
  | length hline => exact hline.feed
  | other hline => exact hline.feed

/-- A blank line ends at its only line feed. -/
theorem IsBlankLine.feed (h : IsBlankLine blank) :
    ∃ front, blank = front ++ [0x0A] ∧ 0x0A ∉ front := by
  obtain ⟨text, hline, -⟩ := h
  exact hline.feed

/-! ### One block -/

/-- The length that the first header gives stands before those of the others. -/
theorem filterMap_snd_cons (line : Bytes) (given : Option Nat)
    (headers : List (Bytes × Option Nat)) :
    ((line, given) :: headers).filterMap Prod.snd =
      given.toList ++ headers.filterMap Prod.snd := by
  cases given with
  | none => rfl
  | some n => rfl

/-- A length that is given takes the place of the one given before. -/
theorem getLast?_given (before given : Option Nat) (lengths : List Nat) :
    ((given.or before).toList ++ lengths).getLast? =
      (before.toList ++ (given.toList ++ lengths)).getLast? := by
  cases given with
  | none => rfl
  | some n =>
    have hne : n :: lengths ≠ [] := List.cons_ne_nil n lengths
    change (n :: lengths).getLast? = (before.toList ++ n :: lengths).getLast?
    rw [List.getLast?_append_of_ne_nil _ hne]

/-- A body is as many bytes as the length says, within the bound, and JSON for the value. -/
theorem readBody_eq_frame_iff : readBody length bs = .frame value rest ↔
    ∃ body, bs = body ++ rest ∧ length = some body.length ∧ body.length ≤ maxBytes ∧
      Json.read? body = some value := by
  constructor
  · intro h
    unfold readBody at h
    split at h
    · exact absurd h (by simp)
    next n =>
      split_ifs at h with hlarge hshort
      split at h
      next hread =>
        obtain ⟨rfl, rfl⟩ := Next.frame.inj h
        have hlength : (bs.take n).length = n := List.length_take_of_le (by omega)
        exact ⟨bs.take n, (List.take_append_drop n bs).symm, by rw [hlength], by omega, hread⟩
      · exact absurd h (by simp)
  · rintro ⟨body, rfl, rfl, hlarge, hread⟩
    rw [readBody, if_neg (by omega), if_neg (by simp), List.take_left, hread, List.drop_left]

/-- **A block is read to its value**, and nothing behind it is touched. -/
theorem readBlock_of_isBlockAfter (h : IsBlockAfter before value block) :
    readBlock fresh before [] (block ++ rest) = .frame value rest := by
  obtain ⟨headers, blank, body, rfl, hheaders, hblank, hlast, hlarge, hread⟩ := h
  induction headers generalizing before fresh with
  | nil =>
    obtain ⟨front, hfeed, hfront⟩ := hblank.feed
    have hbefore : before = some body.length := by
      cases before with
      | none => exact absurd hlast (by simp)
      | some n => exact hlast
    rw [List.map_nil, List.flatten_nil, List.nil_append, List.append_assoc, hfeed,
      List.append_assoc, List.singleton_append, readBlock_line _ _ _ hfront, ← hfeed,
      hblank.readHeader_eq]
    exact readBody_eq_frame_iff.2 ⟨body, rfl, hbefore, hlarge, hread⟩
  | cons header headers ih =>
    obtain ⟨line, given⟩ := header
    obtain ⟨hheader, hheaders⟩ := List.forall_mem_cons.1 hheaders
    obtain ⟨front, hline, hfront⟩ := hheader.feed
    rw [filterMap_snd_cons, ← getLast?_given] at hlast
    have hrest := @ih _ false hheaders hlast
    rw [List.append_assoc] at hrest
    rw [List.map_cons, List.flatten_cons, hline, List.append_assoc, List.append_assoc,
      List.append_assoc, List.singleton_append, readBlock_line _ _ _ hfront, ← hline,
      hheader.readHeader_eq]
    cases given with
    | none => exact hrest
    | some n => exact hrest

/-- **What is read as a frame is a block.** -/
theorem isBlockAfter_of_readBlock (h : readBlock fresh before [] bs = .frame value rest) :
    ∃ block, bs = block ++ rest ∧ IsBlockAfter before value block := by
  induction hn : bs.length using Nat.strongRecOn generalizing bs before fresh with
  | _ n ih =>
    by_cases hfeed : 0x0A ∈ bs
    · obtain ⟨front, behind, rfl, hfront⟩ := List.eq_append_cons_of_mem hfeed
      rw [readBlock_line _ _ _ hfront] at h
      have hshort : behind.length < n := by
        rw [← hn, List.length_append, List.length_cons]
        omega
      -- A header line puts the length that it gives before the rest of the block.
      have hmore : ∀ {given : Option Nat}, IsHeader (front ++ [0x0A]) given →
          readBlock false (given.or before) [] behind = .frame value rest →
          ∃ block, front ++ 0x0A :: behind = block ++ rest ∧ IsBlockAfter before value block := by
        intro given hheader hread
        obtain ⟨block, rfl, headers, blank, body, rfl, hheaders, hblank, hlast, hbody⟩ :=
          ih behind.length hshort hread rfl
        refine ⟨_, ?_, (front ++ [0x0A], given) :: headers, blank, body, rfl,
          List.forall_mem_cons.2 ⟨hheader, hheaders⟩, hblank, ?_, hbody⟩
        · simp
        · rw [filterMap_snd_cons, ← getLast?_given, hlast]
      split at h
      · exact absurd h (by simp)
      next hblank =>
        rcases of_readHeader rfl hfront hblank with ⟨-, hblank⟩ | ⟨given, hheader, -⟩
        · obtain ⟨body, rfl, rfl, hlarge, hread⟩ := readBody_eq_frame_iff.1 h
          refine ⟨front ++ [0x0A] ++ body, by simp, [], front ++ [0x0A], body, rfl, ?_, hblank,
            rfl, hlarge, hread⟩
          exact fun h hmem => absurd hmem List.not_mem_nil
        · cases given with
          | none => exact absurd hheader (by simp)
          | some n => exact absurd hheader (by simp)
      next n hlength =>
        rcases of_readHeader rfl hfront hlength with ⟨hblank, -⟩ | ⟨given, hheader, hgiven⟩
        · exact absurd hblank (by simp)
        · cases given with
          | none => exact absurd hheader (by simp)
          | some m =>
            obtain rfl := Header.length.inj hheader
            exact hmore hgiven h
      next hother =>
        rcases of_readHeader rfl hfront hother with ⟨hblank, -⟩ | ⟨given, hheader, hgiven⟩
        · exact absurd hblank (by simp)
        · cases given with
          | none => exact hmore hgiven h
          | some m => exact absurd hheader (by simp)
    · -- Without a line feed no line comes to its end.
      have hread : readBlock fresh before [] (bs ++ []) =
          readBlock fresh before (bs.reverse ++ []) [] := readBlock_append fresh before [] hfeed
      rw [List.append_nil, h] at hread
      unfold readBlock at hread
      split at hread
      · exact absurd hread (by simp)
      · exact absurd hread (by simp)

/-- What is a block when no length has been given before is a block. -/
theorem isBlockAfter_none {block : Bytes} : IsBlockAfter none value block ↔ IsBlock value block :=
  Iff.rfl

/-- **The first frame of a stream is its first block.** -/
theorem next_eq_frame_iff :
    next bs = .frame value rest ↔ ∃ block, bs = block ++ rest ∧ IsBlock value block := by
  refine ⟨isBlockAfter_of_readBlock, ?_⟩
  rintro ⟨block, rfl, hblock⟩
  exact readBlock_of_isBlockAfter (isBlockAfter_none.2 hblock)

/-- A block ends in a line at least. -/
theorem IsBlock.ne_nil (h : IsBlock value block) : block ≠ [] := by
  obtain ⟨headers, blank, body, rfl, -, hblank, -⟩ := h
  obtain ⟨front, rfl, -⟩ := hblank.feed
  simp

/-! ### All blocks -/

/-- Only a stream that has ended is at its end. -/
theorem eq_nil_of_readBlock {line : Bytes} (h : readBlock fresh length line bs = .starved none) :
    fresh = true ∧ line = [] ∧ bs = [] := by
  induction bs generalizing fresh length line with
  | nil =>
    unfold readBlock at h
    split at h
    next hline =>
      cases fresh with
      | true => exact ⟨rfl, hline, rfl⟩
      | false => exact absurd h (by simp)
    · exact absurd h (by simp)
  | cons b bs ih =>
    unfold readBlock at h
    split at h
    · split at h
      · exact absurd h (by simp)
      · unfold readBody at h
        split at h
        · exact absurd h (by simp)
        · split_ifs at h
          · exact absurd h (by simp)
          · split at h <;> exact absurd h (by simp)
      · exact absurd (ih h).1 (by simp)
      · exact absurd (ih h).1 (by simp)
    · exact absurd (ih h).2.1 (by simp)

/-- How a stream is read to its end, one frame after the other.  There is no bound
on the frames. -/
inductive Reads : Bytes → List Json → Option Fault → Prop where
  | frame {bs rest : Bytes} {value : Json} {values : List Json} {fault : Option Fault}
    (hnext : next bs = .frame value rest) (hrest : Reads rest values fault) :
    Reads bs (value :: values) fault
  | failed {bs : Bytes} {fault : Fault} (hnext : next bs = .failed fault) : Reads bs [] (some fault)
  | ended {bs : Bytes} {fault : Option Fault} (hnext : next bs = .starved fault) :
    Reads bs [] fault

/-- A stream that fails at its first frame gives none. -/
theorem readAll_of_failed {fault : Fault} (h : next bs = .failed fault) :
    readAll bs = ([], some fault) := by rw [readAll, readAllWithin, h]

/-- **Reading a stream comes to an end**, and to the one that is computed. -/
theorem reads_iff {values : List Json} {fault : Option Fault} :
    Reads bs values fault ↔ readAll bs = (values, fault) := by
  constructor
  · intro h
    induction h with
    | frame hnext hrest ih => rw [readAll_of_frame hnext, ih]
    | failed hnext => exact readAll_of_failed hnext
    | ended hnext => exact readAll_of_starved hnext
  · intro h
    induction hn : bs.length using Nat.strongRecOn generalizing bs values with
    | _ n ih =>
      cases hnext : next bs with
      | frame value rest =>
        rw [readAll_of_frame hnext] at h
        obtain ⟨rfl, rfl⟩ := Prod.mk.inj h
        exact .frame hnext (ih rest.length (hn ▸ length_lt_of_readBlock hnext) rfl rfl)
      | failed fault =>
        rw [readAll_of_failed hnext] at h
        obtain ⟨rfl, rfl⟩ := Prod.mk.inj h
        exact .failed hnext
      | starved fault =>
        rw [readAll_of_starved hnext] at h
        obtain ⟨rfl, rfl⟩ := Prod.mk.inj h
        exact .ended hnext

/-- A stream that is read to its end without a fault is a row of blocks. -/
theorem blocks_of_reads {values : List Json} {fault : Option Fault} (h : Reads bs values fault)
    (hnone : fault = none) :
    ∃ blocks : List Bytes, bs = blocks.flatten ∧ List.Forall₂ IsBlock values blocks := by
  induction h with
  | frame hnext hrest ih =>
    obtain ⟨blocks, rfl, hblocks⟩ := ih hnone
    obtain ⟨block, rfl, hblock⟩ := next_eq_frame_iff.1 hnext
    exact ⟨block :: blocks, rfl, .cons hblock hblocks⟩
  | failed hnext => exact absurd hnone (by simp)
  | ended hnext =>
    obtain ⟨-, -, rfl⟩ := eq_nil_of_readBlock (hnone ▸ hnext)
    exact ⟨[], rfl, .nil⟩

/-- A row of blocks is read to its end without a fault. -/
theorem reads_of_blocks {values : List Json} {blocks : List Bytes}
    (h : List.Forall₂ IsBlock values blocks) : Reads blocks.flatten values none := by
  induction h with
  | nil => exact .ended rfl
  | cons hblock hrest ih => exact .frame (next_eq_frame_iff.2 ⟨_, rfl, hblock⟩) ih

/-- **A stream is read to values and a clean end exactly when it is a block for
each of them, in a row.**  Every frame that is read takes a byte at least, so that
reading always comes to an end, and to one only. -/
theorem readAll_iff_blocks (bs : Bytes) (values : List Json) :
    (Reads bs values none ↔
      ∃ blocks : List Bytes, bs = blocks.flatten ∧ List.Forall₂ IsBlock values blocks) ∧
    (∀ value rest, next bs = .frame value rest → ∃ block, block ≠ [] ∧ bs = block ++ rest) ∧
    ∀ values fault, Reads bs values fault ↔ readAll bs = (values, fault) := by
  refine ⟨⟨fun h => blocks_of_reads h rfl, ?_⟩, fun value rest h => ?_, fun _ _ => reads_iff⟩
  · rintro ⟨blocks, rfl, hblocks⟩
    exact reads_of_blocks hblocks
  · obtain ⟨block, rfl, hblock⟩ := next_eq_frame_iff.1 h
    exact ⟨block, hblock.ne_nil, rfl⟩

end Frame
end Switchboard
