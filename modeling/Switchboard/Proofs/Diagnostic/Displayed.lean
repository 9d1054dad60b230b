/-
# The place that is shown of a diagnostic

A diagnostic is shown with its place counted from one.  What a publication says of the
place is read exactly, every number that fits a word of 32 bits (`Diagnostic.begins_of_read?`);
but one is added in such words, and the last of them has none behind it.  A place that is shown
is always the right one, and there is a line to show exactly when neither number of the place is
the last one (`Publication.displayed_place_iff`).
-/

import Switchboard.Diagnostic.Decode
import Switchboard.Proofs.Text.Digits

namespace Switchboard

/-! ### Places in a line of text -/

namespace Numeral

/-- Different numbers are written differently. -/
theorem render_injective : Function.Injective render := by
  intro a b h
  have hvalue := congrArg (fun ds => Nat.ofDigitChars 10 ds 0) h
  simpa [render] using hvalue

/-- The digits of a number reach up to the first character that is no digit. -/
theorem takeWhile_render (n : Nat) {c : Char} (hc : c.isDigit = false) (rest : List Char) :
    (render n ++ c :: rest).takeWhile Char.isDigit = render n := by
  rw [List.takeWhile_append_of_pos fun d hd => isDigit_of_mem_render hd,
    List.takeWhile_cons_of_neg (by simp [hc]), List.append_nil]

/-- Two numbers can be told from their digits with something between them. -/
theorem render_between_inj {a b a' b' : Nat} {c : Char} (hc : c.isDigit = false) :
    render a ++ c :: render b = render a' ++ c :: render b' ↔ a = a' ∧ b = b' := by
  constructor
  · intro h
    have hfirst : render a = render a' := by
      rw [← takeWhile_render a hc (render b), h, takeWhile_render a' hc]
    rw [hfirst, List.append_cancel_left_eq, List.cons.injEq] at h
    exact ⟨render_injective hfirst, render_injective h.2⟩
  · rintro ⟨rfl, rfl⟩
    rfl

end Numeral

namespace Diagnostic

/-- The number that is shown is the next one, and every word but the last has one. -/
theorem shownNumber?_eq_some_iff {n : UInt32} {k : Nat} :
    shownNumber? n = some k ↔ n.toNat + 1 ≠ UInt32.size ∧ k = n.toNat + 1 := by
  have hlt : n.toNat < UInt32.size := n.toNat_lt_size
  unfold shownNumber?
  split_ifs with hsmall
  · rw [Option.some_inj]
    omega
  · simp only [false_iff]
    omega

/-- The line and the column can be told from the line that is shown. -/
theorem displayAt_inj {d : Diagnostic} {path : Path} {line column line' column' : Nat} :
    d.displayAt path line column = d.displayAt path line' column' ↔
      line = line' ∧ column = column' := by
  let rest := ": ".toList ++ d.severity.label.toList ++ ": [".toList ++
    (d.code.getD d.source).toList ++ "] ".toList ++ d.message.toList
  have hshown : ∀ l c, (d.displayAt path l c).toList = (path.display.toList ++ [':']) ++
      ((Numeral.render l ++ ':' :: Numeral.render c) ++ rest) := by
    intro l c
    simp [displayAt, rest, Numeral.render]
  rw [← String.toList_inj, hshown, hshown, List.append_cancel_left_eq, List.append_cancel_right_eq]
  exact Numeral.render_between_inj rfl

end Diagnostic

/-! ### Fields that are read -/

namespace Json

/-- A field that is needed is there and can be decoded. -/
theorem needed_eq_some {α : Type} {decode : Json → Option α} {field : Option Json} {a : α}
    (h : needed decode field = some a) : ∃ v, field = some v ∧ decode v = some a :=
  Option.bind_eq_some_iff.1 h

/-- A list that is decoded has an item for each of its parts. -/
theorem forall₂_of_listOf {α : Type} {decode : Json → Option α} {j : Json} {xs : List α}
    (h : listOf decode j = some xs) :
    ∃ items, j = .arr items ∧ List.Forall₂ (fun item x => decode item = some x) items xs := by
  cases j with
  | arr items =>
    refine ⟨items, rfl, ?_⟩
    rw [listOf] at h
    induction items generalizing xs with
    | nil =>
      obtain rfl := Option.some.inj h
      exact .nil
    | cons item items ih =>
      rw [List.mapM_cons] at h
      simp only [Option.bind_eq_bind, Option.bind_eq_some_iff] at h
      obtain ⟨x, hx, xs, hxs, heq⟩ := h
      obtain rfl := Option.some.inj heq
      exact .cons hx (ih hxs)
  | _ => exact absurd h (by simp [listOf])

end Json

/-! ### Places that are received -/

/-- Whether an item of a publication begins at a line and a column, counted from zero: these are
the numbers that it carries for the start of its range. -/
def BeginsAt (item : Json) (line column : Nat) : Prop :=
  ∃ range severity code source message start,
    item.fields? ["range", "severity", "code", "source", "message"] =
      some [some range, severity, code, source, message] ∧
    range.fields? ["start"] = some [some start] ∧
    start.fields? ["line", "character"] = some [some (.int line), some (.int column)]

namespace Diagnostic

variable {j : Json} {d : Diagnostic}

/-- A word is read off an integer only. -/
theorem int_of_word32? {n : UInt32} (h : word32? j = some n) : j = .int n.toNat := by
  obtain ⟨k, hk, rfl⟩ := Option.map_eq_some_iff.1 h
  cases j with
  | int z =>
    rw [Json.word?] at hk
    split at hk
    next hrange =>
      obtain rfl := Option.some.inj hk
      have hlimit : Json.wordLimit 32 = 4294967296 := rfl
      have hsmall : z.toNat < UInt32.size := by
        have hsize : UInt32.size = 4294967296 := rfl
        omega
      rw [UInt32.toNat_ofNat_of_lt' hsmall, Int.toNat_of_nonneg hrange.1]
    · exact absurd hk (by simp)
  | _ => exact absurd hk (by simp [Json.word?])

/-- A start is read off a line and a character. -/
theorem fields_of_start {start : Start} (h : Start.read? j = some start) :
    j.fields? ["line", "character"] =
      some [some (.int start.line.toNat), some (.int start.column.toNat)] := by
  unfold Start.read? at h
  split at h
  next line column heq =>
    simp only [Option.bind_eq_bind, Option.bind_eq_some_iff] at h
    obtain ⟨l, hl, c, hc, hstart⟩ := h
    obtain rfl := Option.some.inj hstart
    obtain ⟨vl, rfl, hl⟩ := Json.needed_eq_some hl
    obtain ⟨vc, rfl, hc⟩ := Json.needed_eq_some hc
    rw [heq, int_of_word32? hl, int_of_word32? hc]
  · exact absurd h (by simp)

/-- The start of a range is read off its member. -/
theorem start_of_range {start : Start} (h : Start.ofRange? j = some start) :
    ∃ v, j.fields? ["start"] = some [some v] ∧ Start.read? v = some start := by
  unfold Start.ofRange? at h
  split at h
  next field heq =>
    obtain ⟨v, rfl, hread⟩ := Json.needed_eq_some h
    exact ⟨v, heq, hread⟩
  · exact absurd h (by simp)

/-- **A diagnostic keeps the numbers that it is received with.** -/
theorem begins_of_read? (h : read? j = some d) : BeginsAt j d.line.toNat d.column.toNat := by
  unfold read? at h
  split at h
  next range severity code source message heq =>
    simp only [Option.bind_eq_bind, Option.bind_eq_some_iff] at h
    obtain ⟨start, hstart, _, -, _, -, _, -, hd⟩ := h
    obtain rfl := Option.some.inj hd
    obtain ⟨range, rfl, hrange⟩ := Json.needed_eq_some hstart
    obtain ⟨v, hv, hread⟩ := start_of_range hrange
    exact ⟨range, severity, code, source, message, v, heq, hv, fields_of_start hread⟩
  · exact absurd h (by simp)

/-- The line of a diagnostic is the one for the place behind its own. -/
theorem display?_eq_some_iff {path : Path} {line : String} : d.display? path = some line ↔
    d.line.toNat + 1 ≠ UInt32.size ∧ d.column.toNat + 1 ≠ UInt32.size ∧
      line = d.displayAt path (d.line.toNat + 1) (d.column.toNat + 1) := by
  simp only [display?, Option.bind_eq_bind, Option.bind_eq_some_iff, Option.pure_def,
    Option.some_inj, shownNumber?_eq_some_iff]
  constructor
  · rintro ⟨_, ⟨hline, rfl⟩, _, ⟨hcolumn, rfl⟩, rfl⟩
    exact ⟨hline, hcolumn, rfl⟩
  · rintro ⟨hline, hcolumn, rfl⟩
    exact ⟨_, ⟨hline, rfl⟩, _, ⟨hcolumn, rfl⟩, rfl⟩

/-- A diagnostic has no line exactly when a number of its place is the last one. -/
theorem display?_eq_none_iff {path : Path} : d.display? path = none ↔
    d.line.toNat + 1 = UInt32.size ∨ d.column.toNat + 1 = UInt32.size := by
  rw [Option.eq_none_iff_forall_ne_some]
  constructor
  · intro hnone
    by_contra hboth
    rw [not_or] at hboth
    exact hnone _ (display?_eq_some_iff.2 ⟨hboth.1, hboth.2, rfl⟩)
  · intro hlast line hline
    obtain ⟨hl, hc, -⟩ := display?_eq_some_iff.1 hline
    exact hlast.elim hl hc

end Diagnostic

/-! ### Publications -/

namespace Publication

/-- **Of each diagnostic that is received the place is shown that follows its own, unless a
number of it is the last one of 32 bits: then showing it fails.**  A publication that can be read
has an array of items, and of each of them one diagnostic, with the line and the column that the
item begins at.  The line that is shown, for every file, has this place with one added to both
numbers and no other, and there is one exactly when neither number is the last one. -/
theorem displayed_place_iff {j : Json} {p : Publication} (h : read? j = some p) :
    ∃ sent, j.fields? ["uri", "diagnostics"] = some [some (.str p.uri), some (.arr sent)] ∧
      List.Forall₂ (fun item d => BeginsAt item d.line.toNat d.column.toNat ∧ ∀ path,
        (∀ line column, d.display? path = some (d.displayAt path line column) ↔
          d.line.toNat + 1 ≠ UInt32.size ∧ d.column.toNat + 1 ≠ UInt32.size ∧
            line = d.line.toNat + 1 ∧ column = d.column.toNat + 1) ∧
        (d.display? path = none ↔
          d.line.toNat + 1 = UInt32.size ∨ d.column.toNat + 1 = UInt32.size)) sent p.items := by
  unfold read? at h
  split at h
  next uri items heq =>
    simp only [Option.bind_eq_bind, Option.bind_eq_some_iff] at h
    obtain ⟨u, huri, ds, hitems, hp⟩ := h
    obtain rfl := Option.some.inj hp
    obtain ⟨vu, rfl, hu⟩ := Json.needed_eq_some huri
    obtain ⟨vi, rfl, hi⟩ := Json.needed_eq_some hitems
    obtain ⟨sent, rfl, hsent⟩ := Json.forall₂_of_listOf hi
    refine ⟨sent, ?_, hsent.imp fun item d hread => ?_⟩
    · cases vu with
      | str s =>
        obtain rfl := Option.some.inj hu
        exact heq
      | _ => exact absurd hu (by simp [Json.text?])
    · refine ⟨Diagnostic.begins_of_read? hread, fun path => ⟨fun line column => ?_,
        Diagnostic.display?_eq_none_iff⟩⟩
      rw [Diagnostic.display?_eq_some_iff, Diagnostic.displayAt_inj]
  · exact absurd h (by simp)

/-- An item at the start of a line. -/
def itemAt (line : Int) : Json :=
  let place := Json.ofMembers [("line", .int line), ("character", .int 0)]
  Json.ofMembers [("range", Json.ofMembers [("start", place), ("end", place)]),
    ("message", .str "m")]

/-- A publication with one item. -/
def publicationOf (item : Json) : Json :=
  Json.ofMembers [("uri", .str "file:///w/a.ts"), ("diagnostics", .arr [item])]

/-- The last line but one is shown right. -/
theorem displayed_place_last_but_one :
    ∃ p d, read? (publicationOf (itemAt 4294967294)) = some p ∧ p.items = [d] ∧
      ∀ path, d.display? path = some (d.displayAt path 4294967295 1) := by
  have hread : read? (publicationOf (itemAt 4294967294)) =
    some ⟨"file:///w/a.ts", [⟨.warning, "m", 4294967294, 0, none, "biome"⟩]⟩ := rfl
  obtain ⟨sent, -, hsent⟩ := displayed_place_iff hread
  obtain ⟨item, _, ⟨-, hdisplay⟩, -, -⟩ := List.forall₂_cons_right_iff.1 hsent
  exact ⟨_, _, hread, rfl, fun path => ((hdisplay path).1 _ _).2 ⟨by decide, by decide, rfl, rfl⟩⟩

/-- **The last line cannot be shown**, though it has a place counted from one. -/
theorem last_line_not_shown :
    BeginsAt (itemAt 4294967295) 4294967295 0 ∧
      ∃ p d, read? (publicationOf (itemAt 4294967295)) = some p ∧ p.items = [d] ∧
        d.display? (.ofText "/w/a.ts") = none ∧
        d.displayAt (.ofText "/w/a.ts") 4294967296 1 =
          "/w/a.ts:4294967296:1: warning: [biome] m" :=
  ⟨⟨_, _, _, _, _, _, rfl, rfl, rfl⟩, _, ⟨.warning, "m", 4294967295, 0, none, "biome"⟩, rfl, rfl,
    by decide, by decide +kernel⟩

end Publication
end Switchboard
