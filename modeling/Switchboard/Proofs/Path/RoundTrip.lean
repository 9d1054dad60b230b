/-
# Paths through their URIs

The URI of a path is read back to the path.  What `Percent.encode` leaves in a
name has none of the characters that mean something in a URI
(`FileUri.inert_of_mem_encode`), and no name looks like a dot in any spelling
(`FileUri.plain_of_isName`), so the walk along the segments enters them one by
one (`FileUri.walk_of_plain`) and decoding gives the names.

The path that comes back may have a separator more at its end, where a drive
letter seems to stand; its components are the same (`FileUri.toPath?_ofPath?`).
-/

import Switchboard.Proofs.Path.Parent
import Switchboard.Proofs.Path.Uri

namespace Switchboard

/-! ### What escaping leaves -/

namespace Percent

/-- Whether a byte is written without having been spelled out, or in a spelling. -/
def IsWritten (b : UInt8) : Prop := b = 0x25 ∨ isSpelled b = false

/-- The digits of an escape need no escape themselves. -/
theorem isSpelled_digit : ∀ n < 16, isSpelled (digit n) = false := by decide

/-- The encoding is made of bytes that stand for themselves and of escapes. -/
theorem isWritten_of_mem_encode {bs : Bytes} {b : UInt8} (h : b ∈ encode bs) : IsWritten b := by
  obtain ⟨a, -, ha⟩ := List.mem_flatMap.1 h
  unfold encodeByte at ha
  split at ha
  · have hlt : a.toNat < 256 := a.toNat_lt
    simp only [List.mem_cons, List.not_mem_nil, or_false] at ha
    rcases ha with rfl | rfl | rfl
    · exact .inl rfl
    · exact .inr (isSpelled_digit _ (by omega))
    · exact .inr (isSpelled_digit _ (by omega))
  next hplain =>
    obtain rfl := List.mem_singleton.1 ha
    exact .inr (Bool.not_eq_true _ ▸ hplain)

end Percent

namespace FileUri

/-- Whether a character stands for itself in the path of a file: it is no blank or control
character, separates nothing and does not end the path. -/
def Inert (c : Char) : Prop :=
  0x20 < c.toNat ∧ isSlash .file c = false ∧ endsPath c = false ∧ isIgnored c = false

instance (c : Char) : Decidable (Inert c) := inferInstanceAs (Decidable (_ ∧ _))

/-- The characters an encoding is written in mean nothing to the parser. -/
theorem inert_of_isWritten : ∀ n < 128, Percent.isSpelled (UInt8.ofNat n) = false ∨ n = 0x25 →
    Inert (Char.ofNat n) := by decide +kernel

/-- No character of an encoded name means anything to the parser. -/
theorem inert_of_mem_encode {bs : Bytes} {c : Char} (h : c ∈ Utf8.chars (Percent.encode bs)) :
    Inert c := by
  obtain ⟨b, hb, rfl⟩ := List.mem_map.1 h
  have hlt : b.toNat < 128 := UInt8.lt_iff_toNat_lt.1 (Percent.encode_lt hb)
  refine inert_of_isWritten _ hlt ?_
  rw [UInt8.ofNat_toNat]
  rcases Percent.isWritten_of_mem_encode hb with rfl | hb
  · exact .inr rfl
  · exact .inl hb

/-- Whether a segment is entered as it is written. -/
structure Plain (segment : List Char) : Prop where
  inert : ∀ c ∈ segment, Inert c
  notDot : isDot segment = false
  notDotDot : isDotDot segment = false

/-- The empty segment is plain. -/
theorem plain_nil : Plain [] := ⟨by simp, by decide, by decide⟩

/-- Every spelling of one dot or two is decoded to it. -/
theorem decode_of_isDot {segment : List Char} (h : isDot segment = true) :
    Percent.decode (Utf8.encode (String.ofList segment)) = Path.dot := by
  have hall : ∀ s ∈ dotSpellings, Percent.decode (Utf8.encode (String.ofList s)) = Path.dot := by
    decide +kernel
  exact hall segment (List.contains_iff_mem.1 h)

/-- Every spelling of the step upwards decodes to it. -/
theorem decode_of_isDotDot {segment : List Char} (h : isDotDot segment = true) :
    Percent.decode (Utf8.encode (String.ofList segment)) = Path.dotDot := by
  have hall : ∀ a ∈ dotSpellings, ∀ b ∈ dotSpellings,
      Percent.decode (Utf8.encode (String.ofList (a ++ b))) = Path.dotDot := by decide +kernel
  obtain ⟨a, ha, hb⟩ := List.any_eq_true.1 h
  obtain ⟨b, hb, heq⟩ := List.any_eq_true.1 hb
  rw [beq_iff_eq.1 heq]
  exact hall a ha b hb

/-- Decoding the text of an encoding gives back the bytes. -/
theorem decode_encode_chars (bs : Bytes) :
    Percent.decode (Utf8.encode (String.ofList (Utf8.chars (Percent.encode bs)))) = bs := by
  rw [Utf8.encode_chars fun _ => Percent.encode_lt, Percent.decode_encode]

/-- **The spelling of a name is entered as it is written**: neither a dot nor two of them,
in whatever spelling, come from a name. -/
theorem plain_of_isName {n : Bytes} (h : Path.IsName n) :
    Plain (Utf8.chars (Percent.encode n)) where
  inert _ := inert_of_mem_encode
  notDot := by
    rw [← Bool.not_eq_true]
    exact fun hdot => h.2.1 ((decode_encode_chars n).symm.trans (decode_of_isDot hdot))
  notDotDot := by
    rw [← Bool.not_eq_true]
    exact fun hdots => h.2.2.1 ((decode_encode_chars n).symm.trans (decode_of_isDotDot hdots))

/-! ### Walking along plain segments -/

/-- A text of segments, each behind a separator. -/
def written (segments : List (List Char)) : List Char := segments.flatMap ('/' :: ·)

variable {segments : List (List Char)}

/-- The parser passes over none of the characters that mean nothing to it. -/
theorem counted_of_inert {cs : List Char} (h : ∀ c ∈ cs, Inert c) : counted cs = cs :=
  List.filter_eq_self.2 fun c hc => by simp [(h c hc).2.2.2]

/-- Plain segments written out are found again between the separators. -/
theorem splitOnP_written (h : ∀ s ∈ segments, Plain s) {front : List Char}
    (hfront : ∀ c ∈ front, isSlash .file c = false) :
    (front ++ written segments).splitOnP (isSlash .file) = front :: segments := by
  induction segments generalizing front with
  | nil =>
    rw [written, List.flatMap_nil, List.append_nil]
    exact List.splitOnP_eq_singleton hfront
  | cons s segments ih =>
    obtain ⟨hs, hrest⟩ := List.forall_mem_cons.1 h
    have htail := ih hrest fun c hc => (hs.inert c hc).2.1
    change (front ++ '/' :: (s ++ written segments)).splitOnP (isSlash .file) = _
    rw [List.splitOnP_append_cons _ _ (by rfl), List.splitOnP_eq_singleton hfront, htail]
    rfl

namespace Trail

/-- **Plain segments are entered one by one**, once there is a segment before them. -/
theorem walk_of_plain (h : ∀ s ∈ segments, Plain s) {t : Trail} (hne : t.stack ≠ []) :
    walk .file t segments = { t with stack := segments.reverse ++ t.stack } := by
  induction segments generalizing t with
  | nil => rfl
  | cons s segments ih =>
    obtain ⟨hs, hrest⟩ := List.forall_mem_cons.1 h
    have hcounted := counted_of_inert hs.inert
    have henter : t.enter .file s = t.push s := by
      rw [enter, hcounted, if_neg (by simpa using hne)]
    have hwalk : walk .file t (s :: segments) = walk .file (t.push s) segments := by
      cases segments <;> simp [walk, hcounted, hs.notDot, hs.notDotDot, henter]
    rw [hwalk, ih hrest (by simp [push])]
    simp [push]

/-- Read one by one, plain segments end up on the stack as they are. -/
theorem stack_ofText_written (h : ∀ s ∈ segments, Plain s) (hne : segments ≠ []) :
    (ofText .file (written segments)).stack = segments.reverse ++ [[]] := by
  have hends : (written segments).takeWhile (fun c => !endsPath c) = written segments := by
    refine List.takeWhile_eq_self_iff.2 fun c hc => ?_
    obtain ⟨s, hs, hc⟩ := List.mem_flatMap.1 hc
    rcases List.mem_cons.1 hc with rfl | hc
    · decide
    · simp [((h s hs).inert c hc).2.2.1]
  have hsplit : (written segments).splitOnP (isSlash .file) = [] :: segments :=
    splitOnP_written h (List.forall_mem_nil _)
  have hfirst : walk .file start ([] :: segments) = walk .file (start.push []) segments := by
    obtain ⟨s, segments, rfl⟩ := List.exists_cons_of_ne_nil hne
    rfl
  rw [ofText, hends, hsplit, hfirst, walk_of_plain h (by simp [push])]
  rfl

/-- The parser reads plain segments back as they were written. -/
theorem segments_ofText_written (h : ∀ s ∈ segments, Plain s)
    (hsegments : segments = [[]] ∨ segments ≠ [] ∧ ∀ s ∈ segments, s ≠ []) :
    (ofText .file (written segments)).segments .file = segments := by
  have hne : segments ≠ [] := by
    rcases hsegments with rfl | hsegments
    · simp
    · exact hsegments.1
  have hall : (ofText .file (written segments)).stack.reverse = [] :: segments := by
    rw [stack_ofText_written h hne, List.reverse_append, List.reverse_reverse]
    rfl
  simp only [Trail.segments, hall, if_true]
  rcases hsegments with rfl | ⟨hne, hfull⟩
  · rfl
  · obtain ⟨s, segments, rfl⟩ := List.exists_cons_of_ne_nil hne
    have hs : s.isEmpty = false := by simp [hfull s (List.mem_cons_self ..)]
    simp [hs]

end Trail

/-! ### Reading a URI -/

/-- Nothing is trimmed off a text without blanks and control characters. -/
theorem trimmed_of_inert {cs : List Char} (h : ∀ c ∈ cs, 0x20 < c.toNat) : trimmed cs = cs := by
  have hdrop : ∀ cs : List Char, (∀ c ∈ cs, 0x20 < c.toNat) →
      cs.dropWhile (fun c => decide (c.toNat ≤ 0x20)) = cs := by
    intro cs h
    cases cs with
    | nil => rfl
    | cons c cs =>
      have hc := h c (List.mem_cons_self ..)
      rw [List.dropWhile_cons_of_neg (by simpa using hc)]
  rw [trimmed, hdrop cs h, hdrop _ fun c hc => h c (List.mem_reverse.1 hc), List.reverse_reverse]

/-- A URI in the scheme `file` that names no host is read from its path on. -/
theorem toPath?_ofList {text : List Char} (h : ∀ c ∈ text, 0x20 < c.toNat) :
    toPath? (String.ofList ("file:///".toList ++ text)) =
      some (walkedPath .file ('/' :: text)) := by
  have hscheme : ("file:///".toList.all fun c => decide (0x20 < c.toNat)) = true := by decide
  have htrimmed : trimmed (String.ofList ("file:///".toList ++ text)).toList =
      "file:///".toList ++ text := by
    rw [String.toList_ofList]
    refine trimmed_of_inert fun c hc => ?_
    rcases List.mem_append.1 hc with hc | hc
    · exact of_decide_eq_true (List.all_eq_true.1 hscheme c hc)
    · exact h c hc
  rw [toPath?, htrimmed]
  rfl

/-- Plain segments written out hold no blank and no control character. -/
theorem lt_of_mem_written (h : ∀ s ∈ segments, Plain s) {c : Char} (hc : c ∈ written segments) :
    0x20 < c.toNat := by
  obtain ⟨s, hs, hc⟩ := List.mem_flatMap.1 hc
  rcases List.mem_cons.1 hc with rfl | hc
  · decide
  · exact ((h s hs).inert c hc).1

/-- **Plain segments behind no host are read as they are**, and then decoded. -/
theorem toPath?_written (h : ∀ s ∈ segments, Plain s)
    (hsegments : segments = [[]] ∨ segments ≠ [] ∧ ∀ s ∈ segments, s ≠ []) :
    toPath? (String.ofList ("file://".toList ++ written segments)) = some (pathOf segments) := by
  have hwalked := congrArg pathOf (Trail.segments_ofText_written h hsegments)
  obtain ⟨text, htext⟩ : ∃ text, written segments = '/' :: text := by
    rcases hsegments with rfl | ⟨hne, -⟩
    · exact ⟨[], rfl⟩
    · obtain ⟨s, segments, rfl⟩ := List.exists_cons_of_ne_nil hne
      exact ⟨s ++ written segments, rfl⟩
  have hinert : ∀ c ∈ text, 0x20 < c.toNat := fun c hc =>
    lt_of_mem_written h (htext ▸ List.mem_cons_of_mem _ hc)
  rw [htext] at hwalked ⊢
  exact (toPath?_ofList hinert).trans (congrArg some hwalked)

/-! ### There and back -/

/-- The path of some segments has the components of their decoded text. -/
theorem components_pathOf (segments : List (List Char)) (hne : segments ≠ []) :
    (pathOf segments).components = (⟨decoded segments⟩ : Path).components := by
  unfold pathOf
  dsimp only
  split
  · obtain ⟨s, segments, rfl⟩ := List.exists_cons_of_ne_nil hne
    exact Path.components_append_separator (by simp [decoded])
  · rfl

/-- Encoded names that are decoded are the names with a separator before each. -/
theorem decoded_chars (names : List Bytes) :
    decoded (names.map fun n => Utf8.chars (Percent.encode n)) =
      names.flatMap (Path.separator :: ·) := by
  rw [decoded, List.flatMap_map]
  exact List.flatMap_congr fun n _ => by rw [decode_encode_chars]

/-- The path of the spelled names has these names. -/
theorem components_pathOf_chars {names : List Bytes} (hne : names ≠ [])
    (h : ∀ n ∈ names, Path.IsName n) :
    (pathOf (names.map fun n => Utf8.chars (Percent.encode n))).components =
      .root :: names.map Path.Component.name := by
  rw [components_pathOf _ (by simpa using hne), decoded_chars, Path.components_flatMap hne h]

end FileUri

/-- A path from the root without `..` has names behind the root. -/
theorem Path.exists_names_of_not_up {p : Path} (h : p.isAbsolute = true)
    (hup : .up ∉ p.components) :
    ∃ names : List Bytes, p.components = .root :: names.map Component.name ∧
      ∀ n ∈ names, IsName n := by
  obtain ⟨rest, hrest, -⟩ := components_of_isAbsolute h
  have hrestNames : ∀ c ∈ rest, ∃ n, c = .name n ∧ IsName n := fun c hc => by
    rcases isSegment_of_mem h (c := c) (by simpa [hrest] using hc) with rfl | hname
    · exact absurd (hrest ▸ List.mem_cons_of_mem _ hc) hup
    · exact hname
  obtain ⟨names, rfl, hnames⟩ := exists_names hrestNames
  exact ⟨names, hrest, hnames⟩

namespace FileUri

/-- The URI of encoded segments is the scheme with the written segments after it. -/
theorem chars_uri (segments : List Bytes) :
    Utf8.chars (Utf8.encode "file://" ++ segments.flatMap (Path.separator :: ·)) =
      "file://".toList ++ written (segments.map Utf8.chars) := by
  rw [Utf8.chars, List.map_append, List.map_flatMap, written, List.flatMap_map]
  rfl

/-- **The URI of a path is read back to the path**, whatever bytes its names are made of. -/
theorem toPath?_ofPath? {p : Path} {uri : String} (h : ofPath? p = some uri)
    (hup : .up ∉ p.components) : ∃ q, toPath? uri = some q ∧ q.same p = true := by
  have habs := isAbsolute_of_ofPath? h
  obtain ⟨names, hcomponents, hnames⟩ := Path.exists_names_of_not_up habs hup
  rw [ofPath?_of_isAbsolute habs, hcomponents, chars_uri, List.drop_one, List.tail_cons] at h
  obtain rfl := Option.some.inj h
  simp only [Path.same_iff, hcomponents]
  by_cases hne : names = []
  · -- Behind the root there is one segment, an empty one.
    subst hne
    exact ⟨_, toPath?_written (List.forall_mem_singleton.2 plain_nil) (.inl rfl), by decide⟩
  · have hsegments : (segmentsOf (names.map Path.Component.name)).map Utf8.chars =
        names.map fun n => Utf8.chars (Percent.encode n) := by
      rw [segmentsOf, if_neg (by simpa using hne), List.map_map, List.map_map]
      rfl
    rw [hsegments]
    have hplain : ∀ s ∈ names.map fun n => Utf8.chars (Percent.encode n), Plain s ∧ s ≠ [] := by
      intro s hs
      obtain ⟨n, hn, rfl⟩ := List.mem_map.1 hs
      refine ⟨plain_of_isName (hnames n hn), fun hnil => (hnames n hn).1 ?_⟩
      rw [← decode_encode_chars n, hnil]
      rfl
    have hread := toPath?_written (fun s hs => (hplain s hs).1)
      (.inr ⟨by simpa using hne, fun s hs => (hplain s hs).2⟩)
    exact ⟨_, hread, components_pathOf_chars hne hnames⟩

/-- A name may hold anything but a separator, also what looks like a drive letter. -/
example : (ofPath? (.ofText "/C|/%2e#?\\ b/d:")).bind toPath? =
    some (.ofText "/C|/%2e#?\\ b/d:/") := by decide +kernel

end FileUri
end Switchboard
