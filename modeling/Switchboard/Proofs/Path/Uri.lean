/-
# URIs of paths

Every path from the root has a URI (`FileUri.ofPath?_of_isAbsolute`).  It spells
the components of the path, each behind a separator, so that it tells them apart:
two paths from the root have the same URI exactly when they are the same component
by component (`FileUri.ofPath?_eq_some_iff`).
-/

import Mathlib.Tactic
import Switchboard.FileUri.Basic
import Switchboard.Proofs.Path.Lexical
import Switchboard.Proofs.Text.Digits
import Switchboard.Workspace.Language

namespace Switchboard

/-! ### Escapes -/

namespace Percent

/-- A digit that is written is read back. -/
theorem hexDigit?_digit : ∀ n < 16, Raw.hexDigit? (digit n) = some n := by decide

/-- No digit is a separator. -/
theorem digit_ne_separator : ∀ n < 16, digit n ≠ Path.separator := by decide

/-- The two digits that spell a byte are read as that byte. -/
theorem spelled?_digits (b : UInt8) (rest : Bytes) :
    spelled? (digit (b.toNat / 16) :: digit (b.toNat % 16) :: rest) = some b := by
  have hlt : b.toNat < 256 := b.toNat_lt
  have hvalue : b.toNat / 16 * 16 + b.toNat % 16 = b.toNat := by omega
  simp only [spelled?, hexDigit?_digit (b.toNat / 16) (by omega),
    hexDigit?_digit (b.toNat % 16) (by omega), Option.bind_some, Option.map_some, hvalue,
    UInt8.ofNat_toNat]

/-- **What has been spelled with escapes is read back.** -/
theorem decode_encode (bs : Bytes) : decode (encode bs) = bs := by
  induction bs with
  | nil => rfl
  | cons b bs ih =>
    change decodeFrom 0 (encodeByte b ++ encode bs) = b :: bs
    change decodeFrom 0 (encode bs) = bs at ih
    unfold encodeByte
    split
    · have hspelled := spelled?_digits b (encode bs)
      simp only [List.cons_append, List.nil_append, decodeFrom, beq_self_eq_true, if_true,
        hspelled, ih]
    next hplain =>
      have hb : (b == 0x25) = false := by
        refine beq_eq_false_iff_ne.2 fun h => hplain ?_
        rw [h]
        decide
      simp only [List.cons_append, List.nil_append, decodeFrom, hb, Bool.false_eq_true, if_false,
        ih]

/-- Bytes can be told from what is written for them. -/
theorem encode_injective : Function.Injective encode := fun bs bs' h => by
  rw [← decode_encode bs, h, decode_encode]

/-- A separator is always spelled out. -/
theorem separator_not_mem_encode (bs : Bytes) : Path.separator ∉ encode bs := by
  intro h
  obtain ⟨b, -, hb⟩ := List.mem_flatMap.1 h
  have hlt : b.toNat < 256 := b.toNat_lt
  unfold encodeByte at hb
  split at hb
  · simp only [List.mem_cons, List.not_mem_nil, or_false] at hb
    rcases hb with hb | hb | hb
    · exact absurd hb (by decide)
    · exact digit_ne_separator _ (by omega) hb.symm
    · exact digit_ne_separator _ (by omega) hb.symm
  next hplain =>
    refine hplain ?_
    rw [← List.mem_singleton.1 hb]
    decide

/-- Digits are ASCII. -/
theorem digit_lt {n : Nat} (h : n < 16) : digit n < 0x80 := by
  unfold digit
  interval_cases n <;> decide

/-- What is written for bytes is ASCII. -/
theorem encode_lt {bs : Bytes} {b : UInt8} (h : b ∈ encode bs) : b < 0x80 := by
  obtain ⟨a, -, ha⟩ := List.mem_flatMap.1 h
  unfold encodeByte at ha
  split at ha
  · have ha₁ : a.toNat < 256 := a.toNat_lt
    simp only [List.mem_cons, List.not_mem_nil, or_false] at ha
    rcases ha with rfl | rfl | rfl
    · decide
    · exact digit_lt (by omega)
    · exact digit_lt (by omega)
  next hplain =>
    obtain rfl := List.mem_singleton.1 ha
    simp only [isSpelled, Bool.or_eq_true, decide_eq_true_eq, not_or] at hplain
    have := hplain.1.2
    rw [UInt8.le_iff_toNat_le] at this
    rw [UInt8.lt_iff_toNat_lt]
    change ¬ 127 ≤ b.toNat at this
    change b.toNat < 128
    omega

end Percent

/-! ### Components -/

namespace Path

variable {p q : Path}

/-- Two paths are the same when they have the same components. -/
theorem same_iff : p.same q = true ↔ p.components = q.components := beq_iff_eq

/-- Being the same path goes over from one pair to the next. -/
theorem same_trans {r : Path} (h₁ : p.same q = true) (h₂ : q.same r = true) : p.same r = true :=
  same_iff.2 ((same_iff.1 h₁).trans (same_iff.1 h₂))

/-- Of two paths that are the same either is the same as the other. -/
theorem same_symm (h : p.same q = true) : q.same p = true := same_iff.2 (same_iff.1 h).symm

/-- A path is the same as itself. -/
theorem same_refl (p : Path) : p.same p = true := beq_self_eq_true _

/-- Sameness of paths is symmetric. -/
theorem same_comm (p q : Path) : p.same q = q.same p := Bool.beq_comm

/-- A path is absolute when the root is among its components. -/
theorem isAbsolute_iff : p.isAbsolute = true ↔ .root ∈ p.components := by
  constructor
  · intro h
    obtain ⟨rest, hrest, -⟩ := components_of_isAbsolute h
    exact hrest ▸ List.mem_cons_self ..
  · intro h
    by_contra hp
    exact root_not_mem_components (Bool.not_eq_true _ ▸ hp) h

/-- Paths that are the same are both absolute or neither is. -/
theorem isAbsolute_of_same (h : p.same q = true) : p.isAbsolute = q.isAbsolute := by
  rw [Bool.eq_iff_iff, isAbsolute_iff, isAbsolute_iff, same_iff.1 h]

/-- Whether a component can stand behind the root: `..`, or a name. -/
def Component.IsSegment (c : Component) : Prop := c = .up ∨ ∃ n, c = .name n ∧ IsName n

/-- Behind the root an absolute path has nothing but names and steps up. -/
theorem isSegment_of_mem (h : p.isAbsolute = true) {c : Component}
    (hc : c ∈ p.components.drop 1) : c.IsSegment := by
  have hrest : p.components.drop 1 = p.segments.filterMap component? := by
    rw [components, start, if_pos h]
    rfl
  have hmem : c ∈ p.components := List.mem_of_mem_drop hc
  rw [hrest] at hc
  cases c with
  | root => exact absurd hc (root_not_mem_filterMap _)
  | up => exact .inl rfl
  | name n => exact .inr ⟨n, rfl, isName_of_mem_components hmem⟩
  | here =>
    obtain ⟨segment, -, hsegment⟩ := List.mem_filterMap.1 hc
    unfold component? at hsegment
    split at hsegment
    · exact absurd hsegment (by simp)
    · split at hsegment <;> exact absurd hsegment (by simp)

end Path

/-- Paths that are the same have the same language. -/
theorem Language.ofPath?_of_same {p q : Path} (h : p.same q = true) : ofPath? p = ofPath? q := by
  rw [ofPath?, ofPath?, Path.extension, Path.extension, Path.fileName, Path.fileName,
    Path.same_iff.1 h]

/-! ### URIs -/

namespace FileUri

/-- What the URI of a path has for a component. -/
def segmentOf : Path.Component → Bytes
  | .name bytes => Percent.encode bytes
  | .up => Path.dotDot
  | _ => []

/-- What the URI of a path has behind its separators; behind the root there is
one, even if no component follows. -/
def segmentsOf (cs : List Path.Component) : List Bytes :=
  if cs.isEmpty then [[]] else cs.map segmentOf

/-- The URI of an absolute path is a separator and a segment for each component behind the root. -/
theorem ofPath?_eq {p : Path} (h : p.isAbsolute = true) :
    ofPath? p = Utf8.decode? (Utf8.encode "file://" ++
      (segmentsOf (p.components.drop 1)).flatMap (Path.separator :: ·)) := by
  rw [ofPath?, if_pos h, segmentsOf]
  dsimp only
  split
  · rfl
  · rw [List.flatMap_map]
    refine congrArg (fun path => Utf8.decode? (_ ++ path)) (List.flatMap_congr fun c _ => ?_)
    cases c <;> rfl

/-- A component tells itself apart in a URI, and is not left empty. -/
theorem segmentOf_spec {c : Path.Component} (h : c.IsSegment) :
    Path.separator ∉ segmentOf c ∧ segmentOf c ≠ [] := by
  rcases h with rfl | ⟨n, rfl, hn⟩
  · decide
  · refine ⟨Percent.separator_not_mem_encode n, fun hnil => hn.1 ?_⟩
    exact Percent.encode_injective hnil

/-- A component can be told from the segment that is written for it. -/
theorem segmentOf_inj {c d : Path.Component} (hc : c.IsSegment) (hd : d.IsSegment)
    (h : segmentOf c = segmentOf d) : c = d := by
  have hdotDot : Percent.encode Path.dotDot = Path.dotDot := by decide
  rcases hc with rfl | ⟨n, rfl, hn⟩ <;> rcases hd with rfl | ⟨m, rfl, hm⟩
  · rfl
  · exact absurd (Percent.encode_injective (hdotDot.trans h)).symm hm.2.2.1
  · exact absurd (Percent.encode_injective (h.trans hdotDot.symm)) hn.2.2.1
  · exact congrArg _ (Percent.encode_injective h)

/-- Components can be told from their segments, one by one. -/
theorem map_segmentOf_inj {cs ds : List Path.Component} (hcs : ∀ c ∈ cs, c.IsSegment)
    (hds : ∀ d ∈ ds, d.IsSegment)
    (h : cs.map segmentOf = ds.map segmentOf) : cs = ds := by
  induction cs generalizing ds with
  | nil => exact (List.map_eq_nil_iff.1 h.symm).symm
  | cons c cs ih =>
    obtain ⟨hc, hcs⟩ := List.forall_mem_cons.1 hcs
    cases ds with
    | nil => exact absurd h (by simp)
    | cons d ds =>
      obtain ⟨hd, hds⟩ := List.forall_mem_cons.1 hds
      obtain ⟨hhead, htail⟩ := List.cons.inj h
      rw [segmentOf_inj hc hd hhead, ih hcs hds htail]

/-- Components can be told from the segments of their URI, also if there are none. -/
theorem segmentsOf_inj {cs ds : List Path.Component} (hcs : ∀ c ∈ cs, c.IsSegment)
    (hds : ∀ d ∈ ds, d.IsSegment)
    (h : segmentsOf cs = segmentsOf ds) : cs = ds := by
  cases cs with
  | nil =>
    cases ds with
    | nil => rfl
    | cons d ds =>
      have hd := (segmentOf_spec (hds d (List.mem_cons_self ..))).2
      exact absurd (List.cons.inj h).1.symm hd
  | cons c cs =>
    cases ds with
    | nil =>
      have hc := (segmentOf_spec (hcs c (List.mem_cons_self ..))).2
      exact absurd (List.cons.inj h).1 hc
    | cons d ds => exact map_segmentOf_inj hcs hds h

/-- No segment of a URI holds a separator. -/
theorem separator_not_mem_segmentsOf {cs : List Path.Component}
    (h : ∀ c ∈ cs, c.IsSegment) {segment : Bytes}
    (hsegment : segment ∈ segmentsOf cs) : Path.separator ∉ segment := by
  unfold segmentsOf at hsegment
  split at hsegment
  · rw [List.mem_singleton.1 hsegment]
    exact List.not_mem_nil
  · obtain ⟨c, hc, rfl⟩ := List.mem_map.1 hsegment
    exact (segmentOf_spec (h c hc)).1

/-- Only absolute paths have a URI. -/
theorem isAbsolute_of_ofPath? {p : Path} {uri : String} (h : ofPath? p = some uri) :
    p.isAbsolute = true := by
  unfold ofPath? at h
  split at h
  next habs => exact habs
  · exact absurd h (by simp)

/-- **Two paths have the same URI exactly when they are the same.** -/
theorem ofPath?_eq_some_iff {p q : Path} {uri : String} (hp : ofPath? p = some uri) :
    ofPath? q = some uri ↔ p.same q = true := by
  have habs := isAbsolute_of_ofPath? hp
  constructor
  · intro hq
    have habs' := isAbsolute_of_ofPath? hq
    rw [ofPath?_eq habs] at hp
    rw [ofPath?_eq habs'] at hq
    -- The segments can be told from the bytes, as none of them holds a separator.
    have hbytes := List.append_cancel_left
      ((Utf8.encode_of_decode? hp).symm.trans (Utf8.encode_of_decode? hq))
    have hcs := fun c (hc : c ∈ p.components.drop 1) => Path.isSegment_of_mem habs hc
    have hds := fun d (hd : d ∈ q.components.drop 1) => Path.isSegment_of_mem habs' hd
    have hsegments := congrArg (fun bytes => Path.segments ⟨bytes⟩) hbytes
    rw [Path.segments_flatMap fun _ => separator_not_mem_segmentsOf hcs,
      Path.segments_flatMap fun _ => separator_not_mem_segmentsOf hds] at hsegments
    have hrest := segmentsOf_inj hcs hds (List.cons.inj hsegments).2
    obtain ⟨cs, hp', -⟩ := Path.components_of_isAbsolute habs
    obtain ⟨ds, hq', -⟩ := Path.components_of_isAbsolute habs'
    rw [hp', hq'] at hrest
    rw [Path.same_iff, hp', hq']
    exact congrArg _ hrest
  · intro h
    rw [← hp, ofPath?_eq habs, ofPath?_eq (Path.isAbsolute_of_same h ▸ habs), Path.same_iff.1 h]

/-- What the URI of a path holds is ASCII. -/
theorem lt_of_mem_segmentsOf {cs : List Path.Component} {segment : Bytes} {b : UInt8}
    (hsegment : segment ∈ segmentsOf cs) (hb : b ∈ segment) : b < 0x80 := by
  unfold segmentsOf at hsegment
  split at hsegment
  · exact absurd hb (List.mem_singleton.1 hsegment ▸ List.not_mem_nil)
  · obtain ⟨c, -, rfl⟩ := List.mem_map.1 hsegment
    cases c with
    | name bytes => exact Percent.encode_lt hb
    | up => exact (by decide +kernel : ∀ b ∈ Path.dotDot, b < 0x80) b hb
    | root => exact absurd hb List.not_mem_nil
    | here => exact absurd hb List.not_mem_nil

/-- **Every path from the root has a URI**, which spells its components. -/
theorem ofPath?_of_isAbsolute {p : Path} (h : p.isAbsolute = true) :
    ofPath? p = some (String.ofList (Utf8.chars (Utf8.encode "file://" ++
      (segmentsOf (p.components.drop 1)).flatMap (Path.separator :: ·)))) := by
  rw [ofPath?_eq h]
  refine Utf8.decode?_of_lt fun b hb => ?_
  rcases List.mem_append.1 hb with hb | hb
  · exact (by decide +kernel : ∀ b ∈ Utf8.encode "file://", b < 0x80) b hb
  · obtain ⟨segment, hsegment, hmem⟩ := List.mem_flatMap.1 hb
    rcases List.mem_cons.1 hmem with rfl | hmem
    · decide
    · exact lt_of_mem_segmentsOf hsegment hmem

/-- Every absolute path has one: what is written is text. -/
theorem isSome_ofPath? {p : Path} (h : p.isAbsolute = true) : (ofPath? p).isSome := by
  rw [ofPath?_of_isAbsolute h]
  rfl

end FileUri
end Switchboard
