/-
# Floats in JSON read back

A number is read to the literal that is written, whatever its parts are
(`Json.readNumber_text`), and a float is written with a point or an exponent in
any of its layouts (`Shortest.exists_literal`).  So nothing that a float is
written as is an integer to a reader.
-/

import Switchboard.Proofs.Json.Number

namespace Switchboard

namespace Literal

/-- The text of an exponent, with a sign in any case. -/
def exponentText : Option (Bool × Bytes) → Bytes
  | none => []
  | some (positive, ds) => 0x65 :: (if positive then 0x2B else 0x2D) :: ds

/-- The text of a literal. -/
def text (l : Literal) : Bytes :=
  (if l.negative then [0x2D] else []) ++
    (l.whole ++ ((if l.fraction = [] then [] else 0x2E :: l.fraction) ++ exponentText l.exponent))

/-- Whether the parts of a literal are digits, with no zero in front that could be left out. -/
structure IsSpelled (l : Literal) : Prop where
  whole_ne_nil : l.whole ≠ []
  whole_digits : ∀ b ∈ l.whole, Raw.isDigit b = true
  no_leading_zero : l.whole.head? = some 0x30 → l.whole.length = 1
  fraction_digits : ∀ b ∈ l.fraction, Raw.isDigit b = true
  exponent_digits : ∀ e ∈ l.exponent, e.2 ≠ [] ∧ ∀ b ∈ e.2, Raw.isDigit b = true

/-- Whether a literal has a point or an exponent, so that no integer is written like it. -/
def IsFloat (l : Literal) : Prop := (l.fraction.isEmpty && l.exponent.isNone) = false

variable {l : Literal} {v : Json}

/-- What a literal comes to as a float is one. -/
theorem isFloat_of_float? (h : l.float? = some v) : ∃ x, v = .float x := by
  obtain ⟨f, -, rfl⟩ := Option.map_eq_some_iff.1 h
  exact ⟨_, rfl⟩

/-- **A literal with a point or an exponent is no integer.** -/
theorem IsFloat.value? (hl : l.IsFloat) (h : l.value? = some v) : ∃ x, v = .float x := by
  rw [Literal.value?, hl] at h
  exact isFloat_of_float? h

end Literal

namespace Json

/-! ### The grammar of a number -/

variable {l : Literal} {rest : Bytes} {exponent : Option (Bool × Bytes)}

/-- Behind the digits before an exponent there is no further digit, and no point. -/
theorem head?_exponentText (hrest : Closed rest) {b : UInt8}
    (hb : b ∈ (Literal.exponentText exponent ++ rest).head?) :
    Raw.isDigit b = false ∧ b ≠ 0x2E := by
  cases exponent with
  | none => rcases hrest b hb with rfl | rfl | rfl <;> decide
  | some e =>
    obtain rfl : (0x65 : UInt8) = b := Option.some.inj hb
    decide

/-- The text of an exponent is read as that exponent. -/
theorem readExponent_text (h : ∀ e ∈ exponent, e.2 ≠ [] ∧ ∀ b ∈ e.2, Raw.isDigit b = true)
    (hrest : Closed rest) :
    Raw.readExponent (Literal.exponentText exponent ++ rest) = some (exponent, rest) := by
  cases exponent with
  | none =>
    cases rest with
    | nil => rfl
    | cons b tl => rcases hrest b rfl with rfl | rfl | rfl <;> rfl
  | some e =>
    obtain ⟨positive, ds⟩ := e
    obtain ⟨hne, hds⟩ := h (positive, ds) rfl
    have hdigits : Raw.digits (ds ++ rest) = (ds, rest) :=
      digits_append hds (not_isDigit_of_closed hrest)
    have hempty : ds.isEmpty = false := List.isEmpty_eq_false_iff.2 hne
    cases positive <;>
      simp [Literal.exponentText, Raw.readExponent, Raw.exponentSign, hdigits, hempty]

/-- **A number is read to the literal that is written.** -/
theorem readUnsigned_text (negative : Bool) (h : l.IsSpelled) (hrest : Closed rest) :
    Raw.readUnsigned negative
        (l.whole ++ ((if l.fraction = [] then [] else 0x2E :: l.fraction) ++
          Literal.exponentText l.exponent) ++ rest) =
      some (⟨negative, l.whole, l.fraction, l.exponent⟩, rest) := by
  have hstop : ∀ b ∈ (Literal.exponentText l.exponent ++ rest).head?, Raw.isDigit b = false :=
    fun b hb => (head?_exponentText hrest hb).1
  have hfraction : Raw.readFraction ((if l.fraction = [] then [] else 0x2E :: l.fraction) ++
      (Literal.exponentText l.exponent ++ rest)) =
      some (l.fraction, Literal.exponentText l.exponent ++ rest) := by
    by_cases hnil : l.fraction = []
    · rw [if_pos hnil, hnil, List.nil_append]
      unfold Raw.readFraction
      split
      next heq => exact absurd rfl (head?_exponentText hrest (by rw [heq]; rfl)).2
      next => rfl
    · have hempty : l.fraction.isEmpty = false := List.isEmpty_eq_false_iff.2 hnil
      have hdigits := digits_append h.fraction_digits hstop
      rw [if_neg hnil, List.cons_append]
      simp [Raw.readFraction, hdigits, hempty]
  have hwhole : Raw.digits (l.whole ++ ((if l.fraction = [] then [] else 0x2E :: l.fraction) ++
      (Literal.exponentText l.exponent ++ rest))) =
      (l.whole, (if l.fraction = [] then [] else 0x2E :: l.fraction) ++
        (Literal.exponentText l.exponent ++ rest)) := by
    refine digits_append h.whole_digits fun b hb => ?_
    by_cases hnil : l.fraction = []
    · rw [if_pos hnil] at hb
      exact hstop b hb
    · rw [if_neg hnil] at hb
      obtain rfl : (0x2E : UInt8) = b := Option.some.inj hb
      decide
  have hempty : l.whole.isEmpty = false := List.isEmpty_eq_false_iff.2 h.whole_ne_nil
  have hzero : (l.whole.head? == some 0x30 && l.whole.length != 1) = false := by
    rw [Bool.and_eq_false_iff]
    by_cases hhead : l.whole.head? = some 0x30
    · exact .inr (by rw [h.no_leading_zero hhead]; rfl)
    · exact .inl (beq_eq_false_iff_ne.2 hhead)
  rw [List.append_assoc, List.append_assoc, Raw.readUnsigned, hwhole]
  simp only [hempty, hzero, Bool.or_self, Bool.false_eq_true, if_false, hfraction, Option.bind_some,
    readExponent_text h.exponent_digits hrest, Option.map_some]

/-- The text of a literal is read as that literal. -/
theorem readNumber_text (h : l.IsSpelled) (hrest : Closed rest) :
    Raw.readNumber (l.text ++ rest) = some (l, rest) := by
  obtain ⟨negative, whole, fraction, exponent⟩ := l
  cases negative with
  | true => exact readUnsigned_text true h hrest
  | false =>
    obtain ⟨b, tl, hwhole⟩ := List.exists_cons_of_ne_nil h.whole_ne_nil
    have hb : b ≠ 0x2D := by
      rintro rfl
      exact absurd (h.whole_digits 0x2D (hwhole ▸ List.mem_cons_self ..)) (by decide)
    have hread := readUnsigned_text false h hrest
    dsimp only at hwhole hread
    rw [hwhole] at hread ⊢
    rw [← hread]
    exact Raw.readNumber.eq_2 _ fun _ heq => hb (List.cons.inj heq).1

end Json

namespace Shortest

/-! ### The decimal of a float -/

variable {x : Binary64} {bits num den : Nat} {d : Decimal}

/-- Only a positive coefficient reads back as a float that is not zero. -/
theorem coefficient_pos_of_readsBack (hbits : bits ≠ 0) (h : readsBack bits d = true) :
    0 < d.coefficient := by
  rw [Nat.pos_iff_ne_zero]
  intro hzero
  have hunits : (inUnits d.coefficient 1 (-d.exponent)).1 = 0 := by
    rw [hzero, inUnits]
    split_ifs
    · exact Nat.zero_mul _
    · rfl
  have hback : Binary64.nearestBits (inUnits d.coefficient 1 (-d.exponent)).1
      (inUnits d.coefficient 1 (-d.exponent)).2 = bits := beq_iff_eq.1 h
  rw [hunits, Binary64.nearestBits, if_pos rfl] at hback
  exact hbits hback.symm

/-- What the search finds for a float that is not zero has a positive coefficient. -/
theorem coefficient_pos_of_search (hbits : bits ≠ 0) {top : Int} {fuel n : Nat}
    (h : search bits num den top fuel n = some d) : 0 < d.coefficient := by
  induction fuel generalizing n with
  | zero => exact absurd h (by simp [search])
  | succ fuel ih =>
    rw [search] at h
    split at h
    next found hfound =>
      obtain rfl := Option.some.inj h
      exact coefficient_pos_of_readsBack hbits (List.find?_some hfound)
    next => exact ih h

/-- A positive coefficient stays positive when its zeros are taken off. -/
theorem coefficient_pos_normalize {fuel : Nat} (h : 0 < d.coefficient) :
    0 < (normalize fuel d).coefficient := by
  induction fuel generalizing d with
  | zero => exact h
  | succ fuel ih =>
    rw [normalize]
    split
    next hstrip =>
      rw [Bool.and_eq_true, decide_eq_true_iff] at hstrip
      refine ih ?_
      show 0 < d.coefficient / 10
      omega
    next => exact h

/-- A decimal without a digit that counts has no exponent either. -/
theorem exponent_decimal (hx : x.magnitude ≠ 0) (h : (decimal x).coefficient = 0) :
    (decimal x).exponent = 0 := by
  unfold decimal at h ⊢
  dsimp only at h ⊢
  split at h
  next found hfound =>
    have hpos : 0 < (normalize 20 found).coefficient :=
      coefficient_pos_normalize (coefficient_pos_of_search hx hfound)
    omega
  next => rfl

/-! ### The layouts -/

/-- A literal with a point or an exponent whose text is a run of characters behind a sign. -/
def Spells (negative : Bool) (cs : List Char) (l : Literal) : Prop :=
  l.IsSpelled ∧ l.IsFloat ∧ Json.ascii ((if negative then ['-'] else []) ++ cs) = l.text

/-- Zero is spelled by a literal. -/
theorem exists_spells_zero (negative : Bool) : ∃ l, Spells negative ['0', '.', '0'] l := by
  refine ⟨⟨negative, [0x30], [0x30], none⟩, ?_, rfl, ?_⟩
  · constructor <;> simp [Raw.isDigit]
  · cases negative <;> rfl

section Layout

variable {negative : Bool} {ds : List Char} {point : Int}

/-- The digits of a number that does not start with a zero. -/
structure Leads (ds : List Char) : Prop where
  ne_nil : ds ≠ []
  digits : ∀ b ∈ Json.ascii ds, Raw.isDigit b = true
  head : (Json.ascii ds).head? ≠ some 0x30

/-- The zeros that are filled in are digits. -/
theorem isDigit_replicate {k : Nat} {b : UInt8} (h : b ∈ List.replicate k (0x30 : UInt8)) :
    Raw.isDigit b = true := by
  rw [(List.mem_replicate.1 h).2]
  decide

/-- The bytes of two texts are those of the one and then of the other. -/
theorem ascii_append (cs ds : List Char) : Json.ascii (cs ++ ds) = Json.ascii cs ++ Json.ascii ds :=
  List.map_append

/-- The sign of a negative number is a minus, and of any other nothing. -/
theorem ascii_sign (negative : Bool) :
    Json.ascii (if negative then ['-'] else []) = if negative then [0x2D] else [] := by
  cases negative <;> rfl

/-- Leading digits are not written as nothing. -/
theorem Leads.ascii_ne_nil (h : Leads ds) : Json.ascii ds ≠ [] := by
  rw [Json.ascii, Ne, List.map_eq_nil_iff]
  exact h.ne_nil

/-- All digits stand before the point. -/
theorem exists_spells_whole (h : Leads ds) (k : Nat) :
    ∃ l, Spells negative (ds ++ List.replicate k '0' ++ ['.', '0']) l := by
  have hzeros : Json.ascii (List.replicate k '0') = List.replicate k 0x30 := by
    rw [Json.ascii, List.map_replicate]
    rfl
  refine ⟨⟨negative, Json.ascii ds ++ List.replicate k 0x30, [0x30], none⟩, ?_, rfl, ?_⟩
  · constructor
    · simp [h.ascii_ne_nil]
    · intro b hb
      rcases List.mem_append.1 hb with hb | hb
      · exact h.digits b hb
      · exact isDigit_replicate hb
    · intro hhead
      rw [List.head?_append_of_ne_nil _ h.ascii_ne_nil] at hhead
      exact absurd hhead h.head
    · intro b hb
      rw [List.mem_singleton.1 hb]
      decide
    · simp
  · rw [ascii_append, ascii_append, ascii_append, ascii_sign, hzeros]
    simp [Literal.text, Literal.exponentText, Json.ascii]

/-- The point stands between the digits. -/
theorem exists_spells_inside (h : Leads ds) {k : Nat} (hk : 0 < k) (hlt : k < ds.length) :
    ∃ l, Spells negative (ds.take k ++ '.' :: ds.drop k) l := by
  have htake : Json.ascii (ds.take k) = (Json.ascii ds).take k := List.map_take
  have hdrop : Json.ascii (ds.drop k) = (Json.ascii ds).drop k := List.map_drop
  have hlength : (Json.ascii ds).length = ds.length := List.length_map _
  have hfraction : (Json.ascii ds).drop k ≠ [] := by
    rw [Ne, List.drop_eq_nil_iff]
    omega
  refine ⟨⟨negative, (Json.ascii ds).take k, (Json.ascii ds).drop k, none⟩, ?_, ?_, ?_⟩
  · constructor
    · rw [Ne, List.take_eq_nil_iff, not_or]
      exact ⟨hk.ne', h.ascii_ne_nil⟩
    · intro b hb
      exact h.digits b (List.mem_of_mem_take hb)
    · intro hhead
      rw [List.head?_take, if_neg hk.ne'] at hhead
      exact absurd hhead h.head
    · intro b hb
      exact h.digits b (List.mem_of_mem_drop hb)
    · simp
  · simp [Literal.IsFloat, hfraction]
  · rw [ascii_append, ascii_append, ascii_sign, htake]
    have hpoint : Json.ascii ('.' :: ds.drop k) = 0x2E :: (Json.ascii ds).drop k := by
      rw [← hdrop]
      rfl
    rw [hpoint]
    simp only [Literal.text, Literal.exponentText, if_neg hfraction, List.append_nil]

/-- The point stands before the digits. -/
theorem exists_spells_fraction (h : Leads ds) (k : Nat) :
    ∃ l, Spells negative (['0', '.'] ++ List.replicate k '0' ++ ds) l := by
  have hzeros : Json.ascii (List.replicate k '0') = List.replicate k 0x30 := by
    rw [Json.ascii, List.map_replicate]
    rfl
  have hfraction : List.replicate k 0x30 ++ Json.ascii ds ≠ [] := by simp [h.ascii_ne_nil]
  refine ⟨⟨negative, [0x30], List.replicate k 0x30 ++ Json.ascii ds, none⟩, ?_, ?_, ?_⟩
  · constructor
    · simp
    · intro b hb
      rw [List.mem_singleton.1 hb]
      decide
    · exact fun _ => rfl
    · intro b hb
      rcases List.mem_append.1 hb with hb | hb
      · exact isDigit_replicate hb
      · exact h.digits b hb
    · simp
  · rw [Literal.IsFloat, List.isEmpty_eq_false_iff.2 hfraction]
    rfl
  · rw [ascii_append, ascii_append, ascii_append, ascii_sign, hzeros]
    simp only [Literal.text, Literal.exponentText, if_neg hfraction, List.append_nil]
    simp [Json.ascii]

/-- One digit stands before the point, and all stand before an exponent. -/
theorem exists_spells_exponent {d : Char} {rest : List Char} (h : Leads (d :: rest)) (e : Int) :
    ∃ l, Spells negative ((if rest = [] then [d] else d :: '.' :: rest) ++
      'e' :: (if e < 0 then '-' else '+') :: Nat.toDigits 10 e.natAbs) l := by
  have hexponent : Json.ascii ('e' :: (if e < 0 then '-' else '+') :: Nat.toDigits 10 e.natAbs) =
      Literal.exponentText (some (decide (¬ e < 0), Json.ascii (Numeral.render e.natAbs))) := by
    by_cases he : e < 0 <;> simp [he, Json.ascii, Literal.exponentText, Numeral.render]
  refine ⟨⟨negative, Json.ascii [d], Json.ascii rest,
    some (decide (¬ e < 0), Json.ascii (Numeral.render e.natAbs))⟩, ?_, ?_, ?_⟩
  · constructor
    · exact List.cons_ne_nil _ _
    · intro b hb
      exact h.digits b (List.mem_append_left (Json.ascii rest) hb)
    · exact fun _ => rfl
    · intro b hb
      exact h.digits b (List.mem_cons_of_mem _ hb)
    · intro exponent hexp
      obtain rfl := Option.some.inj hexp
      exact ⟨Json.ascii_render_ne_nil _, fun b hb => Json.isDigit_ascii hb⟩
  · simp [Literal.IsFloat]
  · rw [ascii_append, ascii_append, ascii_sign, hexponent, Literal.text]
    cases rest with
    | nil => rfl
    | cons c rest => rfl

/-- **Every layout of digits is a literal with a point or an exponent.** -/
theorem exists_spells_layout (h : Leads ds) (point : Int) :
    ∃ l, Spells negative (layout ds point) l := by
  unfold layout
  dsimp only
  split
  next => exact exists_spells_whole h _
  next hwhole =>
    split
    next hinside =>
      rw [Bool.and_eq_true, decide_eq_true_iff, decide_eq_true_iff] at hwhole hinside
      exact exists_spells_inside h (by omega) (by omega)
    next =>
      split
      next => exact exists_spells_fraction h _
      next =>
        obtain ⟨d, rest, rfl⟩ := List.exists_cons_of_ne_nil h.ne_nil
        cases rest with
        | nil => exact exists_spells_exponent h (point - 1)
        | cons c rest => exact exists_spells_exponent h (point - 1)

end Layout

/-- A number other than zero is written in digits that do not start with a zero. -/
theorem leads_render {n : Nat} (hn : n ≠ 0) : Leads (Numeral.render n) := by
  refine ⟨Numeral.render_ne_nil n, fun b hb => Json.isDigit_ascii hb, fun hhead => ?_⟩
  have hchar : (Numeral.render n).head? = some '0' := by
    obtain ⟨c, rest, hrender⟩ := List.exists_cons_of_ne_nil (Numeral.render_ne_nil n)
    have hdigit := Numeral.toNat_of_mem_render (n := n) (hrender ▸ List.mem_cons_self (a := c))
    rw [hrender] at hhead ⊢
    have hbyte := congrArg UInt8.toNat (Option.some.inj hhead)
    rw [UInt8.toNat_ofNat_of_lt' (by change c.toNat < 256; omega)] at hbyte
    exact congrArg some (Char.toNat_inj.1 hbyte)
  have hvalue := congrArg (Nat.ofDigitChars 10 · 0) (Numeral.head?_render hchar)
  rw [Numeral.render, Nat.ofDigitChars_ten_toDigits] at hvalue
  exact hn hvalue

/-- **A float is written as a literal with a point or an exponent.** -/
theorem exists_literal (x : Binary64) :
    ∃ l : Literal, l.IsSpelled ∧ l.IsFloat ∧ Json.ascii (render x) = l.text := by
  unfold render
  dsimp only
  split
  next => exact exists_spells_zero x.isNegative
  next hzero =>
    rcases Nat.eq_zero_or_pos (decimal x).coefficient with hcoefficient | hpos
    · rw [hcoefficient, exponent_decimal hzero hcoefficient]
      exact exists_spells_zero x.isNegative
    · exact exists_spells_layout (leads_render hpos.ne') _

end Shortest

namespace Json

/-! ### The text of a float -/

/-- The literal that a float is written as. -/
def floatLiteral (x : Binary64) : Literal :=
  ((Raw.readNumber (ascii (Shortest.render x))).map Prod.fst).getD ⟨false, [], [], none⟩

/-- The literal of a float is spelled as it should be, is no integer, and is what the float is
written as. -/
theorem floatLiteral_spec (x : Binary64) :
    (floatLiteral x).IsSpelled ∧ (floatLiteral x).IsFloat ∧
      ascii (Shortest.render x) = (floatLiteral x).text := by
  obtain ⟨l, hspelled, hfloat, htext⟩ := Shortest.exists_literal x
  have hread := readNumber_text hspelled closed_nil
  rw [List.append_nil, ← htext] at hread
  have hl : floatLiteral x = l := by
    rw [floatLiteral, hread]
    rfl
  rw [hl]
  exact ⟨hspelled, hfloat, htext⟩

/-- **A float is read to its literal.** -/
theorem readNumber_render (x : Binary64) (hrest : Closed rest) :
    Raw.readNumber (ascii (Shortest.render x) ++ rest) = some (floatLiteral x, rest) := by
  obtain ⟨hspelled, -, htext⟩ := floatLiteral_spec x
  rw [htext, readNumber_text hspelled hrest]

/-- The first byte of a float: a sign or a digit. -/
theorem render_eq_cons (x : Binary64) :
    ∃ b tl, ascii (Shortest.render x) = b :: tl ∧ (b = 0x2D ∨ Raw.isDigit b = true) := by
  obtain ⟨hspelled, -, htext⟩ := floatLiteral_spec x
  obtain ⟨b, tl, hwhole⟩ := List.exists_cons_of_ne_nil hspelled.whole_ne_nil
  rw [htext, Literal.text, hwhole]
  cases (floatLiteral x).negative with
  | true => exact ⟨_, _, rfl, .inl rfl⟩
  | false => exact ⟨_, _, rfl, .inr (hspelled.whole_digits b (hwhole ▸ List.mem_cons_self ..))⟩

end Json
end Switchboard
