/-
# Integers in JSON read back

An integer is written as a sign and digits.  Where the text closes behind it,
as it does behind every value in a written text, the reader takes exactly these
digits (`readNumber_writeInt`), and they spell the integer if it is a word of 64
bits, signed or unsigned (`value?_literalOf`).
-/

import Switchboard.Proofs.Text.Digits

namespace Switchboard
namespace Json

/-- The literal that an integer is written as. -/
def literalOf (n : Int) : Literal := ⟨decide (n < 0), ascii (Numeral.render n.natAbs), [], none⟩

/-- A text that does not go on with a number: it is at its end, or a comma or a
closing bracket stands there. -/
def Closed (rest : Bytes) : Prop := ∀ b ∈ rest.head?, b = 0x2C ∨ b = 0x5D ∨ b = 0x7D

/-- At the end of the text a number is closed. -/
theorem closed_nil : Closed [] := by simp [Closed]

/-- A comma or a bracket closes a number. -/
theorem closed_cons {b : UInt8} (rest : Bytes) (h : b = 0x2C ∨ b = 0x5D ∨ b = 0x7D) :
    Closed (b :: rest) := by
  intro c hc
  rw [List.head?_cons, Option.mem_some_iff] at hc
  exact hc ▸ h

/-- A number is written in digits. -/
theorem isDigit_ascii {n : Nat} {b : UInt8} (h : b ∈ ascii (Numeral.render n)) :
    Raw.isDigit b = true := by
  rw [ascii, List.mem_map] at h
  obtain ⟨c, hc, rfl⟩ := h
  obtain ⟨h₁, h₂⟩ := Numeral.toNat_of_mem_render hc
  have hb : (UInt8.ofNat c.toNat).toNat = c.toNat :=
    UInt8.toNat_ofNat_of_lt' (by change c.toNat < 256; omega)
  rw [Raw.isDigit, Bool.and_eq_true, decide_eq_true_iff, decide_eq_true_iff,
    UInt8.le_iff_toNat_le, UInt8.le_iff_toNat_le, hb]
  exact ⟨h₁, h₂⟩

/-- Where a number is closed no digit follows. -/
theorem not_isDigit_of_closed {rest : Bytes} (h : Closed rest) :
    ∀ b ∈ rest.head?, Raw.isDigit b = false := by
  intro b hb
  rcases h b hb with rfl | rfl | rfl <;> decide

/-- Digits are taken up to the first byte that is none. -/
theorem digits_append {ds rest : Bytes} (hds : ∀ b ∈ ds, Raw.isDigit b = true)
    (hrest : ∀ b ∈ rest.head?, Raw.isDigit b = false) : Raw.digits (ds ++ rest) = (ds, rest) := by
  have hstop : rest.takeWhile Raw.isDigit = [] ∧ rest.dropWhile Raw.isDigit = rest := by
    cases rest with
    | nil => exact ⟨rfl, rfl⟩
    | cons b tl =>
      have hb := hrest b rfl
      simp [hb]
  rw [Raw.digits, List.takeWhile_append_of_pos hds, List.dropWhile_append_of_pos hds, hstop.1,
    hstop.2, List.append_nil]

/-- The digits of a number end where the text closes. -/
theorem digits_ascii {n : Nat} {rest : Bytes} (h : Closed rest) :
    Raw.digits (ascii (Numeral.render n) ++ rest) = (ascii (Numeral.render n), rest) :=
  digits_append (fun _ hb => isDigit_ascii hb) (not_isDigit_of_closed h)

/-- No number is written as nothing. -/
theorem ascii_render_ne_nil (n : Nat) : ascii (Numeral.render n) ≠ [] := by
  rw [ascii, Ne, List.map_eq_nil_iff]
  exact Numeral.render_ne_nil n

/-- The digits of a number do not start with a zero that could be left out. -/
theorem no_leading_zero (n : Nat) :
    ((ascii (Numeral.render n)).head? == some 0x30 && (ascii (Numeral.render n)).length != 1) =
      false := by
  rcases hr : Numeral.render n with _ | ⟨c, rest⟩
  · exact absurd hr (Numeral.render_ne_nil n)
  · by_cases hc : c = '0'
    · have h₀ : Numeral.render n = ['0'] := Numeral.head?_render (by rw [hr, hc]; rfl)
      rw [hr] at h₀
      rw [h₀]
      rfl
    · obtain ⟨h₁, h₂⟩ := Numeral.toNat_of_mem_render (n := n) (c := c) (hr ▸ List.mem_cons_self ..)
      have hb : UInt8.ofNat c.toNat ≠ 0x30 := by
        intro he
        have he' := congrArg UInt8.toNat he
        rw [UInt8.toNat_ofNat_of_lt' (by change c.toNat < 256; omega)] at he'
        exact hc (Char.toNat_inj.1 he')
      simp [ascii, hb]

/-- The digits of a number are read as that number. -/
theorem readUnsigned_ascii (negative : Bool) {n : Nat} {rest : Bytes} (h : Closed rest) :
    Raw.readUnsigned negative (ascii (Numeral.render n) ++ rest) =
      some (⟨negative, ascii (Numeral.render n), [], none⟩, rest) := by
  have hfraction : Raw.readFraction rest = some ([], rest) := by
    unfold Raw.readFraction
    split
    · exact absurd (h _ rfl) (by decide)
    · rfl
  have hexponent : Raw.readExponent rest = some (none, rest) := by
    cases rest with
    | nil => rfl
    | cons b tl => rcases h b rfl with rfl | rfl | rfl <;> rfl
  rw [Raw.readUnsigned, digits_ascii h]
  simp only [no_leading_zero n, Bool.or_false, List.isEmpty_eq_false_iff.2 (ascii_render_ne_nil n),
    Bool.false_eq_true, if_false, hfraction, hexponent, Option.bind_some, Option.map_some]

/-- **An integer is read to its literal.** -/
theorem readNumber_writeInt (n : Int) {rest : Bytes} (h : Closed rest) :
    Raw.readNumber (writeInt n ++ rest) = some (literalOf n, rest) := by
  have hw : writeInt n = (if n < 0 then [0x2D] else []) ++ ascii (Numeral.render n.natAbs) := rfl
  rw [hw, literalOf]
  by_cases hn : n < 0
  · rw [if_pos hn, decide_eq_true hn]
    exact readUnsigned_ascii true h
  · rw [if_neg hn, decide_eq_false hn, List.nil_append]
    rcases hd : ascii (Numeral.render n.natAbs) with _ | ⟨b, tl⟩
    · exact absurd hd (ascii_render_ne_nil _)
    · have hb : b ≠ 0x2D := by
        rintro rfl
        exact absurd (isDigit_ascii (n := n.natAbs) (hd ▸ List.mem_cons_self ..)) (by decide)
      rw [List.cons_append, Raw.readNumber.eq_2 _ fun _ he => hb (List.cons.inj he).1,
        ← List.cons_append, ← hd]
      exact readUnsigned_ascii false h

/-- **The literal of an integer is the integer if that has 64 bits**, and a float otherwise. -/
theorem value?_literalOf_eq (n : Int) :
    (literalOf n).value? =
      if -(2 ^ 63) ≤ n ∧ n < 2 ^ 64 then some (.int n) else (literalOf n).float? := by
  have hv : Literal.natValue (literalOf n).whole = n.natAbs := Literal.natValue_ascii _
  have hint : ((literalOf n).fraction.isEmpty && (literalOf n).exponent.isNone) = true := rfl
  have hlimit : Literal.wordLimit = 2 ^ 64 := rfl
  have hhalf : Nat.pow 2 63 = 2 ^ 63 := rfl
  rw [Literal.value?, if_pos hint, hv]
  by_cases hn : n < 0
  · have hneg : (literalOf n).negative = true := decide_eq_true hn
    have hr : (decide (0 < n.natAbs) && decide (n.natAbs ≤ Nat.pow 2 63)) =
        decide (-(2 ^ 63) ≤ n ∧ n < 2 ^ 64) := by
      rw [hhalf, ← Bool.decide_and, decide_eq_decide]
      omega
    simp only [hneg, if_true, hr, decide_eq_true_eq]
    rw [show -(n.natAbs : Int) = n by omega]
  · have hneg : (literalOf n).negative = false := decide_eq_false hn
    have hr : n.natAbs < Literal.wordLimit ↔ -(2 ^ 63) ≤ n ∧ n < 2 ^ 64 := by
      rw [hlimit]
      omega
    simp only [hneg, Bool.false_eq_true, if_false, hr]
    rw [show (n.natAbs : Int) = n by omega]

/-- **The literal of an integer of 64 bits is the integer.** -/
theorem value?_literalOf {n : Int} (h₁ : -(2 ^ 63) ≤ n) (h₂ : n < 2 ^ 64) :
    (literalOf n).value? = some (.int n) := by
  rw [value?_literalOf_eq, if_pos ⟨h₁, h₂⟩]

end Json
end Switchboard
