/-
# Strings in JSON read back

A string is written byte by byte, and each byte's written form can be read
whatever follows it: `Raw.readText` takes it as it stands
(`readText_escapeByte`), and `Raw.unescape` gives the byte back
(`unescape_escapeByte`).  So the content of a written string ends at its own
closing quote, and spells the string (`readText_escaped`, `spelled?_escaped`).
-/

import Switchboard.Proofs.Text.Digits

namespace Switchboard
namespace Json

/-- The escaped content of a string. -/
def escaped (s : String) : Bytes := (Utf8.encode s).flatMap escapeByte

/-- A string is written between two quotes, with what has to be escaped. -/
theorem writeText_eq (s : String) : writeText s = 0x22 :: escaped s ++ [0x22] := rfl

/-- A hexadecimal digit is read back. -/
theorem hexDigit?_hexDigit : ∀ n < 16, Raw.hexDigit? (hexDigit n) = some n := by decide

/-- A control character without a letter of its own is written by its number. -/
theorem escapeByte_control {b : UInt8} (h : b < 0x20) :
    escapeByte b = [0x5C, 0x75, 0x30, 0x30, hexDigit (b.toNat / 16), hexDigit (b.toNat % 16)] ∨
      ∃ e, Raw.isShortEscape e = true ∧ Raw.shortEscape e = b ∧ escapeByte b = [0x5C, e] := by
  have hq : b ≠ 0x22 ∧ b ≠ 0x5C := by
    constructor <;> (rintro rfl; exact absurd h (by decide))
  unfold escapeByte
  simp only [beq_iff_eq, hq.1, hq.2, if_false, h, if_true]
  split_ifs with h₁ h₂ h₃ h₄ h₅
  · exact .inr ⟨0x62, by decide, by rw [h₁]; decide, rfl⟩
  · exact .inr ⟨0x74, by decide, by rw [h₂]; decide, rfl⟩
  · exact .inr ⟨0x6E, by decide, by rw [h₃]; decide, rfl⟩
  · exact .inr ⟨0x66, by decide, by rw [h₄]; decide, rfl⟩
  · exact .inr ⟨0x72, by decide, by rw [h₅]; decide, rfl⟩
  · exact .inl rfl

/-- **The three written forms of a byte.** -/
theorem escapeByte_cases (b : UInt8) :
    (b ≠ 0x22 ∧ b ≠ 0x5C ∧ ¬ b < 0x20 ∧ escapeByte b = [b]) ∨
      (∃ e, Raw.isShortEscape e = true ∧ Raw.shortEscape e = b ∧ escapeByte b = [0x5C, e]) ∨
      (b < 0x20 ∧ escapeByte b =
        [0x5C, 0x75, 0x30, 0x30, hexDigit (b.toNat / 16), hexDigit (b.toNat % 16)]) := by
  by_cases hq : b = 0x22
  · exact .inr (.inl ⟨0x22, by decide, by rw [hq]; decide, by rw [hq]; decide⟩)
  by_cases hs : b = 0x5C
  · exact .inr (.inl ⟨0x5C, by decide, by rw [hs]; decide, by rw [hs]; decide⟩)
  by_cases hc : b < 0x20
  · rcases escapeByte_control hc with h | h
    · exact .inr (.inr ⟨hc, h⟩)
    · exact .inr (.inl h)
  · refine .inl ⟨hq, hs, hc, ?_⟩
    have hne : ∀ c : UInt8, c < 0x20 → b ≠ c := by
      rintro c h rfl
      exact hc h
    simp only [escapeByte, beq_iff_eq, hq, hs, hc, hne 0x08 (by decide), hne 0x09 (by decide),
      hne 0x0A (by decide), hne 0x0C (by decide), hne 0x0D (by decide), if_false]

/-- A letter of a short escape is not the one that numbers follow. -/
theorem isShortEscape_ne {e : UInt8} (h : Raw.isShortEscape e = true) : e ≠ 0x75 := by
  rintro rfl
  exact absurd h (by decide)

/-- The control characters stand below 32. -/
theorem toNat_control {b : UInt8} (h : b < 0x20) : b.toNat < 32 := UInt8.lt_iff_toNat_lt.1 h

/-- **The written form of a byte is taken as it stands.** -/
theorem readText_escapeByte (b : UInt8) (rest : Bytes) :
    Raw.readText .nothing (escapeByte b ++ rest) =
      (Raw.readText .nothing rest).map fun (s, r) => (escapeByte b ++ s, r) := by
  rcases escapeByte_cases b with ⟨hq, hs, hc, hb⟩ | ⟨e, he, -, hb⟩ | ⟨hc, hb⟩
  · rw [hb]
    simp [Raw.readText, hq, hs, hc]
  · rw [hb]
    simp [Raw.readText, he, isShortEscape_ne he, Option.map_map, Function.comp_def]
  · have hn := toNat_control hc
    have h₁ := hexDigit?_hexDigit (b.toNat / 16) (by omega)
    have h₂ := hexDigit?_hexDigit (b.toNat % 16) (by omega)
    have h₀ : (Raw.hexDigit? 0x30).isSome = true := by decide
    rw [hb]
    simp [Raw.readText, h₀, h₁, h₂, Option.map_map, Function.comp_def]

/-- **A written string ends at its closing quote.** -/
theorem readText_escaped (s : String) (rest : Bytes) :
    Raw.readText .nothing (escaped s ++ 0x22 :: rest) = some (escaped s, rest) := by
  rw [escaped]
  induction Utf8.encode s with
  | nil => simp [Raw.readText]
  | cons b bs ih => rw [List.flatMap_cons, List.append_assoc, readText_escapeByte, ih]; rfl

/-- A control character's number spells the character. -/
theorem hexValue_control {b : UInt8} (h : b < 0x20) :
    Raw.hexValue 0x30 0x30 (hexDigit (b.toNat / 16)) (hexDigit (b.toNat % 16)) = b.toNat := by
  have hn := toNat_control h
  have h₀ : Raw.hexDigit? 0x30 = some 0 := by decide
  simp only [Raw.hexValue, h₀, hexDigit?_hexDigit (b.toNat / 16) (by omega),
    hexDigit?_hexDigit (b.toNat % 16) (by omega), Option.getD_some]
  omega

/-- A control character is its own byte. -/
theorem codePoint_control {b : UInt8} (h : b < 0x20) : Raw.codePoint b.toNat = [b] := by
  have hall : ∀ n < 32, Raw.codePoint n = [UInt8.ofNat n] := by decide
  rw [hall _ (toNat_control h), UInt8.ofNat_toNat]

/-- **The written form of a byte spells the byte.** -/
theorem unescape_escapeByte (b : UInt8) (rest : Bytes) :
    Raw.unescape 0 (escapeByte b ++ rest) = (Raw.unescape 0 rest).map (b :: ·) := by
  rcases escapeByte_cases b with ⟨-, hs, -, hb⟩ | ⟨e, he, hv, hb⟩ | ⟨hc, hb⟩
  · rw [hb, List.singleton_append, Raw.unescape.eq_def]
    simp [hs]
  · have hu := isShortEscape_ne he
    rw [hb]
    simp [Raw.unescape, hu, hv]
  · have hn := toNat_control hc
    have hu : Raw.unicodeEscape b.toNat rest = some ([b], 0) := by
      unfold Raw.unicodeEscape
      rw [if_neg (by simp; omega), if_neg (by simp; omega), codePoint_control hc]
    rw [hb]
    simp [Raw.unescape, hexValue_control hc, hu]

/-- **A written string spells the string.** -/
theorem spelled?_escaped (s : String) : Raw.spelled? (escaped s) = some s := by
  have h : ∀ bs : Bytes, Raw.unescape 0 (bs.flatMap escapeByte) = some bs := by
    intro bs
    induction bs with
    | nil => rfl
    | cons b bs ih => rw [List.flatMap_cons, unescape_escapeByte, ih]; rfl
  rw [Raw.spelled?, escaped, h, Option.bind_some, Utf8.decode?_encode]

end Json
end Switchboard
