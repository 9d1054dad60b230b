/-
# Bytes that spell texts, and digits that spell numbers

The UTF-8 form of a text reads back as the text (`Utf8.decode?_encode`), and
characters of ASCII are one byte each (`Utf8.decode?_ascii`, `Utf8.decode?_of_lt`).
The decimal
digits of a number are digits, do not start with a zero unless that is the
number, and have the number as their value, both as characters
(`Numeral.parse?_render`) and as bytes (`Literal.natValue_ascii`).
-/

import Mathlib.Tactic
import Switchboard.Wire.Frame

namespace Switchboard

namespace Utf8

/-- A string is encoded character by character. -/
theorem encode_ofList (cs : List Char) :
    encode (String.ofList cs) = cs.flatMap String.utf8EncodeChar := by
  have h : (String.ofList cs).toByteArray.data = (cs.flatMap String.utf8EncodeChar).toArray := by
    rw [String.toByteArray_ofList, List.utf8Encode, List.data_toByteArray]
  change (String.ofList cs).toByteArray.data.toList = _
  rw [h]

/-- **A text survives its bytes.** -/
theorem decode?_encode (s : String) : decode? (encode s) = some s := by
  have hb : (⟨(encode s).toArray⟩ : ByteArray) = s.toByteArray := by simp [encode]
  have hv : s.toByteArray.IsValidUTF8 := s.isValidUTF8
  unfold decode?
  rw [hb, String.fromUTF8?, dif_pos hv]
  rfl

/-- Bytes that spell a text are the bytes of that text. -/
theorem encode_of_decode? {bs : Bytes} {s : String} (h : decode? bs = some s) :
    encode s = bs := by
  unfold decode? String.fromUTF8? at h
  split at h
  · obtain rfl := Option.some.inj h
    rfl
  · exact absurd h (by simp)

/-- A character of ASCII is one byte. -/
theorem utf8EncodeChar_ascii {c : Char} (h : c.toNat < 128) :
    String.utf8EncodeChar c = [UInt8.ofNat c.toNat] := by
  have hc : c.utf8Size = 1 := Char.utf8Size_eq_one_iff.2 (by
    rw [UInt32.le_iff_toNat_le]; change c.toNat ≤ 127; omega)
  rw [String.utf8EncodeChar_eq_singleton hc]
  rfl

/-- For characters below 128 the plain bytes are the encoding. -/
theorem ascii_eq_encode {cs : List Char} (h : ∀ c ∈ cs, c.toNat < 128) :
    Json.ascii cs = encode (String.ofList cs) := by
  rw [encode_ofList]
  induction cs with
  | nil => rfl
  | cons c rest ih =>
    rw [List.flatMap_cons, utf8EncodeChar_ascii (h c (List.mem_cons_self ..)),
      ← ih fun d hd => h d (List.mem_cons_of_mem _ hd)]
    rfl

/-- **Characters of ASCII are read from their bytes.** -/
theorem decode?_ascii {cs : List Char} (h : ∀ c ∈ cs, c.toNat < 128) :
    decode? (Json.ascii cs) = some (String.ofList cs) := by
  rw [ascii_eq_encode h, decode?_encode]

/-- The characters of bytes of ASCII. -/
def chars (bs : Bytes) : List Char := bs.map fun b => Char.ofNat b.toNat

/-- The character of a valid number has that number. -/
theorem toNat_ofNat_of_valid {n : Nat} (h : n.isValidChar) : (Char.ofNat n).toNat = n := by
  rw [Char.ofNat, dif_pos h]
  rfl

/-- The character of a number below 128 has that number. -/
theorem toNat_ofNat {n : Nat} (h : n < 128) : (Char.ofNat n).toNat = n :=
  toNat_ofNat_of_valid (Or.inl (by omega))

/-- The characters of bytes below 128 are below 128. -/
theorem toNat_of_mem_chars {bs : Bytes} (h : ∀ b ∈ bs, b < 0x80) {c : Char} (hc : c ∈ chars bs) :
    c.toNat < 128 := by
  obtain ⟨b, hb, rfl⟩ := List.mem_map.1 hc
  have hlt : b.toNat < 128 := UInt8.lt_iff_toNat_lt.1 (h b hb)
  rwa [toNat_ofNat hlt]

/-- Bytes below 128 are the plain bytes of their characters. -/
theorem ascii_chars {bs : Bytes} (h : ∀ b ∈ bs, b < 0x80) : Json.ascii (chars bs) = bs := by
  rw [Json.ascii, chars, List.map_map]
  refine (List.map_congr_left fun b hb => ?_).trans (List.map_id _)
  have hlt : b.toNat < 128 := UInt8.lt_iff_toNat_lt.1 (h b hb)
  rw [Function.comp_apply, toNat_ofNat hlt, UInt8.ofNat_toNat, id_eq]

/-- **Bytes of ASCII are a text.** -/
theorem decode?_of_lt {bs : Bytes} (h : ∀ b ∈ bs, b < 0x80) :
    decode? bs = some (String.ofList (chars bs)) := by
  rw [← decode?_ascii fun c => toNat_of_mem_chars h, ascii_chars h]

/-- Bytes below 128 are the encoding of their characters. -/
theorem encode_chars {bs : Bytes} (h : ∀ b ∈ bs, b < 0x80) :
    encode (String.ofList (chars bs)) = bs := encode_of_decode? (decode?_of_lt h)

end Utf8

/-! ### Digits -/

namespace Numeral

/-- The digits stand between 48 and 57. -/
theorem toNat_of_isDigit {c : Char} (h : c.isDigit = true) : 48 ≤ c.toNat ∧ c.toNat ≤ 57 := by
  rw [Char.isDigit, Bool.and_eq_true, decide_eq_true_iff, decide_eq_true_iff] at h
  exact ⟨h.1, h.2⟩

/-- A digit is worth its distance from the first one. -/
theorem digit?_of_isDigit {c : Char} (h : c.isDigit = true) : digit? c = some (c.toNat - 48) := by
  obtain ⟨h₁, h₂⟩ := toNat_of_isDigit h
  have hc : ('0' ≤ c && c ≤ '9') = true := by
    rw [Bool.and_eq_true, decide_eq_true_iff, decide_eq_true_iff]
    exact ⟨h₁, h₂⟩
  rw [digit?, if_pos hc]
  rfl

/-- Digits are read to the number that they are the digits of. -/
theorem valueFrom_eq_ofDigitChars {cs : List Char} (h : ∀ c ∈ cs, c.isDigit = true) (acc : Nat) :
    valueFrom acc cs = some (Nat.ofDigitChars 10 cs acc) := by
  induction cs generalizing acc with
  | nil => simp [valueFrom]
  | cons c rest ih =>
    rw [valueFrom, digit?_of_isDigit (h c (List.mem_cons_self ..)), Option.bind_some,
      ih (fun d hd => h d (List.mem_cons_of_mem _ hd)), Nat.ofDigitChars_cons, Nat.mul_comm]
    rfl

/-- What is worth anything as a digit is one. -/
theorem isDigit_of_digit? {c : Char} {d : Nat} (h : digit? c = some d) : c.isDigit = true := by
  unfold digit? at h
  split at h
  next hc =>
    rw [Bool.and_eq_true, decide_eq_true_iff, decide_eq_true_iff] at hc
    rw [Char.isDigit, Bool.and_eq_true, decide_eq_true_iff, decide_eq_true_iff]
    exact ⟨hc.1, hc.2⟩
  · exact absurd h (by simp)

/-- Only digits are read as a number. -/
theorem isDigit_of_valueFrom {cs : List Char} {acc n : Nat} (h : valueFrom acc cs = some n) :
    ∀ c ∈ cs, c.isDigit = true := by
  induction cs generalizing acc with
  | nil => exact fun c hc => absurd hc List.not_mem_nil
  | cons c rest ih =>
    obtain ⟨d, hd, hrest⟩ := Option.bind_eq_some_iff.1 h
    exact List.forall_mem_cons.2 ⟨isDigit_of_digit? hd, ih hrest⟩

/-- How a count is written: digits, perhaps behind a plus sign, whose value fits
a word. -/
def Spells (cs : List Char) (n : Nat) : Prop :=
  ∃ digits : List Char, (cs = digits ∨ cs = '+' :: digits) ∧ digits ≠ [] ∧
    (∀ c ∈ digits, c.isDigit = true) ∧ n = Nat.ofDigitChars 10 digits 0 ∧ n < wordBound

/-- A number is read off a row of digits that is not empty, and off nothing else. -/
theorem value?_eq_some_iff {cs : List Char} {n : Nat} :
    value? cs = some n ↔
      cs ≠ [] ∧ (∀ c ∈ cs, c.isDigit = true) ∧ n = Nat.ofDigitChars 10 cs 0 := by
  cases cs with
  | nil => simp [value?]
  | cons c rest =>
    rw [value?.eq_2 _ (List.cons_ne_nil c rest)]
    constructor
    · intro h
      have hdigits := isDigit_of_valueFrom h
      rw [valueFrom_eq_ofDigitChars hdigits] at h
      exact ⟨List.cons_ne_nil c rest, hdigits, (Option.some.inj h).symm⟩
    · rintro ⟨-, hdigits, rfl⟩
      exact valueFrom_eq_ofDigitChars hdigits 0

/-- **A count is read exactly from what spells it.** -/
theorem parse?_eq_some_iff {cs : List Char} {n : Nat} : parse? cs = some n ↔ Spells cs n := by
  have hplus : ¬ '+'.isDigit = true := by decide
  unfold parse? Spells
  dsimp only
  rw [Option.filter_eq_some_iff, decide_eq_true_iff]
  split
  next rest =>
    rw [value?_eq_some_iff]
    constructor
    · exact fun ⟨⟨hne, hdigits, hn⟩, hlt⟩ => ⟨rest, .inr rfl, hne, hdigits, hn, hlt⟩
    · rintro ⟨digits, rfl | hcs, hne, hdigits, hn, hlt⟩
      · exact absurd (hdigits '+' (List.mem_cons_self ..)) hplus
      · obtain rfl := (List.cons.inj hcs).2
        exact ⟨⟨hne, hdigits, hn⟩, hlt⟩
  next hcs =>
    rw [value?_eq_some_iff]
    constructor
    · exact fun ⟨⟨hne, hdigits, hn⟩, hlt⟩ => ⟨_, .inl rfl, hne, hdigits, hn, hlt⟩
    · rintro ⟨digits, rfl | rfl, hne, hdigits, hn, hlt⟩
      · exact ⟨⟨hne, hdigits, hn⟩, hlt⟩
      · exact absurd rfl (hcs digits)

/-- A number is written in digits. -/
theorem isDigit_of_mem_render {n : Nat} {c : Char} (h : c ∈ render n) : c.isDigit = true :=
  Nat.isDigit_of_mem_toDigits (by decide) (by decide) h

/-- The characters of a written number stand between 48 and 57. -/
theorem toNat_of_mem_render {n : Nat} {c : Char} (h : c ∈ render n) :
    48 ≤ c.toNat ∧ c.toNat ≤ 57 :=
  toNat_of_isDigit (isDigit_of_mem_render h)

/-- No number is written as nothing. -/
theorem render_ne_nil (n : Nat) : render n ≠ [] := Nat.toDigits_ne_nil

/-- **A count reads back as itself** when it fits the word that counts are read to. -/
theorem parse?_render {n : Nat} (h : n < wordBound) : parse? (render n) = some n := by
  have hvalue : value? (render n) = some n := by
    rw [value?.eq_2 _ fun h => render_ne_nil n h,
      valueFrom_eq_ofDigitChars (fun c hc => isDigit_of_mem_render hc), render,
      Nat.ofDigitChars_ten_toDigits]
  have hsign : ∀ rest, render n ≠ '+' :: rest := fun rest hr => by
    have := toNat_of_mem_render (n := n) (c := '+') (hr ▸ List.mem_cons_self ..)
    exact absurd this.1 (by decide)
  unfold parse?
  split
  · next rest hr => exact absurd hr (hsign rest)
  · change (value? (render n)).filter (· < wordBound) = some n
    rw [hvalue, Option.filter_some, if_pos (decide_eq_true h)]

/-- The digits of a number start with a zero only if the number is zero. -/
theorem head?_render {n : Nat} (h : (render n).head? = some '0') : render n = ['0'] := by
  induction n using Nat.strongRecOn with
  | _ n ih =>
    rw [render] at h ⊢
    rcases Nat.lt_or_ge n 10 with hn | hn
    · rw [Nat.toDigits_of_lt_base hn] at h ⊢
      exact congrArg (· :: []) (Option.some.inj h)
    · have hq : 0 < n / 10 := Nat.div_pos hn (by decide)
      rw [Nat.toDigits_of_base_le (by decide) hn, List.head?_append_of_ne_nil _
        Nat.toDigits_ne_nil] at h
      have h₀ := congrArg (Nat.ofDigitChars 10 · 0) (ih (n / 10) (by omega) h)
      rw [render, Nat.ofDigitChars_ten_toDigits] at h₀
      exact absurd h₀ (by simp [Nat.ofDigitChars]; omega)

end Numeral

namespace Literal

/-- **The bytes of the digits of a number have the number as their value.** -/
theorem natValue_ascii (n : Nat) : natValue (Json.ascii (Numeral.render n)) = n := by
  have hgo : ∀ (cs : List Char), (∀ c ∈ cs, c.isDigit = true) → ∀ acc,
      (Json.ascii cs).foldl (fun n d => n * 10 + digitValue d) acc =
        Nat.ofDigitChars 10 cs acc := by
    intro cs hcs
    induction cs with
    | nil => intro acc; simp [Json.ascii]
    | cons c rest ih =>
      intro acc
      obtain ⟨h₁, h₂⟩ := Numeral.toNat_of_isDigit (hcs c (List.mem_cons_self ..))
      have hd : digitValue (UInt8.ofNat c.toNat) = c.toNat - 48 := by
        rw [digitValue, UInt8.toNat_ofNat_of_lt' (by change c.toNat < 256; omega)]
      rw [Nat.ofDigitChars_cons, ← ih fun d hd => hcs d (List.mem_cons_of_mem _ hd)]
      change (Json.ascii rest).foldl _ (acc * 10 + digitValue (UInt8.ofNat c.toNat)) = _
      rw [hd, Nat.mul_comm]
      rfl
  rw [natValue, hgo _ (fun c hc => Numeral.isDigit_of_mem_render hc), Numeral.render,
    Nat.ofDigitChars_ten_toDigits]

end Literal
end Switchboard
