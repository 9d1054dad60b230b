/-
# The text that bytes are shown as

Bytes that are UTF-8 are cut into the characters they spell
(`Utf8.pieces_encode`), so a text starts with another one when its bytes do
(`Utf8.encode_prefix_iff`), and the text that bytes are shown as is always that
of their pieces (`Utf8.lossy_eq`).  A text of ASCII is shown for its own bytes only
(`Utf8.lossy_eq_iff`).  No piece reaches over a separator: what stands
before it and what stands behind it are shown each for itself
(`Utf8.lossy_append_separator`).
-/

import Switchboard.Proofs.Text.Digits

namespace Switchboard
namespace Utf8

/-! ### Lead and continuation bytes -/

/-- The width that a first byte announces is a matter of its number. -/
theorem leadWidth_ofNat {n : Nat} (h : n < 256) :
    leadWidth (UInt8.ofNat n) =
      if n < 0x80 then some 1 else if 0xC2 ≤ n ∧ n ≤ 0xDF then some 2
      else if 0xE0 ≤ n ∧ n ≤ 0xEF then some 3 else if 0xF0 ≤ n ∧ n ≤ 0xF4 then some 4
      else none := by
  have hn : (UInt8.ofNat n).toNat = n := UInt8.toNat_ofNat_of_lt' h
  simp only [leadWidth, UInt8.lt_iff_toNat_lt, UInt8.le_iff_toNat_le, hn, Bool.and_eq_true,
    decide_eq_true_eq]
  rfl

/-- Six bits are carried by a byte that continues. -/
theorem isTail_ofNat {n : Nat} (h : n < 64) : isTail (UInt8.ofNat (n + 128)) = true := by
  have hn : (UInt8.ofNat (n + 128)).toNat = n + 128 := UInt8.toNat_ofNat_of_lt' (by
    change _ < 256; omega)
  simp only [isTail, UInt8.le_iff_toNat_le, hn, Bool.and_eq_true, decide_eq_true_eq]
  exact ⟨by change 128 ≤ _; omega, by change _ ≤ 191; omega⟩

/-- The six bits of a byte that continues are the ones it was made from. -/
theorem tailBits_ofNat {n : Nat} (h : n < 64) : tailBits (UInt8.ofNat (n + 128)) = n := by
  rw [tailBits, UInt8.toNat_ofNat_of_lt' (by change _ < 256; omega)]
  omega

/-- Which second bytes may follow a lead byte, as numbers. -/
theorem secondOk_ofNat {lead second : Nat} (hlead : lead < 256) (hsecond : second < 64)
    (hlong₃ : lead = 0xE0 → 0x20 ≤ second) (hsurrogate : lead = 0xED → second ≤ 0x1F)
    (hlong₄ : lead = 0xF0 → 0x10 ≤ second) (hlarge : lead = 0xF4 → second ≤ 0x0F) :
    secondOk (UInt8.ofNat lead) (UInt8.ofNat (second + 128)) = true := by
  have hl : (UInt8.ofNat lead).toNat = lead := UInt8.toNat_ofNat_of_lt' hlead
  have hs : (UInt8.ofNat (second + 128)).toNat = second + 128 := UInt8.toNat_ofNat_of_lt' (by
    change _ < 256; omega)
  unfold secondOk
  simp only [beq_iff_eq, ← UInt8.toNat_inj, hl, UInt8.le_iff_toNat_le, hs, isTail,
    UInt8.reduceToNat]
  split_ifs <;> simp only [Bool.and_eq_true, decide_eq_true_eq] <;> omega

/-! ### Characters -/

/-- The bytes of a character are one piece, whatever follows them. -/
theorem firstPiece_encode (c : Char) (rest : Bytes) :
    ∃ a tail, String.utf8EncodeChar c = a :: tail ∧
      firstPiece a (tail ++ rest) = (.char c, tail.length) := by
  have hvalid : c.val.toNat < 0xD800 ∨ 0xDFFF < c.val.toNat ∧ c.val.toNat < 0x110000 := c.valid
  have hc : Char.ofNat c.val.toNat = c := Char.ofNat_toNat c
  have htail : ∀ n : Nat, n % 64 < 64 := fun n => Nat.mod_lt _ (by decide)
  unfold String.utf8EncodeChar
  generalize c.val.toNat = n at hvalid hc ⊢
  dsimp only
  split_ifs with h₁ h₂ h₃
  · refine ⟨_, _, rfl, ?_⟩
    have hlead : (UInt8.ofNat n).toNat = n := UInt8.toNat_ofNat_of_lt' (by change _ < 256; omega)
    simp only [firstPiece, leadWidth_ofNat (n := n) (by omega), if_pos (show n < 0x80 by omega),
      hlead, hc, List.length_nil]
  · refine ⟨_, _, rfl, ?_⟩
    have hlead : (UInt8.ofNat (n / 64 % 32 + 192)).toNat = n / 64 % 32 + 192 :=
      UInt8.toNat_ofNat_of_lt' (by change _ < 256; omega)
    have hvalue : (n / 64 % 32 + 192) % 32 * 64 + n % 64 = n := by omega
    simp only [firstPiece, List.cons_append, List.nil_append,
      leadWidth_ofNat (n := n / 64 % 32 + 192) (by omega),
      if_neg (show ¬ n / 64 % 32 + 192 < 0x80 by omega),
      if_pos (show 0xC2 ≤ n / 64 % 32 + 192 ∧ n / 64 % 32 + 192 ≤ 0xDF by omega),
      isTail_ofNat (htail n), if_true, hlead, tailBits_ofNat (htail n), hvalue, hc,
      List.length_singleton]
  · refine ⟨_, _, rfl, ?_⟩
    have hlead : (UInt8.ofNat (n / 4096 % 16 + 224)).toNat = n / 4096 % 16 + 224 :=
      UInt8.toNat_ofNat_of_lt' (by change _ < 256; omega)
    have hsecond : secondOk (UInt8.ofNat (n / 4096 % 16 + 224))
        (UInt8.ofNat (n / 64 % 64 + 128)) = true :=
      secondOk_ofNat (by omega) (htail _) (by omega) (by omega) (by omega) (by omega)
    have hvalue : ((n / 4096 % 16 + 224) % 16 * 64 + n / 64 % 64) * 64 + n % 64 = n := by omega
    simp only [firstPiece, List.cons_append, List.nil_append,
      leadWidth_ofNat (n := n / 4096 % 16 + 224) (by omega),
      if_neg (show ¬ n / 4096 % 16 + 224 < 0x80 by omega),
      if_neg (show ¬ (0xC2 ≤ n / 4096 % 16 + 224 ∧ n / 4096 % 16 + 224 ≤ 0xDF) by omega),
      if_pos (show 0xE0 ≤ n / 4096 % 16 + 224 ∧ n / 4096 % 16 + 224 ≤ 0xEF by omega),
      hsecond, isTail_ofNat (htail n), if_true, hlead, tailBits_ofNat (htail _), hvalue, hc,
      List.length_cons, List.length_nil]
  · refine ⟨_, _, rfl, ?_⟩
    have hlead : (UInt8.ofNat (n / 262144 % 8 + 240)).toNat = n / 262144 % 8 + 240 :=
      UInt8.toNat_ofNat_of_lt' (by change _ < 256; omega)
    have hsecond : secondOk (UInt8.ofNat (n / 262144 % 8 + 240))
        (UInt8.ofNat (n / 4096 % 64 + 128)) = true :=
      secondOk_ofNat (by omega) (htail _) (by omega) (by omega) (by omega) (by omega)
    have hvalue : (((n / 262144 % 8 + 240) % 8 * 64 + n / 4096 % 64) * 64 + n / 64 % 64) * 64 +
        n % 64 = n := by omega
    simp only [firstPiece, List.cons_append, List.nil_append,
      leadWidth_ofNat (n := n / 262144 % 8 + 240) (by omega),
      if_neg (show ¬ n / 262144 % 8 + 240 < 0x80 by omega),
      if_neg (show ¬ (0xC2 ≤ n / 262144 % 8 + 240 ∧ n / 262144 % 8 + 240 ≤ 0xDF) by omega),
      if_neg (show ¬ (0xE0 ≤ n / 262144 % 8 + 240 ∧ n / 262144 % 8 + 240 ≤ 0xEF) by omega),
      if_pos (show 0xF0 ≤ n / 262144 % 8 + 240 ∧ n / 262144 % 8 + 240 ≤ 0xF4 by omega),
      hsecond, isTail_ofNat (htail _), if_true, hlead, tailBits_ofNat (htail _), hvalue, hc,
      List.length_cons, List.length_nil]

/-- Bytes that are skipped are skipped whatever they are. -/
theorem piecesFrom_append (skipped rest : Bytes) :
    piecesFrom skipped.length (skipped ++ rest) = piecesFrom 0 rest := by
  induction skipped with
  | nil => rfl
  | cons b skipped ih => exact ih

/-- The bytes of a text are cut into its characters, whatever follows them. -/
theorem pieces_encode_append (s : String) (rest : Bytes) :
    pieces (encode s ++ rest) = s.toList.map Piece.char ++ pieces rest := by
  conv_lhs => rw [← String.ofList_toList (s := s), encode_ofList]
  generalize s.toList = cs
  induction cs with
  | nil => rfl
  | cons c cs ih =>
    obtain ⟨a, tail, hc, hfirst⟩ := firstPiece_encode c (cs.flatMap String.utf8EncodeChar ++ rest)
    rw [List.flatMap_cons, hc, List.append_assoc, pieces, List.cons_append, piecesFrom, hfirst,
      piecesFrom_append, List.map_cons, List.cons_append, ← ih]
    rfl

/-- **The bytes of a text are cut into its characters.** -/
theorem pieces_encode (s : String) : pieces (encode s) = s.toList.map Piece.char := by
  have hpieces := pieces_encode_append s []
  rw [List.append_nil] at hpieces
  exact hpieces.trans (List.append_nil _)

/-- **A text starts with another one exactly when its bytes do.** -/
theorem encode_prefix_iff {s t : String} : encode s <+: encode t ↔ s.toList <+: t.toList := by
  constructor
  · rintro ⟨rest, hrest⟩
    have hpieces := pieces_encode_append s rest
    rw [hrest, pieces_encode] at hpieces
    have hchar : Function.Injective Piece.char := fun _ _ h => Piece.char.inj h
    exact (List.prefix_map_iff_of_injective hchar).1 ⟨_, hpieces.symm⟩
  · rintro ⟨rest, hrest⟩
    rw [← String.ofList_toList (s := s), ← String.ofList_toList (s := t), ← hrest, encode_ofList,
      encode_ofList, List.flatMap_append]
    exact List.prefix_append ..

/-- **The text of bytes is the text of their pieces.** -/
theorem lossy_eq (bs : Bytes) : lossy bs = String.ofList ((pieces bs).map Piece.shown) := by
  unfold lossy
  split
  next s hs =>
    rw [← encode_of_decode? hs, pieces_encode, List.map_map]
    exact (String.ofList_toList.symm.trans (congrArg _ (List.map_id _).symm))
  · rfl

/-! ### ASCII -/

/-- A first byte announces a width from one to four, by its range. -/
theorem leadWidth_cases {a : UInt8} {w : Nat} (h : leadWidth a = some w) :
    w = 1 ∧ a.toNat < 0x80 ∨ w = 2 ∧ 0xC2 ≤ a.toNat ∧ a.toNat ≤ 0xDF ∨
      w = 3 ∧ 0xE0 ≤ a.toNat ∧ a.toNat ≤ 0xEF ∨ w = 4 ∧ 0xF0 ≤ a.toNat ∧ a.toNat ≤ 0xF4 := by
  have hlead := leadWidth_ofNat a.toNat_lt
  rw [UInt8.ofNat_toNat, h] at hlead
  split_ifs at hlead <;> simp_all

/-- What the second byte of a longer form is. -/
theorem secondOk_cases {a b : UInt8} (h : secondOk a b = true) :
    0x80 ≤ b.toNat ∧ b.toNat ≤ 0xBF ∧ (a.toNat = 0xE0 → 0xA0 ≤ b.toNat) ∧
      (a.toNat = 0xED → b.toNat ≤ 0x9F) ∧ (a.toNat = 0xF0 → 0x90 ≤ b.toNat) ∧
      (a.toNat = 0xF4 → b.toNat ≤ 0x8F) := by
  unfold secondOk at h
  simp only [beq_iff_eq, ← UInt8.toNat_inj, UInt8.le_iff_toNat_le, isTail,
    UInt8.reduceToNat] at h
  split_ifs at h <;> simp only [Bool.and_eq_true, decide_eq_true_eq] at h <;> omega

/-- A character that is ASCII is one byte. -/
theorem firstPiece_ascii {a : UInt8} {rest : Bytes} {c : Char} {n : Nat}
    (h : firstPiece a rest = (.char c, n)) (hc : c.toNat < 128) :
    a = UInt8.ofNat c.toNat ∧ n = 0 := by
  have hwide : ∀ {v k : Nat}, (Piece.char (Char.ofNat v), k) = (Piece.char c, n) →
      v.isValidChar → v < 128 := by
    intro v k heq hvalid
    obtain rfl := Piece.char.inj (Prod.mk.inj heq).1
    rwa [toNat_ofNat_of_valid hvalid] at hc
  have hstray : ∀ {bs : Bytes} {k : Nat}, (Piece.stray bs, k) ≠ (Piece.char c, n) := by simp
  unfold firstPiece at h
  split at h
  next hw =>
    obtain ⟨hpiece, rfl⟩ := Prod.mk.inj h
    obtain rfl := Piece.char.inj hpiece
    have ha : a.toNat < 0x80 := by
      rcases leadWidth_cases hw with h | h | h | h <;> omega
    rw [toNat_ofNat_of_valid (Or.inl (by omega)), UInt8.ofNat_toNat]
    exact ⟨rfl, rfl⟩
  next b _ hw =>
    have ha : 0xC2 ≤ a.toNat ∧ a.toNat ≤ 0xDF := by
      rcases leadWidth_cases hw with h | h | h | h <;> omega
    split at h
    · have hb := hwide h (Or.inl (by unfold tailBits; omega))
      exact absurd hb (by omega)
    · exact absurd h hstray
  next b _ hw =>
    have ha : 0xE0 ≤ a.toNat ∧ a.toNat ≤ 0xEF := by
      rcases leadWidth_cases hw with h | h | h | h <;> omega
    split at h
    next hb =>
      obtain hb := secondOk_cases hb
      split at h
      · split at h
        next c' _ hc' =>
          have htail : tailBits b = b.toNat - 128 := by unfold tailBits; omega
          have hlow : tailBits c' < 64 := Nat.mod_lt _ (by decide)
          have := hwide h (by unfold Nat.isValidChar; omega)
          omega
        · exact absurd h hstray
      · exact absurd h hstray
    · exact absurd h hstray
  next b _ hw =>
    have ha : 0xF0 ≤ a.toNat ∧ a.toNat ≤ 0xF4 := by
      rcases leadWidth_cases hw with h | h | h | h <;> omega
    split at h
    next hb =>
      obtain hb := secondOk_cases hb
      split at h
      · split at h
        · split at h
          · split at h
            next c' _ _ d' _ _ =>
              have htail : tailBits b = b.toNat - 128 := by unfold tailBits; omega
              have hlow : tailBits c' < 64 := Nat.mod_lt _ (by decide)
              have hlow' : tailBits d' < 64 := Nat.mod_lt _ (by decide)
              have := hwide h (by unfold Nat.isValidChar; omega)
              omega
            · exact absurd h hstray
          · exact absurd h hstray
        · exact absurd h hstray
      · exact absurd h hstray
    · exact absurd h hstray
  next => exact absurd h hstray

/-- Bytes that are shown as a text of ASCII are its bytes. -/
theorem eq_of_shown_ascii {bs : Bytes} {cs : List Char} (hcs : ∀ c ∈ cs, c.toNat < 128)
    (h : (pieces bs).map Piece.shown = cs) : bs = cs.flatMap String.utf8EncodeChar := by
  induction bs generalizing cs with
  | nil =>
    subst h
    rfl
  | cons a rest ih =>
    subst h
    obtain ⟨hfirst, hrest⟩ := List.forall_mem_cons.1 hcs
    rw [pieces, piecesFrom, List.map_cons, List.flatMap_cons]
    match hpiece : firstPiece a rest with
    | (.stray bs, n) =>
      rw [hpiece] at hfirst
      have hstray : ¬ (Piece.shown (.stray [])).toNat < 128 := by decide
      exact absurd hfirst hstray
    | (.char c, n) =>
      rw [hpiece] at hfirst hrest
      obtain ⟨rfl, rfl⟩ := firstPiece_ascii hpiece hfirst
      exact congrArg₂ (· ++ ·) (utf8EncodeChar_ascii hfirst).symm (ih hrest rfl)

/-- **No bytes but its own are shown as a text of ASCII.** -/
theorem lossy_eq_iff {s : String} (hs : (s.toList.all fun c => c.toNat < 128) = true)
    (bs : Bytes) : lossy bs = s ↔ bs = encode s := by
  have hascii : ∀ c ∈ s.toList, c.toNat < 128 := by simpa using hs
  constructor
  · intro h
    rw [lossy_eq] at h
    rw [← String.ofList_toList (s := s), encode_ofList]
    exact eq_of_shown_ascii hascii (h ▸ String.toList_ofList.symm)
  · rintro rfl
    rw [lossy, decode?_encode]

/-! ### Separators -/

/-- The separator continues no character. -/
theorem separator_not_tail : isTail 0x2F = false := by decide

/-- The separator may not stand second behind any first byte. -/
theorem secondOk_separator (lead : UInt8) : secondOk lead 0x2F = false := by
  unfold secondOk
  split_ifs <;> decide

/-- A piece ends before a separator that it does not start with. -/
theorem firstPiece_append (a : UInt8) (front back : Bytes) :
    firstPiece a (front ++ 0x2F :: back) = firstPiece a front ∧
      (firstPiece a front).2 ≤ front.length := by
  unfold firstPiece
  cases leadWidth a with
  | none => exact ⟨rfl, Nat.zero_le _⟩
  | some w =>
    -- How many bytes of the front the piece can use: none, one, two or three.
    match w, front with
    | 0, _ | 1, _ | _ + 5, _ => exact ⟨rfl, Nat.zero_le _⟩
    | 2, [] | 3, [] | 4, [] => simp [separator_not_tail, secondOk_separator]
    | 2, b :: front => by_cases hb : isTail b = true <;> simp [hb]
    | 3, [b] | 4, [b] => by_cases hb : secondOk a b = true <;> simp [hb, separator_not_tail]
    | 3, b :: c :: front =>
      by_cases hb : secondOk a b = true <;> by_cases hc : isTail c = true <;> simp [hb, hc]
    | 4, [b, c] =>
      by_cases hb : secondOk a b = true <;> by_cases hc : isTail c = true <;>
        simp [hb, hc, separator_not_tail]
    | 4, b :: c :: d :: front =>
      by_cases hb : secondOk a b = true <;> by_cases hc : isTail c = true <;>
        by_cases hd : isTail d = true <;> simp [hb, hc, hd]

/-- What stands before a separator and what stands behind it are cut each for itself. -/
theorem piecesFrom_append_separator (front back : Bytes) {skip : Nat} (h : skip ≤ front.length) :
    piecesFrom skip (front ++ 0x2F :: back) =
      piecesFrom skip front ++ .char '/' :: piecesFrom 0 back := by
  induction front generalizing skip with
  | nil =>
    obtain rfl : skip = 0 := Nat.le_zero.1 h
    rfl
  | cons a front ih =>
    cases skip with
    | zero =>
      obtain ⟨hfirst, hlength⟩ := firstPiece_append a front back
      rw [List.cons_append, piecesFrom, piecesFrom, hfirst, ih hlength, List.cons_append]
    | succ skip => exact ih (Nat.le_of_succ_le_succ h)

/-- **Bytes before and behind a separator are shown each for itself.** -/
theorem lossy_append_separator (front back : Bytes) :
    lossy (front ++ 0x2F :: back) = lossy front ++ "/" ++ lossy back := by
  simp only [lossy_eq, pieces, piecesFrom_append_separator front back (Nat.zero_le _),
    List.map_append, List.map_cons, String.ofList_append]
  rw [String.append_assoc, String.ofList_cons]
  rfl

/-- A text that is not empty has bytes. -/
theorem encode_ne_nil {s : String} (h : s ≠ "") : encode s ≠ [] := by
  intro hnil
  have hdecode := decode?_encode s
  rw [hnil, show ([] : Bytes) = encode "" from rfl, decode?_encode] at hdecode
  exact h (Option.some.inj hdecode).symm

/-- **The byte of a separator is in the bytes of a text for a separator only.** -/
theorem separator_mem_encode_iff {s : String} : 0x2F ∈ encode s ↔ '/' ∈ s.toList := by
  constructor
  · intro h
    obtain ⟨front, back, hsplit⟩ := List.append_of_mem h
    have hpieces := pieces_encode s
    rw [hsplit, pieces, piecesFrom_append_separator front back (Nat.zero_le _)] at hpieces
    have hmem : Piece.char '/' ∈ s.toList.map Piece.char := hpieces ▸ by simp
    obtain ⟨c, hc, heq⟩ := List.mem_map.1 hmem
    exact Piece.char.inj heq ▸ hc
  · intro h
    rw [← String.ofList_toList (s := s), encode_ofList]
    exact List.mem_flatMap.2 ⟨'/', h, by decide⟩

end Utf8
end Switchboard
