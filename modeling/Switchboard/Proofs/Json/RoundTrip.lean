/-
# JSON values read back

What `Json.write` writes for a value without floats is read back to the value
by `Json.read?` (`read?_write`).  The reader has two steps, so there are two
halves: the grammar takes exactly the written bytes, whatever follows them
(`readValue_write`), and gives the raw text `Json.raw` of the value; and that
raw text is judged to be the value (`ofRaw?_raw`).  The first half holds of any
value, floats among them (`read?_write_eq`).

Not every `Json` is a value that a message can hold.  `fits` says which are:
integers are words of 64 bits, signed or unsigned, the members of an object are
in ascending order of their keys, and there is no float.  `depth` counts how
deep the containers nest.
-/

import Switchboard.Proofs.Json.Float
import Switchboard.Proofs.Json.Text

namespace Switchboard
namespace Json

mutual

/-- Whether a value is one that a message can hold, and holds no float. -/
def fits : Json → Bool
  | .null | .bool _ | .str _ => true
  | .int n => decide (-(2 ^ 63) ≤ n) && decide (n < 2 ^ 64)
  | .float _ => false
  | .arr items => fitItems items
  | .obj members => decide ((members.map Prod.fst).Pairwise (· < ·)) && fitMembers members

/-- Whether all items are values that a message can hold. -/
def fitItems : List Json → Bool
  | [] => true
  | item :: rest => fits item && fitItems rest

/-- Whether all members are values that a message can hold. -/
def fitMembers : List (String × Json) → Bool
  | [] => true
  | (_, value) :: rest => fits value && fitMembers rest

end

mutual

/-- How deep the containers of a value nest. -/
def depth : Json → Nat
  | .arr items => depthItems items + 1
  | .obj members => depthMembers members + 1
  | _ => 0

/-- How deep the containers of items nest. -/
def depthItems : List Json → Nat
  | [] => 0
  | item :: rest => max (depth item) (depthItems rest)

/-- How deep the containers of members nest. -/
def depthMembers : List (String × Json) → Nat
  | [] => 0
  | (_, value) :: rest => max (depth value) (depthMembers rest)

end

mutual

/-- The text of a value, read by the grammar alone. -/
def raw : Json → Raw
  | .null => .null
  | .float x => if x.isBeyond then .null else .number (floatLiteral x)
  | .bool b => .bool b
  | .int n => .number (literalOf n)
  | .str s => .text (escaped s)
  | .arr items => .list (rawItems items)
  | .obj members => .record (rawMembers members)

/-- The texts of items. -/
def rawItems : List Json → List Raw
  | [] => []
  | item :: rest => raw item :: rawItems rest

/-- The texts of members. -/
def rawMembers : List (String × Json) → List (Bytes × Raw)
  | [] => []
  | (key, value) :: rest => (escaped key, raw value) :: rawMembers rest

end

/-! ### The grammar -/

/-- The first byte of a number: a sign or a digit. -/
theorem writeInt_eq_cons (n : Int) :
    ∃ b tl, writeInt n = b :: tl ∧ (b = 0x2D ∨ Raw.isDigit b = true) := by
  by_cases hn : n < 0
  · exact ⟨0x2D, ascii (Numeral.render n.natAbs), by rw [writeInt, if_pos hn]; rfl, .inl rfl⟩
  · rcases hd : ascii (Numeral.render n.natAbs) with _ | ⟨b, tl⟩
    · exact absurd hd (ascii_render_ne_nil _)
    · refine ⟨b, tl, ?_, .inr (isDigit_ascii (n := n.natAbs) (hd ▸ List.mem_cons_self ..))⟩
      rw [writeInt, if_neg hn, ← hd]
      rfl

/-- Numbers do not start with a blank or a closing bracket. -/
theorem number_starts {b : UInt8} (h : b = 0x2D ∨ Raw.isDigit b = true) :
    Raw.isBlank b = false ∧ b ≠ 0x5D := by
  constructor
  · rcases h with rfl | h
    · decide
    · rw [Raw.isDigit, Bool.and_eq_true, decide_eq_true_iff] at h
      simp only [Raw.isBlank, Bool.or_eq_false_iff, beq_eq_false_iff_ne]
      refine ⟨⟨⟨?_, ?_⟩, ?_⟩, ?_⟩ <;> (rintro rfl; exact absurd h.1 (by decide))
  · rintro rfl
    rcases h with h | h <;> exact absurd h (by decide)

/-- No value starts with a blank, a comma or a closing bracket. -/
theorem write_eq_cons (j : Json) :
    ∃ b tl, write j = b :: tl ∧ Raw.isBlank b = false ∧ b ≠ 0x5D := by
  cases j with
  | null => exact ⟨_, _, rfl, by decide, by decide⟩
  | bool b => cases b <;> exact ⟨_, _, rfl, by decide, by decide⟩
  | int n =>
    obtain ⟨b, tl, hw, hb⟩ := writeInt_eq_cons n
    exact ⟨b, tl, hw, number_starts hb⟩
  | float x =>
    rw [write]
    split
    · exact ⟨_, _, rfl, by decide, by decide⟩
    · obtain ⟨b, tl, hw, hb⟩ := render_eq_cons x
      exact ⟨b, tl, hw, number_starts hb⟩
  | str s => exact ⟨_, _, rfl, by decide, by decide⟩
  | arr items => exact ⟨_, _, rfl, by decide, by decide⟩
  | obj members => exact ⟨_, _, rfl, by decide, by decide⟩

/-- The items of an array start with a byte that is not blank and closes no array. -/
theorem writeItems_eq_cons (item : Json) (more : List Json) :
    ∃ b tl, writeItems (item :: more) = b :: tl ∧ Raw.isBlank b = false ∧ b ≠ 0x5D := by
  obtain ⟨b, tl, hw, hb, hc⟩ := write_eq_cons item
  cases more with
  | nil => exact ⟨b, tl, by rw [writeItems, hw], hb, hc⟩
  | cons next more => exact ⟨b, _, by rw [writeItems, hw, List.cons_append], hb, hc⟩

/-- The members of an object start with a quote. -/
theorem writeMembers_eq_cons (member : String × Json) (more : List (String × Json)) :
    ∃ tl, writeMembers (member :: more) = 0x22 :: tl := by
  obtain ⟨key, value⟩ := member
  cases more with
  | nil => exact ⟨_, by rw [writeMembers, writeText_eq]; rfl⟩
  | cons next more => exact ⟨_, by rw [writeMembers, writeText_eq]; rfl⟩

/-- Nothing is skipped before a byte that is not blank. -/
theorem skipBlank_cons {b : UInt8} (rest : Bytes) (h : Raw.isBlank b = false) :
    Raw.skipBlank (b :: rest) = b :: rest := by
  rw [Raw.skipBlank, List.dropWhile_cons, h]
  rfl

/-- A value that is neither a word, a string nor a container is read as a number. -/
theorem readValue_number {b : UInt8} (fuel : Nat) (rest : Bytes)
    (h : b = 0x2D ∨ Raw.isDigit b = true) :
    Raw.readValue (fuel + 1) (b :: rest) =
      (Raw.readNumber (b :: rest)).map fun (n, r) => (.number n, r) := by
  have hne : ∀ c : UInt8, c ≠ 0x2D → Raw.isDigit c = false → b ≠ c := by
    rintro c h₁ h₂ rfl
    rcases h with h | h
    · exact h₁ h
    · rw [h₂] at h
      exact absurd h (by decide)
  rw [Raw.readValue]
  simp only [beq_iff_eq, hne 0x6E (by decide) (by decide), hne 0x74 (by decide) (by decide),
    hne 0x66 (by decide) (by decide), hne 0x22 (by decide) (by decide),
    hne 0x5B (by decide) (by decide), hne 0x7B (by decide) (by decide), if_false]

mutual

/-- **The grammar takes a written value as it stands**, if there is fuel for
two steps a byte. -/
theorem readValue_write : ∀ (j : Json) (fuel : Nat) (rest : Bytes),
    2 * (write j).length ≤ fuel → Closed rest →
      Raw.readValue fuel (write j ++ rest) = some (raw j, rest)
  | j, 0, rest, hf, _ => by
    obtain ⟨b, tl, hw, -⟩ := write_eq_cons j
    rw [hw, List.length_cons] at hf
    omega
  | .null, fuel + 1, rest, _, _ => by
    simp [write, raw, Raw.readValue, Raw.afterWord, List.isPrefixOf]
  | .bool true, fuel + 1, rest, _, _ => by
    simp [write, raw, Raw.readValue, Raw.afterWord, List.isPrefixOf]
  | .bool false, fuel + 1, rest, _, _ => by
    simp [write, raw, Raw.readValue, Raw.afterWord, List.isPrefixOf]
  | .int n, fuel + 1, rest, _, hr => by
    obtain ⟨b, tl, hw, hb⟩ := writeInt_eq_cons n
    have hn := readNumber_writeInt n hr
    rw [write, raw, hw, List.cons_append, readValue_number fuel _ hb, ← List.cons_append, ← hw, hn]
    rfl
  | .float x, fuel + 1, rest, _, hr => by
    rw [write, raw]
    split
    · simp [Raw.readValue, Raw.afterWord, List.isPrefixOf]
    · obtain ⟨b, tl, hw, hb⟩ := render_eq_cons x
      have hn := readNumber_render x hr
      rw [hw, List.cons_append, readValue_number fuel _ hb, ← List.cons_append, ← hw, hn]
      rfl
  | .str s, fuel + 1, rest, _, _ => by
    have ht := readText_escaped s rest
    rw [write, raw, writeText_eq]
    simp [Raw.readValue, ht]
  | .arr [], fuel + 1, rest, _, _ => by
    simp [write, writeItems, raw, rawItems, Raw.readValue, Raw.skipBlank, Raw.isBlank]
  | .arr (item :: more), fuel + 1, rest, hf, _ => by
    rw [write, List.length_append, List.length_cons, List.length_singleton] at hf
    have hi := readItems_write (item :: more) (by simp) fuel rest (by omega)
    obtain ⟨b, tl, hw, hb, hc⟩ := writeItems_eq_cons item more
    rw [hw, List.cons_append] at hi
    rw [write, raw, hw]
    simp [Raw.readValue, skipBlank_cons _ hb, hc, hi]
  | .obj [], fuel + 1, rest, _, _ => by
    simp [write, writeMembers, raw, rawMembers, Raw.readValue, Raw.skipBlank, Raw.isBlank]
  | .obj ((key, value) :: more), fuel + 1, rest, hf, _ => by
    rw [write, List.length_append, List.length_cons, List.length_singleton] at hf
    have hm := readMembers_write ((key, value) :: more) (by simp) fuel rest (by omega)
    obtain ⟨tl, hw⟩ := writeMembers_eq_cons (key, value) more
    rw [hw, List.cons_append] at hm
    rw [write, raw, hw]
    simp [Raw.readValue, skipBlank_cons (b := 0x22) _ (by decide), hm]

/-- The items of an array up to its bracket. -/
theorem readItems_write : ∀ (items : List Json), items ≠ [] →
    ∀ (fuel : Nat) (rest : Bytes), 2 * (writeItems items).length + 1 ≤ fuel →
      Raw.readItems fuel (writeItems items ++ 0x5D :: rest) = some (rawItems items, rest)
  | [], h, _, _, _ => absurd rfl h
  | [item], _, fuel + 1, rest, hf => by
    rw [writeItems] at hf
    have hv := readValue_write item fuel (0x5D :: rest) (by omega)
      (closed_cons _ (.inr (.inl rfl)))
    rw [writeItems, Raw.readItems, hv]
    simp [rawItems, skipBlank_cons (b := 0x5D) rest (by decide)]
  | item :: next :: more, _, fuel + 1, rest, hf => by
    rw [writeItems, List.length_append, List.length_cons] at hf
    have hv := readValue_write item fuel
      (0x2C :: (writeItems (next :: more) ++ 0x5D :: rest)) (by omega) (closed_cons _ (.inl rfl))
    have hr := readItems_write (next :: more) (by simp) fuel rest (by omega)
    obtain ⟨b, tl, hw, hb, -⟩ := writeItems_eq_cons next more
    rw [writeItems, List.append_assoc, List.cons_append, Raw.readItems, hv]
    rw [hw, List.cons_append] at hr ⊢
    simp [rawItems, skipBlank_cons (b := 0x2C) _ (by decide), skipBlank_cons _ hb, hr]

/-- The members of an object up to its bracket. -/
theorem readMembers_write : ∀ (members : List (String × Json)), members ≠ [] →
    ∀ (fuel : Nat) (rest : Bytes),
      2 * (writeMembers members).length + 1 ≤ fuel →
        Raw.readMembers fuel (writeMembers members ++ 0x7D :: rest) =
          some (rawMembers members, rest)
  | [], h, _, _, _ => absurd rfl h
  | [(key, value)], _, fuel + 1, rest, hf => by
    rw [writeMembers, writeText_eq] at hf
    simp only [List.length_append, List.length_cons] at hf
    have hv := readValue_write value fuel (0x7D :: rest) (by omega)
      (closed_cons _ (.inr (.inr rfl)))
    obtain ⟨b, tl, hw, hb, -⟩ := write_eq_cons value
    have ht := readText_escaped key (0x3A :: (write value ++ 0x7D :: rest))
    rw [hw, List.cons_append] at hv ht
    rw [writeMembers, writeText_eq, hw]
    simp [Raw.readMembers, ht, skipBlank_cons (b := 0x3A) _ (by decide), skipBlank_cons _ hb, hv,
      rawMembers, skipBlank_cons (b := 0x7D) rest (by decide)]
  | (key, value) :: next :: more, _, fuel + 1, rest, hf => by
    rw [writeMembers, writeText_eq] at hf
    simp only [List.length_append, List.length_cons] at hf
    have hr := readMembers_write (next :: more) (by simp) fuel rest (by omega)
    have hv := readValue_write value fuel
      (0x2C :: (writeMembers (next :: more) ++ 0x7D :: rest)) (by omega) (closed_cons _ (.inl rfl))
    obtain ⟨b, tl, hw, hb, -⟩ := write_eq_cons value
    have ht := readText_escaped key
      (0x3A :: (write value ++ 0x2C :: (writeMembers (next :: more) ++ 0x7D :: rest)))
    obtain ⟨tl', hw'⟩ := writeMembers_eq_cons next more
    rw [hw, hw', List.cons_append] at hv ht
    rw [hw', List.cons_append] at hr
    rw [writeMembers, writeText_eq, hw, hw']
    simp only [List.cons_append, List.append_assoc, List.nil_append] at hv ht hr ⊢
    simp [Raw.readMembers, ht, skipBlank_cons (b := 0x3A) _ (by decide), skipBlank_cons _ hb, hv,
      rawMembers, skipBlank_cons (b := 0x2C) _ (by decide),
      skipBlank_cons (b := 0x22) _ (by decide), hr]

end

/-! ### What the grammar leaves open -/

/-- A key above all others goes to the end. -/
theorem insert_of_forall_lt {key : String} (value : Json) {members : List (String × Json)}
    (h : ∀ m ∈ members, m.1 < key) : insert key value members = members ++ [(key, value)] := by
  induction members with
  | nil => rfl
  | cons m rest ih =>
    have hm : m.1 < key := h m (List.mem_cons_self ..)
    have hlt : ¬ key < m.1 := String.lt_asymm hm
    have hne : key ≠ m.1 := (String.ne_of_lt hm).symm
    rw [insert, if_neg hlt, if_neg hne, ih fun x hx => h x (List.mem_cons_of_mem _ hx)]
    rfl

/-- **Members in ascending order stay as they are.** -/
theorem sorted_of_ascending {members : List (String × Json)}
    (h : (members.map Prod.fst).Pairwise (· < ·)) : sorted members = members := by
  have hgo : ∀ (rest acc : List (String × Json)),
      ((acc ++ rest).map Prod.fst).Pairwise (· < ·) →
        rest.foldl (fun acc m => insert m.1 m.2 acc) acc = acc ++ rest := by
    intro rest
    induction rest with
    | nil => intro acc _; simp
    | cons m rest ih =>
      intro acc hp
      have hlt : ∀ x ∈ acc, x.1 < m.1 := by
        intro x hx
        rw [List.map_append, List.pairwise_append] at hp
        exact hp.2.2 _ (List.mem_map_of_mem hx) _ (by simp)
      rw [List.foldl_cons, insert_of_forall_lt _ hlt, ih _ (by simpa using hp)]
      simp
  exact hgo members [] (by simpa using h)

mutual

/-- **The raw text of a value is judged to be the value**, if its containers do
not nest deeper than they may. -/
theorem ofRaw?_raw : ∀ (j : Json), fits j = true → ∀ (bound : Nat), depth j ≤ bound →
    ofRaw? bound (raw j) = some j
  | .null, _, _, _ => by rw [raw, ofRaw?]
  | .bool _, _, _, _ => by rw [raw, ofRaw?]
  | .int n, hj, _, _ => by
    rw [fits, Bool.and_eq_true, decide_eq_true_iff, decide_eq_true_iff] at hj
    rw [raw, ofRaw?, value?_literalOf hj.1 hj.2]
  | .float _, hj, _, _ => by simp [fits] at hj
  | .str s, _, _, _ => by rw [raw, ofRaw?, spelled?_escaped, Option.map_some]
  | .arr items, _, 0, hd => by rw [depth] at hd; omega
  | .arr items, hj, bound + 1, hd => by
    rw [fits] at hj
    rw [depth] at hd
    rw [raw, ofRaw?, ofItems?_rawItems items hj bound (by omega), Option.map_some]
  | .obj members, _, 0, hd => by rw [depth] at hd; omega
  | .obj members, hj, bound + 1, hd => by
    rw [fits, Bool.and_eq_true, decide_eq_true_iff] at hj
    rw [depth] at hd
    rw [raw, ofRaw?, ofMembers?_rawMembers members hj.2 bound (by omega), Option.map_some,
      ofMembers, sorted_of_ascending hj.1]

/-- Items that fit are read back from what they are written as. -/
theorem ofItems?_rawItems : ∀ (items : List Json), fitItems items = true → ∀ (bound : Nat),
    depthItems items ≤ bound → ofItems? bound (rawItems items) = some items
  | [], _, _, _ => by rw [rawItems, ofItems?]
  | item :: rest, hi, bound, hd => by
    rw [fitItems, Bool.and_eq_true] at hi
    rw [depthItems] at hd
    rw [rawItems, ofItems?, ofRaw?_raw item hi.1 bound (by omega), Option.bind_some,
      ofItems?_rawItems rest hi.2 bound (by omega), Option.map_some]

/-- Members that fit are read back from what they are written as. -/
theorem ofMembers?_rawMembers : ∀ (members : List (String × Json)), fitMembers members = true →
    ∀ (bound : Nat), depthMembers members ≤ bound →
      ofMembers? bound (rawMembers members) = some members
  | [], _, _, _ => by rw [rawMembers, ofMembers?]
  | (key, value) :: rest, hm, bound, hd => by
    rw [fitMembers, Bool.and_eq_true] at hm
    rw [depthMembers] at hd
    rw [rawMembers, ofMembers?, spelled?_escaped, Option.bind_some,
      ofRaw?_raw value hm.1 bound (by omega), Option.bind_some,
      ofMembers?_rawMembers rest hm.2 bound (by omega), Option.map_some]

end

/-- **What is read of a written value is what its raw text is judged to be.** -/
theorem read?_write_eq (j : Json) : read? (write j) = ofRaw? maxDepth (raw j) := by
  obtain ⟨b, tl, hw, hb, -⟩ := write_eq_cons j
  have hs : Raw.skipBlank (write j) = write j := by rw [hw, skipBlank_cons _ hb]
  have hv := readValue_write j (2 * (write j).length + 1) [] (by omega) closed_nil
  rw [List.append_nil] at hv
  have hr : Raw.read? (write j) = some (raw j) := by
    rw [Raw.read?, hs, hv, Option.bind_some]
    rfl
  rw [read?, readWithin?, hr, Option.bind_some]

/-- **A written value reads back as itself.** -/
theorem read?_write {j : Json} (hj : fits j = true) (hd : depth j ≤ maxDepth) :
    read? (write j) = some j := by
  rw [read?_write_eq, ofRaw?_raw j hj _ hd]

end Json
end Switchboard
