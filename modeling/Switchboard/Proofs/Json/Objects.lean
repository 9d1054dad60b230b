/-
# Objects read back

An object that is made of members that a message can hold is one that a message
can hold (`Json.fits_ofMembers`), and it nests one level deeper than they do.

Of an object that holds floats not every member is read back as it is, but each
is read by itself and stays where it is (`Json.member?_of_read?`), and what is
read for an unsigned word is an unsigned word, the same one (`Json.word?_of_ofRaw?`).
-/

import Switchboard.Proofs.Json.Members
import Switchboard.Proofs.Json.RoundTrip

namespace Switchboard
namespace Json

variable {key : String} {value v w : Json} {members : List (String × Json)} {bound : Nat}

/-! ### Made of members -/

/-- Members fit if the value of each does. -/
theorem fitMembers_iff : fitMembers members = true ↔ ∀ m ∈ members, fits m.2 = true := by
  induction members with
  | nil => simp [fitMembers]
  | cons m members ih =>
    obtain ⟨key, value⟩ := m
    rw [fitMembers, Bool.and_eq_true, ih, List.forall_mem_cons]

/-- Members are no deeper than a bound if the value of each is not. -/
theorem depthMembers_le_iff : depthMembers members ≤ bound ↔ ∀ m ∈ members, depth m.2 ≤ bound := by
  induction members with
  | nil => simp [depthMembers]
  | cons m members ih =>
    obtain ⟨key, value⟩ := m
    rw [depthMembers, Nat.max_le, ih, List.forall_mem_cons]

/-- A member after an insertion is the inserted one or was there before. -/
theorem mem_insert {m : String × Json} (h : m ∈ insert key value members) :
    m = (key, value) ∨ m ∈ members := by
  induction members with
  | nil => exact .inl (List.mem_singleton.1 h)
  | cons first members ih =>
    obtain ⟨k, v⟩ := first
    rw [insert] at h
    split_ifs at h
    · exact List.mem_cons.1 h
    · rcases List.mem_cons.1 h with rfl | h
      · exact .inl rfl
      · exact .inr (List.mem_cons_of_mem _ h)
    · rcases List.mem_cons.1 h with rfl | h
      · exact .inr (List.mem_cons_self ..)
      · rcases ih h with rfl | h
        · exact .inl rfl
        · exact .inr (List.mem_cons_of_mem _ h)

/-- A member that is put in its place keeps the order. -/
theorem ascending_insert (h : members.Pairwise fun a b => a.1 < b.1) :
    (insert key value members).Pairwise fun a b => a.1 < b.1 := by
  induction members with
  | nil => exact List.pairwise_singleton _ _
  | cons first members ih =>
    obtain ⟨k, v⟩ := first
    obtain ⟨hfirst, hmembers⟩ := List.pairwise_cons.1 h
    rw [insert]
    split_ifs with hlt heq
    · refine List.pairwise_cons.2 ⟨fun m hm => ?_, h⟩
      rcases List.mem_cons.1 hm with rfl | hm
      · exact hlt
      · exact String.lt_trans hlt (hfirst m hm)
    · subst heq
      exact List.pairwise_cons.2 ⟨hfirst, hmembers⟩
    · refine List.pairwise_cons.2 ⟨fun m hm => ?_, ih hmembers⟩
      rcases mem_insert hm with rfl | hm
      · exact Std.lt_of_le_of_ne (String.not_lt.1 hlt) (Ne.symm heq)
      · exact hfirst m hm

/-- What holds of no members and is kept by putting one in its place holds of all in order. -/
theorem sorted_induction {P : List (String × Json) → Prop} (hnil : P [])
    (hinsert : ∀ m ∈ members, ∀ acc, P acc → P (insert m.1 m.2 acc)) : P (sorted members) :=
  List.foldlRecOn members _ hnil fun acc hacc m hm => hinsert m hm acc hacc

/-- Sorted members stand in ascending order of their keys. -/
theorem ascending_sorted (members : List (String × Json)) :
    (sorted members).Pairwise fun a b => a.1 < b.1 :=
  sorted_induction .nil fun _ _ _ hacc => ascending_insert hacc

/-- Sorting brings in no member. -/
theorem mem_sorted {m : String × Json} : m ∈ sorted members → m ∈ members := by
  refine sorted_induction (P := fun acc => m ∈ acc → m ∈ members) (fun h => absurd h (by simp)) ?_
  intro x hx acc hacc h
  rcases mem_insert h with rfl | h
  · exact hx
  · exact hacc h

/-- **An object is one that a message can hold if its members are.** -/
theorem fits_ofMembers (h : ∀ m ∈ members, fits m.2 = true) : fits (ofMembers members) = true := by
  rw [ofMembers, fits, Bool.and_eq_true, decide_eq_true_iff, List.pairwise_map]
  exact ⟨ascending_sorted members, fitMembers_iff.2 fun m hm => h m (mem_sorted hm)⟩

/-- An object nests one level deeper than its members. -/
theorem depth_ofMembers (h : ∀ m ∈ members, depth m.2 ≤ bound) :
    depth (ofMembers members) ≤ bound + 1 := by
  rw [ofMembers, depth, Nat.add_le_add_iff_right]
  exact depthMembers_le_iff.2 fun m hm => h m (mem_sorted hm)

/-! ### Read member by member -/

/-- Whether a member is what another one is read to. -/
def ReadTo (bound : Nat) (m m' : String × Json) : Prop :=
  m.1 = m'.1 ∧ ofRaw? bound (raw m.2) = some m'.2

/-- Members that are read are read one by one. -/
theorem readTo_of_ofMembers? {members' : List (String × Json)}
    (h : ofMembers? bound (rawMembers members) = some members') :
    List.Forall₂ (ReadTo bound) members members' := by
  induction members generalizing members' with
  | nil =>
    rw [rawMembers, ofMembers?] at h
    obtain rfl := Option.some.inj h
    exact .nil
  | cons m members ih =>
    obtain ⟨key, value⟩ := m
    rw [rawMembers, ofMembers?, spelled?_escaped, Option.bind_some] at h
    obtain ⟨v, hv, h⟩ := Option.bind_eq_some_iff.1 h
    obtain ⟨rest, hrest, rfl⟩ := Option.map_eq_some_iff.1 h
    exact .cons ⟨rfl, hv⟩ (ih hrest)

/-- What is read under a key is what stands under it, and nothing if nothing does. -/
theorem lookup_of_readTo {members' : List (String × Json)}
    (h : List.Forall₂ (ReadTo bound) members members') :
    (lookup key members = none → lookup key members' = none) ∧
      ∀ w, lookup key members = some w →
        ∃ w', lookup key members' = some w' ∧ ofRaw? bound (raw w) = some w' := by
  induction h with
  | nil => exact ⟨fun _ => rfl, fun w hw => absurd hw (by simp [lookup])⟩
  | @cons m m' members members' hm _ ih =>
    obtain ⟨k, v⟩ := m
    obtain ⟨k', v'⟩ := m'
    obtain ⟨rfl, hv⟩ : k = k' ∧ ofRaw? bound (raw v) = some v' := hm
    rw [lookup, lookup]
    split
    · refine ⟨fun hnone => absurd hnone (by simp), fun w hw => ⟨v', rfl, ?_⟩⟩
      obtain rfl := Option.some.inj hw
      exact hv
    · exact ih

/-- **Each member of an object is read by itself.**  A key that the object does not
have is not read of it either. -/
theorem member?_of_read? (h : read? (write (ofMembers members)) = some v) :
    ((ofMembers members).member? key = none → v.member? key = none) ∧
      ∀ w, (ofMembers members).member? key = some w →
        ∃ w', v.member? key = some w' ∧ ofRaw? (maxDepth - 1) (raw w) = some w' := by
  rw [read?_write_eq, ofMembers, raw, maxDepth, ofRaw?] at h
  obtain ⟨members', hmembers, rfl⟩ := Option.map_eq_some_iff.1 h
  have hread := readTo_of_ofMembers? hmembers
  have hkeys : (sorted members).map Prod.fst = members'.map Prod.fst := by
    have heq := hread.imp fun _ _ h => h.1
    rw [← List.forall₂_eq_eq_eq, List.forall₂_map_left_iff, List.forall₂_map_right_iff]
    exact heq
  have hsorted : sorted members' = members' := by
    refine sorted_of_ascending ?_
    rw [← hkeys, List.pairwise_map]
    exact ascending_sorted members
  have hread' := @lookup_of_readTo key _ _ _ hread
  rw [← hsorted] at hread'
  exact hread'

/-- **What is read for a value is an unsigned word exactly when the value is one**, and
then it is the same word. -/
theorem word?_of_ofRaw? (h : ofRaw? bound (raw w) = some v) : v.word? 64 = w.word? 64 := by
  cases w with
  | null =>
    rw [raw, ofRaw?] at h
    obtain rfl := Option.some.inj h
    rfl
  | bool b =>
    rw [raw, ofRaw?] at h
    obtain rfl := Option.some.inj h
    rfl
  | str s =>
    rw [raw, ofRaw?, spelled?_escaped] at h
    obtain rfl := Option.some.inj h
    rfl
  | float x =>
    rw [raw] at h
    split at h
    · rw [ofRaw?] at h
      obtain rfl := Option.some.inj h
      rfl
    · rw [ofRaw?] at h
      obtain ⟨y, rfl⟩ := (floatLiteral_spec x).2.1.value? h
      rfl
  | int n =>
    rw [raw, ofRaw?, value?_literalOf_eq] at h
    split at h
    next =>
      obtain rfl := Option.some.inj h
      rfl
    next hn =>
      have hlimit : wordLimit 64 = 2 ^ 64 := rfl
      obtain ⟨x, rfl⟩ := Literal.isFloat_of_float? h
      have hnone : ¬ (0 ≤ n ∧ n < wordLimit 64) := by
        rw [hlimit]
        omega
      simp only [word?, if_neg hnone]
  | arr items =>
    cases bound with
    | zero => exact absurd h (by simp [raw, ofRaw?])
    | succ bound =>
      rw [raw, ofRaw?] at h
      obtain ⟨items', -, rfl⟩ := Option.map_eq_some_iff.1 h
      rfl
  | obj members =>
    cases bound with
    | zero => exact absurd h (by simp [raw, ofRaw?])
    | succ bound =>
      rw [raw, ofRaw?] at h
      obtain ⟨members', -, rfl⟩ := Option.map_eq_some_iff.1 h
      rfl

end Json
end Switchboard
