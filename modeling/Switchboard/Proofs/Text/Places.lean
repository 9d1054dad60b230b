/-
# The places of a text

Whoever edits a text counts its lines in another way: a line ends at a line feed, at a
carriage return and a line feed together, and also at a carriage return alone; within a
line UTF-16 units are counted.  The last place of a text is the one where it stops
(`Place.le_stop`), in the line that comes behind all that have ended (`Place.line_stop`),
and it is at the start of that line exactly when the text ends with the end of a line
(`Place.character_stop_eq_zero_iff`).  `Lines` knows nothing of carriage returns that stand
alone: it counts the line feeds, and what follows the last one (`Lines.length_ofText`).
-/

import Switchboard.Proofs.Text.Pieces
import Switchboard.Text.Lines

namespace Switchboard

/-- A place in a text: how many lines end before it, and how many UTF-16 units stand before it
in its line. -/
structure Place where
  line : Nat
  character : Nat
  deriving DecidableEq, Repr

namespace Place

/-- Places are in the order of their lines, and in a line in the order of their characters. -/
instance : LE Place :=
  ⟨fun p q => p.line < q.line ∨ p.line = q.line ∧ p.character ≤ q.character⟩

instance (p q : Place) : Decidable (p ≤ q) := inferInstanceAs (Decidable (_ ∨ _))

/-- Where a text begins. -/
def origin : Place := ⟨0, 0⟩

/-- How many UTF-16 units a character takes. -/
def units (c : Char) : Nat := if c.toNat < 0x10000 then 1 else 2

/-- The place behind a character that stands before `rest`.  A carriage return and the line
feed behind it end one line, and there is no place between them. -/
def next (p : Place) (c : Char) (rest : List Char) : Place :=
  if c = '\n' then ⟨p.line + 1, 0⟩
  else if c = '\r' then if rest.head? = some '\n' then p else ⟨p.line + 1, 0⟩
  else ⟨p.line, p.character + units c⟩

/-- The places of a text that begins at a place. -/
def along (p : Place) : List Char → List Place
  | [] => [p]
  | c :: rest => p :: along (p.next c rest) rest

/-- The place where a text stops that begins at a place. -/
def stop (p : Place) : List Char → Place
  | [] => p
  | c :: rest => stop (p.next c rest) rest

/-- The number of carriage returns that no line feed follows. -/
def loneReturns : List Char → Nat
  | [] => 0
  | c :: rest => (if c = '\r' ∧ rest.head? ≠ some '\n' then 1 else 0) + loneReturns rest

/-- The places of a text. -/
def ofText (text : String) : List Place := along origin text.toList

example : ofText "a\rb\r\n" = [⟨0, 0⟩, ⟨0, 1⟩, ⟨1, 0⟩, ⟨1, 1⟩, ⟨1, 1⟩, ⟨2, 0⟩] := by decide

variable {p q r : Place} {c : Char} {cs : List Char}

/-! ### The order of places -/

/-- A place is up to another one when its line comes before, or its character does on the same line.
-/
theorem le_iff : p ≤ q ↔ p.line < q.line ∨ p.line = q.line ∧ p.character ≤ q.character := Iff.rfl

/-- Every place is up to itself. -/
theorem le_refl (p : Place) : p ≤ p := .inr ⟨rfl, le_rfl⟩

/-- What is up to a place is up to those behind it. -/
theorem le_trans (h : p ≤ q) (h' : q ≤ r) : p ≤ r := by
  rw [le_iff] at *
  omega

/-- A character leads on. -/
theorem le_next (p : Place) (c : Char) (rest : List Char) : p ≤ p.next c rest := by
  unfold next
  split
  · exact .inl (Nat.lt_succ_self _)
  · split
    · split
      · exact le_refl p
      · exact .inl (Nat.lt_succ_self _)
    · exact .inr ⟨rfl, Nat.le_add_right ..⟩

/-! ### The last place -/

/-- The place where a text stops is one of those that lie along it. -/
theorem stop_mem_along (p : Place) (cs : List Char) : p.stop cs ∈ p.along cs := by
  induction cs generalizing p with
  | nil => exact List.mem_singleton_self p
  | cons c cs ih => exact List.mem_cons_of_mem _ (ih _)

/-- A text leads on from where it begins. -/
theorem self_le_stop (p : Place) (cs : List Char) : p ≤ p.stop cs := by
  induction cs generalizing p with
  | nil => exact le_refl p
  | cons c cs ih => exact le_trans (le_next p c cs) (ih _)

/-- A text has no place behind the one where it stops. -/
theorem le_stop (h : q ∈ p.along cs) : q ≤ p.stop cs := by
  induction cs generalizing p with
  | nil =>
    obtain rfl := List.mem_singleton.1 h
    exact le_refl q
  | cons c cs ih =>
    rcases List.mem_cons.1 h with rfl | h
    · exact self_le_stop q (c :: cs)
    · exact ih h

/-- All places along a text are up to a place when the last one is. -/
theorem forall_along_le_iff : (∀ q ∈ p.along cs, q ≤ r) ↔ p.stop cs ≤ r :=
  ⟨fun h => h _ (stop_mem_along p cs), fun h _ hq => le_trans (le_stop hq) h⟩

/-- A text stops in the line behind all the lines that have ended. -/
theorem line_stop (p : Place) (cs : List Char) :
    (p.stop cs).line = p.line + cs.count '\n' + loneReturns cs := by
  induction cs generalizing p with
  | nil => rfl
  | cons c cs ih =>
    rw [stop, ih, loneReturns, List.count_cons, next]
    by_cases hfeed : c = '\n'
    · subst hfeed
      simp
      omega
    · by_cases hreturn : c = '\r'
      · subst hreturn
        by_cases hhead : cs.head? = some '\n'
        · simp [hhead]
        · simp [hhead]
          omega
      · simp [hfeed, hreturn]

/-- What starts a line anew is a line feed or a carriage return. -/
theorem character_next_eq_zero_iff :
    (p.next c []).character = 0 ↔ c = '\n' ∨ c = '\r' := by
  have hunits : units c ≠ 0 := by
    unfold units
    split
    · exact one_ne_zero
    · exact two_ne_zero
  unfold next
  by_cases hfeed : c = '\n'
  · simp [hfeed]
  · by_cases hreturn : c = '\r'
    · simp [hreturn]
    · simp [hfeed, hreturn, hunits]

/-- A text stops at the start of a line exactly when its last character ends a line. -/
theorem character_stop_eq_zero_iff (h : p.character = 0) :
    (p.stop cs).character = 0 ↔ ∀ c, cs.getLast? = some c → c = '\n' ∨ c = '\r' := by
  rcases List.eq_nil_or_concat cs with rfl | ⟨front, last, rfl⟩
  · simp [stop, h]
  · clear h
    rw [List.concat_eq_append]
    have hstop : (p.stop (front ++ [last])).character = 0 ↔ last = '\n' ∨ last = '\r' := by
      induction front generalizing p with
      | nil => exact character_next_eq_zero_iff
      | cons c front ih => exact ih
    rw [hstop, List.getLast?_concat]
    simp

end Place

/-! ### Lines that only line feeds end -/

namespace Lines

variable {cs : List Char}

/-- A text has as many lines as segments between line breaks. -/
theorem length_ofText_eq (cs : List Char) : (ofText cs).length = (segments cs).length := by
  unfold ofText
  dsimp only
  split
  · rcases List.eq_nil_or_concat (segments cs) with h | ⟨front, last, h⟩
    · rw [h]
      rfl
    · rw [h]
      simp
  · exact List.length_map ..

/-- A text has as many lines as line feeds, and one more when something follows the last one. -/
theorem length_ofText (cs : List Char) :
    (ofText cs).length =
      cs.count '\n' + if cs = [] ∨ cs.getLast? = some '\n' then 0 else 1 := by
  rw [length_ofText_eq, segments]
  rcases List.eq_nil_or_concat cs with rfl | ⟨front, last, rfl⟩
  · rfl
  · rw [List.concat_eq_append]
    have hparts := Pieces.length_splitOn '\n' (front ++ [last])
    have hopen := Pieces.getLast?_splitOn_concat '\n' last front
    by_cases hlast : last = '\n'
    · rw [if_pos (hopen.2 hlast), if_pos (.inr (by simp [hlast])), List.length_dropLast, hparts]
      rfl
    · rw [if_neg (fun h => hlast (hopen.1 h)), if_neg (by simp [hlast]), hparts]

end Lines
end Switchboard
