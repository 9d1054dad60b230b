/-
# The pattern of a name in any directory

Two stars in front of a text match that text at the top and behind any separator
(`isMatch_anywhere_iff`).  A text that names lead to ends so exactly with the last one of them
(`relative_endsWith_iff`), so the pattern of manifests takes, of names that lead
from directory to directory, those whose last one is a manifest's
(`isMatch_manifestPattern_iff`).
-/

import Switchboard.Proofs.Glob.Directory
import Switchboard.Proofs.Path.Lexical
import Switchboard.Workspace.Scan

namespace Switchboard
namespace Glob

/-- The pattern of a text in any directory. -/
def anywhere (cs : List Char) : Pattern := ⟨.anyFront :: cs.map .literal, false⟩

/-- A test is passed after a separator if it is by the rest behind one of them. -/
theorem afterSeparator_iff {P : Bytes → Bool} {text : Bytes} : afterSeparator P text = true ↔
    ∃ front rest, text = front ++ slash :: rest ∧ P rest = true := by
  induction text with
  | nil => simp [afterSeparator]
  | cons b text ih =>
    rw [afterSeparator, Bool.or_eq_true, Bool.and_eq_true, beq_iff_eq, ih]
    constructor
    · rintro (⟨rfl, h⟩ | ⟨front, rest, rfl, h⟩)
      · exact ⟨[], text, rfl, h⟩
      · exact ⟨b :: front, rest, rfl, h⟩
    · rintro ⟨front, rest, htext, h⟩
      cases front with
      | nil =>
        obtain ⟨rfl, rfl⟩ := List.cons.inj htext
        exact .inl ⟨rfl, h⟩
      | cons c front =>
        obtain ⟨rfl, rfl⟩ := List.cons.inj htext
        exact .inr ⟨front, rest, rfl, h⟩

/-- Literal characters before other tokens ask for their bytes first. -/
theorem beforeTokens_literals_append {text : Bytes} {ts : List Token} {P : Bytes → Bool}
    (h : beforeTokens false text ts (endMarks text) = marksBy P text) (cs : List Char) :
    beforeTokens false text (cs.map .literal ++ ts) (endMarks text) =
      marksBy (startsWithBytes (cs.flatMap bytesOf) P) text := by
  induction cs with
  | nil => exact h
  | cons c cs ih =>
    rw [List.map_cons, List.cons_append, beforeTokens, ih, beforeToken, beforeBytes_marksBy,
      List.flatMap_cons, startsWithBytes_append]

/-- Literal characters alone ask for their bytes and the end of the text. -/
theorem beforeTokens_literals (text : Bytes) (cs : List Char) :
    beforeTokens false text (cs.map .literal) (endMarks text) =
      marksBy (startsWithBytes (cs.flatMap bytesOf) List.isEmpty) text := by
  have hend : beforeTokens false text [] (endMarks text) = marksBy List.isEmpty text :=
    endMarks_eq text
  have happend := beforeTokens_literals_append hend cs
  rwa [List.append_nil] at happend

/-- Two stars at the end match a separator and whatever is behind it. -/
theorem beforeTokens_anyEnd (text : Bytes) :
    beforeTokens false text [.anyEnd] (endMarks text) =
      marksBy (startsBy (· == slash) fun _ => true) text := by
  have hall : (fun rest : Bytes => rest.all fun _ => !false) = fun _ => true :=
    funext fun _ => List.all_eq_true.2 fun _ _ => rfl
  rw [beforeTokens, beforeTokens, beforeToken, beforeRun_endMarks, hall, beforeByte_marksBy]

/-- Two stars in front of tokens match what these match, at the top and behind any separator. -/
theorem isMatch_anyFront_iff {ts : List Token} {P : Bytes → Bool} {text : Bytes} (hne : ts ≠ [])
    (h : beforeTokens false text ts (endMarks text) = marksBy P text) :
    (Pattern.mk (.anyFront :: ts) false).isMatch text = true ↔
      P text = true ∨ ∃ front rest, text = front ++ slash :: rest ∧ P rest = true := by
  obtain ⟨t, ts, rfl⟩ := List.exists_cons_of_ne_nil hne
  have hmatch : (Pattern.mk (.anyFront :: t :: ts) false).isMatch text =
      (P text || afterSeparator P text) := by
    change (either (beforeTokens false text (t :: ts) (endMarks text))
      (beforeSegments text (beforeTokens false text (t :: ts) (endMarks text)))).headD false = _
    rw [h, beforeSegments_marksBy, either_marksBy, headD_marksBy]
  rw [hmatch, Bool.or_eq_true, afterSeparator_iff]

/-- To begin with some bytes and end there is to be those bytes. -/
theorem startsWithBytes_isEmpty_iff {bs text : Bytes} :
    startsWithBytes bs List.isEmpty text = true ↔ text = bs := by
  rw [startsWithBytes_iff]
  simp [List.isEmpty_iff]

/-- **Exactly the text itself, and what ends with a separator and the text, match
its pattern.** -/
theorem isMatch_anywhere_iff {cs : List Char} (hne : cs ≠ []) (text : Bytes) :
    (anywhere cs).isMatch text = true ↔ text = cs.flatMap bytesOf ∨
      ∃ front, text = front ++ slash :: cs.flatMap bytesOf := by
  have htokens : cs.map Token.literal ≠ [] := fun h => hne (List.map_eq_nil_iff.1 h)
  rw [anywhere, isMatch_anyFront_iff htokens (beforeTokens_literals text cs)]
  simp only [startsWithBytes_isEmpty_iff, exists_eq_right]

end Glob

namespace Scan

/-- The last one of some names is what their text ends with, at the top or behind a separator. -/
theorem relative_endsWith_iff {names : List Bytes} (h : ∀ n ∈ names, Path.IsName n) {b : Bytes}
    (hne : b ≠ []) (hsep : Path.separator ∉ b) :
    (relative names = b ∨ ∃ front, relative names = front ++ Glob.slash :: b) ↔
      names.getLast? = some b := by
  have hparts : names ≠ [] → (relative names).splitOn Path.separator = names :=
    List.splitOn_intercalate Path.separator fun n hn => (h n hn).2.2.2
  have hlast : ∀ front, (front ++ Path.separator :: b).splitOn Path.separator =
      front.splitOn Path.separator ++ [b] := by
    intro front
    rw [List.splitOn_append_cons_self, List.splitOn_eq_singleton hsep]
  constructor
  · intro htext
    have hnames : names ≠ [] := by
      rintro rfl
      rcases htext with htext | ⟨front, htext⟩
      · exact hne htext.symm
      · exact absurd htext (by simp [relative, List.intercalate])
    rw [← hparts hnames]
    rcases htext with htext | ⟨front, htext⟩
    · rw [htext, List.splitOn_eq_singleton hsep]
      rfl
    · rw [htext]
      exact (congrArg List.getLast? (hlast front)).trans List.getLast?_concat
  · intro hmem
    obtain ⟨init, rfl⟩ := List.getLast?_eq_some_iff.1 hmem
    cases init with
    | nil => exact .inl (by simp [relative, List.intercalate])
    | cons n init =>
      have hinit : (relative (n :: init)).splitOn Path.separator = n :: init :=
        List.splitOn_intercalate Path.separator
          (fun m hm => (h m (List.mem_append_left _ hm)).2.2.2) (by simp)
      refine .inr ⟨relative (n :: init), ?_⟩
      have hwritten := hlast (relative (n :: init))
      rw [hinit] at hwritten
      rw [relative, ← hwritten, List.intercalate_splitOn]
      rfl

/-- The pattern of manifests is what its text compiles to. -/
theorem compile_manifestPattern :
    Glob.compile ("**/" ++ Project.manifestName) false = .ok manifestPattern := rfl

/-- **The pattern of manifests takes exactly the names whose last one is a manifest's.** -/
theorem isMatch_manifestPattern_iff {names : List Bytes} (h : ∀ n ∈ names, Path.IsName n) :
    manifestPattern.isMatch (relative names) = true ↔
      names.getLast? = some (Utf8.encode Project.manifestName) := by
  have hname : Path.IsName (Utf8.encode Project.manifestName) := by decide
  change (Glob.anywhere Project.manifestName.toList).isMatch _ = true ↔ _
  rw [Glob.isMatch_anywhere_iff (by decide), ← Glob.encode_eq_flatMap]
  exact relative_endsWith_iff h hname.1 hname.2.2.2

end Scan
end Switchboard
