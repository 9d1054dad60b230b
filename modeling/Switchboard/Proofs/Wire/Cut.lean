/-
# Streams that are cut off

A stream of frames may end anywhere: within the name of the header or between
its digits, between carriage return and line feed, or in a body.  What is cut off
is then never read as a frame, and never as the end either: a line that has begun
is read as far as it goes, and what is left of a number announces a body that
does not come (`next_take_frameOf`).  So the whole frames of the stream are read,
and a fault follows exactly when more than those has come
(`readAll_take_writeAll`).
-/

import Mathlib.Data.List.TakeWhile
import Switchboard.Proofs.Wire.RoundTrip

namespace Switchboard
namespace Frame

variable {body : Bytes} {k : Nat}

/-- The faults that a stream comes to that ends in the header block of a frame. -/
def Fault.OfHeader (fault : Fault) : Prop :=
  fault = .truncatedHeaders ∨ ∃ value, fault = .invalidLength value

/-- The faults that a stream comes to that ends inside a frame. -/
def Fault.OfCut (fault : Fault) : Prop := fault.OfHeader ∨ fault = .cutShort

/-! ### Lines that are cut off -/

/-- A header line can be at fault only in its number. -/
theorem readHeaderText_error {text : List Char} {fault : Fault}
    (h : readHeaderText text = .error fault) : ∃ value, fault = .invalidLength value := by
  unfold readHeaderText at h
  split at h
  · exact absurd h (by simp)
  · split at h
    · exact absurd h (by simp)
    · split at h
      · split at h
        · exact absurd h (by simp)
        · exact ⟨_, (Except.error.inj h).symm⟩
      · exact absurd h (by simp)

/-- What is trimmed to nothing is made of blanks. -/
theorem trim_eq_nil {text : List Char} (h : Blank.trim text = []) :
    ∀ c ∈ text, Blank.isBlank c = true := by
  unfold Blank.trim Blank.trimEnd at h
  rw [List.reverse_eq_nil_iff, List.dropWhile_eq_nil_iff] at h
  intro c hc
  by_contra hblank
  have hmem : c ∈ Blank.trimStart text := by
    rw [← List.takeWhile_append_dropWhile (p := Blank.isBlank) (l := text), List.mem_append] at hc
    exact hc.resolve_left fun hc => hblank (List.mem_takeWhile_imp hc)
  exact hblank (h c (List.mem_reverse.2 hmem))

/-- A line with a character that is not blank is no blank line. -/
theorem readHeaderText_ne_blank {text : List Char} {c : Char} (hc : c ∈ text)
    (hblank : Blank.isBlank c = false) : readHeaderText text ≠ .ok .blank := by
  intro h
  unfold readHeaderText at h
  split at h
  next htrim => exact absurd (trim_eq_nil htrim c hc) (by simp [hblank])
  · split at h
    · exact absurd h (by simp)
    · split at h
      · split at h <;> exact absurd h (by simp)
      · exact absurd h (by simp)

/-- A stream that ends in a header line that is not blank comes to a fault of headers. -/
theorem cutLine_ofHeader {text : List Char} (hascii : ∀ c ∈ text, c.toNat < 128) {c : Char}
    (hc : c ∈ text) (hblank : Blank.isBlank c = false) (length : Option Nat) :
    (cutLine length (Json.ascii text)).OfHeader := by
  have hread : readHeader (Json.ascii text) = readHeaderText text := by
    rw [readHeader, Utf8.decode?_ascii hascii]
    exact congrArg readHeaderText String.toList_ofList
  unfold cutLine
  rw [hread]
  split
  next fault hfault => exact .inr (readHeaderText_error hfault)
  next hok => exact absurd hok (readHeaderText_ne_blank hc hblank)
  · exact .inl rfl

/-! ### One frame -/

/-- A stream that ends in the line that announces the length. -/
theorem next_take_lengthLine (n : Nat) (hk : 0 < k) (hle : k ≤ (lengthLine n).length) :
    ∃ fault : Fault, fault.OfHeader ∧
      next ((Json.ascii (lengthLine n)).take k) = .starved (some fault) := by
  obtain ⟨k, rfl⟩ : ∃ j, k = j + 1 := ⟨k - 1, by omega⟩
  have hmem : ∀ c ∈ (lengthLine n).take (k + 1), c.toNat < 128 := fun c hc =>
    (toNat_lt_of_mem_lengthLine (List.mem_of_mem_take hc)).1
  have htitle : 'C' ∈ (lengthLine n).take (k + 1) := List.mem_cons_self ..
  refine ⟨_, cutLine_ofHeader hmem htitle (by decide) none, ?_⟩
  have htake : (Json.ascii (lengthLine n)).take (k + 1) =
      Json.ascii ((lengthLine n).take (k + 1)) := by rw [Json.ascii, Json.ascii, List.map_take]
  have hline : (0x0A : UInt8) ∉ Json.ascii ((lengthLine n).take (k + 1)) := by
    rw [← htake]
    exact fun h => linefeed_not_mem_lengthLine n (List.mem_of_mem_take h)
  have hread : readBlock true none [] (Json.ascii ((lengthLine n).take (k + 1)) ++ []) =
      readBlock true none ((Json.ascii ((lengthLine n).take (k + 1))).reverse ++ []) [] :=
    readBlock_append true none [] hline
  rw [List.append_nil, List.append_nil] at hread
  rw [htake, next, hread, readBlock, List.reverse_reverse, if_neg]
  rw [List.reverse_eq_nil_iff, Json.ascii, List.map_eq_nil_iff]
  exact List.ne_nil_of_mem htitle

/-- A stream that ends behind that line: between the lines, in the blank one, or in
the body. -/
theorem readBlock_take_body (hne : body ≠ []) (hl : body.length ≤ maxBytes)
    (hk : k < body.length + 2) :
    readBlock false (some body.length) [] (([0x0D] ++ 0x0A :: body).take k) =
      .starved (some (if k = 0 then .truncatedHeaders else .cutShort)) := by
  have hshort : ∀ bs : Bytes, bs.length < body.length →
      readBody (some body.length) bs = .starved (some .cutShort) := by
    intro bs hbs
    rw [readBody, if_neg (by omega), if_pos hbs]
  rcases k with _ | _ | k
  · rfl
  · have hblank : readHeader [0x0D] = .ok .blank := by decide
    have hempty := hshort [] (List.length_pos_iff.2 hne)
    change Next.starved (some (cutLine (some body.length) [0x0D])) = _
    rw [cutLine, hblank]
    dsimp only
    rw [hempty]
    rfl
  · have hblank : readHeader ([0x0D] ++ [0x0A]) = .ok .blank := by decide
    change readBlock false (some body.length) [] ([0x0D] ++ 0x0A :: body.take k) = _
    rw [readBlock_line _ _ _ (by decide), hblank, if_neg (by omega)]
    exact hshort _ (by rw [List.length_take]; omega)

/-- **A frame that is cut off is no frame, and no end**: the stream comes to a fault
of headers up to the end of the line with the length, or right behind it, and to a
body cut short after that. -/
theorem next_take_frameOf (hne : body ≠ []) (hl : body.length ≤ maxBytes) (hk : 0 < k)
    (hlt : k < (frameOf body).length) :
    ∃ fault : Fault, next ((frameOf body).take k) = .starved (some fault) ∧
      (k ≤ (lengthLine body.length).length + 1 → fault.OfHeader) ∧
      ((lengthLine body.length).length + 1 < k → fault = .cutShort) := by
  have hlength : (Json.ascii (lengthLine body.length)).length = (lengthLine body.length).length :=
    List.length_map ..
  rw [frameOf_eq] at hlt ⊢
  simp only [List.length_append, List.length_cons, hlength] at hlt
  rcases Nat.lt_or_ge (lengthLine body.length).length k with hlong | hshort
  · obtain ⟨j, rfl⟩ : ∃ j, k = (lengthLine body.length).length + (j + 1) :=
      ⟨k - (lengthLine body.length).length - 1, by omega⟩
    have hword : body.length < Numeral.wordBound := lt_of_le_of_lt hl (by decide)
    rw [← hlength, List.take_length_add_append, List.take_succ_cons, next,
      readBlock_line _ _ _ (linefeed_not_mem_lengthLine _), readHeader_lengthLine,
      Numeral.parse?_render hword]
    refine ⟨_, readBlock_take_body hne hl (by simp at hlt; omega), fun h => ?_, fun h => ?_⟩
    · rw [if_pos (by omega)]
      exact .inl rfl
    · rw [if_neg (by omega)]
  · obtain ⟨fault, hheader, hnext⟩ := next_take_lengthLine body.length hk hshort
    rw [List.take_append_of_le_length (by omega)]
    exact ⟨fault, hnext, fun _ => hheader, fun h => absurd h (by omega)⟩

/-! ### Streams -/

/-- A stream that starves at its first frame gives none. -/
theorem readAll_of_starved {bs : Bytes} {fault : Option Fault} (h : next bs = .starved fault) :
    readAll bs = ([], fault) := by rw [readAll, readAllWithin, h]

/-- What has been read of a stream of messages that ends after some bytes: the first
messages, as many as have come whole, and after them a fault of what is cut off if
more than those has come. -/
structure CutAt (messages : List Json) (k : Nat) (read : List Json × Option Fault) : Prop where
  whole : ∃ n ≤ messages.length, read.1 = messages.take n ∧
    ∀ i ≤ messages.length, (writeAll (messages.take i)).length ≤ k ↔ i ≤ n
  clean_iff : read.2 = none ↔ (writeAll messages).take k = writeAll read.1
  fault : ∀ fault, read.2 = some fault → fault.OfCut

/-- Messages are written one after the other. -/
theorem writeAll_cons (m : Json) (more : List Json) :
    writeAll (m :: more) = write m ++ writeAll more :=
  List.flatMap_cons

/-- A stream that ends in its first frame: nothing is read, and only a stream that
has not begun ends cleanly. -/
theorem cutAt_first {m : Json} (more : List Json) (hl : m.write.length ≤ maxBytes)
    (hlt : k < (write m).length) :
    CutAt (m :: more) k (readAll ((writeAll (m :: more)).take k)) := by
  have hwhole : ∀ i ≤ (m :: more).length,
      (writeAll ((m :: more).take i)).length ≤ k ↔ i ≤ 0 := by
    intro i _
    cases i with
    | zero => simp [writeAll]
    | succ i =>
      rw [List.take_succ_cons, writeAll_cons, List.length_append]
      omega
  have htake : (writeAll (m :: more)).take k = (write m).take k := by
    rw [writeAll_cons, List.take_append_of_le_length hlt.le]
  rcases Nat.eq_zero_or_pos k with rfl | hpos
  · have hread : readAll ((writeAll (m :: more)).take 0) = ([], none) := rfl
    rw [hread]
    exact ⟨⟨0, Nat.zero_le _, rfl, hwhole⟩, ⟨fun _ => rfl, fun _ => rfl⟩, by simp⟩
  · obtain ⟨b, tl, hcons, -⟩ := Json.write_eq_cons m
    obtain ⟨fault, hnext, hheader, hbody⟩ :=
      next_take_frameOf (hcons ▸ List.cons_ne_nil b tl) hl hpos hlt
    have hread : readAll ((writeAll (m :: more)).take k) = ([], some fault) := by
      rw [htake]
      exact readAll_of_starved hnext
    have hne : (writeAll (m :: more)).take k ≠ [] := by
      rw [htake, ← List.length_pos_iff, List.length_take]
      omega
    rw [hread]
    refine ⟨⟨0, Nat.zero_le _, rfl, hwhole⟩, ⟨by simp, fun h => absurd h hne⟩, fun f heq => ?_⟩
    obtain rfl := Option.some.inj heq
    rcases Nat.lt_or_ge ((lengthLine m.write.length).length + 1) k with h | h
    · exact .inr (hbody h)
    · exact .inl (hheader h)

/-- A stream that ends behind its first frame: that one is read, and the rest as
if it stood alone. -/
theorem CutAt.behind {more : List Json} {read : List Json × Option Fault} (h : CutAt more k read)
    (m : Json) : CutAt (m :: more) ((write m).length + k) (m :: read.1, read.2) := by
  obtain ⟨n, hn, hread, hwhole⟩ := h.whole
  refine ⟨⟨n + 1, Nat.succ_le_succ hn, ?_, fun i hi => ?_⟩, ?_, h.fault⟩
  · rw [List.take_succ_cons, hread]
  · cases i with
    | zero => simp [writeAll]
    | succ i =>
      rw [List.take_succ_cons, writeAll_cons, List.length_append, Nat.add_le_add_iff_left,
        Nat.add_le_add_iff_right]
      exact hwhole i (Nat.le_of_succ_le_succ hi)
  · dsimp only
    rw [h.clean_iff, writeAll_cons, writeAll_cons, List.take_length_add_append,
      List.append_cancel_left_eq]

/-- **A stream of messages that is cut off is read up to the last whole message**,
and ends cleanly exactly when it has been cut off between two of them. -/
theorem readAll_take_writeAll (messages : List Json) (k : Nat)
    (h : ∀ m ∈ messages, m.fits = true ∧ m.depth ≤ Json.maxDepth ∧ m.write.length ≤ maxBytes) :
    CutAt messages k (readAll ((writeAll messages).take k)) := by
  induction messages generalizing k with
  | nil =>
    have hread : readAll ((writeAll []).take k) = ([], none) := by
      rw [writeAll, List.flatMap_nil, List.take_nil]
      rfl
    rw [hread]
    refine ⟨⟨0, le_rfl, rfl, fun i hi => ?_⟩, by simp [writeAll], by simp⟩
    obtain rfl := Nat.le_zero.1 hi
    simp [writeAll]
  | cons m more ih =>
    obtain ⟨hf, hd, hl⟩ := h m (List.mem_cons_self ..)
    rcases Nat.lt_or_ge k (write m).length with hlt | hge
    · exact cutAt_first more hl hlt
    · obtain ⟨j, rfl⟩ : ∃ j, k = (write m).length + j := ⟨k - (write m).length, by omega⟩
      have hrest := ih j fun x hx => h x (List.mem_cons_of_mem _ hx)
      rw [writeAll_cons, List.take_length_add_append,
        readAll_of_frame (next_write_append _ hf hd hl)]
      exact hrest.behind m

/-- Two messages, cut off between the two digits of the second one's length. -/
theorem readAll_take_writeAll_digits :
    (∀ m ∈ [Json.int 0, .str "0123456789"],
        m.fits = true ∧ m.depth ≤ Json.maxDepth ∧ m.write.length ≤ maxBytes) ∧
      CutAt [.int 0, .str "0123456789"] 39
        (readAll ((writeAll [.int 0, .str "0123456789"]).take 39)) :=
  ⟨by decide, readAll_take_writeAll [.int 0, .str "0123456789"] 39 (by decide)⟩

end Frame
end Switchboard
