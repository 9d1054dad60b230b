/-
# Messages read back from a stream

The bytes of messages in a row, with anything behind them, are read back to the
messages, and what is left is what was put behind them
(`readAll_writeAll_append`).  For one message there are two header lines to get
past: the one with the length (`readHeader_lengthLine`), whose number is the
number of bytes of the body, and the blank one; the body is then read by
`Json.read?_write`.  Nothing else is ever read of a written frame than what its
body is read to (`next_frameOf_iff`).

`nextN` reads so many frames and gives the rest of the stream, so that a
statement about it says what any further read meets.
-/

import Switchboard.Proofs.Json.RoundTrip

namespace Switchboard

/-! ### Blanks -/

namespace Blank

/-- Trimming takes the blanks around a text that has none at its ends. -/
theorem trim_between (front back : List Char) {cs : List Char} (hne : cs ≠ [])
    (hfront : ∀ c ∈ front, isBlank c = true) (hback : ∀ c ∈ back, isBlank c = true)
    (hhead : ∀ c ∈ cs.head?, isBlank c = false) (hlast : ∀ c ∈ cs.getLast?, isBlank c = false) :
    trim (front ++ (cs ++ back)) = cs := by
  have hstop : ∀ ds : List Char, (∀ c ∈ ds.head?, isBlank c = false) →
      ds.dropWhile isBlank = ds := by
    intro ds hds
    cases ds with
    | nil => rfl
    | cons d ds => simp [hds d rfl]
  have hhead' : ∀ c ∈ (cs ++ back).head?, isBlank c = false := by
    rw [List.head?_append_of_ne_nil _ hne]
    exact hhead
  have hback' : ∀ c ∈ back.reverse, isBlank c = true := fun c hc => hback c (List.mem_reverse.1 hc)
  rw [trim, trimStart, List.dropWhile_append_of_pos hfront, hstop _ hhead', trimEnd,
    List.reverse_append, List.dropWhile_append_of_pos hback',
    hstop _ (by rw [List.head?_reverse]; exact hlast), List.reverse_reverse]

/-- No digit of a number is blank. -/
theorem isBlank_of_mem_render {n : Nat} {c : Char} (h : c ∈ Numeral.render n) :
    isBlank c = false := by
  obtain ⟨h₁, h₂⟩ := Numeral.toNat_of_mem_render h
  simp only [isBlank, Bool.or_eq_false_iff, Bool.and_eq_false_iff, beq_eq_false_iff_ne,
    decide_eq_false_iff_not]
  omega

/-- Digits stand between blanks like any word. -/
theorem trim_render (n : Nat) (front back : List Char)
    (hfront : ∀ c ∈ front, isBlank c = true) (hback : ∀ c ∈ back, isBlank c = true) :
    trim (front ++ (Numeral.render n ++ back)) = Numeral.render n :=
  trim_between front back (Numeral.render_ne_nil n) hfront hback
    (fun _ hc => isBlank_of_mem_render (List.mem_of_mem_head? hc))
    (fun _ hc => isBlank_of_mem_render (List.mem_of_mem_getLast? hc))

end Blank

namespace Frame

/-! ### Header lines -/

/-- The name of the header that is written. -/
def lengthTitle : List Char :=
  ['C', 'o', 'n', 't', 'e', 'n', 't', '-', 'L', 'e', 'n', 'g', 't', 'h']

/-- The header line that announces a body, up to its line feed. -/
def lengthLine (n : Nat) : List Char := lengthTitle ++ ':' :: ' ' :: (Numeral.render n ++ ['\r'])

/-- A line is split at its first colon. -/
theorem splitColon_append {name value : List Char} (h : ':' ∉ name) :
    splitColon (name ++ ':' :: value) = some (name, value) := by
  have hne : ∀ c ∈ name, (c != ':') = true := by
    intro c hc
    rw [bne_iff_ne]
    rintro rfl
    exact h hc
  rw [splitColon, if_pos (by simp), List.takeWhile_append_of_pos hne,
    List.dropWhile_append_of_pos hne]
  simp

/-- What a header line with a length comes to, when its digits are read to this. -/
def lengthHeader (n : Nat) : Option Nat → Except Fault Header
  | some m => .ok (.length m)
  | none => .error (.invalidLength (String.ofList (Numeral.render n)))

/-- **The header line that is written counts**: its number is what its digits are read to. -/
theorem readHeaderText_lengthLine (n : Nat) :
    readHeaderText (lengthLine n ++ ['\n']) =
      lengthHeader n (Numeral.parse? (Numeral.render n)) := by
  have htrim : Blank.trim (lengthLine n ++ ['\n']) =
      lengthTitle ++ ':' :: ' ' :: Numeral.render n := by
    have hlast : ∀ c ∈ (lengthTitle ++ ':' :: ' ' :: Numeral.render n).getLast?,
        Blank.isBlank c = false := by
      rw [show lengthTitle ++ ':' :: ' ' :: Numeral.render n =
          (lengthTitle ++ [':', ' ']) ++ Numeral.render n by simp,
        List.getLast?_append_of_ne_nil _ (Numeral.render_ne_nil n)]
      exact fun c hc => Blank.isBlank_of_mem_render (List.mem_of_mem_getLast? hc)
    have hne : lengthTitle ++ ':' :: ' ' :: Numeral.render n ≠ [] := by simp [lengthTitle]
    have ht := Blank.trim_between [] ['\r', '\n'] hne (by simp) (List.all_eq_true.1 rfl)
      (fun c hc => by obtain rfl := Option.mem_some_iff.1 hc; decide) hlast
    rw [← ht]
    simp [lengthLine]
  have hvalue : Blank.trim (' ' :: Numeral.render n) = Numeral.render n := by
    have ht := Blank.trim_render n [' '] [] (List.all_eq_true.1 rfl) (by simp)
    rwa [List.append_nil] at ht
  have hname : (Blank.trim lengthTitle).map lower = lengthName := by decide
  unfold readHeaderText
  rw [htrim]
  split
  · next he => simp [lengthTitle] at he
  · rw [splitColon_append (by decide)]
    simp only [hname, if_true, hvalue]
    cases Numeral.parse? (Numeral.render n) <;> rfl

/-- The line with the length is plain, and has no line feed in it. -/
theorem toNat_lt_of_mem_lengthLine {n : Nat} {c : Char} (h : c ∈ lengthLine n) :
    c.toNat < 128 ∧ c.toNat ≠ 10 := by
  rw [lengthLine, List.mem_append, List.mem_cons, List.mem_cons, List.mem_append,
    List.mem_singleton] at h
  have htitle : ∀ c ∈ lengthTitle, c.toNat < 128 ∧ c.toNat ≠ 10 := by simp [lengthTitle]
  rcases h with h | rfl | rfl | h | rfl
  · exact htitle c h
  · decide
  · decide
  · obtain ⟨h₁, h₂⟩ := Numeral.toNat_of_mem_render h
    omega
  · decide

/-- The bytes of the line with the length have no line feed among them. -/
theorem linefeed_not_mem_lengthLine (n : Nat) : (0x0A : UInt8) ∉ Json.ascii (lengthLine n) := by
  rw [Json.ascii, List.mem_map]
  rintro ⟨c, hc, he⟩
  obtain ⟨h₁, h₂⟩ := toNat_lt_of_mem_lengthLine hc
  have hn := congrArg UInt8.toNat he
  rw [UInt8.toNat_ofNat_of_lt' (by change c.toNat < 256; omega)] at hn
  exact h₂ hn

/-- The line that announces a length is read from its bytes. -/
theorem readHeader_lengthLine (n : Nat) :
    readHeader (Json.ascii (lengthLine n) ++ [0x0A]) =
      lengthHeader n (Numeral.parse? (Numeral.render n)) := by
  have hb : Json.ascii (lengthLine n) ++ [0x0A] = Json.ascii (lengthLine n ++ ['\n']) := by
    rw [Json.ascii, Json.ascii, List.map_append]
    rfl
  have hall : ∀ c ∈ lengthLine n ++ ['\n'], c.toNat < 128 := by
    intro c hc
    rcases List.mem_append.1 hc with hc | hc
    · exact (toNat_lt_of_mem_lengthLine hc).1
    · rw [List.mem_singleton.1 hc]
      decide
  rw [readHeader, hb, Utf8.decode?_ascii hall]
  change readHeaderText (String.ofList (lengthLine n ++ ['\n'])).toList = _
  rw [String.toList_ofList, readHeaderText_lengthLine]

/-! ### One frame -/

/-- The bytes of a line are kept until its line feed comes. -/
theorem readBlock_append (fresh : Bool) (length : Option Nat) {line bs : Bytes} (rest : Bytes)
    (h : 0x0A ∉ bs) :
    readBlock fresh length line (bs ++ rest) =
      readBlock fresh length (bs.reverse ++ line) rest := by
  induction bs generalizing line with
  | nil => rfl
  | cons b bs ih =>
    have hb : (b == 0x0A) = false := by
      rw [beq_eq_false_iff_ne]
      rintro rfl
      exact h (List.mem_cons_self ..)
    rw [List.cons_append, readBlock, hb, if_neg (by decide),
      ih fun hm => h (List.mem_cons_of_mem _ hm)]
    simp

/-- The first byte behind a line's bytes ends it if it is a line feed. -/
theorem readBlock_line (fresh : Bool) (length : Option Nat) {bs : Bytes} (rest : Bytes)
    (h : 0x0A ∉ bs) :
    readBlock fresh length [] (bs ++ 0x0A :: rest) =
      match readHeader (bs ++ [0x0A]) with
      | .error fault => .failed fault
      | .ok .blank => readBody length rest
      | .ok (.length n) => readBlock false (some n) [] rest
      | .ok .other => readBlock false length [] rest := by
  rewrite [readBlock_append _ _ _ h, List.append_nil, readBlock, if_pos (by decide),
    List.reverse_cons, List.reverse_reverse]
  rfl

/-- A frame is the line with the length, the blank line and the body. -/
theorem frameOf_eq (body : Bytes) :
    frameOf body =
      Json.ascii (lengthLine body.length) ++ 0x0A :: ([0x0D] ++ 0x0A :: body) := by
  have htitle : "Content-Length: ".toList = lengthTitle ++ [':', ' '] := by decide
  have hend : "\r\n\r\n".toList = ['\r', '\n', '\r', '\n'] := by decide
  rw [frameOf, htitle, hend, lengthLine]
  simp [Json.ascii]

/-- Behind the header lines of a frame its body is read, if its length is one that
can be announced. -/
theorem next_frameOf_eq {body : Bytes} (rest : Bytes) (hword : body.length < Numeral.wordBound) :
    next (frameOf body ++ rest) = readBody (some body.length) (body ++ rest) := by
  have hblank : readHeader ([0x0D] ++ [0x0A]) = .ok .blank := by decide
  rw [frameOf_eq, List.append_assoc, List.cons_append, next,
    readBlock_line _ _ _ (linefeed_not_mem_lengthLine _), readHeader_lengthLine,
    Numeral.parse?_render hword]
  change readBlock false (some body.length) [] ([0x0D] ++ 0x0A :: (body ++ rest)) = _
  rw [readBlock_line _ _ _ (by decide), hblank]

/-- **A frame's body is read whole, and nothing behind it is touched.** -/
theorem next_frameOf_append {body : Bytes} {value : Json} (rest : Bytes)
    (hl : body.length ≤ maxBytes) (hv : Json.read? body = some value) :
    next (frameOf body ++ rest) = .frame value rest := by
  rw [next_frameOf_eq rest (lt_of_le_of_lt hl (by decide))]
  simp only [readBody]
  rw [if_neg (by omega), if_neg (by simp), List.take_left, hv, List.drop_left]

/-- **Nothing else is read of a frame than what its body is read to**, and a frame
that is too large is not read. -/
theorem next_frameOf_iff {body rest more : Bytes} {value : Json} :
    next (frameOf body ++ rest) = .frame value more ↔
      body.length ≤ maxBytes ∧ Json.read? body = some value ∧ more = rest := by
  constructor
  · intro h
    by_cases hword : body.length < Numeral.wordBound
    · rw [next_frameOf_eq rest hword, readBody] at h
      split_ifs at h with hlarge
      rw [List.take_left, List.drop_left] at h
      split at h
      next v hv =>
        obtain ⟨rfl, rfl⟩ := Next.frame.inj h
        exact ⟨Nat.le_of_not_lt hlarge, hv, rfl⟩
      next => exact absurd h (by simp)
    · have hparse : Numeral.parse? (Numeral.render body.length) = none := by
        rw [Option.eq_none_iff_forall_ne_some]
        intro n hn
        obtain ⟨digits, hspelled, -, hdigits, rfl, hlt⟩ := Numeral.parse?_eq_some_iff.1 hn
        rcases hspelled with hspelled | hspelled
        · rw [← hspelled, Numeral.render, Nat.ofDigitChars_ten_toDigits] at hlt
          exact hword hlt
        · have hplus := Numeral.isDigit_of_mem_render (n := body.length)
            (hspelled ▸ List.mem_cons_self (a := '+'))
          exact absurd hplus (by decide)
      rw [frameOf_eq, List.append_assoc, List.cons_append, next,
        readBlock_line _ _ _ (linefeed_not_mem_lengthLine _), readHeader_lengthLine, hparse] at h
      exact absurd h (by simp [lengthHeader])
  · rintro ⟨hl, hv, rfl⟩
    exact next_frameOf_append more hl hv

/-- **A message that is written is read.** -/
theorem next_write_append {message : Json} (rest : Bytes) (hf : message.fits = true)
    (hd : message.depth ≤ Json.maxDepth) (hl : message.write.length ≤ maxBytes) :
    next (write message ++ rest) = .frame message rest :=
  next_frameOf_append rest hl (Json.read?_write hf hd)

/-- No message is written as nothing. -/
theorem length_write_pos (message : Json) : 0 < (write message).length := by
  simp [write, frameOf, Json.ascii]

/-- So many messages are at least so many bytes. -/
theorem length_le_writeAll (messages : List Json) :
    messages.length ≤ (writeAll messages).length := by
  induction messages with
  | nil => exact le_rfl
  | cons m messages ih =>
    have hsome := length_write_pos m
    rw [writeAll, List.flatMap_cons, ← writeAll, List.length_cons, List.length_append]
    omega

/-! ### Streams -/

/-- So many frames of a stream, and what follows them; none if the stream does
not have that many. -/
def nextN : Nat → Bytes → Option (List Json × Bytes)
  | 0, bs => some ([], bs)
  | n + 1, bs => match next bs with
    | .frame value rest => (nextN n rest).map fun (values, rest) => (value :: values, rest)
    | .failed _ | .starved _ => none

/-- Reading a body leaves no more bytes than there were. -/
theorem readBody_lt {length : Option Nat} {bs rest : Bytes} {value : Json}
    (h : readBody length bs = .frame value rest) : rest.length ≤ bs.length := by
  unfold readBody at h
  split at h
  · exact absurd h (by simp)
  · split_ifs at h
    split at h
    · obtain ⟨-, rfl⟩ := Next.frame.inj h
      rw [List.length_drop]
      omega
    · exact absurd h (by simp)

/-- **Every frame takes a byte.** -/
theorem length_lt_of_readBlock {bs : Bytes} : ∀ {fresh : Bool} {length : Option Nat}
    {line rest : Bytes} {value : Json}, readBlock fresh length line bs = .frame value rest →
      rest.length < bs.length := by
  induction bs with
  | nil =>
    intro fresh length line rest value h
    rw [readBlock] at h
    split_ifs at h
  | cons b bs ih =>
    intro fresh length line rest value h
    rw [List.length_cons]
    rw [readBlock] at h
    split_ifs at h
    · split at h
      · exact absurd h (by simp)
      · have := readBody_lt h
        omega
      · have := ih h
        omega
      · have := ih h
        omega
    · have := ih h
      omega

/-- A body that is there whole is there whatever comes behind it. -/
theorem readBody_append {length : Option Nat} {bs rest : Bytes} {value : Json} (more : Bytes)
    (h : readBody length bs = .frame value rest) :
    readBody length (bs ++ more) = .frame value (rest ++ more) := by
  unfold readBody at h ⊢
  cases length with
  | none => exact absurd h (by simp)
  | some n =>
    dsimp only at h ⊢
    split at h
    · exact absurd h (by simp)
    next hsmall =>
      split at h
      · exact absurd h (by simp)
      next hlong =>
        have hlong' : ¬ (bs ++ more).length < n := by
          rw [List.length_append]
          omega
        rw [if_neg hsmall, if_neg hlong', List.take_append_of_le_length (by omega),
          List.drop_append_of_le_length (by omega)]
        split at h
        next value' hvalue =>
          obtain ⟨rfl, rfl⟩ := Next.frame.inj h
          rfl
        · exact absurd h (by simp)

/-- A frame that is there whole is there whatever comes behind it. -/
theorem readBlock_frame_append {bs rest : Bytes} {value : Json} (more : Bytes) :
    ∀ {fresh : Bool} {length : Option Nat} {line : Bytes},
      readBlock fresh length line bs = .frame value rest →
        readBlock fresh length line (bs ++ more) = .frame value (rest ++ more) := by
  induction bs with
  | nil =>
    intro fresh length line h
    unfold readBlock at h
    split at h
    · exact absurd h (by simp)
    · exact absurd h (by simp)
  | cons b bs ih =>
    intro fresh length line h
    rw [List.cons_append]
    unfold readBlock at h ⊢
    split at h
    next hb =>
      rw [if_pos hb]
      split at h
      · exact absurd h (by simp)
      · exact readBody_append more h
      · exact ih h
      · exact ih h
    next hb =>
      rw [if_neg hb]
      exact ih h

/-- More bytes behind a frame leave the frame as it is read. -/
theorem next_append {bs rest : Bytes} {value : Json} (more : Bytes)
    (h : next bs = .frame value rest) : next (bs ++ more) = .frame value (rest ++ more) :=
  readBlock_frame_append more h

/-- What is read does not depend on the fuel, if there is a step for each byte. -/
theorem readAllWithin_eq {fuel : Nat} {bs : Bytes} (fuel' : Nat) (h : bs.length < fuel)
    (h' : bs.length < fuel') : readAllWithin fuel bs = readAllWithin fuel' bs := by
  induction fuel generalizing fuel' bs with
  | zero => omega
  | succ fuel ih =>
    obtain ⟨fuel', rfl⟩ : ∃ k, fuel' = k + 1 := ⟨fuel' - 1, by omega⟩
    rw [readAllWithin, readAllWithin]
    split
    · next value rest hn =>
      have hlt := length_lt_of_readBlock hn
      rw [ih fuel' (by omega) (by omega)]
    · rfl
    · rfl

/-- A stream that starts with a frame gives that one and those behind it. -/
theorem readAll_of_frame {bs rest : Bytes} {value : Json} (h : next bs = .frame value rest) :
    readAll bs = (value :: (readAll rest).1, (readAll rest).2) := by
  have hlt := length_lt_of_readBlock h
  rw [readAll, readAllWithin, h]
  simp only []
  rw [readAllWithin_eq (rest.length + 1) (by omega) (by omega)]
  rfl

/-- **Messages in a row are read back, and then what was put behind them.** -/
theorem nextN_writeAll_append (messages : List Json) (rest : Bytes)
    (h : ∀ m ∈ messages, m.fits = true ∧ m.depth ≤ Json.maxDepth ∧ m.write.length ≤ maxBytes) :
    nextN messages.length (writeAll messages ++ rest) = some (messages, rest) ∧
      readAll (writeAll messages ++ rest) = (messages ++ (readAll rest).1, (readAll rest).2) := by
  induction messages with
  | nil => exact ⟨rfl, rfl⟩
  | cons m more ih =>
    obtain ⟨hf, hd, hl⟩ := h m (List.mem_cons_self ..)
    obtain ⟨h₁, h₂⟩ := ih fun x hx => h x (List.mem_cons_of_mem _ hx)
    have hn := next_write_append (writeAll more ++ rest) hf hd hl
    rw [writeAll, List.flatMap_cons, List.append_assoc, ← writeAll]
    constructor
    · rw [List.length_cons, nextN, hn]
      simp only [h₁, Option.map_some]
    · rw [readAll_of_frame hn, h₂]
      rfl

/-- **Written messages survive the stream.**  Whatever follows the bytes of
messages in a row, reading gives exactly the messages and is left with exactly
what follows: so many frames are the messages, the frames to the end are the
messages and the frames of what follows, with the fault of what follows, and a
stream that ends where the messages do ends cleanly. -/
theorem readAll_writeAll_append (messages : List Json) (rest : Bytes)
    (h : ∀ m ∈ messages, m.fits = true ∧ m.depth ≤ Json.maxDepth ∧ m.write.length ≤ maxBytes) :
    nextN messages.length (writeAll messages ++ rest) = some (messages, rest) ∧
      readAll (writeAll messages ++ rest) = (messages ++ (readAll rest).1, (readAll rest).2) ∧
      readAll (writeAll messages) = (messages, none) ∧ next [] = .starved none := by
  obtain ⟨h₁, h₂⟩ := nextN_writeAll_append messages rest h
  have hend : readAll ([] : Bytes) = ([], none) := rfl
  have h₃ := (nextN_writeAll_append messages [] h).2
  rw [List.append_nil, hend, List.append_nil] at h₃
  exact ⟨h₁, h₂, h₃, rfl⟩

/-- Two messages, with nesting, an escape and letters beyond ASCII, before bytes
that are no frame. -/
theorem readAll_writeAll_append_two :
    (∀ m ∈ [Json.obj [("a\"é", .arr [.int (-5), .null]), ("é", .str "\n€\\")], .int 0],
        m.fits = true ∧ m.depth ≤ Json.maxDepth ∧ m.write.length ≤ maxBytes) ∧
      nextN 2 (writeAll [Json.obj [("a\"é", .arr [.int (-5), .null]), ("é", .str "\n€\\")],
        .int 0] ++ [0x43, 0x0A]) =
        some ([Json.obj [("a\"é", .arr [.int (-5), .null]), ("é", .str "\n€\\")], .int 0],
          [0x43, 0x0A]) :=
  ⟨by decide, (readAll_writeAll_append [Json.obj [("a\"é", .arr [.int (-5), .null]),
    ("é", .str "\n€\\")], .int 0] [0x43, 0x0A] (by decide)).1⟩

end Frame
end Switchboard
