import Mathlib.Data.List.Basic
import Mathlib.Tactic.Ring

/-!
Decimal text and delimited fields. `stoi` reads the longest decimal prefix of
a text as a 32-bit number, `terminatedFields` cuts a text after every
delimiter, and a NUL ends a C string. The laws say that what was printed is
read back.
-/

namespace Library.Text

inductive ParseError
  | invalidArgument
  | outOfRange
deriving DecidableEq, Repr

def isSpace (c : Char) : Bool :=
  c = ' ' || c = '\t' || c = '\n' || c = '\x0b' || c = '\x0c' || c = '\r'

def InInt32 (n : Int) : Prop := -2 ^ 31 ≤ n ∧ n < 2 ^ 31

instance (n : Int) : Decidable (InInt32 n) := inferInstanceAs (Decidable (_ ∧ _))

/-- The value of the digits that `text` begins with. -/
def magnitude (negative : Bool) (text : List Char) : Except ParseError Int :=
  let digits := text.takeWhile Char.isDigit
  if digits = [] then .error .invalidArgument
  else
    let size : Int := Nat.ofDigitChars 10 digits 0
    let value := if negative then -size else size
    if InInt32 value then .ok value else .error .outOfRange

/-- The value of an optional sign followed by decimal digits; white space
before it and anything after it is ignored. -/
def stoi (text : List Char) : Except ParseError Int :=
  match text.dropWhile isSpace with
  | '-' :: rest => magnitude true rest
  | '+' :: rest => magnitude false rest
  | rest => magnitude false rest

/-- The first character, if there is one, is no digit. -/
def DigitFree (rest : List Char) : Prop := ∀ c ∈ rest.head?, c.isDigit = false

private theorem takeWhile_digits (n : Nat) (rest : List Char) (hrest : DigitFree rest) :
    (Nat.toDigits 10 n ++ rest).takeWhile Char.isDigit = Nat.toDigits 10 n := by
  rw [List.takeWhile_append_of_pos fun c hc =>
    Nat.isDigit_of_mem_toDigits (by decide) (by decide) hc]
  cases rest with
  | nil => simp
  | cons c cs => simp [hrest c rfl]

private theorem digit_head (n : Nat) :
    ∃ c cs, Nat.toDigits 10 n = c :: cs ∧ c.isDigit = true := by
  cases hdigits : Nat.toDigits 10 n with
  | nil => exact absurd hdigits Nat.toDigits_ne_nil
  | cons c cs =>
      exact ⟨c, cs, rfl, Nat.isDigit_of_mem_toDigits (b := 10) (n := n) (by decide) (by decide)
        (by rw [hdigits]; exact List.mem_cons_self)⟩

private theorem isDigit_plain {c : Char} (h : c.isDigit = true) :
    isSpace c = false ∧ c ≠ '-' ∧ c ≠ '+' := by
  refine ⟨?_, ?_, ?_⟩
  · by_contra hspace
    simp only [isSpace, Bool.not_eq_false, Bool.or_eq_true, decide_eq_true_eq] at hspace
    rcases hspace with ((((rfl | rfl) | rfl) | rfl) | rfl) | rfl <;> exact absurd h (by decide)
  · rintro rfl
    exact absurd h (by decide)
  · rintro rfl
    exact absurd h (by decide)

private theorem magnitude_digits (negative : Bool) (n : Nat) (rest : List Char)
    (hrest : DigitFree rest) :
    magnitude negative (Nat.toDigits 10 n ++ rest) =
      let value : Int := if negative then -(n : Int) else n
      if InInt32 value then .ok value else .error .outOfRange := by
  simp only [magnitude, takeWhile_digits n rest hrest, Nat.toDigits_ne_nil, if_false,
    Nat.ofDigitChars_ten_toDigits]

/-- A printed number, followed by anything that does not go on with a digit,
is read back, unless it does not fit 32 bits. -/
theorem stoi_toString (n : Int) (rest : List Char) (hrest : DigitFree rest) :
    stoi ((toString n).toList ++ rest) =
      if InInt32 n then .ok n else .error .outOfRange := by
  rw [Int.toString_eq_repr, Int.repr_eq_if]
  split
  · rename_i hnonneg
    obtain ⟨c, cs, hdigits, hc⟩ := digit_head n.toNat
    obtain ⟨hspace, hminus, hplus⟩ := isDigit_plain hc
    have hmagnitude := magnitude_digits false n.toNat rest hrest
    rw [Nat.toList_repr]
    rw [hdigits] at hmagnitude ⊢
    rw [stoi, List.cons_append, List.dropWhile_cons_of_neg (by simp [hspace])]
    simp only [Bool.false_eq_true, if_false, Int.toNat_of_nonneg hnonneg] at hmagnitude
    split
    · exact absurd (List.cons.inj ‹_›).1 hminus
    · exact absurd (List.cons.inj ‹_›).1 hplus
    · exact hmagnitude
  · rename_i hneg
    have hmagnitude := magnitude_digits true (-n).toNat rest hrest
    have hsize : -(((-n).toNat : Nat) : Int) = n := by omega
    simp only [if_true, hsize] at hmagnitude
    rw [String.toList_append, Nat.toList_repr, List.append_assoc]
    exact hmagnitude

/-- The pieces of a text that a delimiter closes, in order; what follows the
last delimiter is dropped. `piece` holds the current piece reversed. -/
def terminatedFields (delimiter : Char) (piece : List Char) : List Char → List (List Char)
  | [] => []
  | c :: rest =>
      if c = delimiter then piece.reverse :: terminatedFields delimiter [] rest
      else terminatedFields delimiter (c :: piece) rest

/-- A delimiter-free field followed by the delimiter is cut off whole. -/
theorem terminatedFields_append (delimiter : Char) (field rest : List Char)
    (hfield : delimiter ∉ field) :
    terminatedFields delimiter [] (field ++ delimiter :: rest) =
      field :: terminatedFields delimiter [] rest := by
  suffices h : ∀ piece, terminatedFields delimiter piece (field ++ delimiter :: rest) =
      (piece.reverse ++ field) :: terminatedFields delimiter [] rest by
    simpa using h []
  induction field with
  | nil =>
      intro piece
      simp [terminatedFields]
  | cons c cs ih =>
      intro piece
      simp only [List.mem_cons, not_or] at hfield
      rw [List.cons_append, terminatedFields, if_neg (Ne.symm hfield.1), ih hfield.2]
      simp

/-- A digit is no delimiter, so a printed number is one field. -/
theorem not_mem_toString (delimiter : Char) (n : Int) (hdigit : delimiter.isDigit = false)
    (hminus : delimiter ≠ '-') : delimiter ∉ (toString n).toList := by
  have hplain (m : Nat) : delimiter ∉ m.repr.toList := by
    rw [Nat.toList_repr]
    intro hmem
    have := Nat.isDigit_of_mem_toDigits (by decide) (by decide) hmem
    simp [hdigit] at this
  rw [Int.toString_eq_repr, Int.repr_eq_if]
  split
  · exact hplain _
  · rw [String.toList_append, List.mem_append, not_or]
    exact ⟨by simpa using hminus, hplain _⟩

/-- The C string at the front of a buffer and what follows its NUL; a buffer
without a NUL is read past its end. -/
def cString : List Char → Option (List Char × List Char)
  | [] => none
  | c :: rest =>
      if c = '\x00' then some ([], rest)
      else (cString rest).map fun (text, after) => (c :: text, after)

theorem cString_append (text rest : List Char) (htext : '\x00' ∉ text) :
    cString (text ++ '\x00' :: rest) = some (text, rest) := by
  induction text with
  | nil => simp [cString]
  | cons c cs ih =>
      simp only [List.mem_cons, not_or] at htext
      rw [List.cons_append, cString, if_neg (Ne.symm htext.1), ih htext.2]
      rfl

/-- A buffer that holds a NUL has a C string at its front. -/
theorem cString_isSome (buffer : List Char) (h : '\x00' ∈ buffer) :
    ∃ text rest, cString buffer = some (text, rest) ∧
      (∃ front, buffer = front ++ rest) ∧ buffer.count '\x00' = rest.count '\x00' + 1 := by
  induction buffer with
  | nil => simp at h
  | cons c cs ih =>
      by_cases hc : c = '\x00'
      · subst hc
        exact ⟨[], cs, by simp [cString], ⟨['\x00'], rfl⟩, by simp⟩
      · obtain ⟨text, rest, hrest, ⟨front, hfront⟩, hcount⟩ :=
          ih (by simpa [Ne.symm hc] using h)
        refine ⟨c :: text, rest, by simp [cString, hc, hrest], ⟨c :: front, by simp [hfront]⟩, ?_⟩
        rw [List.count_cons_of_ne hc, hcount]

/-- The text of a C string and what follows it, read off the buffer. -/
theorem cString_eq_some {buffer text rest : List Char} :
    cString buffer = some (text, rest) ↔ '\x00' ∉ text ∧ buffer = text ++ '\x00' :: rest := by
  constructor
  · intro h
    induction buffer generalizing text with
    | nil => simp [cString] at h
    | cons c cs ih =>
        rw [cString] at h
        split at h
        · rename_i hc
          simp only [Option.some.injEq, Prod.mk.injEq] at h
          obtain ⟨rfl, rfl⟩ := h
          exact ⟨by simp, by rw [hc]; rfl⟩
        · rename_i hc
          obtain ⟨⟨front, after⟩, hfront, hpair⟩ := Option.map_eq_some_iff.mp h
          simp only [Prod.mk.injEq] at hpair
          obtain ⟨rfl, rfl⟩ := hpair
          obtain ⟨hfree, hsplit⟩ := ih hfront
          exact ⟨by simp [hfree, Ne.symm hc], by rw [hsplit]; rfl⟩
  · rintro ⟨hfree, rfl⟩
    exact cString_append text rest hfree

theorem cString_eq_none {buffer : List Char} : cString buffer = none ↔ '\x00' ∉ buffer := by
  constructor
  · intro h hmem
    obtain ⟨text, rest, hsome, -⟩ := cString_isSome buffer hmem
    simp [h] at hsome
  · intro h
    cases hread : cString buffer with
    | none => rfl
    | some pair =>
        obtain ⟨-, hsplit⟩ := cString_eq_some.mp hread
        rw [hsplit] at h
        simp at h

section Memory

/-- The memory that a pointer to a buffer shows: the buffer, and behind it
whatever happens to be there. -/
def memoryAt (buffer : List Char) (beyond : Nat → Char) (offset : Nat) : Char :=
  buffer.getD offset (beyond offset)

/-- The C string that begins at `start` has `length` characters. -/
def StringAt (memory : Nat → Char) (start length : Nat) : Prop :=
  memory (start + length) = '\x00' ∧ ∀ i < length, memory (start + i) ≠ '\x00'

/-- Reading the C string that begins at `start` reads `offset`: no NUL stands
before it. -/
def Scans (memory : Nat → Char) (start offset : Nat) : Prop :=
  start ≤ offset ∧ ∀ i, start ≤ i → i < offset → memory i ≠ '\x00'

variable {memory : Nat → Char} {start offset : Nat}

theorem Scans.le {length : Nat} (h : Scans memory start offset)
    (hstring : StringAt memory start length) : offset ≤ start + length := by
  by_contra hlt
  apply h.2 (start + length)
  · omega
  · omega
  · exact hstring.1

theorem StringAt.unique {length length' : Nat} (h : StringAt memory start length)
    (h' : StringAt memory start length') : length = length' := by
  rcases Nat.lt_trichotomy length length' with hlt | heq | hlt
  · exact absurd h.1 (h'.2 length hlt)
  · exact heq
  · exact absurd h'.1 (h.2 length' hlt)

theorem memoryAt_append_left (front rest : List Char) (beyond : Nat → Char) {offset : Nat}
    (h : offset < front.length) :
    memoryAt (front ++ rest) beyond offset = front[offset] := by
  simp [memoryAt, List.getD_eq_getElem?_getD, List.getElem?_append_left h,
    List.getElem?_eq_getElem h]

theorem memoryAt_append_right (front rest : List Char) (beyond : Nat → Char) (i : Nat) :
    memoryAt (front ++ rest) beyond (front.length + i) =
      memoryAt rest (fun offset => beyond (front.length + offset)) i := by
  simp [memoryAt, List.getD_eq_getElem?_getD, List.getElem?_append_right]

/-- A text and its NUL behind `front` are the C string that begins there. -/
theorem stringAt_append (front text rest : List Char) (beyond : Nat → Char)
    (htext : '\x00' ∉ text) :
    StringAt (memoryAt (front ++ (text ++ '\x00' :: rest)) beyond) front.length text.length := by
  constructor
  · rw [memoryAt_append_right]
    have hnul := memoryAt_append_right text ('\x00' :: rest)
      (fun offset => beyond (front.length + offset)) 0
    rw [Nat.add_zero] at hnul
    rw [hnul]
    rfl
  · intro i hi
    rw [memoryAt_append_right, memoryAt_append_left text _ _ hi]
    intro hnul
    apply htext
    rw [← hnul]
    exact List.getElem_mem hi

/-- Without a NUL left, the reader arrives at the end of the buffer. -/
theorem scans_end (front rest : List Char) (beyond : Nat → Char) (hrest : '\x00' ∉ rest) :
    Scans (memoryAt (front ++ rest) beyond) front.length (front ++ rest).length := by
  constructor
  · simp
  · intro i hstart hend
    obtain ⟨k, rfl⟩ := Nat.exists_eq_add_of_le hstart
    have hk : k < rest.length := by
      rw [List.length_append] at hend
      omega
    rw [memoryAt_append_right]
    have hread := memoryAt_append_left rest [] (fun offset => beyond (front.length + offset)) hk
    rw [List.append_nil] at hread
    rw [hread]
    intro hnul
    apply hrest
    rw [← hnul]
    exact List.getElem_mem hk

end Memory

end Library.Text
