import Mathlib.Algebra.Group.Nat.Defs
import Mathlib.Data.List.Basic
import MultiWallet.Time.Rfc3339

/-!
The text of an instant is read back as that instant. Each reader takes the piece that
was written for it and leaves the rest; what comes next matters only where a piece may
be of any length, which are the years with a sign and the fractions of a second.
-/

namespace MultiWallet

namespace Text

/-! ### Numbers of a fixed width -/

theorem toList_padded (width n : Nat) : (padded width n).toList =
    List.replicate (width - (Nat.toDigits 10 n).length) '0' ++ Nat.toDigits 10 n :=
  String.toList_ofList

theorem isDigit_of_mem_padded {width n : Nat} {c : Char} (mem : c ∈ (padded width n).toList) :
    c.isDigit := by
  rw [toList_padded] at mem
  rcases List.mem_append.1 mem with zero | digit
  · rw [List.eq_of_mem_replicate zero]
    rfl
  · exact Nat.isDigit_of_mem_toDigits (by omega) (by omega) digit

theorem length_padded {width n : Nat} (pos : 0 < width) (fits : n < 10 ^ width) :
    (padded width n).toList.length = width := by
  have short : (Nat.toDigits 10 n).length ≤ width :=
    (Nat.length_toDigits_le_iff (by omega) pos).2 fits
  rw [toList_padded, List.length_append, List.length_replicate]
  omega

theorem padded_ne_nil (width n : Nat) : (padded width n).toList ≠ [] := by
  rw [toList_padded]
  exact List.append_ne_nil_of_right_ne_nil _ Nat.toDigits_ne_nil

/-- Leading zeros add nothing to a number. -/
theorem ofDigitChars_padded (width n : Nat) :
    Nat.ofDigitChars 10 (padded width n).toList 0 = n := by
  rw [toList_padded, Nat.ofDigitChars_append, Nat.ofDigitChars_replicate_zero, Nat.mul_zero,
    Nat.ofDigitChars_ten_toDigits]

theorem isBlank_of_isDigit {c : Char} (digit : c.isDigit) : isBlank c = false := by
  simp only [Char.isDigit, ge_iff_le, Bool.and_eq_true, decide_eq_true_eq,
    UInt32.le_iff_toNat_le] at digit
  have code : 48 ≤ c.toNat ∧ c.toNat ≤ 57 := digit
  simp only [isBlank, Ranges.contains, whiteSpace, List.any_cons, List.any_nil, Bool.or_false,
    Bool.or_eq_false_iff, Bool.and_eq_false_iff, decide_eq_false_iff_not]
  omega

theorem dropBlanks_cons {c : Char} (solid : isBlank c = false) (rest : List Char) :
    dropBlanks (c :: rest) = c :: rest :=
  List.dropWhile_cons_of_neg (by simp [solid])

end Text

namespace Time

/-! ### Single readers -/

/-- Digits are read as a number if no more can be taken or what follows is no digit. -/
theorem number?_append {most : Nat} {digits rest : List Char} (nonempty : digits ≠ [])
    (all : ∀ c ∈ digits, c.isDigit) (fits : digits.length ≤ most)
    (ends : ∀ c ∈ (rest.take (most - digits.length)).head?, c.isDigit = false) :
    number? most (digits ++ rest) = some (Nat.ofDigitChars 10 digits 0, rest) := by
  have solid : Text.dropBlanks (digits ++ rest) = digits ++ rest := by
    cases digits with
    | nil => exact absurd rfl nonempty
    | cons c digits =>
        exact Text.dropBlanks_cons (Text.isBlank_of_isDigit (all c List.mem_cons_self)) _
  have stops : (rest.take (most - digits.length)).takeWhile Char.isDigit = [] := by
    cases taken : rest.take (most - digits.length) with
    | nil => rfl
    | cons c more =>
        rw [taken] at ends
        exact List.takeWhile_cons_of_neg (by simp [ends c rfl])
  have read : ((digits ++ rest).take most).takeWhile Char.isDigit = digits := by
    rw [List.take_append, List.take_of_length_le fits, List.takeWhile_append_of_pos all, stops,
      List.append_nil]
  rw [number?, solid, read]
  cases digits with
  | nil => exact absurd rfl nonempty
  | cons c digits => simp

/-- A number of a fixed width is read back whatever follows. -/
theorem number?_padded {width n : Nat} (pos : 0 < width) (fits : n < 10 ^ width)
    (rest : List Char) : number? width ((Text.padded width n).toList ++ rest) = some (n, rest) := by
  have length := Text.length_padded pos fits
  rw [number?_append (Text.padded_ne_nil width n) (fun _ => Text.isDigit_of_mem_padded)
    (Nat.le_of_eq length) (by rw [length, Nat.sub_self, List.take_zero]; nofun),
    Text.ofDigitChars_padded]

theorem mark?_cons {c : Char} (solid : Text.isBlank c = false) (rest : List Char) :
    mark? c (c :: rest) = some rest := by
  rw [mark?, Text.dropBlanks_cons solid]
  exact if_pos rfl

theorem separator?_T (rest : List Char) : separator? ('T' :: rest) = some rest := rfl

theorem offset?_Z : offset? (Text.dropBlanks ['Z']) = some (0, []) := rfl

/-- The digits behind a sign are read up to a hyphen. -/
theorem number?_signed (width n : Nat) (rest : List Char) :
    number? ((Text.padded width n).toList ++ '-' :: rest).length
      ((Text.padded width n).toList ++ '-' :: rest) = some (n, '-' :: rest) := by
  have ends : ∀ c ∈ (('-' :: rest).take (((Text.padded width n).toList ++ '-' :: rest).length -
      (Text.padded width n).toList.length)).head?, c.isDigit = false := by
    rw [List.length_append, Nat.add_sub_cancel_left, List.take_length]
    rintro _ ⟨⟩
    rfl
  rw [number?_append (Text.padded_ne_nil width n) (fun _ => Text.isDigit_of_mem_padded)
    (by simp) ends, Text.ofDigitChars_padded]

theorem exists_padded (width n : Nat) : ∃ c rest, (Text.padded width n).toList = c :: rest ∧
    c.isDigit := by
  cases written : (Text.padded width n).toList with
  | nil => exact absurd written (Text.padded_ne_nil width n)
  | cons c rest =>
      exact ⟨c, rest, rfl, Text.isDigit_of_mem_padded (written ▸ List.mem_cons_self)⟩

/-- A year is read back in front of a hyphen, with its sign if it has one. -/
theorem year?_yearText (year : Int) (rest : List Char) :
    year? ((yearText year).toList ++ '-' :: rest) = some (year, '-' :: rest) := by
  rw [yearText]
  split
  · rename_i range
    obtain ⟨c, more, written, digit⟩ := exists_padded 4 year.toNat
    have read := number?_padded (by omega) (by omega : year.toNat < 10 ^ 4) ('-' :: rest)
    have unsigned : c ≠ '-' ∧ c ≠ '+' := by
      constructor <;> rintro rfl <;> exact absurd digit (by decide)
    rw [written, List.cons_append] at read ⊢
    rw [year?, Text.dropBlanks_cons (Text.isBlank_of_isDigit digit)]
    split
    · rename_i same
      exact absurd (List.cons.inj same).1 unsigned.1
    · rename_i same
      exact absurd (List.cons.inj same).1 unsigned.2
    · rw [read, Option.map_some]
      dsimp only
      rw [Int.toNat_of_nonneg range.1]
  · rename_i range
    have signed := number?_signed 4 year.natAbs rest
    obtain ⟨c, more, written, digit⟩ := exists_padded 4 year.natAbs
    rw [String.toList_append, List.append_assoc]
    rw [written, List.cons_append] at signed ⊢
    split
    · rename_i negative
      change year? ('-' :: c :: (more ++ '-' :: rest)) = _
      rw [year?, Text.dropBlanks_cons rfl]
      change (if c.isDigit = true then _ else none) = _
      rw [if_pos digit, signed, Option.map_some]
      simp only [Option.some.injEq, Prod.mk.injEq, and_true]
      omega
    · rename_i positive
      change year? ('+' :: c :: (more ++ '-' :: rest)) = _
      rw [year?, Text.dropBlanks_cons rfl]
      change (if c.isDigit = true then _ else none) = _
      rw [if_pos digit, signed, Option.map_some]
      simp only [Option.some.injEq, Prod.mk.injEq, and_true]
      omega

/-- As many places as a fraction is written with give it back. -/
theorem fraction?_places {places value : Nat} (pos : 0 < places) (most : places ≤ 9)
    (fits : value < 10 ^ places) (rest : List Char)
    (ends : ∀ c ∈ rest.head?, c.isDigit = false) :
    fraction? ('.' :: ((Text.padded places value).toList ++ rest)) =
      some (value * 10 ^ (9 - places), rest) := by
  have length := Text.length_padded pos fits
  have stops : rest.takeWhile Char.isDigit = [] ∧ rest.dropWhile Char.isDigit = rest := by
    cases rest with
    | nil => exact ⟨rfl, rfl⟩
    | cons c more =>
        exact ⟨List.takeWhile_cons_of_neg (by simp [ends c rfl]),
          List.dropWhile_cons_of_neg (by simp [ends c rfl])⟩
  have all : ∀ c ∈ (Text.padded places value).toList, c.isDigit :=
    fun _ => Text.isDigit_of_mem_padded
  rw [fraction?, List.takeWhile_append_of_pos all, List.dropWhile_append_of_pos all, stops.1,
    stops.2, List.append_nil]
  split
  · rename_i none
    exact absurd none (Text.padded_ne_nil places value)
  · rw [List.take_of_length_le (by omega)]
    dsimp only
    rw [Text.ofDigitChars_padded, length]
    rfl

/-- A fraction is read back, if what follows it is no digit and no point. -/
theorem fraction?_fractionText {nano : Nat} (fits : nano < 1000000000) (rest : List Char) :
    fraction? ((fractionText nano).toList ++ 'Z' :: rest) = some (nano, 'Z' :: rest) := by
  have ends : ∀ c ∈ ('Z' :: rest).head?, c.isDigit = false := by
    rintro _ ⟨⟩
    rfl
  rw [fractionText]
  split
  · rename_i none
    rw [none]
    rfl
  have places (count value : Nat) (pos : 0 < count) (most : count ≤ 9) (small : value < 10 ^ count)
      (whole : value * 10 ^ (9 - count) = nano) :
      fraction? (("." ++ Text.padded count value).toList ++ 'Z' :: rest) =
        some (nano, 'Z' :: rest) := by
    have pointed : ("." ++ Text.padded count value).toList =
        '.' :: (Text.padded count value).toList := by
      simp
    rw [pointed, ← whole]
    exact fraction?_places pos most small _ ends
  split
  · exact places 3 _ (by omega) (by omega) (by omega) (by omega)
  split
  · exact places 6 _ (by omega) (by omega) (by omega) (by omega)
  · exact places 9 nano (by omega) (by omega) (by omega) (by omega)

end Time

namespace Instant

theorem earlierBy?_zero (t : Instant) : t.earlierBy? 0 = some t := by
  obtain ⟨-, -, -, hour, minute, -, -⟩ := t.valid
  have sameHour : (((t.hour : Int) * 60 + t.minute - 0) % 1440 / 60).toNat = t.hour := by omega
  have sameMinute : (((t.hour : Int) * 60 + t.minute - 0) % 60).toNat = t.minute := by omega
  have sameDay : ((t.hour : Int) * 60 + t.minute - 0) / 1440 = 0 := by omega
  rw [earlierBy?]
  simp only [sameHour, sameMinute, sameDay, if_true]
  exact ofFields?_self t

/-- The text of an instant is read back as that instant. -/
theorem ofText?_text (t : Instant) : ofText? t.text = some t := by
  obtain ⟨-, ⟨-, month⟩, ⟨-, day⟩, hour, minute, second, nano⟩ := t.valid
  have days : t.day < 100 := by
    refine Nat.lt_of_le_of_lt day ?_
    rw [Time.daysInMonth]
    split_ifs <;> omega
  have written : t.text.toList = (Time.yearText t.year).toList ++ '-' ::
      ((Text.padded 2 t.month).toList ++ '-' :: ((Text.padded 2 t.day).toList ++ 'T' ::
        ((Text.padded 2 t.hour).toList ++ ':' :: ((Text.padded 2 t.minute).toList ++ ':' ::
          ((Text.padded 2 t.second).toList ++
            ((Time.fractionText t.nano).toList ++ ['Z'])))))) := by
    simp [text]
  have two {n : Nat} (small : n < 100) (rest : List Char) :
      Time.number? 2 ((Text.padded 2 n).toList ++ rest) = some (n, rest) :=
    Time.number?_padded (by omega) (by omega) rest
  have hyphen (rest : List Char) : Time.mark? '-' ('-' :: rest) = some rest :=
    Time.mark?_cons rfl rest
  have colon (rest : List Char) : Time.mark? ':' (':' :: rest) = some rest :=
    Time.mark?_cons rfl rest
  -- One reader after the other: to simplify below the binders of all later ones takes long.
  rw [ofText?, written]
  refine Option.bind_eq_some_iff.2 ⟨_, Time.year?_yearText _ _, ?_⟩
  refine Option.bind_eq_some_iff.2 ⟨_, hyphen _, ?_⟩
  refine Option.bind_eq_some_iff.2 ⟨_, two (by omega) _, ?_⟩
  refine Option.bind_eq_some_iff.2 ⟨_, hyphen _, ?_⟩
  refine Option.bind_eq_some_iff.2 ⟨_, two days _, ?_⟩
  refine Option.bind_eq_some_iff.2 ⟨_, Time.separator?_T _, ?_⟩
  refine Option.bind_eq_some_iff.2 ⟨_, two (by omega) _, ?_⟩
  refine Option.bind_eq_some_iff.2 ⟨_, colon _, ?_⟩
  refine Option.bind_eq_some_iff.2 ⟨_, two (by omega) _, ?_⟩
  refine Option.bind_eq_some_iff.2 ⟨_, colon _, ?_⟩
  refine Option.bind_eq_some_iff.2 ⟨_, two (by omega) _, ?_⟩
  refine Option.bind_eq_some_iff.2 ⟨_, Time.fraction?_fractionText nano _, ?_⟩
  refine Option.bind_eq_some_iff.2 ⟨_, Time.offset?_Z, ?_⟩
  refine Option.bind_eq_some_iff.2 ⟨(), rfl, ?_⟩
  exact Option.bind_eq_some_iff.2 ⟨t, ofFields?_self t, t.earlierBy?_zero⟩

end Instant

end MultiWallet
