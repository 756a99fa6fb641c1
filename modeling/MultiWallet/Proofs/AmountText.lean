import Mathlib.Algebra.Order.Field.Rat
import Mathlib.Tactic.FieldSimp
import MultiWallet.Amount
import MultiWallet.Proofs.InstantText
import MultiWallet.Proofs.ReadBack

/-!
The text of an amount keeps every digit. Read as a decimal, it gives back the base units, so that no
two amounts of a currency are written alike; and the arithmetic behind it stays within words of 128
bits. Only the power of ten may take more than that, which is noticed, and then there is no point.
-/

namespace MultiWallet

/-! ### Decimals -/

namespace Decimal

/-- Whether there are digits, and nothing else. -/
def isDigits (chars : List Char) : Bool := !chars.isEmpty && chars.all Char.isDigit

/-- What digits stand for. -/
def valueOf (digits : List Char) : Nat := Nat.ofDigitChars 10 digits 0

/-- The number that a text writes, with a point among its digits or without. -/
def read? (text : String) : Option ℚ :=
  match text.toList.splitOn '.' with
  | [whole] => if isDigits whole then some (valueOf whole) else none
  | [whole, places] =>
    if isDigits whole && isDigits places then
      some (valueOf whole + valueOf places / 10 ^ places.length)
    else none
  | _ => none

/-- A whole number without superfluous zeros: the first of several digits is none. -/
structure IsNumeral (text : String) : Prop where
  digits : isDigits text.toList
  leading : text.toList.head? = some '0' → text = "0"

theorem isDigits_iff {chars : List Char} :
    isDigits chars ↔ chars ≠ [] ∧ ∀ c ∈ chars, c.isDigit := by
  simp [isDigits]

theorem point_not_mem {digits : List Char} (number : isDigits digits) : '.' ∉ digits :=
  fun mem => absurd ((isDigits_iff.1 number).2 _ mem) (by decide)

theorem read?_whole {text : String} (number : isDigits text.toList) :
    read? text = some (valueOf text.toList : ℚ) := by
  rw [read?, List.splitOn_eq_singleton (point_not_mem number)]
  exact if_pos number

theorem read?_pointed {whole places : String} (number : isDigits whole.toList)
    (more : isDigits places.toList) : read? (whole ++ "." ++ places) =
      some (valueOf whole.toList + valueOf places.toList / 10 ^ places.toList.length : ℚ) := by
  have chars : (whole ++ "." ++ places).toList = whole.toList ++ '.' :: places.toList := by
    simp
  rw [read?, chars, List.splitOn_append_cons_self_of_not_mem (point_not_mem number),
    List.splitOn_eq_singleton (point_not_mem more)]
  simp only [number, more, Bool.and_self, if_true]

theorem toList_toString (n : Nat) : (toString n).toList = Nat.toDigits 10 n := by
  rw [Nat.toString_eq_ofList_toDigits, String.toList_ofList]

theorem isDigits_toString (n : Nat) : isDigits (toString n).toList := by
  rw [toList_toString]
  exact isDigits_iff.2 ⟨Nat.toDigits_ne_nil, fun _ mem => Json.isDigit_of_mem_toDigits mem⟩

theorem valueOf_toString (n : Nat) : valueOf (toString n).toList = n := by
  rw [toList_toString, valueOf, Nat.ofDigitChars_ten_toDigits]

theorem isDigits_padded (width n : Nat) : isDigits (Text.padded width n).toList :=
  isDigits_iff.2 ⟨Text.padded_ne_nil width n, fun _ => Text.isDigit_of_mem_padded⟩

theorem isNumeral_toString (n : Nat) : IsNumeral (toString n) where
  digits := isDigits_toString n
  leading zero := by
    rw [toList_toString] at zero
    rcases Nat.eq_zero_or_pos n with rfl | pos
    · rfl
    · exact absurd zero (Json.head?_toDigits pos)

end Decimal

namespace Amount

open Decimal

/-! ### Words -/

/-- A number of 128 bits. -/
abbrev Word := BitVec 128

namespace Word

/-- A product, if it is a word. -/
def times? (left right : Word) : Option Word :=
  if left.umulOverflow right then none else some (left * right)

/-- A power by repeated products, if all of them are words. -/
def power? (base : Word) : Nat → Option Word
  | 0 => some 1
  | exponent + 1 => (power? base exponent).bind (·.times? base)

/-- A quotient and what remains, unless the divisor is zero. -/
def divide? (dividend divisor : Word) : Option (Word × Word) :=
  if divisor = 0 then none else some (dividend / divisor, dividend % divisor)

/-- The text of an amount by arithmetic on words. There is none if a step has no result, except for
the power of ten, without which the base units are written. -/
def decimalText? (units : Word) (places : UInt8) : Option String :=
  if places = 0 then some (toString units.toNat)
  else match power? 10 places.toNat with
    | none => some (toString units.toNat)
    | some scale => (units.divide? scale).map fun (whole, rest) =>
      toString whole.toNat ++ "." ++ Text.padded places.toNat rest.toNat

theorem times?_eq_some_iff {left right product : Word} :
    left.times? right = some product ↔ product.toNat = left.toNat * right.toNat := by
  rw [times?]
  split
  · rename_i overflows
    have large : 2 ^ 128 ≤ left.toNat * right.toNat := by
      simpa [BitVec.umulOverflow] using overflows
    have small := product.isLt
    exact iff_of_false nofun (by omega)
  · rename_i fits
    rw [Option.some_inj, BitVec.toNat_eq, BitVec.toNat_mul_of_not_umulOverflow fits, eq_comm]

/-- The power is the true one, and there is one as long as that is a word. -/
theorem power?_eq_some_iff {base : Word} (pos : 0 < base.toNat) {exponent : Nat} {power : Word} :
    power? base exponent = some power ↔ power.toNat = base.toNat ^ exponent := by
  induction exponent generalizing power with
  | zero =>
      rw [power?, Option.some_inj, BitVec.toNat_eq, eq_comm]
      rfl
  | succ exponent ih =>
      simp only [power?, Option.bind_eq_some_iff, ih, times?_eq_some_iff, Nat.pow_succ]
      constructor
      · rintro ⟨previous, isPower, isProduct⟩
        rw [isProduct, isPower]
      · intro isPower
        have below : base.toNat ^ exponent < 2 ^ 128 :=
          Nat.lt_of_le_of_lt (Nat.le_mul_of_pos_right _ pos) (isPower ▸ power.isLt)
        exact ⟨BitVec.ofNatLT _ below, BitVec.toNat_ofNatLT .., isPower⟩

theorem power?_eq_none_iff {base : Word} (pos : 0 < base.toNat) {exponent : Nat} :
    power? base exponent = none ↔ 2 ^ 128 ≤ base.toNat ^ exponent := by
  constructor
  · intro none
    by_contra large
    have fits := Nat.not_le.1 large
    rw [(power?_eq_some_iff pos).2 (BitVec.toNat_ofNatLT _ fits)] at none
    cases none
  · intro large
    cases found : power? base exponent with
    | none => rfl
    | some power =>
        have isPower := (power?_eq_some_iff pos).1 found
        exact absurd power.isLt (Nat.not_lt.2 (isPower ▸ large))

theorem divide?_eq {dividend divisor : Word} (pos : 0 < divisor.toNat) :
    dividend.divide? divisor = some (dividend / divisor, dividend % divisor) :=
  if_neg fun zero => by simp [zero] at pos

end Word

/-! ### The text of an amount -/

/-- Whether the amounts of a currency are written with a point: it has places, and their power of
ten is a word. -/
def HasPoint (places : UInt8) : Prop := places ≠ 0 ∧ 10 ^ places.toNat < 2 ^ 128

instance (places : UInt8) : Decidable (HasPoint places) := inferInstanceAs (Decidable (_ ∧ _))

/-- How many places are written. -/
def shownPlaces (places : UInt8) : Nat := if HasPoint places then places.toNat else 0

theorem pow_lt_iff {places : UInt8} : 10 ^ places.toNat < 2 ^ 128 ↔ places ≤ 38 := by
  rw [UInt8.le_iff_toNat_le]
  change _ ↔ places.toNat ≤ 38
  constructor
  · intro fits
    by_contra more
    have large : 10 ^ 39 ≤ 10 ^ places.toNat := Nat.pow_le_pow_right (by omega) (by omega)
    omega
  · intro few
    have small : 10 ^ places.toNat ≤ 10 ^ 38 := Nat.pow_le_pow_right (by omega) few
    omega

theorem hasPoint_iff {places : UInt8} : HasPoint places ↔ 1 ≤ places ∧ places ≤ 38 := by
  have some : places ≠ 0 ↔ 1 ≤ places := by
    rw [UInt8.le_iff_toNat_le, ne_eq, ← UInt8.toNat_inj]
    exact Nat.pos_iff_ne_zero.symm
  rw [HasPoint, some, pow_lt_iff]

section

variable (units : Nat) {places : UInt8}

theorem decimalText_of_hasPoint (h : HasPoint places) :
    decimalText units places = toString (units / 10 ^ places.toNat) ++ "." ++
      Text.padded places.toNat (units % 10 ^ places.toNat) := by
  have scaled : ¬(places = 0 ∨ largest < Nat.pow 10 places.toNat) :=
    not_or.2 ⟨h.1, Nat.not_lt.2 (Nat.le_of_lt_succ h.2)⟩
  rw [decimalText]
  exact if_neg scaled

theorem decimalText_of_not_hasPoint (h : ¬HasPoint places) :
    decimalText units places = toString units := by
  have unscaled : places = 0 ∨ largest < Nat.pow 10 places.toNat :=
    (not_and_or.1 h).imp not_not.1 fun large => Nat.lt_of_succ_le (Nat.not_lt.1 large)
  rw [decimalText]
  exact if_pos unscaled

theorem length_rest (h : HasPoint places) :
    (Text.padded places.toNat (units % 10 ^ places.toNat)).toList.length = places.toNat :=
  Text.length_padded (Nat.pos_of_ne_zero fun zero => h.1 (UInt8.toNat_inj.1 zero))
    (Nat.mod_lt _ (Nat.pow_pos (by omega)))

/-- Read as a decimal, the text is the amount in whole units of the currency. -/
theorem read?_decimalText (places : UInt8) :
    read? (decimalText units places) = some (units / 10 ^ shownPlaces places : ℚ) := by
  rw [shownPlaces]
  split
  · rename_i pointed
    have parts : (units : ℚ) = 10 ^ places.toNat * (units / 10 ^ places.toNat : Nat) +
        (units % 10 ^ places.toNat : Nat) := by
      exact_mod_cast (Nat.div_add_mod units (10 ^ places.toNat)).symm
    rw [decimalText_of_hasPoint units pointed,
      read?_pointed (isDigits_toString _) (isDigits_padded _ _), length_rest units pointed,
      valueOf_toString, valueOf, Text.ofDigitChars_padded, parts]
    field_simp
  · rename_i plain
    rw [decimalText_of_not_hasPoint units plain, read?_whole (isDigits_toString units),
      valueOf_toString, pow_zero, div_one]

end

theorem decimalText_injective (places : UInt8) :
    Function.Injective fun units => decimalText units places := by
  intro units others same
  have read := congrArg read? same
  dsimp only at read
  rw [read?_decimalText, read?_decimalText, Option.some_inj] at read
  have scale : (10 : ℚ) ^ shownPlaces places ≠ 0 := pow_ne_zero _ (by norm_num)
  exact_mod_cast (div_left_inj' scale).1 read

/-- Words are enough for the arithmetic: each of its steps has a result, and it is the true one. -/
theorem Word.decimalText?_eq (units : Word) (places : UInt8) :
    units.decimalText? places = some (decimalText units.toNat places) := by
  rw [Word.decimalText?]
  split
  · rename_i none
    rw [decimalText_of_not_hasPoint units.toNat fun h => h.1 none]
  · rename_i pos
    have ten : 0 < (10 : Word).toNat := by decide
    cases scaled : power? 10 places.toNat with
    | none =>
        have large : 2 ^ 128 ≤ 10 ^ places.toNat := (power?_eq_none_iff ten).1 scaled
        rw [decimalText_of_not_hasPoint units.toNat fun h => Nat.not_lt.2 large h.2]
    | some scale =>
        have isPower : scale.toNat = 10 ^ places.toNat := (power?_eq_some_iff ten).1 scaled
        have pointed : HasPoint places := ⟨pos, isPower ▸ scale.isLt⟩
        dsimp only
        rw [decimalText_of_hasPoint units.toNat pointed, ← isPower,
          divide?_eq (isPower ▸ Nat.pow_pos (by omega))]
        rfl

/-- The text of an amount of a currency with so many places. The arithmetic of words gives just this
text, none of its steps being without a result. With one place or more, and as long as their power
of ten is a word, there are a numeral, a point and as many digits as places, and to read them and
scale them up gives back the base units; with no place or too many, there are the base units. So no
two amounts have one text. -/
theorem amounts_keep_every_digit (places : UInt8) :
    (∀ units : Word, units.decimalText? places = some (decimalText units.toNat places)) ∧
      (10 ^ places.toNat < 2 ^ 128 ↔ places ≤ 38) ∧
      (∀ units : Nat,
        let text := decimalText units places
        if 1 ≤ places ∧ places ≤ 38 then
          (∃ whole fraction : String, text = whole ++ "." ++ fraction ∧ IsNumeral whole ∧
            fraction.length = places.toNat ∧ ∀ c ∈ fraction.toList, c.isDigit) ∧
          (read? text).map (· * 10 ^ places.toNat) = some (units : ℚ)
        else text = toString units) ∧
      Function.Injective fun units : Nat => decimalText units places := by
  refine ⟨fun units => units.decimalText?_eq places, pow_lt_iff, fun units => ?_,
    decimalText_injective places⟩
  dsimp only
  split
  · rename_i few
    have pointed := hasPoint_iff.2 few
    constructor
    · refine ⟨_, _, decimalText_of_hasPoint units pointed, isNumeral_toString _, ?_, ?_⟩
      · exact length_rest units pointed
      · exact fun _ => Text.isDigit_of_mem_padded
    · rw [read?_decimalText, shownPlaces, if_pos pointed, Option.map_some]
      field_simp
  · rename_i unscaled
    exact decimalText_of_not_hasPoint units (unscaled ∘ hasPoint_iff.1)

end Amount

end MultiWallet
