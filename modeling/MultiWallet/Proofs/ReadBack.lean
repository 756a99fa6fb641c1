import Mathlib.Data.List.Basic
import Mathlib.Tactic.IntervalCases
import MultiWallet.Asset.Index
import MultiWallet.Connection.Settings

/-!
Written JSON is read back, in any layout that puts nothing but blanks between
tokens. The reader is given as much fuel as the written text is long, so that the
induction is on the fuel; what stands behind a value matters only after a number,
which must not go on there.
-/

namespace MultiWallet

namespace Text

theorem utf8_ofList (chars : List Char) :
    utf8 (String.ofList chars) = chars.flatMap String.utf8EncodeChar := by
  rw [utf8, String.toUTF8, String.toByteArray_ofList, List.utf8Encode]
  simp

theorem utf8EncodeChar_of_ascii {c : Char} (ascii : c.toNat < 128) :
    String.utf8EncodeChar c = [c.toNat.toUInt8] := by
  have small : c.val.toNat ≤ 127 := Nat.le_of_lt_succ ascii
  rw [String.utf8EncodeChar, if_pos small]
  rfl

end Text

namespace Json

/-! ### String literals -/

/-- The piece that a byte is written as: a control byte without a short escape is
written as a code unit. -/
def pieceOf (byte : UInt8) : Piece :=
  if byte < 0x20 ∧ byte ∉ [0x08, 0x09, 0x0a, 0x0c, 0x0d] then .unit byte.toNat else .byte byte

theorem pieces_byte {b : UInt8} (plain : ¬(b < 0x20 ∨ b = 0x5c)) (other : b ≠ 0x22)
    (rest : Bytes) :
    pieces (b :: rest) = (pieces rest).map fun (more, after) => (.byte b :: more, after) := by
  rw [pieces]
  · rw [if_neg plain]
  · intro rest'
    simp_all
  · simp_all
  · simp_all

theorem pieces_short {letter b : UInt8} (short : shortEscape? letter = some b) (rest : Bytes) :
    pieces (0x5c :: letter :: rest) =
      (pieces rest).map fun (more, after) => (.byte b :: more, after) := by
  have notUnit : letter ≠ 0x75 := by
    rintro rfl
    simp [shortEscape?] at short
  rw [pieces]
  · rw [short]
    cases pieces rest <;> rfl
  · intro a b c d rest'
    simp_all

theorem pieces_unit {a b c d : UInt8} {u : Nat} (unit : codeUnit? a b c d = some u)
    (rest : Bytes) :
    pieces (0x5c :: 0x75 :: a :: b :: c :: d :: rest) =
      (pieces rest).map fun (more, after) => (.unit u :: more, after) := by
  rw [pieces, unit]
  cases pieces rest <;> rfl

theorem escapeOf_control (n : Nat) (control : n < 32)
    (long : n.toUInt8 ∉ [0x08, 0x09, 0x0a, 0x0c, 0x0d]) :
    ∃ a b c d, escapeOf n.toUInt8 = [0x5c, 0x75, a, b, c, d] ∧ codeUnit? a b c d = some n := by
  revert long
  interval_cases n <;> first | exact fun _ => ⟨_, _, _, _, rfl, rfl⟩ | simp

theorem pieces_escapeOf (byte : UInt8) (rest : Bytes) :
    pieces (escapeOf byte ++ rest) =
      (pieces rest).map fun (more, after) => (pieceOf byte :: more, after) := by
  by_cases control : byte < 0x20 ∧ byte ∉ [0x08, 0x09, 0x0a, 0x0c, 0x0d]
  · obtain ⟨a, b, c, d, escaped, unit⟩ :=
      escapeOf_control byte.toNat control.1 (by simpa using control.2)
    have same : byte.toNat.toUInt8 = byte := by simp
    rw [pieceOf, if_pos control, ← same, escaped, same]
    exact pieces_unit unit rest
  · have isByte : pieceOf byte = .byte byte := if_neg control
    rw [isByte]
    by_cases short : byte ∈ [0x22, 0x5c, 0x08, 0x0c, 0x0a, 0x0d, 0x09]
    · simp only [List.mem_cons, List.not_mem_nil, or_false] at short
      rcases short with rfl | rfl | rfl | rfl | rfl | rfl | rfl <;> exact pieces_short rfl rest
    · simp only [List.mem_cons, List.not_mem_nil, or_false, not_or] at short
      obtain ⟨quote, slash, back, form, line, carriage, tab⟩ := short
      have printable : ¬byte < 0x20 := fun below => control ⟨below, by simp [*]⟩
      have plain : escapeOf byte = [byte] := by simp [escapeOf, *]
      rw [plain]
      exact pieces_byte (by simp [*]) quote rest

theorem assemble_unit {u : Nat} (ascii : u < 128) {rest : List Piece} {bytes : Bytes}
    (h : assemble rest = some bytes) :
    assemble (.unit u :: rest) = some (u.toUInt8 :: bytes) := by
  have encoded : String.utf8EncodeChar (Char.ofNat u) = [u.toUInt8] := by
    have valid : u.isValidChar := .inl (by omega)
    have same : (Char.ofNat u).toNat = u := by
      rw [Char.ofNat, dif_pos valid]
      rfl
    rw [Text.utf8EncodeChar_of_ascii (by omega), same]
  have low : ¬(0xd800 ≤ u ∧ u < 0xdc00) := by omega
  have high : ¬(0xdc00 ≤ u ∧ u < 0xe000) := by omega
  have alone : ¬(0xd800 ≤ u ∧ u < 0xe000) := by omega
  match rest with
  | [] | .byte _ :: _ =>
      rw [assemble, if_neg alone, encoded, h]
      · rfl
      · simp
  | .unit _ :: _ =>
      rw [assemble, if_neg low, if_neg high, encoded, h]
      rfl

theorem assemble_map_pieceOf (bytes : Bytes) : assemble (bytes.map pieceOf) = some bytes := by
  induction bytes with
  | nil => rfl
  | cons byte rest ih =>
      rw [List.map_cons, pieceOf]
      split
      · rename_i control
        have below : byte.toNat < 0x20 := control.1
        rw [assemble_unit (by omega) ih]
        simp
      · rw [assemble, ih]
        rfl

/-- A quoted text is read back, and what follows it is left. -/
theorem literal_quoted (text : String) (rest : Bytes) :
    literal ((Text.utf8 text).flatMap escapeOf ++ 0x22 :: rest) = some (some text, rest) := by
  have split (bytes : Bytes) : pieces (bytes.flatMap escapeOf ++ 0x22 :: rest) =
      some (bytes.map pieceOf, rest) := by
    induction bytes with
    | nil => rfl
    | cons byte bytes ih =>
        rw [List.flatMap_cons, List.append_assoc, pieces_escapeOf, ih]
        rfl
  rw [literal, split]
  simp [assemble_map_pieceOf]

/-! ### Numbers -/

/-- Whether a number cannot go on with a byte. -/
abbrev EndsNumber (b : UInt8) : Prop := isDigit b = false ∧ b ≠ 0x2e ∧ b ≠ 0x65 ∧ b ≠ 0x45

/-- What may follow a value: nothing that a number would go on with. -/
def Ends (bytes : Bytes) : Prop := ∀ b ∈ bytes.head?, EndsNumber b

theorem ends_cons {b : UInt8} (ends : EndsNumber b) (rest : Bytes) : Ends (b :: rest) := by
  rintro _ ⟨⟩
  exact ends

theorem isDigit_toUInt8 {c : Char} (h : c.isDigit) :
    isDigit c.toNat.toUInt8 ∧ c.toNat.toUInt8.toNat = c.toNat := by
  simp only [Char.isDigit, ge_iff_le, Bool.and_eq_true, decide_eq_true_eq,
    UInt32.le_iff_toNat_le] at h
  have small : c.toNat < 256 := Nat.lt_of_le_of_lt h.2 (by decide)
  have same : c.toNat.toUInt8.toNat = c.toNat := UInt8.toNat_ofNat_of_lt' small
  refine ⟨?_, same⟩
  rw [isDigit, Bool.and_eq_true, decide_eq_true_eq, decide_eq_true_eq, UInt8.le_iff_toNat_le,
    UInt8.le_iff_toNat_le, same]
  exact h

theorem isDigit_of_mem_toDigits {n : Nat} {c : Char} (mem : c ∈ Nat.toDigits 10 n) : c.isDigit :=
  Nat.isDigit_of_mem_toDigits (by omega) (by omega) mem

theorem utf8_toString (n : Nat) :
    Text.utf8 (toString n) = (Nat.toDigits 10 n).map (·.toNat.toUInt8) := by
  have digits : ∀ c ∈ Nat.toDigits 10 n, String.utf8EncodeChar c = [c.toNat.toUInt8] := by
    intro c mem
    have isDigit := isDigit_of_mem_toDigits mem
    simp only [Char.isDigit, ge_iff_le, Bool.and_eq_true, decide_eq_true_eq,
      UInt32.le_iff_toNat_le] at isDigit
    exact Text.utf8EncodeChar_of_ascii (Nat.lt_of_le_of_lt isDigit.2 (by decide))
  rw [Nat.toString_eq_ofList_toDigits, Text.utf8_ofList, List.flatMap_congr digits,
    List.map_eq_flatMap]

theorem ofDigits_map {chars : List Char} (digits : ∀ c ∈ chars, c.isDigit) :
    ofDigits (chars.map (·.toNat.toUInt8)) = Nat.ofDigitChars 10 chars 0 := by
  rw [ofDigits, Nat.ofDigitChars]
  generalize 0 = start
  induction chars generalizing start with
  | nil => rfl
  | cons c rest ih =>
      rw [List.map_cons, List.foldl_cons, List.foldl_cons,
        (isDigit_toUInt8 (digits c List.mem_cons_self)).2, Nat.mul_comm start]
      exact ih (fun other mem => digits other (List.mem_cons_of_mem c mem)) _

theorem head?_toDigits {n : Nat} (pos : 0 < n) : (Nat.toDigits 10 n).head? ≠ some '0' := by
  induction n using Nat.strongRecOn with
  | ind n ih =>
      by_cases small : n < 10
      · rw [Nat.toDigits_of_lt_base small]
        simp
        omega
      · rw [Nat.toDigits_of_base_le (by omega) (by omega),
          List.head?_append_of_ne_nil _ Nat.toDigits_ne_nil]
        exact ih (n / 10) (by omega) (by omega)

theorem exists_toDigits (n : Nat) :
    ∃ b tail, Text.utf8 (toString n) = b :: tail ∧ isDigit b := by
  rw [utf8_toString]
  cases digits : Nat.toDigits 10 n with
  | nil => exact absurd digits Nat.toDigits_ne_nil
  | cons c tail =>
      have mem : c ∈ Nat.toDigits 10 n := by simp [digits]
      exact ⟨_, _, rfl, (isDigit_toUInt8 (isDigit_of_mem_toDigits mem)).1⟩

/-- Only zero is written with a leading zero. -/
theorem length_of_leading_zero {n : Nat} (zero : (Text.utf8 (toString n)).head? = some 0x30) :
    (Text.utf8 (toString n)).length = 1 := by
  rcases Nat.eq_zero_or_pos n with rfl | pos
  · rfl
  · exfalso
    apply head?_toDigits pos
    rw [utf8_toString, List.head?_map] at zero
    obtain ⟨c, head, same⟩ := Option.map_eq_some_iff.1 zero
    have code := (isDigit_toUInt8 (isDigit_of_mem_toDigits (List.mem_of_mem_head? head))).2
    rw [same] at code
    rw [head, ← Char.ofNat_toNat c, ← code]
    rfl

theorem span_append {digits rest : Bytes} (all : ∀ b ∈ digits, isDigit b) (ends : Ends rest) :
    span (digits ++ rest) = (digits, rest) := by
  have stops : rest.takeWhile isDigit = [] ∧ rest.dropWhile isDigit = rest := by
    cases rest with
    | nil => exact ⟨rfl, rfl⟩
    | cons b rest =>
        have noDigit := (ends b rfl).1
        exact ⟨List.takeWhile_cons_of_neg (by simp [noDigit]),
          List.dropWhile_cons_of_neg (by simp [noDigit])⟩
  rw [span, List.takeWhile_append_of_pos all, List.dropWhile_append_of_pos all, stops.1, stops.2,
    List.append_nil]

theorem fraction_of_ends {rest : Bytes} (ends : Ends rest) : fraction rest = some ([], rest) := by
  rw [fraction]
  rintro after rfl
  exact (ends 0x2e rfl).2.1 rfl

theorem exponent_of_ends {rest : Bytes} (ends : Ends rest) :
    exponent rest = some (none, rest) := by
  cases rest with
  | nil => rfl
  | cons b rest =>
      obtain ⟨-, -, lower, upper⟩ := ends b rfl
      rw [exponent.eq_def]
      dsimp only
      rw [if_neg (not_or.2 ⟨lower, upper⟩)]

/-- A natural number of 64 bits is read back. -/
theorem number_natural {n : Nat} (fits : n < UInt64.size) {rest : Bytes} (ends : Ends rest) :
    number false (Text.utf8 (toString n) ++ rest) = some (.natural n, rest) := by
  obtain ⟨b, tail, written, -⟩ := exists_toDigits n
  have all : ∀ b ∈ Text.utf8 (toString n), isDigit b := by
    rw [utf8_toString]
    intro b mem
    obtain ⟨c, isChar, rfl⟩ := List.mem_map.1 mem
    exact (isDigit_toUInt8 (isDigit_of_mem_toDigits isChar)).1
  have value : ofDigits (Text.utf8 (toString n)) = n := by
    rw [utf8_toString, ofDigits_map fun _ => isDigit_of_mem_toDigits,
      Nat.ofDigitChars_toDigits (by omega) (by omega)]
  have guarded : (guard (Text.utf8 (toString n) ≠ [] ∧
      ((Text.utf8 (toString n)).head? = some 0x30 → (Text.utf8 (toString n)).length = 1)) :
        Option Unit) = some () :=
    if_pos ⟨by rw [written]; nofun, length_of_leading_zero⟩
  rw [number, span_append all ends]
  dsimp only
  rw [guarded]
  change (fraction rest).bind _ = _
  rw [fraction_of_ends ends]
  change (exponent rest).bind _ = _
  rw [exponent_of_ends ends]
  change some (numberOf false (Text.utf8 (toString n)) [] none, rest) = _
  rw [numberOf, value, if_pos ⟨rfl, rfl, fits⟩]

/-! ### Blanks -/

/-- Bytes that are blanks throughout. -/
abbrev Blank (bytes : Bytes) : Prop := ∀ b ∈ bytes, isBlank b

theorem dropBlanks_append {blanks : Bytes} (blank : Blank blanks) (rest : Bytes) :
    dropBlanks (blanks ++ rest) = dropBlanks rest :=
  List.dropWhile_append_of_pos blank

theorem dropBlanks_cons {b : UInt8} (solid : isBlank b = false) (rest : Bytes) :
    dropBlanks (b :: rest) = b :: rest :=
  List.dropWhile_cons_of_neg (by simp [solid])

theorem value_append {blanks : Bytes} (blank : Blank blanks) (fuel : Nat) (rest : Bytes) :
    value fuel (blanks ++ rest) = value fuel rest := by
  cases fuel with
  | zero => rfl
  | succ fuel => rw [value, value, dropBlanks_append blank]

theorem items_append {blanks : Bytes} (blank : Blank blanks) (fuel : Nat) (rest : Bytes) :
    items fuel (blanks ++ rest) = items fuel rest := by
  cases fuel with
  | zero => rfl
  | succ fuel => rw [items, items, value_append blank]

theorem members_append {blanks : Bytes} (blank : Blank blanks) (fuel : Nat) (rest : Bytes) :
    members fuel (blanks ++ rest) = members fuel rest := by
  cases fuel with
  | zero => rfl
  | succ fuel => rw [members, members, dropBlanks_append blank]

theorem endsNumber_of_isBlank {b : UInt8} (blank : isBlank b) : EndsNumber b := by
  simp only [isBlank, Bool.or_eq_true, beq_iff_eq] at blank
  rcases blank with ((rfl | rfl) | rfl) | rfl <;> decide

theorem ends_append {blanks : Bytes} (blank : Blank blanks) {b : UInt8} (ends : EndsNumber b)
    (rest : Bytes) : Ends (blanks ++ b :: rest) := by
  cases blanks with
  | nil => exact ends_cons ends rest
  | cons c blanks => exact ends_cons (endsNumber_of_isBlank (blank c List.mem_cons_self)) _

namespace Layout

/-- A layout with nothing but blanks between tokens. -/
abbrev IsBlank (layout : Layout) : Prop := Blank layout.space

theorem blank_newLine (depth : Nat) : Blank (newLine depth) := by
  intro b mem
  rcases List.mem_cons.1 mem with rfl | mem
  · rfl
  · rw [List.eq_of_mem_replicate mem]
    rfl

theorem IsBlank.between {layout : Layout} (h : layout.IsBlank) (depth : Nat) :
    Blank (layout.between depth) := by
  rw [Layout.between]
  split
  · exact blank_newLine depth
  · exact h

theorem blank_inside (layout : Layout) (depth : Nat) {within : Bytes} (blank : Blank within) :
    Blank (layout.inside depth within).1 ∧ Blank (layout.inside depth within).2 := by
  rw [Layout.inside]
  split
  · exact ⟨blank_newLine _, blank_newLine _⟩
  · exact ⟨blank, blank⟩

end Layout

/-! ### Written values -/

mutual

/-- Values that formats write: without numbers other than natural ones of 64 bits,
and with texts as strings and names. -/
def Value.IsPlain : Value → Prop
  | .null | .bool _ => True
  | .natural n => n < UInt64.size
  | .negative _ | .float _ => False
  | .string text => text.isSome
  | .array items => PlainItems items
  | .object members => PlainMembers members

def PlainItems : List Value → Prop
  | [] => True
  | item :: rest => item.IsPlain ∧ PlainItems rest

def PlainMembers : List (Option String × Value) → Prop
  | [] => True
  | (name, value) :: rest => name.isSome ∧ value.IsPlain ∧ PlainMembers rest

end

theorem write_array (layout : Layout) (depth : Nat) (item : Value) (more : List Value) :
    (Value.array (item :: more)).write layout depth =
      0x5b :: ((layout.inside depth []).1 ++ (item.write layout (depth + 1)
        ++ writeItems layout (depth + 1) more ++ (layout.inside depth []).2 ++ [0x5d])) := by
  rw [Value.write]
  simp only [List.append_assoc, List.cons_append]

theorem write_object (layout : Layout) (depth : Nat) (name : Option String) (item : Value)
    (more : List (Option String × Value)) :
    (Value.object ((name, item) :: more)).write layout depth =
      0x7b :: ((layout.inside depth layout.space).1 ++ (quote (name.getD "")
        ++ 0x3a :: layout.space ++ item.write layout (depth + 1)
        ++ writeMembers layout (depth + 1) more
        ++ (layout.inside depth layout.space).2 ++ [0x7d])) := by
  rw [Value.write]
  simp only [List.append_assoc, List.cons_append]

theorem isBlank_of_isDigit {b : UInt8} (digit : isDigit b) : isBlank b = false := by
  refine Bool.eq_false_iff.2 fun blank => ?_
  rw [(endsNumber_of_isBlank blank).1] at digit
  cases digit

/-- A value begins with neither a blank nor the end of an array. -/
theorem exists_write (layout : Layout) (depth : Nat) {v : Value} (plain : v.IsPlain) :
    ∃ b tail, v.write layout depth = b :: tail ∧ isBlank b = false ∧ b ≠ 0x5d := by
  cases v with
  | null => exact ⟨0x6e, _, rfl, rfl, by decide⟩
  | bool b => cases b <;> exact ⟨_, _, rfl, rfl, by decide⟩
  | natural n =>
      obtain ⟨b, tail, written, digit⟩ := exists_toDigits n
      refine ⟨b, tail, written, isBlank_of_isDigit digit, ?_⟩
      rintro rfl
      exact absurd digit (by decide)
  | negative | float => exact plain.elim
  | string text => exact ⟨0x22, _, rfl, rfl, by decide⟩
  | array items =>
      cases items with
      | nil => exact ⟨0x5b, _, rfl, rfl, by decide⟩
      | cons item more => exact ⟨0x5b, _, write_array layout depth item more, rfl, by decide⟩
  | object members =>
      cases members with
      | nil => exact ⟨0x7b, _, rfl, rfl, by decide⟩
      | cons member more =>
          exact ⟨0x7b, _, write_object layout depth member.1 member.2 more, rfl, by decide⟩

theorem value_digit {b : UInt8} (digit : isDigit b) (fuel : Nat) (rest : Bytes) :
    value (fuel + 1) (b :: rest) = number false (b :: rest) := by
  have other : b ≠ 0x22 ∧ b ≠ 0x5b ∧ b ≠ 0x7b ∧ b ≠ 0x2d := by
    refine ⟨?_, ?_, ?_, ?_⟩ <;> (rintro rfl; exact absurd digit (by decide))
  rw [value, dropBlanks_cons (isBlank_of_isDigit digit)]
  simp only [other, digit, if_false, if_true]

theorem value_array {b : UInt8} {bytes tail : Bytes} (head : dropBlanks bytes = b :: tail)
    (filled : b ≠ 0x5d) (fuel : Nat) :
    value (fuel + 1) (0x5b :: bytes) =
      (items fuel bytes).map fun (list, after) => (.array list, after) := by
  rw [value, dropBlanks_cons rfl]
  simp only [show (0x5b : UInt8) ≠ 0x22 by decide, if_false, if_true, head]
  split
  · rename_i same
    exact absurd (List.cons.inj same).1 filled
  · rfl

theorem value_object {b : UInt8} {bytes tail : Bytes} (head : dropBlanks bytes = b :: tail)
    (filled : b ≠ 0x7d) (fuel : Nat) :
    value (fuel + 1) (0x7b :: bytes) =
      (members fuel bytes).map fun (list, after) => (.object list, after) := by
  rw [value, dropBlanks_cons rfl]
  simp only [show (0x7b : UInt8) ≠ 0x22 by decide, show (0x7b : UInt8) ≠ 0x5b by decide, if_false,
    if_true, head]
  split
  · rename_i same
    exact absurd (List.cons.inj same).1 filled
  · rfl

/-! ### Reading back -/

/-- With some fuel, everything written is read back that is less than half as long. -/
structure ReadsBack (layout : Layout) (fuel : Nat) : Prop where
  value : ∀ (v : Value) (depth : Nat) (rest : Bytes), v.IsPlain → Ends rest →
    2 * (v.write layout depth).length < fuel →
      value fuel (v.write layout depth ++ rest) = some (v, rest)
  items : ∀ (item : Value) (more : List Value) (depth : Nat) (closing rest : Bytes),
    PlainItems (item :: more) → Blank closing →
      2 * (item.write layout depth ++ writeItems layout depth more ++ closing ++ [0x5d]).length
        < fuel →
      items fuel (item.write layout depth ++ writeItems layout depth more ++ closing
        ++ 0x5d :: rest) = some (item :: more, rest)
  members : ∀ (name : Option String) (item : Value) (more : List (Option String × Value))
    (depth : Nat) (closing rest : Bytes),
    PlainMembers ((name, item) :: more) → Blank closing →
      2 * (quote (name.getD "") ++ 0x3a :: layout.space ++ item.write layout depth
        ++ writeMembers layout depth more ++ closing ++ [0x7d]).length < fuel →
      members fuel (quote (name.getD "") ++ 0x3a :: layout.space ++ item.write layout depth
        ++ writeMembers layout depth more ++ closing ++ 0x7d :: rest) =
        some ((name, item) :: more, rest)

namespace ReadsBack

variable {layout : Layout} {fuel : Nat}

theorem value_succ (blank : layout.IsBlank) (h : ReadsBack layout fuel) (v : Value) (depth : Nat)
    (rest : Bytes) (plain : v.IsPlain) (ends : Ends rest)
    (enough : 2 * (v.write layout depth).length < fuel + 1) :
    Json.value (fuel + 1) (v.write layout depth ++ rest) = some (v, rest) := by
  cases v with
  | null => rfl
  | bool b => cases b <;> rfl
  | natural n =>
      obtain ⟨b, tail, written, digit⟩ := exists_toDigits n
      have read := number_natural plain ends
      rw [written, List.cons_append] at read
      rw [Value.write, written, List.cons_append, value_digit digit, read]
  | negative | float => exact plain.elim
  | string text =>
      obtain ⟨text, rfl⟩ := Option.isSome_iff_exists.1 plain
      have read := literal_quoted text rest
      rw [Value.write, quote, Option.getD_some, List.cons_append, List.cons_append,
        List.append_assoc, Json.value, dropBlanks_cons rfl]
      simp only [if_true, List.cons_append, List.nil_append, read]
      rfl
  | array items =>
      cases items with
      | nil => rfl
      | cons item more =>
          obtain ⟨opening, closing⟩ := layout.blank_inside depth (List.forall_mem_nil _)
          obtain ⟨b, tail, written, solid, filled⟩ := exists_write layout (depth + 1) plain.1
          have head (rest : Bytes) : dropBlanks ((layout.inside depth []).1
              ++ (item.write layout (depth + 1) ++ rest)) = b :: (tail ++ rest) := by
            rw [dropBlanks_append opening, written]
            exact dropBlanks_cons solid _
          rw [write_array] at enough ⊢
          have read := h.items item more (depth + 1) _ rest plain closing (by
            simp only [List.length_cons, List.length_append] at enough ⊢
            omega)
          simp only [List.cons_append, List.append_assoc, List.nil_append] at read ⊢
          rw [value_array (head _) filled, items_append opening, read]
          rfl
  | object members =>
      cases members with
      | nil => rfl
      | cons member more =>
          obtain ⟨name, item⟩ := member
          obtain ⟨opening, closing⟩ := layout.blank_inside depth blank
          have head (rest : Bytes) : dropBlanks ((layout.inside depth layout.space).1
              ++ (quote (name.getD "") ++ rest)) = quote (name.getD "") ++ rest := by
            rw [dropBlanks_append opening]
            exact dropBlanks_cons rfl _
          rw [write_object] at enough ⊢
          have read := h.members name item more (depth + 1) _ rest plain closing (by
            simp only [List.length_cons, List.length_append] at enough ⊢
            omega)
          simp only [List.cons_append, List.append_assoc, List.nil_append] at read ⊢
          rw [value_object (head _) (by decide), members_append opening, read]
          rfl

theorem items_succ (blank : layout.IsBlank) (h : ReadsBack layout fuel) (item : Value)
    (more : List Value) (depth : Nat) (closing rest : Bytes) (plain : PlainItems (item :: more))
    (blankClosing : Blank closing)
    (enough : 2 * (item.write layout depth ++ writeItems layout depth more ++ closing
      ++ [0x5d]).length < fuel + 1) :
    Json.items (fuel + 1) (item.write layout depth ++ writeItems layout depth more ++ closing
      ++ 0x5d :: rest) = some (item :: more, rest) := by
  simp only [List.length_append, List.length_cons] at enough
  cases more with
  | nil =>
      have read := h.value item depth (closing ++ 0x5d :: rest) plain.1
        (ends_append blankClosing (by decide) rest) (by omega)
      rw [writeItems, List.append_nil, List.append_assoc, Json.items, read]
      simp only [dropBlanks_append blankClosing]
      rfl
  | cons next more =>
      simp only [writeItems, List.length_append, List.length_cons] at enough
      have others := h.items next more depth closing rest plain.2 blankClosing (by
        simp only [List.length_append, List.length_cons]
        omega)
      rw [← items_append (blank.between depth)] at others
      simp only [writeItems, List.append_assoc, List.cons_append] at others ⊢
      rw [Json.items, h.value item depth _ plain.1 (ends_cons (by decide) _) (by omega)]
      simp only [dropBlanks_cons (b := 0x2c) rfl, others]
      rfl

/-- What is read before the value of a member does not depend on what follows. -/
theorem members_quoted (blank : layout.IsBlank) (name : String) {bytes after : Bytes}
    {item : Value} (read : Json.value fuel bytes = some (item, after)) :
    (∀ rest, dropBlanks after = 0x7d :: rest →
      Json.members (fuel + 1) (quote name ++ 0x3a :: layout.space ++ bytes) =
        some ([(some name, item)], rest)) ∧
    ∀ more list rest, dropBlanks after = 0x2c :: more →
      Json.members fuel more = some (list, rest) →
      Json.members (fuel + 1) (quote name ++ 0x3a :: layout.space ++ bytes) =
        some ((some name, item) :: list, rest) := by
  rw [← value_append blank] at read
  simp only [quote, List.cons_append, List.append_assoc, List.nil_append]
  rw [Json.members, dropBlanks_cons rfl]
  simp only [literal_quoted, dropBlanks_cons (b := 0x3a) rfl, read]
  refine ⟨fun rest last => ?_, fun more list rest next others => ?_⟩
  · rw [last]
    rfl
  · rw [next]
    simp only [others]
    rfl

theorem members_succ (blank : layout.IsBlank) (h : ReadsBack layout fuel) (name : Option String)
    (item : Value) (more : List (Option String × Value)) (depth : Nat) (closing rest : Bytes)
    (plain : PlainMembers ((name, item) :: more)) (blankClosing : Blank closing)
    (enough : 2 * (quote (name.getD "") ++ 0x3a :: layout.space ++ item.write layout depth
      ++ writeMembers layout depth more ++ closing ++ [0x7d]).length < fuel + 1) :
    Json.members (fuel + 1) (quote (name.getD "") ++ 0x3a :: layout.space
      ++ item.write layout depth ++ writeMembers layout depth more ++ closing ++ 0x7d :: rest) =
      some ((name, item) :: more, rest) := by
  obtain ⟨isText, plainItem, plainMore⟩ := plain
  obtain ⟨name, rfl⟩ := Option.isSome_iff_exists.1 isText
  simp only [List.length_append, List.length_cons] at enough
  rw [List.append_assoc, List.append_assoc, List.append_assoc, Option.getD_some]
  cases more with
  | nil =>
      have read := h.value item depth (closing ++ 0x7d :: rest) plainItem
        (ends_append blankClosing (by decide) rest) (by omega)
      rw [writeMembers, List.nil_append]
      exact (members_quoted blank name read).1 rest (dropBlanks_append blankClosing _)
  | cons next more =>
      obtain ⟨nextName, next⟩ := next
      simp only [writeMembers, List.length_append, List.length_cons] at enough
      have others := h.members nextName next more depth closing rest plainMore blankClosing (by
        simp only [List.length_append, List.length_cons]
        omega)
      rw [← members_append (blank.between depth)] at others
      simp only [writeMembers, List.append_assoc, List.cons_append] at others ⊢
      rw [← List.cons_append, ← List.append_assoc]
      refine (members_quoted blank name ?_).2 _ _ rest (dropBlanks_cons rfl _) others
      exact h.value item depth _ plainItem (ends_cons (by decide) _) (by omega)

end ReadsBack

theorem readsBack {layout : Layout} (blank : layout.IsBlank) (fuel : Nat) :
    ReadsBack layout fuel := by
  induction fuel with
  | zero => constructor <;> intros <;> omega
  | succ fuel ih => exact ⟨ih.value_succ blank, ih.items_succ blank, ih.members_succ blank⟩

/-- A plain value is what its text reads as, with any blanks behind it. -/
theorem parse_write_append {layout : Layout} (blank : layout.IsBlank) {v : Value}
    (plain : v.IsPlain) {blanks : Bytes} (trailing : Blank blanks) :
    parse (v.write layout 0 ++ blanks) = some v := by
  have ends : Ends blanks := fun b mem =>
    endsNumber_of_isBlank (trailing b (List.mem_of_head? mem))
  have fuel : 2 * (v.write layout 0).length < 2 * (v.write layout 0 ++ blanks).length + 2 := by
    rw [List.length_append]
    omega
  have read := (readsBack blank _).value v 0 blanks plain ends fuel
  have nothing : dropBlanks blanks = [] := by
    rw [← List.append_nil blanks, dropBlanks_append trailing]
    rfl
  rw [parse, read]
  exact if_pos nothing

theorem parse_write {layout : Layout} (blank : layout.IsBlank) {v : Value} (plain : v.IsPlain) :
    parse (v.write layout 0) = some v := by
  have read := parse_write_append blank plain (List.forall_mem_nil _)
  rwa [List.append_nil] at read

theorem parse_compact {v : Value} (plain : v.IsPlain) : parse v.compact = some v :=
  parse_write (by nofun) plain

/-! ### Records -/

theorem plainItems_iff {items : List Value} : PlainItems items ↔ ∀ item ∈ items, item.IsPlain := by
  induction items with
  | nil => simp [PlainItems]
  | cons item rest ih => simp [PlainItems, ih]

theorem isPlain_texts (texts : List String) : (Value.texts texts).IsPlain := by
  refine plainItems_iff.2 fun item mem => ?_
  obtain ⟨text, -, rfl⟩ := List.mem_map.1 mem
  rfl

theorem asList_map {α : Type} {read : Value → Option α} {write : α → Value}
    (reads : ∀ a, read (write a) = some a) (items : List α) :
    (Value.array (items.map write)).asList read = some items := by
  rw [Value.asList]
  induction items with
  | nil => rfl
  | cons item rest ih => rw [List.map_cons, List.mapM_cons, reads, ih]; rfl

theorem asList_texts (texts : List String) : (Value.texts texts).asList (·.asText) = some texts :=
  asList_map (fun text => (rfl : (Value.text text).asText = some text)) texts

theorem named_record (members : List (String × Value)) :
    named (members.map fun (name, value) => (some name, value)) = some members := by
  induction members with
  | nil => rfl
  | cons member rest ih => rw [List.map_cons, named, ih]; rfl

/-- A record is read as its fields, if these are among the ones with the given names. -/
theorem fields_record_of_known {names : List String} {members : List (String × Value)}
    (known : ∀ member ∈ members, member.1 ∈ names) (distinct : (members.map (·.1)).Nodup) :
    (Value.record members).fields names = some members := by
  have all : members.filter (fun member => names.contains member.1) = members :=
    List.filter_eq_self.2 fun member mem => List.contains_iff_mem.2 (known member mem)
  have guarded : (guard (members.map (·.1)).Nodup : Option Unit) = some () := if_pos distinct
  rw [Value.record, Value.fields, named_record]
  change (guard ((members.filter fun member => names.contains member.1).map (·.1)).Nodup :
    Option Unit).bind (fun _ => some (members.filter fun member => names.contains member.1)) = _
  rw [all, guarded]
  rfl

/-- A record that has exactly the fields with the given names is read as these. -/
theorem fields_record {names : List String} {members : List (String × Value)}
    (same : members.map (·.1) = names) (distinct : names.Nodup) :
    (Value.record members).fields names = some members :=
  fields_record_of_known (fun _ mem => same ▸ List.mem_map_of_mem mem) (same ▸ distinct)

theorem asUInt32_natural (n : UInt32) : (Value.natural n.toNat).asUInt32 = some n := by
  rw [Value.asUInt32, Value.asBelow, if_pos n.toNat_lt]
  simp

theorem asUInt8_natural (n : UInt8) : (Value.natural n.toNat).asUInt8 = some n := by
  rw [Value.asUInt8, Value.asBelow, if_pos n.toNat_lt]
  simp

theorem asEntries_record {α : Type} {read : Value → Option α} {write : α → Value}
    (reads : ∀ a, read (write a) = some a) (entries : List (String × α)) :
    (Value.record (entries.map fun (name, a) => (name, write a))).asEntries read =
      some entries := by
  rw [Value.record, Value.asEntries, named_record]
  change (entries.map fun (name, a) => (name, write a)).mapM
    (fun (name, value) => (read value).map (name, ·)) = some entries
  induction entries with
  | nil => rfl
  | cons entry rest ih =>
      rw [List.map_cons, List.mapM_cons, ih]
      dsimp only
      rw [reads]
      rfl

theorem isPlain_record {members : List (String × Value)}
    (plain : ∀ member ∈ members, member.2.IsPlain) : (Value.record members).IsPlain := by
  change PlainMembers _
  induction members with
  | nil => trivial
  | cons member rest ih =>
      obtain ⟨first, others⟩ := List.forall_mem_cons.1 plain
      exact ⟨rfl, first, ih others⟩

end Json

/-- A table is made again from its pairs. -/
theorem Table.ofPairs_toList {κ α : Type} [Ord κ] [Std.TransOrd κ] [Std.LawfulEqOrd κ]
    [DecidableEq κ] (table : Table κ α) : Table.ofPairs table.toList = table := by
  have whole (pairs : List (κ × α)) (start : Table κ α) :
      pairs.foldl (fun table pair => table.insert pair.1 pair.2) start =
        start.insertMany pairs := by
    induction pairs generalizing start with
    | nil => exact Std.ExtTreeMap.insertMany_nil.symm
    | cons pair rest ih => rw [List.foldl_cons, Std.ExtTreeMap.insertMany_cons, ih]
  refine Std.ExtTreeMap.ext_getElem? fun key => ?_
  rw [show Table.ofPairs table.toList = _ from whole table.toList ∅]
  cases found : table[key]? with
  | some value =>
      exact Std.ExtTreeMap.getElem?_insertMany_list_of_mem Std.ReflCmp.compare_self
        Std.ExtTreeMap.distinct_keys_toList
        (Std.ExtTreeMap.mem_toList_iff_getElem?_eq_some.2 found)
  | none =>
      rw [Std.ExtTreeMap.getElem?_insertMany_list_of_contains_eq_false]
      · exact Std.ExtTreeMap.getElem?_empty
      · rw [← Bool.not_eq_true, List.contains_iff_mem, List.mem_map]
        rintro ⟨⟨_, value⟩, mem, rfl⟩
        rw [Std.ExtTreeMap.mem_toList_iff_getElem?_eq_some.1 mem] at found
        cases found

namespace AssetIndex

theorem ofJson?_toJson (index : AssetIndex) : ofJson? index.toJson = some index := by
  have fields : index.toJson.fields ["classVersion", "enabledAssetIds"] =
      some [("classVersion", .natural index.classVersion.toNat),
        ("enabledAssetIds", .texts (index.enabledIds.map (·.text)))] :=
    Json.fields_record rfl (by decide)
  rw [ofJson?, fields]
  change (Json.Value.natural _).asUInt32.bind (fun classVersion =>
    ((Json.Value.texts _).asList (·.asText)).bind fun ids =>
      some ⟨classVersion, ids.map CurrencyId.mk⟩) = some index
  rw [Json.asUInt32_natural, Json.asList_texts, Option.bind_some, Option.bind_some, List.map_map]
  exact congrArg (fun ids => some (AssetIndex.mk index.classVersion ids)) (List.map_id _)

/-- A stored index is read back as it was. -/
theorem decode?_encode (index : AssetIndex) :
    Persisted.decode? (Persisted.encode index) = some index := by
  change (Json.parse index.toJson.compact).bind ofJson? = some index
  rw [Json.parse_compact, Option.bind_some, ofJson?_toJson]
  refine ⟨rfl, ?_, rfl, Json.isPlain_texts _, trivial⟩
  exact Nat.lt_trans index.classVersion.toNat_lt (by decide)

end AssetIndex

namespace WalletInfo

theorem isPlain_toJson (info : WalletInfo) : info.toJson.IsPlain := by
  have modes : (Json.Value.record (info.modes.toList.map fun entry =>
      (entry.1.text, .natural entry.2.toNat))).IsPlain := by
    refine Json.isPlain_record fun member mem => ?_
    obtain ⟨⟨uid, number⟩, -, rfl⟩ := List.mem_map.1 mem
    exact Nat.lt_trans number.toNat_lt (by decide)
  have date : (info.creationDate.elim Json.Value.null fun date => .text date.text).IsPlain := by
    cases info.creationDate <;> trivial
  exact ⟨rfl, Nat.lt_trans info.classVersion.toNat_lt (by decide), rfl, rfl, rfl, date, rfl,
    modes, trivial⟩

/-- The modes in a stored record are read back as they were, if it can be read at all. -/
theorem modes_of_decode {info read : WalletInfo}
    (h : Persisted.decode? (Persisted.encode info) = some read) : read.modes = info.modes := by
  change (Json.parse info.toJson.compact).bind ofJson? = some read at h
  have fields : info.toJson.fields ["classVersion", "name", "creationDate", "connectionModes"] =
      some _ := Json.fields_record rfl (by decide)
  rw [Json.parse_compact info.isPlain_toJson, Option.bind_some, ofJson?] at h
  obtain ⟨_, known, h⟩ := Option.bind_eq_some_iff.1 h
  obtain rfl := Option.some.inj (fields.symm.trans known)
  obtain ⟨classVersion, -, h⟩ := Option.bind_eq_some_iff.1 h
  obtain ⟨name, -, h⟩ := Option.bind_eq_some_iff.1 h
  obtain ⟨creationDate, -, h⟩ := Option.bind_eq_some_iff.1 h
  obtain ⟨modes, entries, h⟩ := Option.bind_eq_some_iff.1 h
  have written := Json.asEntries_record Json.asUInt8_natural
    (info.modes.toList.map fun entry => (entry.1.text, entry.2))
  rw [List.map_map] at written
  obtain rfl := Option.some.inj (written.symm.trans entries)
  obtain rfl := Option.some.inj h
  change Table.ofPairs (List.map _ (List.map _ _)) = info.modes
  rw [List.map_map]
  exact (congrArg Table.ofPairs (List.map_id _)).trans (Table.ofPairs_toList info.modes)

end WalletInfo

end MultiWallet
