import MultiWallet.Proofs.InstantText
import MultiWallet.Proofs.ReadBack
import MultiWallet.Proofs.Replacing
import MultiWallet.Replica.FileStore

/-!
The file of a record holds a text, and that text is read back as the record. Files are
read as texts before they are read as JSON, so it is not enough that the bytes of a
value are read back: they also have to be the UTF-8 form of something. They are,
because a byte of a character beyond ASCII is never escaped, and all else that is
written is ASCII.
-/

namespace MultiWallet

/-! ### Hexadecimal -/

namespace Hex

theorem value?_digit {v : Nat} (small : v < 16) :
    ∃ letter, String.utf8EncodeChar (digit v) = [letter] ∧ value? letter = some v.toUInt8 := by
  interval_cases v <;> exact ⟨_, rfl, rfl⟩

theorem halves (byte : UInt8) :
    (byte.toNat / 16).toUInt8 * 16 + (byte.toNat % 16).toUInt8 = byte := by
  apply UInt8.toNat.inj
  have bound := byte.toNat_lt
  simp only [Nat.toUInt8_eq, UInt8.toNat_add, UInt8.toNat_mul, UInt8.toNat_ofNat',
    UInt8.reduceToNat]
  omega

/-- A byte is written as two letters that stand for its halves. -/
theorem exists_pair (byte : UInt8) : ∃ high low,
    (pair byte).flatMap String.utf8EncodeChar = [high, low] ∧
      value? high = some (byte.toNat / 16).toUInt8 ∧
      value? low = some (byte.toNat % 16).toUInt8 := by
  have bound := byte.toNat_lt
  obtain ⟨high, writtenHigh, readHigh⟩ := value?_digit (v := byte.toNat / 16) (by omega)
  obtain ⟨low, writtenLow, readLow⟩ := value?_digit (v := byte.toNat % 16) (by omega)
  exact ⟨high, low, by simp [pair, writtenHigh, writtenLow], readHigh, readLow⟩

theorem decodeFrom_pairs (bytes : Bytes) (position : Nat) :
    decodeFrom position ((bytes.flatMap pair).flatMap String.utf8EncodeChar) = .ok bytes := by
  induction bytes generalizing position with
  | nil => rfl
  | cons byte rest ih =>
      obtain ⟨high, low, written, readHigh, readLow⟩ := exists_pair byte
      rw [List.flatMap_cons, List.flatMap_append, written]
      simp only [List.cons_append, List.nil_append, decodeFrom, readHigh, readLow, ih, Except.map,
        halves]

theorem length_pairs (bytes : Bytes) :
    ((bytes.flatMap pair).flatMap String.utf8EncodeChar).length = 2 * bytes.length := by
  induction bytes with
  | nil => rfl
  | cons byte rest ih =>
      obtain ⟨high, low, written, -⟩ := exists_pair byte
      rw [List.flatMap_cons, List.flatMap_append, written, List.length_append, ih]
      simp only [List.length_cons, List.length_nil]
      omega

/-- Bytes are read back from hexadecimal. -/
theorem decode_encode (bytes : Bytes) : decode (encode bytes) = .ok bytes := by
  have even : ¬(2 * bytes.length % 2 = 1) := by omega
  rw [decode, encode, Text.utf8_ofList]
  simp only [length_pairs, if_neg even, decodeFrom_pairs]

end Hex

/-! ### Bytes that are a text -/

namespace Text

/-- Whether bytes are the UTF-8 form of some characters. -/
def IsText (bytes : Bytes) : Prop :=
  ∃ chars : List Char, chars.flatMap String.utf8EncodeChar = bytes

namespace IsText

variable {first second : Bytes}

theorem append (h : IsText first) (h' : IsText second) : IsText (first ++ second) := by
  obtain ⟨chars, rfl⟩ := h
  obtain ⟨more, rfl⟩ := h'
  exact ⟨chars ++ more, List.flatMap_append⟩

theorem of_ascii {bytes : Bytes} (ascii : bytes.all (·.toNat < 128)) : IsText bytes := by
  refine ⟨bytes.map fun b => Char.ofNat b.toNat, ?_⟩
  induction bytes with
  | nil => rfl
  | cons b rest ih =>
      obtain ⟨small, others⟩ := Bool.and_eq_true_iff.1 ascii
      have code : b.toNat < 128 := of_decide_eq_true small
      have valid : b.toNat.isValidChar := .inl (by omega)
      have same : (Char.ofNat b.toNat).toNat = b.toNat := by
        rw [Char.ofNat, dif_pos valid]
        rfl
      rw [List.map_cons, List.flatMap_cons, ih others, utf8EncodeChar_of_ascii (by omega), same]
      simp

theorem cons {b : UInt8} (ascii : b.toNat < 128) (h : IsText second) : IsText (b :: second) :=
  append (of_ascii (by simpa using ascii) : IsText [b]) h

theorem utf8 (text : String) : IsText (Text.utf8 text) :=
  ⟨text.toList, by rw [← utf8_ofList, String.ofList_toList]⟩

/-- A text is made of bytes that are one. -/
theorem exists_text {bytes : Bytes} (h : IsText bytes) : ∃ text, Text.utf8 text = bytes := by
  obtain ⟨chars, rfl⟩ := h
  exact ⟨String.ofList chars, utf8_ofList chars⟩

end IsText

/-- No byte of a character beyond ASCII could be mistaken for one of ASCII. -/
theorem le_of_mem_utf8EncodeChar {c : Char} (beyond : 128 ≤ c.toNat) {b : UInt8}
    (mem : b ∈ String.utf8EncodeChar c) : 128 ≤ b := by
  have large : ¬c.val.toNat ≤ 127 := Nat.not_le.2 beyond
  have high (n : Nat) (low : 128 ≤ n) (fits : n < 256) : 128 ≤ UInt8.ofNat n := by
    rw [UInt8.le_iff_toNat_le, UInt8.toNat_ofNat_of_lt' fits]
    exact low
  rw [String.utf8EncodeChar] at mem
  simp only [if_neg large] at mem
  split_ifs at mem <;> simp only [List.mem_cons, List.not_mem_nil, or_false] at mem
  · rcases mem with rfl | rfl <;> exact high _ (by omega) (by omega)
  · rcases mem with rfl | rfl | rfl <;> exact high _ (by omega) (by omega)
  · rcases mem with rfl | rfl | rfl | rfl <;> exact high _ (by omega) (by omega)

end Text

namespace Json

open Text (IsText)

/-! ### Written values are texts -/

theorem escapeOf_of_le {b : UInt8} (beyond : 128 ≤ b) : escapeOf b = [b] := by
  have other (c : UInt8) (ascii : c < 128) : b ≠ c := by
    rintro rfl
    exact absurd ascii (UInt8.not_lt.2 beyond)
  have printable : ¬b < 0x20 := by
    intro below
    exact absurd (UInt8.lt_trans below (by decide)) (UInt8.not_lt.2 beyond)
  rw [escapeOf, if_neg (other 0x22 (by decide)), if_neg (other 0x5c (by decide)),
    if_neg (other 0x08 (by decide)), if_neg (other 0x0c (by decide)),
    if_neg (other 0x0a (by decide)), if_neg (other 0x0d (by decide)),
    if_neg (other 0x09 (by decide)), if_neg printable]

theorem isText_escapeOf {b : UInt8} (ascii : b.toNat < 128) : IsText (escapeOf b) := by
  rw [escapeOf]
  split_ifs
  any_goals exact IsText.utf8 _
  · exact (IsText.utf8 _).append (.utf8 _)
  · exact .of_ascii (by simpa using ascii)

theorem isText_escape (c : Char) : IsText ((String.utf8EncodeChar c).flatMap escapeOf) := by
  rcases Nat.lt_or_ge c.toNat 128 with ascii | beyond
  · have code : c.toNat.toUInt8.toNat = c.toNat :=
      UInt8.toNat_ofNat_of_lt' (Nat.lt_trans ascii (by decide))
    rw [Text.utf8EncodeChar_of_ascii ascii, List.flatMap_singleton]
    exact isText_escapeOf (by rw [code]; exact ascii)
  · have unescaped : (String.utf8EncodeChar c).flatMap escapeOf = String.utf8EncodeChar c := by
      rw [List.flatMap_congr fun b mem => escapeOf_of_le (Text.le_of_mem_utf8EncodeChar beyond mem)]
      exact List.flatMap_singleton' _
    exact ⟨[c], by rw [unescaped, List.flatMap_singleton]⟩

theorem isText_quote (text : String) : IsText (quote text) := by
  -- Bytes are escaped one by one, but only whole characters are a text.
  have written : Text.utf8 text = text.toList.flatMap String.utf8EncodeChar := by
    rw [← Text.utf8_ofList, String.ofList_toList]
  have inner : IsText ((Text.utf8 text).flatMap escapeOf) := by
    rw [written, List.flatMap_assoc]
    induction text.toList with
    | nil => exact ⟨[], rfl⟩
    | cons c rest ih => exact (isText_escape c).append ih
  exact (inner.append (.of_ascii rfl)).cons (by decide)

theorem isText_of_blank {bytes : Bytes} (blank : Blank bytes) : IsText bytes := by
  refine .of_ascii (List.all_eq_true.2 fun b mem => ?_)
  have isBlank := blank b mem
  simp only [Json.isBlank, Bool.or_eq_true, beq_iff_eq] at isBlank
  rcases isBlank with ((rfl | rfl) | rfl) | rfl <;> decide

variable {layout : Layout}

theorem isText_member (blank : layout.IsBlank) (name : Option String) {bytes : Bytes}
    (written : IsText bytes) : IsText (quote (name.getD "") ++ 0x3a :: layout.space ++ bytes) :=
  ((isText_quote _).append ((isText_of_blank blank).cons (by decide))).append written

mutual

/-- Whatever is written is the UTF-8 form of a text. -/
theorem isText_write (blank : layout.IsBlank) (depth : Nat) :
    (v : Value) → IsText (v.write layout depth)
  | .null => .utf8 _
  | .bool true => .utf8 _
  | .bool false => .utf8 _
  | .natural n => .utf8 _
  | .negative n => .utf8 _
  | .float x => .utf8 _
  | .string text => isText_quote _
  | .array [] => by
      rw [Value.write]
      exact .of_ascii rfl
  | .array (item :: rest) => by
      obtain ⟨opening, closing⟩ := layout.blank_inside depth (List.forall_mem_nil _)
      have first := isText_write blank (depth + 1) item
      have others := isText_writeItems blank (depth + 1) rest
      rw [write_array]
      refine .cons (by decide) ((isText_of_blank opening).append ?_)
      exact ((first.append others).append (isText_of_blank closing)).append (.of_ascii rfl)
  | .object [] => by
      rw [Value.write]
      exact .of_ascii rfl
  | .object ((name, value) :: rest) => by
      obtain ⟨opening, closing⟩ := layout.blank_inside depth blank
      have member := isText_member blank name (isText_write blank (depth + 1) value)
      have others := isText_writeMembers blank (depth + 1) rest
      rw [write_object]
      refine .cons (by decide) ((isText_of_blank opening).append ?_)
      exact ((member.append others).append (isText_of_blank closing)).append (.of_ascii rfl)

theorem isText_writeItems (blank : layout.IsBlank) (depth : Nat) :
    (items : List Value) → IsText (writeItems layout depth items)
  | [] => by
      rw [writeItems]
      exact .of_ascii rfl
  | item :: rest => by
      have first := isText_write blank depth item
      have others := isText_writeItems blank depth rest
      rw [writeItems]
      exact ((isText_of_blank (blank.between depth)).cons (by decide)).append first |>.append others

theorem isText_writeMembers (blank : layout.IsBlank) (depth : Nat) :
    (members : List (Option String × Value)) → IsText (writeMembers layout depth members)
  | [] => by
      rw [writeMembers]
      exact .of_ascii rfl
  | (name, value) :: rest => by
      have member := isText_member blank name (isText_write blank depth value)
      have others := isText_writeMembers blank depth rest
      rw [writeMembers]
      have whole := ((isText_of_blank (blank.between depth)).append (member.append others)).cons
        (b := 0x2c) (by decide)
      simpa only [List.cons_append, List.append_assoc] using whole

end

theorem asWord_natural {n : Nat} (fits : n < UInt64.size) : (Value.natural n).asWord = some n := by
  rw [Value.asWord, Value.asBelow, if_pos fits]

end Json

namespace RawRecord

/-- The members of the object in a record's file. -/
def members (record : RawRecord) : List (String × Json.Value) := [
  ("version", .natural record.version),
  ("last_modified", .text record.lastModified.text),
  ("deleted", .bool record.deleted),
  ("value", .text (Hex.encode record.value))]

theorem fileContent_eq (record : RawRecord) :
    record.fileContent = (Json.Value.record record.members).write .indented 0 := rfl

theorem blank_indented : Json.Layout.indented.IsBlank := by
  intro b mem
  obtain rfl := List.mem_singleton.1 mem
  rfl

/-- The file of a record holds a text. -/
theorem exists_text (record : RawRecord) : ∃ text, Text.utf8 text = record.fileContent :=
  (Json.isText_write blank_indented 0 (.record record.members)).exists_text

theorem isPlain_members {record : RawRecord} (fits : record.version < UInt64.size) :
    (Json.Value.record record.members).IsPlain := by
  refine Json.isPlain_record fun member mem => ?_
  simp only [members, List.mem_cons, List.not_mem_nil, or_false] at mem
  rcases mem with rfl | rfl | rfl | rfl
  · exact fits
  · exact Option.isSome_some
  · exact True.intro
  · exact Option.isSome_some

/-- The text in the file of a record is read back as the record. -/
theorem ofFileText_of_utf8 {record : RawRecord} (fits : record.version < UInt64.size)
    {text : String} (written : Text.utf8 text = record.fileContent) :
    ofFileText record.key text = .ok record := by
  have parsed : Json.parse (Text.utf8 text) = some (.record record.members) := by
    rw [written, fileContent_eq]
    exact Json.parse_write blank_indented (isPlain_members fits)
  have fields : (Json.Value.record record.members).fields
      ["version", "last_modified", "deleted", "value"] = some record.members :=
    Json.fields_record rfl (by decide)
  have version : Json.Fields.required record.members "version" (·.asWord) =
      some record.version := Json.asWord_natural fits
  have time : Json.Fields.required record.members "last_modified"
      (·.asText.bind Instant.ofText?) = some record.lastModified := by
    simp [Json.Fields.required, members, List.lookup_cons, Json.Value.text, Json.Value.asText,
      Instant.ofText?_text]
  have deleted : Json.Fields.optional record.members "deleted" (·.asBool) false =
      some record.deleted := by
    simp [Json.Fields.optional, members, List.lookup_cons, Json.Value.asBool]
  have value : Json.Fields.required record.members "value" (·.asText) =
      some (Hex.encode record.value) := by
    simp [Json.Fields.required, members, List.lookup_cons, Json.Value.text, Json.Value.asText]
  simp only [ofFileText, parsed, fields, version, time, deleted, value, Option.bind_eq_bind,
    Option.bind_some, Option.pure_def, Hex.decode_encode]
  rfl

end RawRecord

namespace FileStore

variable {files : FileStore} {key : String} {value : Bytes} {version : Nat} {disk after : Disk}
  {raw : RawRecord}

/-- What a write that succeeds answers, and how it got to the disk. -/
theorem set_ok (done : files.set key value version disk = (.ok raw, after)) :
    isKey key = true ∧
      raw = ⟨key, max (files.versionOf key disk) version + 1, disk.clock, false, value⟩ ∧
      disk.replace (files.path key) raw.fileContent = (after, .ok ()) := by
  rw [set] at done
  split_ifs at done with valid
  · dsimp only at done
    cases replaced : disk.replace (files.path key) (RawRecord.fileContent
      ⟨key, max (files.versionOf key disk) version + 1, disk.clock, false, value⟩) with
    | mk next answer =>
        rw [replaced] at done
        cases answer with
        | error fault => cases done
        | ok _ =>
            cases done
            exact ⟨valid, rfl, replaced⟩
  · cases done

/-- A record is read from its file. -/
theorem get_of_read (valid : isKey key = true) (same : raw.key = key)
    (read : disk.read (files.path key) = .ok raw.fileContent)
    (fits : raw.version < UInt64.size) : files.get key disk = .ok (some raw) := by
  obtain ⟨text, written⟩ := raw.exists_text
  rw [← written] at read
  rw [get, if_pos valid, readRecord, Disk.readText_of_read read]
  dsimp only
  rw [← same, RawRecord.ofFileText_of_utf8 fits written]
  rfl

/-- The record that a write answers with is the one that is read afterwards, whatever stood
in its file before. -/
theorem get_of_set (done : files.set key value version disk = (.ok raw, after))
    (fits : raw.version < UInt64.size)
    (reads : disk.refuses (.read (files.path key).place) = false) :
    files.get key after = .ok (some raw) := by
  obtain ⟨valid, answer, replaced⟩ := set_ok done
  exact get_of_read valid (by rw [answer]) (Disk.read_of_replace replaced reads) fits

end FileStore

end MultiWallet
