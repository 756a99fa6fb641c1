/-!
Bytes as lists. Stored records, files and secrets are plain rows of bytes; a
text stands for the bytes of its UTF-8 form, and only some rows of bytes are
such a form.
-/

namespace MultiWallet

abbrev Bytes := List UInt8

namespace Text

def utf8 (text : String) : Bytes := text.toUTF8.data.toList

/-- The text whose UTF-8 form the bytes are, when there is one. -/
def ofUtf8? (bytes : Bytes) : Option String := String.fromUTF8? ⟨bytes.toArray⟩

@[simp] theorem ofUtf8?_utf8 (text : String) : ofUtf8? (utf8 text) = some text := by
  have valid : text.toUTF8.IsValidUTF8 := text.isValidUTF8
  change String.fromUTF8? text.toUTF8 = some text
  rw [String.fromUTF8?, dif_pos valid]
  rfl

def startsWith (text lead : String) : Bool := lead.toList.isPrefixOf text.toList

def endsWith (text tail : String) : Bool := tail.toList.isSuffixOf text.toList

/-- What precedes the first occurrence of a character: the whole text when the
character does not occur. -/
def before (mark : Char) (text : String) : String :=
  String.ofList (text.toList.takeWhile (· != mark))

/-- A text without the occurrences of a character that end it. -/
def dropTrailing (mark : Char) (text : String) : String :=
  String.ofList (text.toList.reverse.dropWhile (· == mark)).reverse

/-- A number in decimal, filled up with leading zeros to a width. -/
def padded (width value : Nat) : String :=
  let digits := Nat.toDigits 10 value
  String.ofList (List.replicate (width - digits.length) '0' ++ digits)

def joined (separator : String) (texts : List String) : String :=
  String.intercalate separator texts

/-- One letter folded within the ASCII letters; every other character stays. -/
def foldAscii (text : String) : List Char := text.toList.map Char.toLower

/-- Whether two texts differ at most in the case of ASCII letters. -/
def sameIgnoringAsciiCase (left right : String) : Bool := foldAscii left == foldAscii right

end Text

end MultiWallet
