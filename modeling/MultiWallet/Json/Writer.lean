import MultiWallet.Decimal.Exact
import MultiWallet.Json.Value
import MultiWallet.Text.Hex

/-!
JSON values written as bytes, in one line or with items on lines of their own.
-/

namespace MultiWallet.Json

/-- The escape of a byte in a string literal, for the bytes that need one. -/
def escapeOf (byte : UInt8) : Bytes :=
  if byte = 0x22 then Text.utf8 "\\\""
  else if byte = 0x5c then Text.utf8 "\\\\"
  else if byte = 0x08 then Text.utf8 "\\b"
  else if byte = 0x0c then Text.utf8 "\\f"
  else if byte = 0x0a then Text.utf8 "\\n"
  else if byte = 0x0d then Text.utf8 "\\r"
  else if byte = 0x09 then Text.utf8 "\\t"
  else if byte < 0x20 then Text.utf8 "\\u00" ++ Text.utf8 (Hex.encode [byte])
  else [byte]

def quote (text : String) : Bytes :=
  0x22 :: (Text.utf8 text).flatMap escapeOf ++ [0x22]

/-- How the items of an array or object are laid out. -/
structure Layout where
  /-- Whether the items at some depth stand on lines of their own. -/
  breaksAt : Nat → Bool
  /-- What stands behind a comma or colon and inside braces, where no line
  begins. -/
  space : Bytes

namespace Layout

def compact : Layout := ⟨fun _ => false, []⟩

def indented : Layout := ⟨fun _ => true, [0x20]⟩

/-- One item a line down to some depth, and what is deeper within its line. -/
def indentedTo (deepest : Nat) : Layout := ⟨fun depth => depth ≤ deepest, [0x20]⟩

/-- The beginning of a line at some depth, indented by two blanks for each level. -/
def newLine (depth : Nat) : Bytes := 0x0a :: List.replicate (2 * depth) 0x20

/-- What stands before an item at some depth that follows another one. -/
def between (layout : Layout) (depth : Nat) : Bytes :=
  if layout.breaksAt depth then newLine depth else layout.space

/-- What stands behind the opening bracket and before the closing one of an array
or object that itself stands at some depth. Within a line there is nothing inside
the brackets of an array. -/
def inside (layout : Layout) (depth : Nat) (within : Bytes) : Bytes × Bytes :=
  if layout.breaksAt (depth + 1) then (newLine (depth + 1), newLine depth) else (within, within)

end Layout

mutual

/-- A value that stands at some depth. A string without text and a number that is
too large, which nothing writes, are written as the empty string and as zero. -/
def Value.write (layout : Layout) (depth : Nat) : Value → Bytes
  | .null => Text.utf8 "null"
  | .bool true => Text.utf8 "true"
  | .bool false => Text.utf8 "false"
  | .natural n => Text.utf8 (toString n)
  | .negative n => Text.utf8 ("-" ++ toString n)
  | .float x => Text.utf8 (Decimal.exact (x.getD 0))
  | .string text => quote (text.getD "")
  | .array [] => [0x5b, 0x5d]
  | .array (item :: rest) =>
    let (opening, closing) := layout.inside depth []
    0x5b :: opening ++ item.write layout (depth + 1)
      ++ writeItems layout (depth + 1) rest ++ closing ++ [0x5d]
  | .object [] => [0x7b, 0x7d]
  | .object ((name, value) :: rest) =>
    let (opening, closing) := layout.inside depth layout.space
    0x7b :: opening ++ quote (name.getD "") ++ 0x3a :: layout.space
      ++ value.write layout (depth + 1) ++ writeMembers layout (depth + 1) rest
      ++ closing ++ [0x7d]

/-- The items after the first one, each behind a comma. -/
def writeItems (layout : Layout) (depth : Nat) : List Value → Bytes
  | [] => []
  | item :: rest =>
    0x2c :: layout.between depth ++ item.write layout depth ++ writeItems layout depth rest

/-- The members after the first one, each behind a comma. -/
def writeMembers (layout : Layout) (depth : Nat) : List (Option String × Value) → Bytes
  | [] => []
  | (name, value) :: rest =>
    0x2c :: layout.between depth ++ quote (name.getD "") ++ 0x3a :: layout.space
      ++ value.write layout depth ++ writeMembers layout depth rest

end

def Value.compact (value : Value) : Bytes := value.write .compact 0

def Value.indented (value : Value) : Bytes := value.write .indented 0

end MultiWallet.Json
