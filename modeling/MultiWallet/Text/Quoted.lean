import MultiWallet.Text.Bytes
import MultiWallet.Text.VisibleTable

/-!
Quoted texts as diagnostics show them. A quoted text stands between double
quotes; quotes, backslashes and line ends in it are escaped, and so is every
character that could not be told apart on its own.
-/

namespace MultiWallet.Text

/-- A number in lower-case hexadecimal without leading zeros. -/
def hexNumber (value : Nat) : String := String.ofList (Nat.toDigits 16 value)

def codePointEscape (c : Char) : String := "\\u\x7b" ++ hexNumber c.toNat ++ "\x7d"

/-- A character between two `quote` characters. -/
def escaped (quote c : Char) : String :=
  if c == '\x00' then "\\0"
  else if c == '\t' then "\\t"
  else if c == '\r' then "\\r"
  else if c == '\n' then "\\n"
  else if c == '\\' then "\\\\"
  else if c == quote then String.ofList ['\\', c]
  else if extendingMarks.contains c || shapeless.contains c then codePointEscape c
  else c.toString

def quoted (text : String) : String :=
  "\"" ++ String.join (text.toList.map (escaped '"')) ++ "\""

def quotedChar (c : Char) : String := "'" ++ escaped '\'' c ++ "'"

end MultiWallet.Text
