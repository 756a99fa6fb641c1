import MultiWallet.Text.Bytes

/-!
JSON values as stored formats and reports use them. Whole numbers of up to 64 bits
are kept as they are, and all others as floating-point ones, which no format holds
but which may stand where nobody looks. A string literal that is well formed but no
Unicode text, because of a lone surrogate or of broken UTF-8, keeps no text: it
may stand where nobody looks, and is refused where a text is wanted.
-/

namespace MultiWallet.Json

/-- A JSON value. The members of an object stay in the order of the text. -/
inductive Value where
  | null
  | bool (b : Bool)
  | natural (n : Nat)
  /-- The negative of a natural number. -/
  | negative (n : Nat)
  /-- Any other number, unless it is too large. -/
  | float (x : Option Float)
  | string (text : Option String)
  | array (items : List Value)
  | object (members : List (Option String × Value))

namespace Value

def text (s : String) : Value := .string (some s)

def integer : Int → Value
  | .ofNat n => .natural n
  | .negSucc n => .negative (n + 1)

def texts (items : List String) : Value := .array (items.map text)

def record (members : List (String × Value)) : Value :=
  .object (members.map fun (name, value) => (some name, value))

end Value

end MultiWallet.Json
