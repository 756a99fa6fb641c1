import MultiWallet.Decimal.Scaled
import MultiWallet.Json.Value
import MultiWallet.Text.Hex

/-!
JSON texts read from bytes. The reader accepts exactly one value with blanks
around it, keeps names as they come, and bounds neither depth nor the length of
numbers.

A string literal is read in two steps. First it is split into its pieces, which
are the bytes that stand for themselves and the code units that are written as
escapes; then the pieces are put together, where the two halves of a surrogate
pair have to be neighbours. A literal that falls into pieces but cannot be put
together is still a well-formed literal.
-/

namespace MultiWallet.Json

/-- The bytes that may stand between two tokens. -/
def isBlank (byte : UInt8) : Bool :=
  byte == 0x20 || byte == 0x0a || byte == 0x0d || byte == 0x09

def dropBlanks (bytes : Bytes) : Bytes := bytes.dropWhile isBlank

def isDigit (byte : UInt8) : Bool := 0x30 ≤ byte && byte ≤ 0x39

/-! ### String literals -/

/-- A part of a string literal. -/
inductive Piece where
  /-- A byte that stands for itself, or the short escape of one. -/
  | byte (b : UInt8)
  /-- A code unit written with four hexadecimal digits. -/
  | unit (u : Nat)
deriving DecidableEq

def shortEscape? (letter : UInt8) : Option UInt8 :=
  if letter = 0x22 then some 0x22
  else if letter = 0x5c then some 0x5c
  else if letter = 0x2f then some 0x2f
  else if letter = 0x62 then some 0x08
  else if letter = 0x66 then some 0x0c
  else if letter = 0x6e then some 0x0a
  else if letter = 0x72 then some 0x0d
  else if letter = 0x74 then some 0x09
  else none

/-- The number that four hexadecimal digits write. -/
def codeUnit? (a b c d : UInt8) : Option Nat := do
  let a ← Hex.value? a
  let b ← Hex.value? b
  let c ← Hex.value? c
  let d ← Hex.value? d
  return ((a.toNat * 16 + b.toNat) * 16 + c.toNat) * 16 + d.toNat

/-- The pieces of a literal whose opening quote has been read, and what follows
its closing quote. Control bytes are no part of a literal. -/
def pieces : Bytes → Option (List Piece × Bytes)
  | [] => none
  | 0x22 :: rest => some ([], rest)
  | 0x5c :: 0x75 :: a :: b :: c :: d :: rest =>
    match codeUnit? a b c d, pieces rest with
    | some u, some (more, after) => some (.unit u :: more, after)
    | _, _ => none
  | 0x5c :: letter :: rest =>
    match shortEscape? letter, pieces rest with
    | some b, some (more, after) => some (.byte b :: more, after)
    | _, _ => none
  | b :: rest =>
    if b < 0x20 ∨ b = 0x5c then none
    else (pieces rest).map fun (more, after) => (.byte b :: more, after)

/-- The bytes that pieces stand for. The first half of a surrogate pair is
followed by the second one, and the second one stands nowhere else. -/
def assemble : List Piece → Option Bytes
  | [] => some []
  | .byte b :: rest => (assemble rest).map (b :: ·)
  | .unit u :: .unit v :: rest =>
    if 0xd800 ≤ u ∧ u < 0xdc00 then
      if 0xdc00 ≤ v ∧ v < 0xe000 then
        (assemble rest).map
          (String.utf8EncodeChar (Char.ofNat (0x10000 + (u - 0xd800) * 0x400 + (v - 0xdc00))) ++ ·)
      else none
    else if 0xdc00 ≤ u ∧ u < 0xe000 then none
    else (assemble (.unit v :: rest)).map (String.utf8EncodeChar (Char.ofNat u) ++ ·)
  | .unit u :: rest =>
    if 0xd800 ≤ u ∧ u < 0xe000 then none
    else (assemble rest).map (String.utf8EncodeChar (Char.ofNat u) ++ ·)

/-- A literal whose opening quote has been read: its text, if it has one, and
what follows it. -/
def literal (bytes : Bytes) : Option (Option String × Bytes) :=
  (pieces bytes).map fun (parts, after) => ((assemble parts).bind Text.ofUtf8?, after)

/-! ### Numbers -/

def ofDigits (digits : Bytes) : Nat :=
  digits.foldl (fun n digit => n * 10 + (digit.toNat - 0x30)) 0

/-- The digits at the head of a text, and what follows them. -/
def span (bytes : Bytes) : Bytes × Bytes :=
  (bytes.takeWhile isDigit, bytes.dropWhile isDigit)

/-- The digits behind the point of a number, if it has one, and what follows. -/
def fraction : Bytes → Option (Bytes × Bytes)
  | 0x2e :: rest =>
    match span rest with
    | ([], _) => none
    | (places, after) => some (places, after)
  | bytes => some ([], bytes)

/-- The digits of an exponent, with its sign, and what follows. -/
def exponentDigits (negative : Bool) (bytes : Bytes) : Option (Option Int × Bytes) :=
  match span bytes with
  | ([], _) => none
  | (digits, after) =>
    let n : Int := ofDigits digits
    some (some (if negative then -n else n), after)

/-- The exponent of a number, if it has one, and what follows. -/
def exponent : Bytes → Option (Option Int × Bytes)
  | e :: rest =>
    if e = 0x65 ∨ e = 0x45 then
      match rest with
      | sign :: digits =>
        if sign = 0x2b ∨ sign = 0x2d then exponentDigits (sign = 0x2d) digits
        else exponentDigits false rest
      | [] => none
    else some (none, e :: rest)
  | [] => some (none, [])

/-- Puts digits behind those of a significand until one of them does not fit into
64 bits, and gives the number of those left over. -/
def significand (n : Nat) : Bytes → Nat × Nat
  | [] => (n, 0)
  | digit :: rest =>
    let next := n * 10 + (digit.toNat - 0x30)
    if next < UInt64.size then significand next rest else (n, rest.length + 1)

def floatOf (negative : Bool) (whole places : Bytes) (exponent : Int) : Option Float :=
  let (n, above) := significand 0 whole
  let (n, unused) := significand n places
  (Decimal.scaled? n.toUInt64 (exponent + above - (places.length - unused : Nat))).map
    fun x => if negative then -x else x

/-- The value of a number. A whole number of up to 64 bits is kept as it is; a
negative zero is no whole number. -/
def numberOf (negative : Bool) (whole places : Bytes) : Option Int → Value
  | some exponent => .float (floatOf negative whole places exponent)
  | none =>
    let n := ofDigits whole
    if places = [] ∧ negative = false ∧ n < UInt64.size then .natural n
    else if places = [] ∧ negative = true ∧ 0 < n ∧ 2 * n ≤ UInt64.size then .negative n
    else .float (floatOf negative whole places 0)

/-- A number and what follows it. A zero is the only number that begins with
one. -/
def number (negative : Bool) (bytes : Bytes) : Option (Value × Bytes) := do
  let (whole, rest) := span bytes
  guard (whole ≠ [] ∧ (whole.head? = some 0x30 → whole.length = 1))
  let (places, rest) ← fraction rest
  let (exponent, rest) ← exponent rest
  return (numberOf negative whole places exponent, rest)

/-! ### Values -/

def afterWord (word : String) (bytes : Bytes) : Option Bytes :=
  let expected := Text.utf8 word
  if expected.isPrefixOf bytes then some (bytes.drop expected.length) else none

mutual

/-- A value, possibly behind blanks, and what follows it. -/
def value : Nat → Bytes → Option (Value × Bytes)
  | 0, _ => none
  | fuel + 1, bytes =>
    match dropBlanks bytes with
    | [] => none
    | b :: rest =>
      if b = 0x22 then (literal rest).map fun (text, after) => (.string text, after)
      else if b = 0x5b then
        match dropBlanks rest with
        | 0x5d :: after => some (.array [], after)
        | _ => (items fuel rest).map fun (list, after) => (.array list, after)
      else if b = 0x7b then
        match dropBlanks rest with
        | 0x7d :: after => some (.object [], after)
        | _ => (members fuel rest).map fun (list, after) => (.object list, after)
      else if b = 0x2d then number true rest
      else if isDigit b then number false (b :: rest)
      else if b = 0x6e then (afterWord "null" (b :: rest)).map (.null, ·)
      else if b = 0x74 then (afterWord "true" (b :: rest)).map (.bool true, ·)
      else if b = 0x66 then (afterWord "false" (b :: rest)).map (.bool false, ·)
      else none

/-- The items of an array up to its closing bracket. -/
def items : Nat → Bytes → Option (List Value × Bytes)
  | 0, _ => none
  | fuel + 1, bytes =>
    match value fuel bytes with
    | none => none
    | some (item, rest) =>
      match dropBlanks rest with
      | 0x2c :: after => (items fuel after).map fun (list, after) => (item :: list, after)
      | 0x5d :: after => some ([item], after)
      | _ => none

/-- The members of an object up to its closing bracket. -/
def members : Nat → Bytes → Option (List (Option String × Value) × Bytes)
  | 0, _ => none
  | fuel + 1, bytes =>
    match dropBlanks bytes with
    | 0x22 :: rest =>
      match literal rest with
      | none => none
      | some (name, rest) =>
        match dropBlanks rest with
        | 0x3a :: rest =>
          match value fuel rest with
          | none => none
          | some (item, rest) =>
            match dropBlanks rest with
            | 0x2c :: after =>
              (members fuel after).map fun (list, after) => ((name, item) :: list, after)
            | 0x7d :: after => some ([(name, item)], after)
            | _ => none
        | _ => none
    | _ => none

end

/-- The value that a whole text writes. Each level of nesting takes two steps,
and takes up two bytes. -/
def parse (bytes : Bytes) : Option Value :=
  match value (2 * bytes.length + 2) bytes with
  | some (v, rest) => if dropBlanks rest = [] then some v else none
  | none => none

end MultiWallet.Json
