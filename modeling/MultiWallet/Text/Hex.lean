import MultiWallet.Text.Quoted

/-!
Bytes written as pairs of hexadecimal digits. Writing uses lower case; reading
takes either case and tells why a text is no row of pairs.
-/

namespace MultiWallet.Hex

/-- The lower-case digit of a value below sixteen. -/
def digit (value : Nat) : Char := Nat.digitChar value

/-- The value of a digit of either case. -/
def value? (byte : UInt8) : Option UInt8 :=
  if 48 ≤ byte ∧ byte ≤ 57 then some (byte - 48)
  else if 97 ≤ byte ∧ byte ≤ 102 then some (byte - 87)
  else if 65 ≤ byte ∧ byte ≤ 70 then some (byte - 55)
  else none

def pair (byte : UInt8) : List Char :=
  [digit (byte.toNat / 16), digit (byte.toNat % 16)]

def encode (bytes : Bytes) : String := String.ofList (bytes.flatMap pair)

/-- Why a text is no row of hexadecimal pairs. -/
inductive Fault where
  /-- A digit stands without a partner. -/
  | oddLength
  /-- The byte at a position is no digit. -/
  | badDigit (byte : UInt8) (position : Nat)
deriving DecidableEq

/-- The wording of a fault. A byte is shown as the character of its number. -/
def Fault.message : Fault → String
  | .oddLength => "Odd number of digits"
  | .badDigit byte position =>
    "Invalid character " ++ Text.quotedChar (Char.ofNat byte.toNat) ++ " at position "
      ++ toString position

/-- Reads pairs from a position on. -/
def decodeFrom (position : Nat) : Bytes → Except Fault Bytes
  | high :: low :: rest =>
    match value? high, value? low with
    | none, _ => .error (.badDigit high position)
    | some _, none => .error (.badDigit low (position + 1))
    | some h, some l => (decodeFrom (position + 2) rest).map ((h * 16 + l) :: ·)
  | _ => .ok []

/-- Reads bytes from hexadecimal. An odd length is found before any bad digit. -/
def decode (text : String) : Except Fault Bytes :=
  let digits := Text.utf8 text
  if digits.length % 2 = 1 then .error .oddLength else decodeFrom 0 digits

end MultiWallet.Hex
