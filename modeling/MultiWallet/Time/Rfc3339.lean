import MultiWallet.Text.Bytes
import MultiWallet.Text.Ranges
import MultiWallet.Time.Instant

/-!
Instants written as RFC 3339 texts. Writing uses universal time and as many
fraction digits as are needed out of none, three, six and nine; a year beyond
four digits carries its sign.

Reading is lenient. Blanks may stand before every number and around the signs
between them, numbers may be shorter than usual, a blank may separate date and
time, and any offset below a day is taken and subtracted.
-/

namespace MultiWallet

namespace Time

/-- A year: four digits, or a sign and at least four. -/
def yearText (year : Int) : String :=
  if 0 ≤ year ∧ year ≤ 9999 then Text.padded 4 year.toNat
  else (if year < 0 then "-" else "+") ++ Text.padded 4 year.natAbs

/-- The fraction of a second with its point, or nothing. -/
def fractionText (nano : Nat) : String :=
  if nano = 0 then ""
  else if nano % 1000000 = 0 then "." ++ Text.padded 3 (nano / 1000000)
  else if nano % 1000 = 0 then "." ++ Text.padded 6 (nano / 1000)
  else "." ++ Text.padded 9 nano

/-! ### Reading

Each reader takes the characters that are left and gives back what remains. -/

/-- Between one and `most` digits, possibly behind blanks. -/
def number? (most : Nat) (text : List Char) : Option (Nat × List Char) :=
  let text := Text.dropBlanks text
  match (text.take most).takeWhile Char.isDigit with
  | [] => none
  | digits => some (Nat.ofDigitChars 10 digits 0, text.drop digits.length)

/-- A mark, possibly behind blanks. -/
def mark? (mark : Char) (text : List Char) : Option (List Char) :=
  match Text.dropBlanks text with
  | c :: rest => if c = mark then some rest else none
  | [] => none

/-- A year: a sign and any number of digits, or up to four digits. -/
def year? (text : List Char) : Option (Int × List Char) :=
  match Text.dropBlanks text with
  | '-' :: rest =>
    if rest.head?.any Char.isDigit then
      (number? rest.length rest).map fun (n, after) => (-(n : Int), after)
    else none
  | '+' :: rest =>
    if rest.head?.any Char.isDigit then
      (number? rest.length rest).map fun (n, after) => ((n : Int), after)
    else none
  | text => (number? 4 text).map fun (n, after) => ((n : Int), after)

def separator? : List Char → Option (List Char)
  | c :: rest => if c = 'T' ∨ c = 't' ∨ c = ' ' then some rest else none
  | [] => none

/-- A fraction in nanoseconds. Digits after the ninth are passed over; no point
means none. -/
def fraction? : List Char → Option (Nat × List Char)
  | '.' :: rest =>
    match rest.takeWhile Char.isDigit with
    | [] => none
    | digits =>
      let kept := digits.take 9
      some (Nat.ofDigitChars 10 kept 0 * Nat.pow 10 (9 - kept.length), rest.dropWhile Char.isDigit)
  | text => some (0, text)

/-- Two digits at the very head. -/
def twoDigits? : List Char → Option (Nat × List Char)
  | a :: b :: rest =>
    if a.isDigit ∧ b.isDigit then some (Nat.ofDigitChars 10 [a, b] 0, rest) else none
  | _ => none

/-- Hours and minutes of an offset, with colons or blanks between them. -/
def offsetMinutes? (text : List Char) : Option (Nat × List Char) := do
  let (hours, rest) ← twoDigits? text
  let (minutes, rest) ← twoDigits? (rest.dropWhile fun c => c == ':' || Text.isBlank c)
  guard (minutes < 60 ∧ hours * 60 + minutes < 1440)
  return (hours * 60 + minutes, rest)

/-- An offset from universal time in minutes. -/
def offset? (text : List Char) : Option (Int × List Char) :=
  match text with
  | [] => none
  | c :: rest =>
    if (text.take 3).map Char.toUpper = ['U', 'T', 'C'] then some (0, text.drop 3)
    else if c = 'Z' ∨ c = 'z' then some (0, rest)
    else if c = '+' then (offsetMinutes? rest).map fun (n, after) => ((n : Int), after)
    else if c = '-' ∨ c = '\u2212' then
      (offsetMinutes? rest).map fun (n, after) => (-(n : Int), after)
    else none

end Time

namespace Instant

/-- An instant in universal time. -/
def text (t : Instant) : String :=
  Time.yearText t.year ++ "-" ++ Text.padded 2 t.month ++ "-" ++ Text.padded 2 t.day ++ "T"
    ++ Text.padded 2 t.hour ++ ":" ++ Text.padded 2 t.minute ++ ":" ++ Text.padded 2 t.second
    ++ Time.fractionText t.nano ++ "Z"

/-- The instant a number of minutes earlier. Seconds stay as they are, and the
date changes only when midnight is passed. -/
def earlierBy? (minutes : Int) (t : Instant) : Option Instant :=
  let ofDay : Int := t.hour * 60 + t.minute - minutes
  let hour := (ofDay % 1440 / 60).toNat
  let minute := (ofDay % 60).toNat
  let days := ofDay / 1440
  if days = 0 then ofFields? t.year t.month t.day hour minute t.second t.nano
  else
    let (year, month, day) := Time.dateOfDay (Time.dayNumber t.year t.month t.day + days)
    ofFields? year month day hour minute t.second t.nano

def ofText? (text : String) : Option Instant := do
  let (year, rest) ← Time.year? text.toList
  let rest ← Time.mark? '-' rest
  let (month, rest) ← Time.number? 2 rest
  let rest ← Time.mark? '-' rest
  let (day, rest) ← Time.number? 2 rest
  let rest ← Time.separator? rest
  let (hour, rest) ← Time.number? 2 rest
  let rest ← Time.mark? ':' rest
  let (minute, rest) ← Time.number? 2 rest
  let rest ← Time.mark? ':' rest
  let (second, rest) ← Time.number? 2 rest
  let (nano, rest) ← Time.fraction? rest
  let (offset, rest) ← Time.offset? (Text.dropBlanks rest)
  guard (Text.dropBlanks rest = [])
  let t ← ofFields? year month day hour minute second nano
  t.earlierBy? offset

end Instant

end MultiWallet
