import MultiWallet.Time.Calendar

/-!
Instants of universal time, given by their calendar date and the time of day.
The sixtieth second of a minute is a leap second. Dates reach some 262 thousand
years in both directions.
-/

namespace MultiWallet

namespace Time

/-- Whether numbers are a date and a time of day that instants reach. -/
def Valid (year : Int) (month day hour minute second nano : Nat) : Prop :=
  (-262143 ≤ year ∧ year ≤ 262142) ∧ (1 ≤ month ∧ month ≤ 12) ∧
    (1 ≤ day ∧ day ≤ daysInMonth year month) ∧ hour ≤ 23 ∧ minute ≤ 59 ∧ second ≤ 60 ∧
    nano < 1000000000

instance (year : Int) (month day hour minute second nano : Nat) :
    Decidable (Valid year month day hour minute second nano) :=
  inferInstanceAs (Decidable (_ ∧ _))

end Time

structure Instant where
  year : Int
  month : Nat
  day : Nat
  hour : Nat
  minute : Nat
  second : Nat
  nano : Nat
  valid : Time.Valid year month day hour minute second nano
deriving DecidableEq

namespace Instant

/-- The instant with the given date and time of day, if there is one. -/
def ofFields? (year : Int) (month day hour minute second nano : Nat) : Option Instant :=
  if h : Time.Valid year month day hour minute second nano then
    some ⟨year, month, day, hour, minute, second, nano, h⟩
  else none

@[simp] theorem ofFields?_self (t : Instant) :
    ofFields? t.year t.month t.day t.hour t.minute t.second t.nano = some t := by
  simp [ofFields?, t.valid]

def epoch : Instant := ⟨1970, 1, 1, 0, 0, 0, 0, by decide⟩

def last : Instant := ⟨262142, 12, 31, 23, 59, 59, 999999999, by decide⟩

/-- Nanoseconds from the epoch on. A leap second counts as the first second of
the next minute. -/
def toUnixNanos (t : Instant) : Int :=
  ((Time.dayNumber t.year t.month t.day * 24 + t.hour) * 60 + t.minute) * 60000000000
    + t.second * 1000000000 + t.nano

def ofUnixNanos? (nanos : Int) : Option Instant :=
  let (year, month, day) := Time.dateOfDay (nanos / 86400000000000)
  let ofDay := (nanos % 86400000000000).toNat
  ofFields? year month day (ofDay / 3600000000000) (ofDay / 60000000000 % 60)
    (ofDay / 1000000000 % 60) (ofDay % 1000000000)

def toUnixMillis (t : Instant) : Int := t.toUnixNanos / 1000000

def ofUnixMillis? (millis : Int) : Option Instant := ofUnixNanos? (millis * 1000000)

/-- The order of time, by the first field that differs. -/
def compare (a b : Instant) : Ordering :=
  (Ord.compare a.year b.year).then <| (Ord.compare a.month b.month).then <|
    (Ord.compare a.day b.day).then <| (Ord.compare a.hour b.hour).then <|
    (Ord.compare a.minute b.minute).then <| (Ord.compare a.second b.second).then <|
    Ord.compare a.nano b.nano

instance : Ord Instant := ⟨compare⟩

end Instant

end MultiWallet
