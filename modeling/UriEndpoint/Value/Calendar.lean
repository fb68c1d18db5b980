import UriEndpoint.Decimal.Layout

/-!
# Dates and times of day

Configuration files hold dates, times of day and moments as values of their own. A moment has an
offset from universal time or leaves it open. All are written in the international form, the
fraction of a second with six digits when it is not zero.
-/

namespace UriEndpoint

/-- A day of the calendar. -/
structure Date where
  year : Nat
  month : Nat
  day : Nat
deriving DecidableEq, Repr

/-- A time of day. -/
structure ClockTime where
  hour : Nat
  minute : Nat
  second : Nat
  microsecond : Nat
deriving DecidableEq, Repr

namespace Date

/-- Whether a year has a leap day. -/
def isLeapYear (year : Nat) : Bool := year % 4 == 0 && (year % 100 != 0 || year % 400 == 0)

/-- The number of days of a month. -/
def daysInMonth (year month : Nat) : Nat :=
  match month with
  | 2 => if isLeapYear year then 29 else 28
  | 4 | 6 | 9 | 11 => 30
  | _ => 31

/-- Whether the day is on the calendar. -/
def isValid (date : Date) : Bool :=
  1 ≤ date.year && 1 ≤ date.month && date.month ≤ 12 && 1 ≤ date.day
    && date.day ≤ daysInMonth date.year date.month

/-- The day as year, month and day with hyphens. -/
def text (date : Date) : Text :=
  paddedNat 4 date.year ++ '-' :: paddedNat 2 date.month ++ '-' :: paddedNat 2 date.day

end Date

/-- The time as hour, minute and second with colons, and a fraction when it is not zero. -/
def ClockTime.text (time : ClockTime) : Text :=
  paddedNat 2 time.hour ++ ':' :: paddedNat 2 time.minute ++ ':' :: paddedNat 2 time.second ++
    if time.microsecond = 0 then [] else '.' :: paddedNat 6 time.microsecond

/-- An offset from universal time, given in minutes. -/
def offsetText (offset : Int) : Text :=
  (if offset < 0 then '-' else '+') ::
    paddedNat 2 (offset.natAbs / 60) ++ ':' :: paddedNat 2 (offset.natAbs % 60)

/-- A day and a time of day, with the offset when it is known. -/
def momentText (date : Date) (time : ClockTime) (offset : Option Int) : Text :=
  date.text ++ 'T' :: time.text ++ (offset.map offsetText).getD []

end UriEndpoint
