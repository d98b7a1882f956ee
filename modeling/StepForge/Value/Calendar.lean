import StepForge.Text.Basic

/-!
# `StepForge.Value.Calendar` — dates and times of the proleptic Gregorian calendar

## Contents
- `Date`, `Clock`, `Moment` — a date, a time of day, and both with an optional offset.
- `Date.check`, `Clock.check`, `checkOffset` — the faults of impossible values.
- `Moment.instant` — microseconds since the first day, for comparing moments with offsets.
- The written forms, and the spelled-out forms used inside lists.
-/

namespace StepForge

/-- A calendar date. -/
structure Date where
  year : Nat
  month : Nat
  day : Nat
  deriving DecidableEq

/-- A time of day. -/
structure Clock where
  hour : Nat
  minute : Nat
  second : Nat
  microsecond : Nat
  deriving DecidableEq

/-- A date with a time of day and, if known, the offset from universal time in seconds. -/
structure Moment where
  date : Date
  clock : Clock
  offset : Option Int
  deriving DecidableEq

/-- What is impossible about a date, a time or an offset. -/
inductive CalendarFault where
  | year (given : Nat)
  | month
  | day
  | hour
  | minute
  | second
  | offset (seconds : Int)
  deriving DecidableEq

/-- Whether a year has a 29th of February. -/
def Date.isLeapYear (year : Nat) : Bool := year % 4 == 0 && (year % 100 != 0 || year % 400 == 0)

/-- The number of days of a month. -/
def Date.monthLength (year month : Nat) : Nat :=
  if month = 2 then (if isLeapYear year then 29 else 28)
  else if month = 4 || month = 6 || month = 9 || month = 11 then 30
  else 31

/-- The first fault of a date. -/
def Date.check (d : Date) : Except CalendarFault Unit :=
  if d.year = 0 then .error (.year d.year)
  else if d.month = 0 || 12 < d.month then .error .month
  else if d.day = 0 || monthLength d.year d.month < d.day then .error .day
  else .ok ()

/-- The first fault of a time of day. -/
def Clock.check (c : Clock) : Except CalendarFault Unit :=
  if 23 < c.hour then .error .hour
  else if 59 < c.minute then .error .minute
  else if 59 < c.second then .error .second
  else .ok ()

/-- An offset is less than a day either way. -/
def checkOffset (seconds : Int) : Except CalendarFault Unit :=
  if seconds.natAbs < 86400 then .ok () else .error (.offset seconds)

/-- The days before a date, counted from the first day of year 1. -/
def Date.dayNumber (d : Date) : Nat :=
  let y := d.year - 1
  let months := (List.range (d.month - 1)).foldl (fun n m => n + monthLength d.year (m + 1)) 0
  y * 365 + y / 4 - y / 100 + y / 400 + months + d.day

/-- Microseconds on the universal time scale; a moment without offset is taken as universal. -/
def Moment.instant (m : Moment) : Int :=
  let seconds : Nat := m.date.dayNumber * 86400 + m.clock.hour * 3600 + m.clock.minute * 60 + m.clock.second
  ((seconds : Int) - m.offset.getD 0) * 1000000 + m.clock.microsecond

/-- Whether two moments are one: both without offset and equal, or both with offset and simultaneous. -/
def Moment.same (a b : Moment) : Bool :=
  a.offset.isSome == b.offset.isSome && a.instant == b.instant

/-! ## Written forms -/

/-- A number with at least `width` digits. -/
def paddedNumber (width n : Nat) : Text := Text.padLeft width '0'.toNat (Text.ofNat n)

/-- Year, month and day with hyphens. -/
def Date.text (d : Date) : Text :=
  Text.join "-" [paddedNumber 4 d.year, paddedNumber 2 d.month, paddedNumber 2 d.day]

/-- Hours, minutes and seconds with colons, and the fraction if there is one. -/
def Clock.text (c : Clock) : Text :=
  Text.join ":" [paddedNumber 2 c.hour, paddedNumber 2 c.minute, paddedNumber 2 c.second]
    ++ (if c.microsecond = 0 then [] else '.'.toNat :: paddedNumber 6 c.microsecond)

/-- A sign, hours and minutes. -/
def offsetText (seconds : Int) : Text :=
  let minutes := seconds.natAbs / 60
  (if seconds < 0 then "-" else "+" : Text)
    ++ Text.join ":" [paddedNumber 2 (minutes / 60), paddedNumber 2 (minutes % 60)]

/-- The date, a space, the time and the offset. -/
def Moment.text (m : Moment) : Text :=
  m.date.text ++ ' '.toNat :: m.clock.text ++ (m.offset.map offsetText).getD []

/-- A span of seconds as days and the remaining seconds of a day. -/
def spanText (seconds : Int) : Text :=
  let days := seconds.fdiv 86400
  let rest := seconds.fmod 86400
  let parts : List Text :=
    (if days = 0 then [] else [("days=" : Text) ++ Text.ofInt days])
      ++ (if rest = 0 then [] else [("seconds=" : Text) ++ Text.ofInt rest])
  ("datetime.timedelta(" : Text) ++ (if parts.isEmpty then "0" else Text.join ", " parts : Text) ++ ")"

/-- The spelled-out form of a date. -/
def Date.spelled (d : Date) : Text :=
  ("datetime.date(" : Text)
    ++ Text.join ", " [Text.ofNat d.year, Text.ofNat d.month, Text.ofNat d.day] ++ ")"

/-- The spelled-out form of a moment: seconds are left out when they and the fraction are zero. -/
def Moment.spelled (m : Moment) : Text :=
  let c := m.clock
  let numbers := [m.date.year, m.date.month, m.date.day, c.hour, c.minute]
    ++ (if c.microsecond != 0 then [c.second, c.microsecond]
        else if c.second != 0 then [c.second] else [])
  let zone : List Text := match m.offset with
    | none => []
    | some s =>
        [("tzinfo=" : Text) ++ (if s = 0 then ("datetime.timezone.utc" : Text)
          else ("datetime.timezone(" : Text) ++ spanText s ++ ")")]
  ("datetime.datetime(" : Text) ++ Text.join ", " (numbers.map Text.ofNat ++ zone) ++ ")"

/-- The text of a fault. -/
def CalendarFault.message : CalendarFault → Text
  | .year given => ("year " : Text) ++ Text.ofNat given ++ " is out of range"
  | .month => "month must be in 1..12"
  | .day => "day is out of range for month"
  | .hour => "hour must be in 0..23"
  | .minute => "minute must be in 0..59"
  | .second => "second must be in 0..59"
  | .offset seconds =>
      ("offset must be a timedelta strictly between -timedelta(hours=24) and timedelta(hours=24), not " : Text)
        ++ spanText seconds ++ "."

end StepForge
