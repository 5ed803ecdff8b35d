import CjkProse.Text.Basic

/-!
# Dates and times

Dates and times as settings files hold them.  They are checked and shown, nothing more.

## Main definitions

* `Date`, `Clock`, `Moment` — a day, a time of day, and both with the distance to universal time.
* `Date.isValid`, `Clock.isValid` — whether there is such a day or time.
* `Date.render`, `Clock.render`, `Moment.render` — how they are shown.
-/

namespace CjkProse

/-- The last digits of a number, as many as asked for. -/
def padded (width n : Nat) : Text :=
  let digits := Text.ofNat n
  List.replicate (width - digits.length) '0' ++ digits

/-- A day. -/
structure Date where
  /-- The year. -/
  year : Nat
  /-- The month, from 1. -/
  month : Nat
  /-- The day of the month, from 1. -/
  day : Nat
  deriving DecidableEq, Repr, Inhabited

namespace Date

/-- Whether a year has a leap day. -/
def isLeap (year : Nat) : Bool := year % 4 == 0 && (year % 100 != 0 || year % 400 == 0)

/-- The number of days of a month. -/
def daysIn (year month : Nat) : Nat :=
  if month = 2 then if isLeap year then 29 else 28
  else if [4, 6, 9, 11].contains month then 30
  else 31

/-- Whether there is such a day. -/
def isValid (d : Date) : Bool :=
  1 ≤ d.year && 1 ≤ d.month && d.month ≤ 12 && 1 ≤ d.day && d.day ≤ daysIn d.year d.month

/-- A day as it is shown. -/
def render (d : Date) : Text :=
  padded 4 d.year ++ '-' :: padded 2 d.month ++ '-' :: padded 2 d.day

/-- The day after. -/
def next (d : Date) : Date :=
  if d.day < daysIn d.year d.month then { d with day := d.day + 1 }
  else if d.month < 12 then ⟨d.year, d.month + 1, 1⟩
  else ⟨d.year + 1, 1, 1⟩

end Date

/-- A time of day. -/
structure Clock where
  /-- The hour. -/
  hour : Nat
  /-- The minute. -/
  minute : Nat
  /-- The second. -/
  second : Nat
  /-- The millionths of a second. -/
  micros : Nat
  deriving DecidableEq, Repr, Inhabited

namespace Clock

/-- Whether there is such a time. -/
def isValid (c : Clock) : Bool := c.hour < 24 && c.minute < 60 && c.second < 60

/-- A time as it is shown, the fraction only if there is one. -/
def render (c : Clock) : Text :=
  padded 2 c.hour ++ ':' :: padded 2 c.minute ++ ':' :: padded 2 c.second ++
    (if c.micros = 0 then [] else '.' :: padded 6 c.micros)

/-- The millionths that the digits of a fraction write; those after the sixth do not count. -/
def microsOf (fraction : Text) : Nat :=
  let six := (fraction ++ List.replicate 6 '0').take 6
  six.foldl (fun n c => 10 * n + (c.toNat - 0x30)) 0

end Clock

/-- A time of a day, and how many minutes it is ahead of universal time, if that is known. -/
structure Moment where
  /-- The day. -/
  date : Date
  /-- The time. -/
  clock : Clock
  /-- The minutes ahead of universal time. -/
  ahead : Option Int
  deriving DecidableEq, Repr, Inhabited

namespace Moment

/-- The distance to universal time as it is shown. -/
def renderAhead (minutes : Int) : Text :=
  let n := minutes.natAbs
  (if minutes < 0 then '-' else '+') :: padded 2 (n / 60) ++ ':' :: padded 2 (n % 60)

/-- A moment as it is shown. -/
def render (m : Moment) : Text :=
  m.date.render ++ ' ' :: m.clock.render ++ (m.ahead.map renderAhead).getD []

end Moment

example : Moment.render ⟨⟨1979, 5, 27⟩, ⟨7, 32, 0, 1500⟩, some (-90)⟩ =
    "1979-05-27 07:32:00.001500-01:30".toList := by decide

end CjkProse
