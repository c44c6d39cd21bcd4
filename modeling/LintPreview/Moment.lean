import LintPreview.Number.Shortest

/-!
Dates and times.

* `Moment`: a day, or a day with a time and an optional offset from universal time.
* `Moment.text`: the digits in the usual order, with a chosen mark between day and time.
* `Moment.same`: whether two moments are equal; times with offsets are compared in universal time.
-/

namespace LintPreview

/-- A day of the common calendar. -/
structure Day where
  year : Nat
  month : Nat
  day : Nat
deriving DecidableEq, Repr, Inhabited

/-- A time of day, down to microseconds. -/
structure Clock where
  hour : Nat
  minute : Nat
  second : Nat
  micro : Nat := 0
deriving DecidableEq, Repr, Inhabited

/-- A day, or a time on a day with an offset in minutes from universal time if it has one. -/
inductive Moment where
  | day (d : Day)
  | time (d : Day) (c : Clock) (offset : Option Int)
deriving DecidableEq, Repr

namespace Day

/-- Whether a year has a leap day. -/
def isLeap (year : Nat) : Bool := year % 4 == 0 && (year % 100 != 0 || year % 400 == 0)

/-- The number of days in a month. -/
def monthLength (year month : Nat) : Nat :=
  if month = 2 then (if isLeap year then 29 else 28)
  else if month = 4 ∨ month = 6 ∨ month = 9 ∨ month = 11 then 30 else 31

/-- Days in the years before `year`. -/
def daysBeforeYear (year : Nat) : Nat :=
  let y := year - 1
  y * 365 + y / 4 - y / 100 + y / 400

/-- Days of a year before a month. -/
def daysBeforeMonth (year : Nat) : (month : Nat) → Nat
  | 0 => 0
  | 1 => 0
  | m + 2 => daysBeforeMonth year (m + 1) + monthLength year (m + 1)

/-- The number of a day, counted from the first day of the year one. -/
def number (d : Day) : Nat := daysBeforeYear d.year + daysBeforeMonth d.year d.month + d.day

/-- The month and day of a day of the year, counted from zero. -/
def monthOf (year : Nat) : (fuel month rest : Nat) → Nat × Nat
  | 0, month, rest => (month, rest + 1)
  | fuel + 1, month, rest =>
    if rest < monthLength year month then (month, rest + 1)
    else monthOf year fuel (month + 1) (rest - monthLength year month)

/-- The day with a number. -/
def ofNumber (n : Nat) : Day :=
  let guess := (n - 1) / 366 + 1
  let year := findYear 30 guess
  let (month, day) := monthOf year 12 1 (n - 1 - daysBeforeYear year)
  ⟨year, month, day⟩
where
  /-- The last year that starts at or before the day. -/
  findYear : (fuel year : Nat) → Nat
    | 0, year => year
    | fuel + 1, year => if daysBeforeYear (year + 1) < n then findYear fuel (year + 1) else year

end Day

namespace Moment

/-- A number with zeros in front. -/
def pad (width n : Nat) : Text := Text.ofList (Binary64.padded width n)

/-- The text of a day. -/
def dayText (d : Day) : Text := pad 4 d.year ++ "-" ++ pad 2 d.month ++ "-" ++ pad 2 d.day

/-- The text of an offset. -/
def offsetText (minutes : Int) : Text :=
  (if minutes < 0 then "-" else "+") ++ pad 2 (minutes.natAbs / 60) ++ ":" ++ pad 2 (minutes.natAbs % 60)

/-- The text of a time of day. -/
def clockText (c : Clock) : Text :=
  pad 2 c.hour ++ ":" ++ pad 2 c.minute ++ ":" ++ pad 2 c.second ++
    (if c.micro = 0 then Text.empty else "." ++ pad 6 c.micro)

/-- The text of a moment, with `mark` between day and time. -/
def text (mark : Text) : Moment → Text
  | .day d => dayText d
  | .time d c offset => dayText d ++ mark ++ clockText c ++ ((offset.map offsetText).getD Text.empty)

/-- Microseconds from the first day of the year one to a time of day. -/
def instant (d : Day) (c : Clock) : Int :=
  ((((d.number * 24 + c.hour) * 60 + c.minute) * 60 + c.second) * 1000000 + c.micro : Nat)

/-- Whether two moments are equal. -/
def same : Moment → Moment → Bool
  | .time d c (some o), .time d' c' (some o') =>
    instant d c - o * 60000000 == instant d' c' - o' * 60000000
  | a, b => a == b

end Moment

end LintPreview
