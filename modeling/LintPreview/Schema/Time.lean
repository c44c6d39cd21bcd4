import LintPreview.Moment
import LintPreview.Schema.Checked

/-!
Moments in checked values.

* `Moment.ofText`: a moment written as day, mark and time of day, with an optional offset from universal time.
* `Moment.ofStamp`: a moment as seconds since 1970; a great number counts as milliseconds.
* `Checked.moment`: the reader of a member that holds a moment.
* `Moment.snapshotText`: the text of a moment in a snapshot.
-/

namespace LintPreview

namespace Moment

/-! ### Timestamps -/

/-- Why there is no moment: the calendar of moments begins with the year one, and nothing else is read. -/
inductive Fault where
  | unreadable
  | yearZero
deriving DecidableEq, Repr

/-- Up to this many, a timestamp counts seconds. -/
def mostSeconds : Nat := 20000000000

/-- The first second that is read: the start of the year zero. -/
def firstSecond : Int := -62167219200

/-- The first second of the year one. -/
def firstSecondOfYearOne : Int := -62135596800

/-- The last second that is read: the end of the year 9999. -/
def lastSecond : Int := 253402300799

/-- The number of the first day of 1970. -/
def epochDay : Nat := Day.number ⟨1970, 1, 1⟩

/-- The time of day after so many seconds. -/
def clockOfSeconds (seconds micro : Nat) : Clock := ⟨seconds / 3600, seconds / 60 % 60, seconds % 60, micro⟩

/-- The universal time so many microseconds after the start of 1970. -/
def ofMicros (micros : Int) : Except Fault Moment :=
  let seconds := micros.fdiv 1000000
  if seconds < firstSecond ∨ lastSecond < seconds then .error .unreadable
  else if seconds < firstSecondOfYearOne then .error .yearZero
  else .ok (.time (.ofNumber (epochDay + seconds.fdiv 86400).toNat)
    (clockOfSeconds (seconds.fmod 86400).toNat (micros.fmod 1000000).toNat) (some 0))

/-- The moment of a whole timestamp: seconds, or milliseconds if it is great. -/
def ofWholeStamp (stamp : Int) : Except Fault Moment :=
  ofMicros (stamp * (if stamp.natAbs ≤ mostSeconds then 1000000 else 1000))

/-- A number rounded to the nearest whole one, halves upwards. -/
def roundHalfUp (x : Binary64) : Nat :=
  match x.ratio? with
  | some (_, num, den) => (2 * num + den) / (2 * den)
  | none => 0

/-- The moment of a timestamp with a fraction. The fraction counts from the whole number below. -/
def ofStamp (x : Binary64) : Except Fault Moment :=
  match x.ratio? with
  | none => .error .unreadable
  | some (negative, num, den) =>
    let floor : Int := (Binary64.signed negative num).fdiv den
    let fraction := Binary64.ofRatio false (((Binary64.signed negative num).fmod den).toNat) den
    let micros : Nat := if num ≤ mostSeconds * den then 1000000 else 1000
    ofMicros (floor * micros + roundHalfUp (fraction.mul (.ofInt micros)))

/-! ### Texts -/

/-- Exactly `n` digits at the start of a text, as a number, and the rest. -/
def takeNumber? : (n : Nat) → (sofar : Nat) → List CodePoint → Option (Nat × List CodePoint)
  | 0, sofar, cs => some (sofar, cs)
  | n + 1, sofar, c :: rest => if c.isDigit then takeNumber? n (sofar * 10 + (c.toNat - 48)) rest else none
  | _ + 1, _, [] => none

/-- A given character at the start of a text. -/
def takeMark? (c : CodePoint) : List CodePoint → Option (List CodePoint)
  | x :: rest => if x = c then some rest else none
  | [] => none

/-- A day at the start of a text. -/
def takeDay? (cs : List CodePoint) : Option (Day × List CodePoint) := do
  let (year, cs) ← takeNumber? 4 0 cs
  let (month, cs) ← takeNumber? 2 0 (← takeMark? '-' cs)
  let (date, cs) ← takeNumber? 2 0 (← takeMark? '-' cs)
  if month = 0 ∨ 12 < month ∨ date = 0 ∨ Day.monthLength year month < date then none
  else some (⟨year, month, date⟩, cs)

/-- Digits of a second's fraction as microseconds; digits beyond the sixth are dropped. -/
def microOfDigits (ds : List CodePoint) : Nat :=
  (List.range 6).foldl (fun n i => n * 10 + ((ds[i]?).map fun c => c.toNat - 48).getD 0) 0

/-- The fraction of a second at the start of a text. -/
def takeFraction? : List CodePoint → Option (Nat × List CodePoint)
  | c :: rest =>
    if c = '.' ∨ c = ',' then
      let ds := rest.takeWhile CodePoint.isDigit
      if ds.isEmpty then none else some (microOfDigits ds, rest.dropWhile CodePoint.isDigit)
    else some (0, c :: rest)
  | [] => some (0, [])

/-- A time of day at the start of a text; the seconds may be left out. -/
def takeClock? (cs : List CodePoint) : Option (Clock × List CodePoint) := do
  let (hour, cs) ← takeNumber? 2 0 cs
  let (minute, cs) ← takeNumber? 2 0 (← takeMark? ':' cs)
  if 23 < hour ∨ 59 < minute then none
  else match takeMark? ':' cs with
    | none => some (⟨hour, minute, 0, 0⟩, cs)
    | some cs => do
      let (second, cs) ← takeNumber? 2 0 cs
      let (micro, cs) ← takeFraction? cs
      if 59 < second then none else some (⟨hour, minute, second, micro⟩, cs)

/-- An offset from universal time that ends a text; nothing means that there is none. -/
def offset? : List CodePoint → Option (Option Int)
  | [] => some none
  | ['Z'] => some (some 0)
  | ['z'] => some (some 0)
  | sign :: cs => do
    if sign ≠ '+' ∧ sign ≠ '-' ∧ sign ≠ '−' then none
    let (hours, cs) ← takeNumber? 2 0 cs
    let (minutes, cs) ← takeNumber? 2 0 ((takeMark? ':' cs).getD cs)
    let all := hours * 60 + minutes
    if 59 < minutes ∨ 1439 < all ∨ !cs.isEmpty then none
    else some (some (if sign = '+' then (all : Int) else -(all : Int)))

/-- The marks between a day and a time of day. -/
def isDayEnd (c : CodePoint) : Bool := c == 'T' || c == 't' || c == ' ' || c == '_'

/-- A moment in a text: a day alone is its midnight. -/
def ofDayText? (cs : List CodePoint) : Option Moment := do
  let (d, cs) ← takeDay? cs
  match cs with
  | [] => some (.time d ⟨0, 0, 0, 0⟩ none)
  | c :: cs =>
    if isDayEnd c then do
      let (clock, cs) ← takeClock? cs
      let offset ← offset? cs
      some (.time d clock offset)
    else none

/-- A timestamp in a text: digits with a sign and perhaps a fraction; the digits in front of the point may be left
out. -/
def ofStampText? (s : Text) : Option (Except Fault Moment) :=
  let body := (Literal.splitSign s.toList).2
  match body.dropWhile CodePoint.isDigit with
  | [] => (Literal.readInt 10 s).toOption.map ofWholeStamp
  | '.' :: fraction =>
    if fraction.all CodePoint.isDigit then (Literal.readFloat s).toOption.map ofStamp else none
  | _ => none

/-- A moment in the calendar. -/
def inCalendar : Moment → Except Fault Moment
  | .day d => if d.year = 0 then .error .yearZero else .ok (.day d)
  | .time d c offset => if d.year = 0 then .error .yearZero else .ok (.time d c offset)

/-- A moment in a text. -/
def ofText (s : Text) : Except Fault Moment :=
  match ofDayText? s.toList with
  | some m => inCalendar m
  | none => (ofStampText? s).getD (.error .unreadable)

/-- The text of a moment in a snapshot: universal time ends in `Z`. -/
def snapshotText : Moment → Text
  | .time d c (some 0) => dayText d ++ "T" ++ clockText c ++ "Z"
  | m => m.text "T"

end Moment

namespace Checked

/-- A moment, or a fault: `unreadable` where there is none to be read. -/
def momentOr (unreadable : ShapeFault) : Except Moment.Fault Moment → Checked Moment
  | .ok m => .valid m
  | .error .yearZero => fault .badMoment
  | .error .unreadable => fault unreadable

/-- A moment: a text, or a timestamp that is not too large. -/
def moment (origin : Origin) : Json → Checked Moment
  | .text s => wholeText (fun s => momentOr .badMomentText (Moment.ofText s)) s
  | .int i =>
    let x := Binary64.ofInt i
    if fitsWord i then momentOr .badMoment (Moment.ofWholeStamp i)
    else if origin == .atHand && x.isFinite then momentOr .badMoment (Moment.ofStamp x)
    else fault .notMoment
  | .float x => momentOr .badMoment (Moment.ofStamp x)
  | _ => fault .notMoment

end Checked

end LintPreview
