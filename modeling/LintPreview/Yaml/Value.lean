import LintPreview.Document
import LintPreview.Text.Base64
import LintPreview.Text.Case
import LintPreview.Text.Lines
import LintPreview.Yaml.Tag

/-!
The value of a scalar by its tag.

* `scalarValue`: a null, boolean, number, text, binary or moment, or why the text is none.
-/

namespace LintPreview.Yaml

-- Powers are the same whatever else is imported.
attribute [local instance (2000)] instPowNat

/-- A text without underscores. -/
def dropJoints (s : Text) : List CodePoint := s.toList.filter fun c : CodePoint => c != '_'

/-- Numbers of base sixty, the first counting most. -/
def sixtiesValue (parts : List Int) : Int := parts.foldl (fun n d => n * 60 + d) 0

/-- The pieces of a text between colons. -/
def colonParts (cs : List CodePoint) : List Text := (Text.splitOnChar ':' cs).map Text.ofList

/-- A whole number without its sign. -/
def magnitude (cs : List CodePoint) : Except Fault Int :=
  let whole (base : Nat) (cs : List CodePoint) : Except Fault Int :=
    (Literal.readInt base (Text.ofList cs)).mapError .literal
  match cs with
  | [] => .error .emptyNumber
  | ['0'] => .ok 0
  | '0' :: 'b' :: rest => whole 2 rest
  | '0' :: 'x' :: rest => whole 16 rest
  | '0' :: rest => whole 8 ('0' :: rest)
  | cs =>
    if cs.contains ':' then
      ((colonParts cs).mapM fun p => (Literal.readInt 10 p).mapError .literal).map sixtiesValue
    else whole 10 cs

/-- The whole number that a text writes. -/
def intValue (s : Text) : Except Fault Document :=
  match dropJoints s with
  | [] => .error .emptyNumber
  | '-' :: rest => (magnitude rest).map fun n => .int (-n)
  | '+' :: rest => (magnitude rest).map .int
  | cs => (magnitude cs).map .int

/-- Decimal numbers of base sixty, the last counting one; every step is rounded. No power of sixty may be too large
for a decimal number. -/
def sixtiesFloat : (base : Int) → (reversed : List Binary64) → (sum : Binary64) → Except Fault Binary64
  | _, [], sum => .ok sum
  | base, x :: rest, sum =>
    if (Binary64.ofInt base).isFinite then sixtiesFloat (base * 60) rest (sum.add (x.mul (.ofInt base)))
    else .error .baseOverflow

/-- Whether a number without its sign is written `.nan`. -/
def isCommonNan (cs : List CodePoint) : Bool := cs == Text.toList ".nan"

/-- A decimal number without its sign. -/
def floatMagnitude (cs : List CodePoint) : Except Fault Binary64 :=
  if cs == Text.toList ".inf" then .ok (.infinite false)
  else if isCommonNan cs then .ok .undefined
  else if cs.contains ':' then
    ((colonParts cs).mapM fun p => (Literal.readFloat p).mapError Fault.literal).bind fun parts =>
      sixtiesFloat 1 parts.reverse .zero
  else (Literal.readFloat (Text.ofList cs)).mapError .literal

/-- The decimal number that a text writes. -/
def floatValue (s : Text) : Except Fault Document :=
  match Text.lowerChars (dropJoints s) with
  | [] => .error .emptyNumber
  | '-' :: rest => (floatMagnitude rest).map fun x => .float x.neg
  | '+' :: rest => (floatMagnitude rest).map .float
  | cs => (floatMagnitude cs).map .float

/-- The boolean that a word names. -/
def boolValue (s : Text) : Except Fault Document :=
  let word := Text.toLower s
  match Plain.booleanWords.find? (·.1 = word) with
  | some (_, b) => .ok (.bool b)
  | none => .error (.notBoolean word)

/-- The bytes that a text writes in Base64. -/
def binaryValue (s : Text) : Except Fault Document :=
  if s.toList.all CodePoint.isAscii then
    match Text.Base64.decode? s.toList with
    | some bs => .ok (.bytes bs)
    | none => .error .malformed
  else .error .malformed

/-- The number of the next digits, at least one and at most `n`. -/
def takeNumber? (n : Nat) (cs : List CodePoint) : Option (Nat × List CodePoint) :=
  let ds := (cs.take n).takeWhile CodePoint.isDigit
  if ds.isEmpty then none else some (ds.foldl (fun v d => v * 10 + (d.toNat - 48)) 0, cs.drop ds.length)

/-- The number of exactly `n` digits. -/
def takeExact? (n : Nat) (cs : List CodePoint) : Option (Nat × List CodePoint) :=
  let ds := (cs.take n).takeWhile CodePoint.isDigit
  if ds.length = n then some (ds.foldl (fun v d => v * 10 + (d.toNat - 48)) 0, cs.drop n) else none

/-- A day at the start of a text. -/
def takeDay? (cs : List CodePoint) : Option (Day × List CodePoint) := do
  let (year, cs) ← takeExact? 4 cs
  let (month, cs) ← takeNumber? 2 (← Plain.takeChar? '-' cs)
  let (day, cs) ← takeNumber? 2 (← Plain.takeChar? '-' cs)
  return (⟨year, month, day⟩, cs)

/-- Microseconds of the digits behind the point. -/
def microOf (digits : List CodePoint) : Nat :=
  let six := digits.take 6
  six.foldl (fun v d => v * 10 + (d.toNat - 48)) 0 * 10 ^ (6 - six.length)

/-- An offset from universal time in minutes, or nothing at the end. -/
def offset? (cs : List CodePoint) : Option (Option Int) :=
  match cs, cs.dropWhile fun c : CodePoint => c == ' ' || c == '\t' with
  | [], _ => some none
  | _, ['Z'] => some (some 0)
  | _, sign :: rest => do
    if sign != '-' && sign != '+' then none
    let (hours, rest) ← takeNumber? 2 rest
    let minutes ← match rest with
      | [] => some 0
      | ':' :: rest => match takeExact? 2 rest with
        | some (m, []) => some m
        | _ => none
      | _ => none
    let total : Int := (hours * 60 + minutes : Nat)
    return some (if sign == '-' then -total else total)
  | _, [] => none

/-- A time of day with an optional offset, up to the end. -/
def clock? (cs : List CodePoint) : Option (Clock × Option Int) := do
  let (hour, cs) ← takeNumber? 2 cs
  let (minute, cs) ← takeExact? 2 (← Plain.takeChar? ':' cs)
  let (second, cs) ← takeExact? 2 (← Plain.takeChar? ':' cs)
  let (micro, cs) := match cs with
    | '.' :: rest => (microOf (rest.takeWhile CodePoint.isDigit), rest.dropWhile CodePoint.isDigit)
    | cs => (0, cs)
  let offset ← offset? cs
  return (⟨hour, minute, second, micro⟩, offset)

/-- The moment that a text writes, before it is checked against the calendar. -/
def moment? (cs : List CodePoint) : Option Moment := do
  let (day, rest) ← takeDay? cs
  match rest with
  | [] => return .day day
  | rest =>
    let (clock, offset) ← clock? (← Plain.afterDateMark? rest)
    return .time day clock offset

/-- Whether a day is in the calendar. -/
def checkDay (d : Day) : Except CalendarFault Unit :=
  if d.year < 1 then .error (.year d.year)
  else if d.month < 1 ∨ 12 < d.month then .error .month
  else if d.day < 1 ∨ Day.monthLength d.year d.month < d.day then .error .day
  else .ok ()

/-- Whether a time of day is on the clock. -/
def checkClock (c : Clock) : Except CalendarFault Unit :=
  if 23 < c.hour then .error .hour
  else if 59 < c.minute then .error .minute
  else if 59 < c.second then .error .second
  else .ok ()

/-- Whether an offset is less than a day. -/
def checkOffset (offset : Option Int) : Except CalendarFault Unit :=
  match offset with
  | some minutes => if 1440 ≤ minutes.natAbs then .error (.offset minutes) else .ok ()
  | none => .ok ()

/-- Whether a moment is in the calendar. -/
def checkMoment : Moment → Except CalendarFault Unit
  | .day d => checkDay d
  | .time d c offset => do
    checkOffset offset
    checkDay d
    checkClock c

/-- The moment that a text writes. -/
def momentValue (label : Nat) (s : Text) : Except Fault Document :=
  match moment? (dropFinalBreak s.toList) with
  | none => .error .notTimestamp
  | some m => (checkMoment m).mapError .calendar |>.map fun _ => .moment label m

/-- The value of a scalar with a tag. Tags of collections, unknown tags, and the marks for merging and default
values give none. -/
def scalarValue (label : Nat) (tag : Tag) (s : Text) : Except Fault Document :=
  match tag with
  | .null => .ok .null
  | .text => .ok (.text s)
  | .bool => boolValue s
  | .int => intValue s
  | .float => floatValue s
  | .binary => binaryValue s
  | .timestamp => momentValue label s
  | _ => .error .malformed

end LintPreview.Yaml
