import LintPreview.Number.Literal
import LintPreview.Yaml.Cursor

/-!
Tokens of a YAML text, and what can be wrong with it.

* `Fault`: the text breaks the rules of YAML (`malformed`), or a value in it has no meaning.
* `CalendarFault`: why numbers make no date.
* `Token`: the marks, names and scalars that a text is made of. What breaks the rules of tokens is a token itself: it
  counts only when all before it have been read.
-/

namespace LintPreview.Yaml

/-- Why numbers make no date or time. -/
inductive CalendarFault where
  | year (value : Nat)
  | month
  | day
  | hour
  | minute
  | second
  | offset (minutes : Int)
deriving DecidableEq, Repr

/-- Why a text gives no document. -/
inductive Fault where
  | malformed
  | codeTooLarge
  | codeOverflow
  | baseOverflow
  | tooDeep
  | emptyNumber
  | notTimestamp
  | timestampOfMapping
  | notBoolean (word : Text)
  | literal (e : LiteralError)
  | calendar (e : CalendarFault)
deriving DecidableEq, Repr

/-- A span of time in minutes, as days and seconds. -/
def spanText (minutes : Int) : Text :=
  let days := minutes.fdiv 1440
  let seconds := (minutes.fmod 1440) * 60
  "datetime.timedelta(days=" ++ Text.ofInt days ++
    (if seconds = 0 then Text.empty else ", seconds=" ++ Text.ofInt seconds) ++ ")"

/-- The wording of a fault in a date. -/
def CalendarFault.message : CalendarFault → Text
  | .year value => "year " ++ Text.ofNat value ++ " is out of range"
  | .month => "month must be in 1..12"
  | .day => "day is out of range for month"
  | .hour => "hour must be in 0..23"
  | .minute => "minute must be in 0..59"
  | .second => "second must be in 0..59"
  | .offset minutes =>
    "offset must be a timedelta strictly between -timedelta(hours=24) and timedelta(hours=24), not " ++
      spanText minutes ++ "."

/-- The wording of a fault; what breaks the rules of YAML always reads the same. -/
def Fault.message : Fault → Text
  | .malformed => "<yaml error>"
  | .codeTooLarge => "chr() arg not in range(0x110000)"
  | .codeOverflow => "Python int too large to convert to C int"
  | .baseOverflow => "int too large to convert to float"
  | .tooDeep => "maximum recursion depth exceeded"
  | .emptyNumber => "string index out of range"
  | .notTimestamp => "'NoneType' object has no attribute 'groupdict'"
  | .timestampOfMapping => "expected string or bytes-like object, got 'list'"
  | .notBoolean word => Text.quoted word
  | .literal e => e.message
  | .calendar e => e.message

/-- A line in front of a document that begins with a percent sign. -/
inductive Directive where
  | version (major minor : Nat)
  | tag (handle start : Text)
  | other
deriving DecidableEq, Repr

/-- A token. -/
inductive Token where
  | streamEnd
  | broken (fault : Fault)
  | directive (d : Directive)
  | documentStart
  | documentEnd
  | blockSequenceStart
  | blockMappingStart
  | blockEnd
  | flowSequenceStart
  | flowSequenceEnd
  | flowMappingStart
  | flowMappingEnd
  | blockEntry
  | flowEntry
  | key
  | value
  | alias (name : Text)
  | anchor (name : Text)
  | tag (handle : Option Text) (suffix : Text)
  | scalar (text : Text) (plain : Bool)
deriving DecidableEq, Repr

end LintPreview.Yaml
