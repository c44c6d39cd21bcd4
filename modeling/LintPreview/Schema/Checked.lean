import LintPreview.Json.Reader
import LintPreview.Json.Value
import LintPreview.Number.Literal
import LintPreview.Text.Lines

/-!
Values checked against the shape that a record declares.

* `Checked`: a value of the declared shape, or every fault with its place, in the order of the declaration.
* `Checked.text`, `Checked.flag`, `Checked.whole`, `Checked.decimal`: readers of single values. They are lenient: a
  number may be written as a text, a flag as a word or as zero or one.
* `Checked.required`, `Checked.withDefault`: members of a record.
* `Checked.ofJsonText`: the checked value of a text; a text that is no JSON value has a single fault.
-/

namespace LintPreview

-- Powers are the same whatever else is imported.
attribute [local instance (2000)] instPowNat

/-- One step from a value into it. -/
inductive PlaceStep where
  | key (name : Text)
  | index (n : Nat)
deriving DecidableEq, Repr

/-- What is wrong with a value. -/
inductive ShapeFault where
  | missing
  | notText
  | brokenText
  | notFlag
  | badFlag
  | notWhole
  | badWhole
  | wholeTooLong
  | fractional
  | notFinite
  | notDecimal
  | badDecimal
  | notMoment
  | badMoment
  | badMomentText
  | notChoice
  | notRecord
  | notFields
  | notList
  | notTuple
  | notMapping
  | tooSmall
  | textTooShort
  | listTooShort
  | contradiction
  | malformedJson
deriving DecidableEq, Repr

/-- The key of a fault. -/
def ShapeFault.key : ShapeFault → Text
  | .missing => "missing"
  | .notText => "string_type"
  | .brokenText => "string_unicode"
  | .notFlag => "bool_type"
  | .badFlag => "bool_parsing"
  | .notWhole => "int_type"
  | .badWhole => "int_parsing"
  | .wholeTooLong => "int_parsing_size"
  | .fractional => "int_from_float"
  | .notFinite => "finite_number"
  | .notDecimal => "float_type"
  | .badDecimal => "float_parsing"
  | .notMoment => "datetime_type"
  | .badMoment => "datetime_parsing"
  | .badMomentText => "datetime_from_date_parsing"
  | .notChoice => "enum"
  | .notRecord => "model_type"
  | .notFields => "model_attributes_type"
  | .notList => "list_type"
  | .notTuple => "tuple_type"
  | .notMapping => "dict_type"
  | .tooSmall => "greater_than_equal"
  | .textTooShort => "string_too_short"
  | .listTooShort => "too_short"
  | .contradiction => "value_error"
  | .malformedJson => "json_invalid"

/-- A fault in its place. -/
structure PlacedFault where
  fault : ShapeFault
  place : List PlaceStep := []
deriving DecidableEq, Repr

/-- A step in JSON. -/
def PlaceStep.toJson : PlaceStep → Json
  | .key name => .text name
  | .index n => .int n

/-- A fault in JSON: its key and the way to its place. -/
def PlacedFault.toJson (p : PlacedFault) : Json := .object [
  ("type", .text p.fault.key),
  ("loc", .list (p.place.map PlaceStep.toJson))]

/-- A checked value, or its faults. -/
inductive Checked (α : Type) where
  | valid (a : α)
  | invalid (faults : List PlacedFault)
deriving Repr

namespace Checked

/-- The result of a function on a checked value. -/
def map {α β : Type} (f : α → β) : Checked α → Checked β
  | .valid a => .valid (f a)
  | .invalid faults => .invalid faults

/-- A checked function on a checked value; the faults of both count. -/
def apply {α β : Type} (f : Checked (α → β)) (x : Unit → Checked α) : Checked β :=
  match f, x () with
  | .valid f, .valid a => .valid (f a)
  | .valid _, .invalid faults => .invalid faults
  | .invalid faults, .valid _ => .invalid faults
  | .invalid faults, .invalid more => .invalid (faults ++ more)

instance : Applicative Checked where
  pure := .valid
  map := map
  seq := apply

/-- A check that starts from a value already checked. -/
def andThen {α β : Type} (x : Checked α) (f : α → Checked β) : Checked β :=
  match x with
  | .valid a => f a
  | .invalid faults => .invalid faults

/-- A single fault at the value itself. -/
def fault {α : Type} (f : ShapeFault) : Checked α := .invalid [⟨f, []⟩]

/-- The faults seen from one step further out. -/
def within {α : Type} (step : PlaceStep) : Checked α → Checked α
  | .valid a => .valid a
  | .invalid faults => .invalid (faults.map fun p => { p with place := step :: p.place })

/-- The value, or all faults. -/
def toExcept {α : Type} : Checked α → Except (List PlacedFault) α
  | .valid a => .ok a
  | .invalid faults => .error faults

/-! ### Single values -/

/-- Where a value comes from: it was at hand, or it was read from a JSON text for the purpose. -/
inductive Origin where
  | atHand
  | jsonText
deriving DecidableEq, Repr

/-- Whether a whole number fits into 64 bits with its sign. -/
def fitsWord (i : Int) : Bool := -(2 : Int) ^ (63 : Nat) ≤ i && i < (2 : Int) ^ (63 : Nat)

/-- Whether a whole number is between the bounds of 64 bits and is neither of them. -/
def isInsideWord (i : Int) : Bool := -(2 : Int) ^ (63 : Nat) < i && i < (2 : Int) ^ (63 : Nat)

/-- A text. -/
def text : Json → Checked Text
  | .text s => .valid s
  | _ => fault .notText

/-- The reading of a text that must hold no lone half. -/
def wholeText {α : Type} (read : Text → Checked α) (s : Text) : Checked α :=
  if s.isWhole then read s else fault .brokenText

/-- The words for yes and no. -/
def flagWords : List (Text × Bool) :=
  [("0", false), ("off", false), ("f", false), ("false", false), ("n", false), ("no", false),
    ("1", true), ("on", true), ("t", true), ("true", true), ("y", true), ("yes", true)]

/-- A flag in a text: a word for one in any case. -/
def flagOfText (s : Text) : Checked Bool :=
  match valueUnder? (Text.ofList (s.toList.map CodePoint.toLower)) flagWords with
  | some b => .valid b
  | none => fault .badFlag

/-- A flag from a whole number. -/
def flagOfInt (i : Int) : Checked Bool :=
  if i = 0 then .valid false else if i = 1 then .valid true else fault .badFlag

/-- A flag: a truth value, a word for one, or zero or one. A number that is too large is no flag at all. -/
def flag : Json → Checked Bool
  | .bool b => .valid b
  | .int i => if fitsWord i then flagOfInt i else fault .notFlag
  | .float x =>
    match x.toInt? with
    | some i => if isInsideWord i then flagOfInt i else fault .notFlag
    | none => fault .notFlag
  | .text s => wholeText flagOfText s
  | _ => fault .notFlag

/-- The most characters of a whole number in a text, its sign included. -/
def maxWholeChars : Nat := 4300

/-- Whether a text starts with a whole number that is too long. -/
def startsTooLong (cs : List CodePoint) : Bool :=
  let sign := if cs.head? == some '-' then 1 else 0
  let ds := (cs.drop sign).takeWhile CodePoint.isDigit
  ds.head? != some '0' && maxWholeChars < sign + ds.length

/-- A text without zeros in front, one of which is kept if nothing else is there or a point follows. Underscores among
the zeros count as zeros. A text that starts with neither a digit nor a minus sign is none. -/
def dropZeros? (cs : List CodePoint) : Option (List CodePoint) :=
  match cs with
  | '0' :: rest => inZeros '0' rest
  | '-' :: _ => some cs
  | c :: _ => if c.isDigit then some cs else none
  | [] => none
where
  /-- What is left behind the character `last` among the zeros. -/
  inZeros (last : CodePoint) : List CodePoint → Option (List CodePoint)
    | [] => some [last]
    | c :: rest =>
      if c == '0' || c == '_' then inZeros c rest
      else if c.isDigit then some (c :: rest)
      else if c == '.' then some (last :: c :: rest)
      else none

/-- A text without a point and the zeros behind it. -/
def dropPointZeros (cs : List CodePoint) : List CodePoint :=
  match Text.cutAt '.' cs with
  | (front, some zeros) => if !zeros.isEmpty && zeros.all (· == CodePoint.char '0') then front else cs
  | (_, none) => cs

/-- A text without the underscores inside it, of which no two may follow each other. -/
def dropJoints? (cs : List CodePoint) : Option (List CodePoint) :=
  if cs.head? == some '_' || cs.getLast? == some '_' || Text.containsText ['_', '_'] cs then none
  else some (cs.filter fun c : CodePoint => c != '_')

/-- A whole number as it is written in JSON. -/
def plainWhole? (cs : List CodePoint) : Option Int :=
  let (negative, ds) := match cs with
    | '-' :: rest => (true, rest)
    | cs => (false, cs)
  if ds.isEmpty || !ds.all CodePoint.isDigit || (ds.head? == some '0' && 1 < ds.length) || startsTooLong cs then none
  else
    let n := Literal.valueOf 10 (ds.map fun c => c.toNat - 48)
    some (if negative then -(n : Int) else n)

/-- A text with the liberties taken away that a whole number in a text may take: a plus sign, zeros in front, a point
with zeros behind it, and underscores. -/
def tidyWhole? (cs : List CodePoint) : Option (List CodePoint) := do
  let unsigned ← match cs with
    | '+' :: '-' :: _ => none
    | '+' :: rest => some rest
    | cs => some cs
  dropJoints? (dropPointZeros (← dropZeros? unsigned))

/-- A whole number in a text. -/
def wholeOfText (s : Text) : Checked Int :=
  let cs := Literal.strip s.toList
  match plainWhole? cs with
  | some i => .valid i
  | none =>
    if startsTooLong cs then fault .wholeTooLong
    else match tidyWhole? cs >>= plainWhole? with
      | some i => .valid i
      | none => fault .badWhole

/-- A whole number: also a truth value, a number without fraction, or a text that holds one. -/
def whole : Json → Checked Int
  | .int i => .valid i
  | .bool b => .valid (if b then 1 else 0)
  | .float x =>
    if !x.isFinite then fault .notFinite
    else match x.toInt? with
      | some i => if isInsideWord i then .valid i else fault .wholeTooLong
      | none => fault .fractional
  | .text s => wholeText wholeOfText s
  | _ => fault .notWhole

/-- A decimal number in a text: digits from zero to nine, with single underscores inside. -/
def decimalOfText (s : Text) : Checked Binary64 :=
  let plain? (cs : List CodePoint) : Option Binary64 :=
    if cs.all fun c => c.isAscii && c != '_' then (Literal.readFloat (Text.ofList cs)).toOption else none
  let joined? : Option Binary64 := do
    let cs ← dropJoints? s.toList
    if Literal.strip cs = cs then plain? cs else none
  match (plain? (Literal.strip s.toList)) <|> joined? with
  | some x => .valid x
  | none => fault .badDecimal

/-- A decimal number: also a whole one that is not too large, a truth value, or a text that holds one. -/
def decimal (origin : Origin) : Json → Checked Binary64
  | .float x => .valid x
  | .int i =>
    let x := Binary64.ofInt i
    if x.isFinite && (origin == .atHand || fitsWord i) then .valid x else fault .notDecimal
  | .bool b => .valid (.ofInt (if b then 1 else 0))
  | .text s => wholeText decimalOfText s
  | _ => fault .notDecimal

/-- One of a closed set of choices, by its key. -/
def choice {α : Type} (ofKey? : Text → Option α) : Json → Checked α
  | .text s => s |> wholeText fun s =>
    match ofKey? s with
    | some a => .valid a
    | none => fault .notChoice
  | _ => fault .notChoice

/-- Null, or a value. -/
def orNull {α : Type} (check : Json → Checked α) : Json → Checked (Option α)
  | .null => .valid none
  | v => (check v).map some

/-- A whole number that is at least `least`. -/
def atLeast (least : Int) (v : Json) : Checked Int :=
  (whole v).andThen fun i => if i < least then fault .tooSmall else .valid i

/-- A text with a character in it. -/
def filledText (v : Json) : Checked Text :=
  (text v).andThen (wholeText fun s => if s.isEmpty then fault .textTooShort else .valid s)

/-! ### Collections and records -/

/-- Items checked one by one, the first one at the place `n`. -/
def itemsFrom {α : Type} (check : Json → Checked α) (n : Nat) : List Json → Checked (List α)
  | [] => .valid []
  | v :: rest => List.cons <$> (check v).within (.index n) <*> itemsFrom check (n + 1) rest

/-- A list whose items are checked; another value has the fault `other`. -/
def list {α : Type} (other : ShapeFault) (check : Json → Checked α) : Json → Checked (List α)
  | .list items => itemsFrom check 0 items
  | _ => fault other

/-- The values of a mapping, checked one by one. -/
def mappingEntries {α : Type} (check : Json → Checked α) : List (Text × Json) → Checked (List (Text × α))
  | [] => .valid []
  | (k, v) :: rest => List.cons <$> ((check v).within (.key k)).map (k, ·) <*> mappingEntries check rest

/-- A mapping whose values are checked. -/
def mapping {α : Type} (check : Json → Checked α) : Json → Checked (List (Text × α))
  | .object entries => mappingEntries check entries
  | _ => fault .notMapping

/-- A record, read from its members. Members that are not declared are passed over. -/
def record {α : Type} (read : List (Text × Json) → Checked α) : Json → Checked α
  | .object entries => read entries
  | _ => fault .notRecord

/-- A member that must be there. -/
def required {α : Type} (key : Text) (check : Json → Checked α) (members : List (Text × Json)) : Checked α :=
  (match valueUnder? key members with
   | some v => check v
   | none => fault .missing).within (.key key)

/-- A member that may be left out. -/
def withDefault {α : Type} (key : Text) (default : α) (check : Json → Checked α) (members : List (Text × Json)) :
    Checked α :=
  match valueUnder? key members with
  | some v => (check v).within (.key key)
  | none => .valid default

end Checked

end LintPreview

namespace LintPreview.Checked

-- Powers are the same whatever else is imported.
attribute [local instance (2000)] instPowNat

/-- How deep lists and objects of a record may be nested; empty ones do not count. -/
def maxNesting : Nat := 200

/-- The checked value of a text. Lone halves, too deep a value, and whole numbers that are too long with their sign
count as malformed. -/
def ofJsonText {α : Type} (check : Json → Checked α) (s : Text) : Checked α :=
  match Json.read s with
  | .error _ => fault .malformedJson
  | .ok v =>
    if v.isWhole && v.filledDepth ≤ maxNesting && v.allInts (-(10 ^ (maxWholeChars - 1)) < ·) then check v
    else fault .malformedJson

end LintPreview.Checked
