import LintPreview.Json.Value
import LintPreview.Text.Utf8

/-!
Writing JSON text.

* `Json.compress`: on one line without blanks; `Json.toBytes`: its bytes.
* `Json.escapeHalves`: a JSON text without lone halves.
* `Json.pretty`: one item a line, two spaces of indentation a level; empty lists and objects stay closed.
* `Json.unwritable?`: why a value must not be written to a file or a response.

Numbers that JSON cannot write become `null`.
-/

namespace LintPreview

/-- Why a value must not be written: a text in it has no bytes, or it is nested too deep. -/
inductive UnwritableJson where
  | noBytes (run : Text.LoneHalves)
  | tooDeep
deriving DecidableEq, Repr

/-- The wording of what must not be written. -/
def UnwritableJson.message : UnwritableJson → Text
  | .noBytes run => "Error serializing to JSON: UnicodeEncodeError: " ++ run.message
  | .tooDeep => "Error serializing to JSON: ValueError: Maximum serialization depth exceeded"

namespace Json

/-- Why a text must not be written. -/
def unwritableText? (s : Text) : Option UnwritableJson :=
  match Text.encode s with
  | .ok _ => none
  | .error run => some (.noBytes run)

mutual

/-- Why a value must not be written, where `levels` are left for it. The first fault counts. -/
def unwritable? (levels : Nat) (v : Json) : Option UnwritableJson :=
  if levels = 0 then some .tooDeep
  else match v with
    | .text s => unwritableText? s
    | .list items => unwritableItem? (levels - 1) items
    | .object entries => unwritableMember? (levels - 1) entries
    | _ => none

/-- Why an item must not be written. -/
def unwritableItem? (levels : Nat) : List Json → Option UnwritableJson
  | [] => none
  | v :: rest => (unwritable? levels v) <|> (unwritableItem? levels rest)

/-- Why an entry must not be written. -/
def unwritableMember? (levels : Nat) : List (Text × Json) → Option UnwritableJson
  | [] => none
  | (k, v) :: rest => (unwritableText? k) <|> (unwritable? levels v) <|> (unwritableMember? levels rest)

end

/-- The escape of a code point by its number. -/
def unitEscape (c : CodePoint) : List CodePoint := '\\' :: 'u' :: Text.toHex 4 c.toNat

/-- One character inside quotes. -/
def escapeChar (c : CodePoint) : List CodePoint :=
  if c = '"' then ['\\', '"']
  else if c = '\\' then ['\\', '\\']
  else if c = '\n' then ['\\', 'n']
  else if c = '\r' then ['\\', 'r']
  else if c = '\t' then ['\\', 't']
  else if c = '\x08' then ['\\', 'b']
  else if c = '\x0c' then ['\\', 'f']
  else if c.toNat < 0x20 then unitEscape c
  else [c]

/-- A text in quotes. -/
def quoteChars (cs : List CodePoint) : List CodePoint := '"' :: (cs.flatMap escapeChar ++ [.char '"'])

/-- A number in JSON. -/
def floatChars (x : Binary64) : List CodePoint :=
  if x.isFinite then (x.render Binary64.snapshotStyle).toList else Text.toList "null"

/-- A value without parts. -/
def leafChars : Json → List CodePoint
  | .null => Text.toList "null"
  | .bool b => Text.toList (if b then "true" else "false")
  | .int i => (Text.ofInt i).toList
  | .float x => floatChars x
  | .text s => quoteChars s.toList
  | .list _ => ['[', ']']
  | .object _ => ['\x7b', '\x7d']

mutual

/-- A value on one line. -/
def compactChars : Json → List CodePoint
  | .list items => '[' :: (compactItems items ++ [']'])
  | .object entries => '\x7b' :: (compactEntries entries ++ ['\x7d'])
  | leaf => leafChars leaf

/-- Items with commas between them. -/
def compactItems : List Json → List CodePoint
  | [] => []
  | [v] => compactChars v
  | v :: w :: rest => compactChars v ++ CodePoint.char ',' :: compactItems (w :: rest)

/-- Entries with commas between them. -/
def compactEntries : List (Text × Json) → List CodePoint
  | [] => []
  | [(k, v)] => quoteChars k.toList ++ CodePoint.char ':' :: compactChars v
  | (k, v) :: e :: rest => quoteChars k.toList ++ CodePoint.char ':' :: (compactChars v ++ CodePoint.char ',' :: compactEntries (e :: rest))

end

/-- A value on one line. -/
def compress (v : Json) : Text := Text.ofList v.compactChars

/-- A JSON text in which lone halves, which stand inside quotes only, are written as escapes. -/
def escapeHalves (s : Text) : Text := Text.ofList (s.toList.flatMap fun c => if c.isHalf then unitEscape c else [c])

/-- The bytes of a value on one line, or the first run of lone halves in it, which have none. -/
def toBytes (v : Json) : Except Text.LoneHalves (List UInt8) := Text.encode v.compress

/-- A line break and the indentation of a level. -/
def newLine (level : Nat) : List CodePoint := '\n' :: List.replicate (2 * level) ' '

mutual

/-- A value whose parts stand on lines of their own. -/
def prettyChars (level : Nat) : Json → List CodePoint
  | .list (v :: rest) => '[' :: (prettyItems (level + 1) (v :: rest) ++ newLine level ++ [.char ']'])
  | .object (e :: rest) => '\x7b' :: (prettyEntries (level + 1) (e :: rest) ++ newLine level ++ [.char '\x7d'])
  | leaf => leafChars leaf

/-- Items, each on lines of its own. -/
def prettyItems (level : Nat) : List Json → List CodePoint
  | [] => []
  | [v] => newLine level ++ prettyChars level v
  | v :: w :: rest => newLine level ++ prettyChars level v ++ CodePoint.char ',' :: prettyItems level (w :: rest)

/-- Entries, each on lines of its own. -/
def prettyEntries (level : Nat) : List (Text × Json) → List CodePoint
  | [] => []
  | [(k, v)] => newLine level ++ quoteChars k.toList ++ CodePoint.char ':' :: CodePoint.char ' ' :: prettyChars level v
  | (k, v) :: e :: rest =>
    newLine level ++ quoteChars k.toList ++ CodePoint.char ':' :: CodePoint.char ' ' :: (prettyChars level v ++ CodePoint.char ',' :: prettyEntries level (e :: rest))

end

/-- A value whose parts stand on lines of their own. -/
def pretty (v : Json) : Text := Text.ofList (v.prettyChars 0)

end Json

end LintPreview
