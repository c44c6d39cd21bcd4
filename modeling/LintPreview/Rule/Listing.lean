import LintPreview.Json.Reader
import LintPreview.Rule.Basic
import LintPreview.Rule.Descriptor
import LintPreview.Text.Lines

/-!
The list of rules as the lint tool writes it: a JSON array of descriptors, or a table of one row a line with cells
between bars.

* `tableRow?`: the cells of a data row; borders, headers and other lines have none.
* `Rule.ofTableRow?`: the rule of a row.
* `rulesOfTable`: the rules of a table, in order.
* `readRuleList`: the rules of a listing, each id once, or why there are none.
-/

namespace LintPreview

/-- The least number of cells in a row. -/
def minTableCells : Nat := 5

/-- The cells of a line between bars, trimmed, without the empty ones. -/
def tableCells (line : List CodePoint) : List (List CodePoint) :=
  ((Text.splitOnChar '|' line).map Text.trimChars).filter (!·.isEmpty)

/-- Whether a trimmed line may hold a row of rules: it starts with a bar and is no header. -/
def isTableLine (line : List CodePoint) : Bool :=
  line.head? == some '|' && !Text.containsText (Text.toList "identifier") (Text.lowerChars line)

/-- The cells of a trimmed line that holds a row. -/
def tableRow? (line : List CodePoint) : Option (List (List CodePoint)) :=
  if isTableLine line then
    let cells := tableCells line
    if cells.length < minTableCells then none else some cells
  else none

/-- Whether a cell says yes. -/
def isYes (cell : List CodePoint) : Bool := Text.lowerChars cell == Text.toList "yes"

/-- Whether a first cell is drawn rather than written: it holds a line of the box or only dashes. -/
def isDrawn (cell : List CodePoint) : Bool := cell.contains '─' || cell.all fun c : CodePoint => c == '-'

/-- The rule of a row. -/
def Rule.ofTableRow? : List (List CodePoint) → Option Rule
  | id :: optin :: correctable :: _ :: kind :: _ =>
    if isDrawn id then none
    else
      let id := Text.ofList id
      some {
        id := id
        name := displayName id
        category := .ofText (Text.ofList kind)
        isOptin := isYes optin
        supportsAutocorrection := isYes correctable }
  | _ => none

/-- The rules of a table. -/
def rulesOfTable (text : List CodePoint) : List Rule :=
  (Text.lines text).filterMap fun line => (tableRow? (Text.trimChars line)).bind Rule.ofTableRow?

/-- Why a listing gives no rules. -/
inductive RuleListError where
  | malformed (m : JsonMalformed)
  | noRules
  | numberTooLong (digits : Nat)
  | tooDeep
  | descriptor (fault : DescriptorFault)
deriving DecidableEq, Repr

/-- The wording of an error. -/
def RuleListError.message : RuleListError → Text
  | .malformed m => "Invalid JSON rule list: " ++ m.message
  | .noRules => "No rules found in lint tool output"
  | .numberTooLong digits => (LiteralError.tooLong digits).message
  | .tooDeep => "maximum recursion depth exceeded while decoding a JSON array from a unicode string"
  | .descriptor fault => fault.message

/-- The rules of a trimmed listing, repeated ids included. -/
def rulesOfListing (text : List CodePoint) : Except RuleListError (List Rule) :=
  if text.head? = some '[' then
    match Json.readChars text with
    | .error (.malformed m) => .error (.malformed m)
    | .error (.numberTooLong digits) => .error (.numberTooLong digits)
    | .error .tooDeep => .error .tooDeep
    | .ok (.list items) => (rulesOfDescriptors items).mapError .descriptor
    | .ok _ => .error .noRules
  else .ok (rulesOfTable text)

/-- The rules of a listing. -/
def readRuleList (output : Text) : Except RuleListError (List Rule) := do
  match dropRepeatedIds (← rulesOfListing (Text.trimChars output.toList)) with
  | [] => .error .noRules
  | rules => .ok rules

end LintPreview
