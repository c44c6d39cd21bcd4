import LintPreview.Text.Basic
import LintPreview.Text.CaseTable

/-!
Lower case and title case of a text.

* `toLower`: every letter in its lower form; a capital sigma at the end of a word takes its final form.
* `toTitle`: a letter after a cased letter in its lower form, every other one in its title form.
-/

namespace LintPreview.Text

/-- Whether one of the ranges holds `n`. -/
def inRanges (ranges : List (Nat × Nat)) (n : Nat) : Bool := ranges.any fun r => r.1 ≤ n && n ≤ r.2

/-- Whether a character has case. -/
def isCased (c : CodePoint) : Bool := inRanges casedRanges c.toNat

/-- Whether a word is read across this character. -/
def isCaseIgnorable (c : CodePoint) : Bool := inRanges ignorableRanges c.toNat

/-- The character moved by the first run that holds it. -/
def shiftChar (shifts : List CaseShift) (c : CodePoint) : CodePoint :=
  match shifts.find? (·.holds c.toNat) with
  | some s => CodePoint.ofNat (c.toNat + s.delta).toNat
  | none => c

/-- Lower form of one character outside any word. -/
def lowerChar (c : CodePoint) : List CodePoint :=
  if c.isAscii then [c.toLower]
  else if c.toNat == 0x130 then ['i', CodePoint.ofNat 0x307]
  else [shiftChar lowerShifts c]

/-- Title form of one character. -/
def titleChar (c : CodePoint) : List CodePoint :=
  if c.isAscii then [c.toUpper]
  else match titleExpansions.find? (·.1 == c.toNat) with
    | some (_, ns) => ns.map CodePoint.ofNat
    | none => [shiftChar titleShifts c]

/-- Whether a word ends here: `before` is the text before in reverse, `after` the text behind. -/
def atWordEnd (before after : List CodePoint) : Bool :=
  ((before.dropWhile isCaseIgnorable).head?.any isCased) &&
    !((after.dropWhile isCaseIgnorable).head?.any isCased)

/-- Lower form of `c` between the reversed text `before` and the text `after`. -/
def lowerAt (before : List CodePoint) (c : CodePoint) (after : List CodePoint) : List CodePoint :=
  if c == 'Σ' then [if atWordEnd before after then 'ς' else 'σ'] else lowerChar c

/-- Lower form of `cs`, where `before` is the text before it in reverse. -/
def lowerFrom (before : List CodePoint) : List CodePoint → List CodePoint
  | [] => []
  | c :: rest => lowerAt before c rest ++ lowerFrom (c :: before) rest

/-- Lower form of a list of characters. -/
def lowerChars (cs : List CodePoint) : List CodePoint := lowerFrom [] cs

/-- Lower form of a text. -/
def toLower (s : Text) : Text := Text.ofList (lowerChars s.toList)

/-- Title form of `cs`, where `before` is the text before it in reverse. -/
def titleFrom (before : List CodePoint) : List CodePoint → List CodePoint
  | [] => []
  | c :: rest =>
    (if before.head?.any isCased then lowerAt before c rest else titleChar c) ++ titleFrom (c :: before) rest

/-- Title form of a text. -/
def toTitle (s : Text) : Text := Text.ofList (titleFrom [] s.toList)

end LintPreview.Text
