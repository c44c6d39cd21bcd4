import LintPreview.Remote.Label
import LintPreview.Text.Lines

/-!
Host names beyond ASCII.

* `punycode`: the code of a label: its ASCII characters, then where its other code points stand.
* `punydecode?`: the label behind a code, if it is one.
* `asciiHost`: the form of a host name in which it is sent: every label that is not ASCII as a code behind a mark.
* `readableHost`: a host name with its codes read.
-/

namespace LintPreview.Remote

/-! ### Numbers -/

/-- The digit of a code: letters for 0 to 25, then decimal digits. -/
def codeDigit (n : Nat) : CodePoint := if n < 26 then CodePoint.ofNat (97 + n) else CodePoint.ofNat (22 + n)

/-- The value of a digit of a code. -/
def codeDigit? (c : CodePoint) : Option Nat :=
  if c.isLetter then some (c.toLower.toNat - 97) else if c.isDigit then some (c.toNat - 22) else none

/-- The threshold of a digit in place `k` under a bias. -/
def threshold (k bias : Nat) : Nat := if k ≤ bias + 1 then 1 else if bias + 26 ≤ k then 26 else k - bias

/-- A number as digits of varying worth, the last one below its threshold. -/
def codeNumber : (fuel n k bias : Nat) → List CodePoint
  | 0, _, _, _ => []
  | fuel + 1, n, k, bias =>
    let t := threshold k bias
    if n < t then [codeDigit n]
    else codeDigit (t + (n - t) % (36 - t)) :: codeNumber fuel ((n - t) / (36 - t)) (k + 36) bias

/-- The number in front of digits, where a digit in place `k` counts `worth`, added to `sum`, and the digits behind. -/
def readNumber? (bias : Nat) : (sum worth k : Nat) → List CodePoint → Option (Nat × List CodePoint)
  | _, _, _, [] => none
  | sum, worth, k, c :: rest =>
    match codeDigit? c with
    | none => none
    | some digit =>
      let t := threshold k bias
      let sum := sum + digit * worth
      if digit < t then some (sum, rest) else readNumber? bias sum (worth * (36 - t)) (k + 36) rest

/-- The bias after a number has been written. -/
def biasAfter : (fuel delta k : Nat) → Nat
  | 0, delta, k => k + 36 * delta / (delta + 38)
  | fuel + 1, delta, k => if 455 < delta then biasAfter fuel (delta / 35) (k + 36) else k + 36 * delta / (delta + 38)

/-- The bias after `delta` has been written as the first or a later number, `handled` characters being done. -/
def adapt (delta handled : Nat) (isFirst : Bool) : Nat :=
  let d := if isFirst then delta / 700 else delta / 2
  biasAfter (Nat.log2 d) (d + d / handled) 0

/-! ### Coding -/

/-- The state of coding: the gap so far, the characters done, the bias, and what is written in reverse. -/
structure Coding where
  delta : Nat
  handled : Nat
  bias : Nat
  isFirst : Bool
  written : List CodePoint

/-- Passes one character while the characters with code `n` are placed. -/
def Coding.pass (n : Nat) (s : Coding) (c : CodePoint) : Coding :=
  if c.toNat < n then { s with delta := s.delta + 1 }
  else if c.toNat = n then
    { delta := 0, handled := s.handled + 1, bias := adapt s.delta (s.handled + 1) s.isFirst, isFirst := false,
      written := (codeNumber 20 s.delta 36 s.bias).reverse ++ s.written }
  else s

/-- Places the characters with each code in turn; `n` is the least code not placed yet. -/
def Coding.place (cs : List CodePoint) : (codes : List Nat) → (n : Nat) → Coding → Coding
  | [], _, s => s
  | m :: rest, n, s =>
    let s := cs.foldl (Coding.pass m) { s with delta := s.delta + (m - n) * (s.handled + 1) }
    place cs rest (m + 1) { s with delta := s.delta + 1 }

/-- The ASCII form of a label, without its mark. -/
def punycode (cs : List CodePoint) : List CodePoint :=
  let plain := cs.filter CodePoint.isAscii
  let codes := ((cs.filter fun c => !c.isAscii).map CodePoint.toNat).eraseDups.mergeSort fun a b => decide (a ≤ b)
  let start : Coding := ⟨0, plain.length, 72, true, []⟩
  let front := if plain.isEmpty then [] else plain ++ [CodePoint.char '-']
  front ++ (start.place cs codes 0x80).written.reverse

/-! ### Decoding -/

/-- Code points behind `placed`, where each number of the code leads from the place behind the last one, `place` of
the code `n`, to the next. A number takes at least one digit. -/
def decodeFrom? : (fuel : Nat) → (placed : List CodePoint) → (n place bias : Nat) → (isFirst : Bool) → List CodePoint →
    Option (List CodePoint)
  | _, placed, _, _, _, _, [] => some placed
  | 0, _, _, _, _, _, _ => none
  | fuel + 1, placed, n, place, bias, isFirst, code =>
    match readNumber? bias 0 1 36 code with
    | none => none
    | some (delta, rest) =>
      let size := placed.length + 1
      let n := n + (place + delta) / size
      let place := (place + delta) % size
      if 0x10FFFF < n then none
      else
        let placed := placed.take place ++ CodePoint.ofNat n :: placed.drop place
        decodeFrom? fuel placed n (place + 1) (adapt delta size isFirst) false rest

/-- The label that a code, without its mark, stands for. -/
def punydecode? (code : List CodePoint) : Option (List CodePoint) :=
  let (plain, numbers) := Text.cutAtLast '-' code
  decodeFrom? numbers.length (plain.getD []) 0x80 0 72 true numbers

/-- The mark in front of the code for a label. -/
def codeMark : List CodePoint := Text.toList "xn--"

/-- The most characters in a label. -/
def maxLabelLength : Nat := 63

/-- The most characters in a host name without the dot at its end. -/
def maxNameLength : Nat := 253

/-- The label that an ASCII label stands for. -/
def readLabel (label : List CodePoint) : Except LabelFault (List CodePoint) :=
  let label := label.map CodePoint.toLower
  if Text.startsWith codeMark label then
    let code := label.drop codeMark.length
    if code.isEmpty then .error .noCode
    else if code.getLast? = some '-' then .error .hyphenBehindCode
    else match punydecode? code with
      | none => .error .badCode
      | some text => (checkLabel text).map fun _ => text
  else (checkLabel label).map fun _ => label

/-- The form in which a label is sent. -/
def asciiLabel (label : List CodePoint) : Except LabelFault (List CodePoint) := do
  let sent ←
    if label.all CodePoint.isAscii then (readLabel label).map fun _ => label
    else (checkLabel label).map fun _ => codeMark ++ punycode label
  if maxLabelLength < sent.length then throw .labelTooLong
  return sent

/-- The labels of a host name, and whether a dot stands at its end. Full stops of other scripts divide labels too. -/
def labelsOf (host : List CodePoint) : Except LabelFault (List (List CodePoint) × Bool) :=
  let dotted := host.map fun c : CodePoint => if c.isAnyOf ['。', '．', '｡'] then CodePoint.char '.' else c
  let labels := Text.splitOnChar '.' dotted
  if labels = [[]] then .error .noLabels
  else if labels.getLast? = some [] then .ok (labels.dropLast, true)
  else .ok (labels, false)

/-- Labels with dots between them, and with one behind them if asked for. -/
def nameOf (labels : List (List CodePoint)) (endsInDot : Bool) : List CodePoint :=
  Text.joinWith ['.'] (if endsInDot then labels ++ [[]] else labels)

/-- The form in which a host name in lower case is sent. -/
def asciiHost (host : List CodePoint) : Except LabelFault (List CodePoint) := do
  let (labels, endsInDot) ← labelsOf host
  let name := nameOf (← labels.mapM asciiLabel) endsInDot
  if maxNameLength + (if endsInDot then 1 else 0) < name.length then throw .nameTooLong
  return name

/-- A host name whose codes are read if it starts with one. -/
def readableHost (host : List CodePoint) : Except LabelFault (List CodePoint) :=
  if Text.startsWith codeMark host then do
    let (labels, endsInDot) ← labelsOf host
    return nameOf (← labels.mapM readLabel) endsInDot
  else .ok host

end LintPreview.Remote
