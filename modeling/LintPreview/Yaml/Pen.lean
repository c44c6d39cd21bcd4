import LintPreview.Text.Lines
import LintPreview.Yaml.Tag

/-!
Writing scalars on lines of at most eighty columns.

* `Traits.ofChars`: the properties of a text that decide about quotes.
* `ScalarStyle`, `chooseStyle`: plain if that is safe, else single quotes, else double quotes; binary data as a block.
* `Pen`: the text written so far, in reverse, and the column.
* `Pen.plain`, `Pen.single`, `Pen.double`, `Pen.literal`: a text in each style, folded where the line is full.
-/

namespace LintPreview.Yaml

/-- The ways to write a scalar. -/
inductive ScalarStyle where
  | plain
  | single
  | double
  | literal
deriving DecidableEq, Repr

/-- The properties of a text that decide how it may be written. -/
structure Traits where
  empty : Bool
  multiline : Bool
  allowPlain : Bool
  allowSingle : Bool
  allowBlock : Bool
deriving DecidableEq, Repr

/-- The line breaks that a written text keeps. -/
def isKeptBreak (c : CodePoint) : Bool := c == '\n' || c == '\u0085' || c == '\u2028' || c == '\u2029'

/-- Characters that can only be written as escapes. -/
def isSpecial (c : CodePoint) : Bool :=
  let n := c.toNat
  !(c == '\n' || (0x20 ≤ n && n ≤ 0x7E) ||
    ((n == 0x85 || (0xA0 ≤ n && n ≤ 0xD7FF) || (0xE000 ≤ n && n ≤ 0xFFFD) || (0x10000 ≤ n && n < 0x10FFFF)) &&
      n != 0xFEFF))

/-- Whether a blank or the end comes next. -/
def blankNext (rest : List CodePoint) : Bool := isBlankOrEnd (rest.head?.getD '\x00')

/-- Whether a first character keeps a text from being plain. -/
def firstIsIndicator (c : CodePoint) (rest : List CodePoint) : Bool :=
  c.isAnyOf ['#', ',', '[', ']', '\x7b', '\x7d', '&', '*', '!', '|', '>', '\'', '"', '%', '@', '`'] ||
    ((c == '?' || c == ':' || c == '-') && blankNext rest)

/-- Whether a colon or a number sign behind the first character keeps a text from being plain. -/
def innerIndicator : (previous : CodePoint) → List CodePoint → Bool
  | _, [] => false
  | previous, c :: rest =>
    (c == ':' && blankNext rest) || (c == '#' && isBlankOrEnd previous) || innerIndicator c rest

/-- Whether a text reads as a mark between documents at its start. -/
def startsLikeSeparator (cs : List CodePoint) : Bool :=
  (["---", "..."] : List Text).any fun mark => Text.startsWith mark.toList cs

/-- Whether a text has a mark that keeps it from being plain. -/
def hasIndicator : List CodePoint → Bool
  | [] => false
  | c :: rest => startsLikeSeparator (c :: rest) || firstIsIndicator c rest || innerIndicator c rest

/-- Whether a character of the first kind is followed at once by one of the second kind. -/
def hasPair (p q : CodePoint → Bool) : List CodePoint → Bool
  | a :: b :: rest => (p a && q b) || hasPair p q (b :: rest)
  | _ => false

/-- The traits of a text. -/
def Traits.ofChars (cs : List CodePoint) : Traits :=
  let isSpace (c : CodePoint) : Bool := c == ' '
  let isEdge (c : CodePoint) : Bool := isSpace c || isKeptBreak c
  let multiline := cs.any isKeptBreak
  let edges := cs.head?.any isEdge || cs.getLast?.any isEdge
  let breakSpace := hasPair isKeptBreak isSpace cs
  let escaped := hasPair isSpace isKeptBreak cs || cs.any isSpecial
  { empty := cs.isEmpty
    multiline := multiline
    allowPlain := cs.isEmpty || !(edges || breakSpace || escaped || multiline || hasIndicator cs)
    allowSingle := !(breakSpace || escaped)
    allowBlock := !cs.isEmpty && !(cs.getLast? == some ' ' || escaped) }

/-- The style for a text. `formed` tells that its form alone gives its tag, `asBlock` that a block is wished for, and
`asKey` that it is written in front of a colon. -/
def chooseStyle (t : Traits) (formed asBlock asKey : Bool) : ScalarStyle :=
  if asBlock then (if !asKey && t.allowBlock then .literal else .double)
  else if formed && !(asKey && (t.empty || t.multiline)) && t.allowPlain then .plain
  else if t.allowSingle && !(asKey && t.multiline) then .single
  else .double

/-- The text written so far. `afterBlank` tells that no space is needed, `atIndent` that the line holds nothing but
indentation and marks. -/
structure Pen where
  written : List CodePoint := []
  column : Nat := 0
  afterBlank : Bool := true
  atIndent : Bool := true

namespace Pen

/-- The column behind which a line is folded. -/
def width : Nat := 80

/-- Characters put on the line. -/
def put (p : Pen) (cs : List CodePoint) : Pen :=
  { p with written := cs.reverse ++ p.written, column := p.column + cs.length }

/-- A line break. -/
def breakLine (p : Pen) (c : CodePoint) : Pen :=
  { written := c :: p.written, column := 0, afterBlank := true, atIndent := true }

/-- A mark, with a space in front if one is needed. -/
def mark (p : Pen) (cs : List CodePoint) (needBlank : Bool) (blank indent : Bool := false) : Pen :=
  let p := p.put (if p.afterBlank || !needBlank then cs else ' ' :: cs)
  { p with afterBlank := blank, atIndent := p.atIndent && indent }

/-- Starts a line at the column `indent`, unless the line holds nothing else yet. -/
def indentTo (p : Pen) (indent : Nat) : Pen :=
  let p := if !p.atIndent || indent < p.column || (p.column == indent && !p.afterBlank) then p.breakLine '\n' else p
  if p.column < indent then { p.put (List.replicate (indent - p.column) ' ') with afterBlank := true } else p

/-- Text follows: the line is no longer at its start. -/
def inText (p : Pen) : Pen := { p with afterBlank := false, atIndent := false }

/-- A run of characters of one kind. -/
inductive Run where
  | word (cs : List CodePoint)
  | spaces (n : Nat)
  | breaks (cs : List CodePoint)
deriving Repr

/-- A character put in front of runs. -/
def addChar (c : CodePoint) : List Run → List Run
  | .word cs :: rest =>
    if c == ' ' then .spaces 1 :: .word cs :: rest
    else if isKeptBreak c then .breaks [c] :: .word cs :: rest
    else .word (c :: cs) :: rest
  | .spaces n :: rest =>
    if c == ' ' then .spaces (n + 1) :: rest
    else if isKeptBreak c then .breaks [c] :: .spaces n :: rest
    else .word [c] :: .spaces n :: rest
  | .breaks cs :: rest =>
    if c == ' ' then .spaces 1 :: .breaks cs :: rest
    else if isKeptBreak c then .breaks (c :: cs) :: rest
    else .word [c] :: .breaks cs :: rest
  | [] =>
    if c == ' ' then [.spaces 1] else if isKeptBreak c then [.breaks [c]] else [.word [c]]

/-- The runs of a text. -/
def runs (cs : List CodePoint) : List Run := cs.foldr addChar []

/-- Whether a single space is a place to fold: the line is full, and it stands between two words. -/
def foldsAt (p : Pen) (split : Bool) (n : Nat) : Bool := n == 1 && width < p.column && split

/-- Runs of a plain text. -/
def plainRuns (split : Bool) (indent : Nat) : List Run → Pen → Pen
  | [], p => p
  | .word cs :: rest, p => plainRuns split indent rest (p.put cs)
  | .spaces n :: rest, p =>
    plainRuns split indent rest
      (if p.foldsAt split n then (p.indentTo indent).inText else p.put (List.replicate n ' '))
  | .breaks cs :: rest, p => plainRuns split indent rest (p.put cs)

/-- A plain text. -/
def plain (p : Pen) (split : Bool) (indent : Nat) (cs : List CodePoint) : Pen :=
  if cs.isEmpty then p
  else plainRuns split indent (runs cs) (if p.afterBlank then p else p.put [' ']).inText

/-- A quote is doubled inside single quotes. -/
def doubleQuotes (cs : List CodePoint) : List CodePoint := cs.flatMap fun c : CodePoint => if c == '\'' then ['\'', '\''] else [c]

/-- Runs of a text in single quotes; `first` tells that nothing is written yet. -/
def singleRuns (split : Bool) (indent : Nat) : (first : Bool) → List Run → Pen → Pen
  | _, [], p => p
  | _, .word cs :: rest, p => singleRuns split indent false rest (p.put (doubleQuotes cs))
  | first, .spaces n :: rest, p =>
    singleRuns split indent false rest
      (if p.foldsAt split n && !first && !rest.isEmpty then p.indentTo indent
       else p.put (List.replicate n ' '))
  | _, .breaks cs :: rest, p =>
    let p := if cs.head? == some '\n' then p.breakLine '\n' else p
    singleRuns split indent false rest ((cs.foldl breakLine p).indentTo indent)

/-- A text in single quotes. -/
def single (p : Pen) (split : Bool) (indent : Nat) (cs : List CodePoint) : Pen :=
  (singleRuns split indent true (runs cs) (p.mark ['\''] true)).mark ['\''] false

/-- `n` in `width` upper-case hexadecimal digits. -/
def upperHex (width n : Nat) : List CodePoint := (Text.toHex width n).map CodePoint.toUpper

/-- Whether a code point stands for itself in double quotes. -/
def isOpen (n : Nat) : Bool :=
  ((0x20 ≤ n && n ≤ 0x7E) || (0xA0 ≤ n && n ≤ 0xD7FF) || (0xE000 ≤ n && n ≤ 0xFFFD)) &&
    !(n == 34 || n == 92 || n == 0x85 || n == 0x2028 || n == 0x2029 || n == 0xFEFF)

/-- The escape for a code point. -/
def escape (n : Nat) : List CodePoint :=
  match n with
  | 0 => ['\\', '0']
  | 7 => ['\\', 'a']
  | 8 => ['\\', 'b']
  | 9 => ['\\', 't']
  | 10 => ['\\', 'n']
  | 11 => ['\\', 'v']
  | 12 => ['\\', 'f']
  | 13 => ['\\', 'r']
  | 27 => ['\\', 'e']
  | 34 => ['\\', '"']
  | 92 => ['\\', '\\']
  | 0x85 => ['\\', 'N']
  | 0x2028 => ['\\', 'L']
  | 0x2029 => ['\\', 'P']
  | n =>
    if n ≤ 0xFF then '\\' :: 'x' :: upperHex 2 n
    else if n ≤ 0xFFFF then '\\' :: 'u' :: upperHex 4 n
    else '\\' :: 'U' :: upperHex 8 n

/-- Folds the line inside double quotes: a backslash ends it, and another one keeps a space at the new start. -/
def foldDouble (p : Pen) (indent : Nat) (next : Option CodePoint) : Pen :=
  let p := ((p.put ['\\']).indentTo indent).inText
  if next == some (CodePoint.char ' ') then p.put ['\\'] else p

/-- Code points in double quotes. `held` are the ones, in reverse, that are not on the line yet; `first` tells that
nothing came before. A line is not folded at the first or the last one. -/
def doubleCodes (split : Bool) (indent : Nat) : (first : Bool) → (held : List CodePoint) → List CodePoint → Pen → Pen
  | _, held, [], p => p.put held.reverse
  | first, held, c :: rest, p =>
    let inner := !first && !rest.isEmpty && split
    if isOpen c.toNat then
      if inner && (c == ' ' || held.isEmpty) && width < p.column + held.length then
        doubleCodes split indent false [c] rest ((p.put held.reverse).foldDouble indent (some c))
      else doubleCodes split indent false (c :: held) rest p
    else
      let p := (p.put held.reverse).put (escape c.toNat)
      if inner && width + 1 < p.column then
        doubleCodes split indent false [] rest (p.foldDouble indent rest.head?)
      else doubleCodes split indent false [] rest p

/-- Code points in double quotes. -/
def double (p : Pen) (split : Bool) (indent : Nat) (codes : List CodePoint) : Pen :=
  (doubleCodes split indent true [] codes (p.mark ['"'] true)).mark ['"'] false

/-- The lines of Base64 letters as a block, each on a line of its own. -/
def literal (p : Pen) (indent : Nat) (lines : List (List CodePoint)) : Pen :=
  lines.foldl (fun p line => ((p.indentTo indent).put line).breakLine '\n') ((p.mark ['|'] true).breakLine '\n')

end Pen

end LintPreview.Yaml
