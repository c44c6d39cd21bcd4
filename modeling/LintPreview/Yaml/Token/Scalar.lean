import LintPreview.Yaml.Token

/-!
Plain scalars, which are text without quotes, and scalars in quotes.

* `takePlain`: the words up to a mark, joined across lines.
* `startsPlain`: whether a plain scalar may start here.
* `takeQuoted`: the text between two quotes; single line breaks become spaces, further ones stay.
-/

namespace LintPreview.Yaml

/-- The marks of flow collections. -/
def isFlowMark (c : CodePoint) : Bool := c == ',' || c == '[' || c == ']' || c == '\x7b' || c == '\x7d'

/-- Whether a colon before `next` ends a plain scalar. -/
def colonEnds (inFlow : Bool) (next : CodePoint) : Bool := isBlankOrEnd next || (inFlow && isFlowMark next)

/-- The number of characters before the end of a word. -/
def wordLength (inFlow : Bool) : List CodePoint → Nat
  | [] => 0
  | c :: rest =>
    if isBlankOrEnd c || (c == ':' && colonEnds inFlow (rest.head?.getD '\x00')) ||
        (inFlow && (isFlowMark c || c == '?')) then 0
    else wordLength inFlow rest + 1

/-- Line breaks behind the first one between two words, and whether a document separator was met. -/
def takePlainBreaks : (fuel : Nat) → Cursor → List CodePoint × Bool × Cursor
  | 0, c => ([], false, c)
  | fuel + 1, c =>
    let c := c.skipWhile (· == ' ')
    match c.takeLineBreak? with
    | none => ([], false, c)
    | some (b, c) =>
      if c.atSeparator then ([b], true, c)
      else
        let (bs, stopped, c) := takePlainBreaks fuel c
        (b :: bs, stopped, c)

/-- The blanks between two words, and whether a line break is among them; there are none before a separator. -/
def takePlainSpaces (c : Cursor) : List CodePoint × Bool × Cursor :=
  let (blanks, c) := c.takeWhile fun x : CodePoint => x == ' '
  match c.takeLineBreak? with
  | none => (blanks, false, c)
  | some (b, c) =>
    if c.atSeparator then ([], true, c)
    else
      let (bs, stopped, c) := takePlainBreaks (c.size + 1) c
      if stopped then ([], true, c)
      else
        let first : List CodePoint := if b ≠ '\n' then [b] else if bs.isEmpty then [' '] else []
        (first ++ bs, true, c)

/-- The words from here on with the blanks `spaces` in front, and whether a line break ended the last one. -/
def takePlainFrom (inFlow : Bool) (indent : Int) :
    (fuel : Nat) → (spaces : List CodePoint) → (broke : Bool) → Cursor → List CodePoint × Bool × Cursor
  | 0, _, broke, c => ([], broke, c)
  | fuel + 1, spaces, broke, c =>
    if c.peek == '#' then ([], broke, c)
    else
      let n := wordLength inFlow c.rest
      if n = 0 then ([], broke, c)
      else
        let word := c.rest.take n
        let (next, broke, c) := takePlainSpaces (c.advanceBy n)
        if next.isEmpty || c.peek == '#' || (!inFlow && (c.column : Int) < indent) then (spaces ++ word, broke, c)
        else
          let (more, broke, c) := takePlainFrom inFlow indent fuel next broke c
          (spaces ++ word ++ more, broke, c)

/-- A plain scalar in a collection indented to `parent`. Besides the token it is told whether a line break follows
the last word, since a key may then start. -/
def takePlain (inFlow : Bool) (parent : Int) (c : Cursor) : Token × Bool × Cursor :=
  let (text, broke, c) := takePlainFrom inFlow (parent + 1) (c.size + 1) [] false c
  (.scalar (Text.ofList text) true, broke, c)

/-- Characters that start no plain scalar by themselves. -/
def isIndicator (c : CodePoint) : Bool :=
  isBlankOrEnd c || isFlowMark c ||
    c.isAnyOf ['-', '?', ':', '#', '&', '*', '!', '|', '>', '\'', '"', '%', '@', '`']

/-- Whether a plain scalar may start here. -/
def startsPlain (inFlow : Bool) (c : Cursor) : Bool :=
  let x := c.peek
  !isIndicator x || (!isBlankOrEnd (c.peekAt 1) && (x == '-' || (!inFlow && (x == '?' || x == ':'))))

/-- The code point that a one-letter escape stands for. -/
def escapeCode? (c : CodePoint) : Option Nat :=
  match c with
  | '0' => some 0
  | 'a' => some 7
  | 'b' => some 8
  | 't' => some 9
  | '\t' => some 9
  | 'n' => some 10
  | 'v' => some 11
  | 'f' => some 12
  | 'r' => some 13
  | 'e' => some 27
  | ' ' => some 32
  | '"' => some 34
  | '\\' => some 92
  | '/' => some 47
  | 'N' => some 0x85
  | '_' => some 0xA0
  | 'L' => some 0x2028
  | 'P' => some 0x2029
  | _ => none

/-- How many hexadecimal digits follow an escape letter. -/
def escapeWidth? (c : CodePoint) : Option Nat :=
  match c with
  | 'x' => some 2
  | 'u' => some 4
  | 'U' => some 8
  | _ => none

/-- The number of `n` hexadecimal digits that come next. -/
def hexNumber? (c : Cursor) (n : Nat) : Option Nat :=
  let digits := c.rest.take n
  if digits.length < n then none
  else (digits.mapM Text.hexValue?).map fun ds => ds.foldl (fun v d => v * 16 + d) 0

/-- Line breaks and the blanks around them, inside quotes. -/
def takeQuotedBreaks : (fuel : Nat) → Cursor → Except Fault (List CodePoint × Cursor)
  | 0, _ => .error .malformed
  | fuel + 1, c =>
    if c.atSeparator then .error .malformed
    else
      let c := c.skipWhile fun x => x == ' ' || x == '\t'
      match c.takeLineBreak? with
      | none => .ok ([], c)
      | some (b, c) => do
        let (bs, c) ← takeQuotedBreaks fuel c
        return (b :: bs, c)

/-- Whether a character stands for itself inside quotes of both kinds. -/
def isQuotedPlain (c : CodePoint) : Bool := !(c == '\'' || c == '"' || c == '\\' || isBlankOrEnd c)

/-- The code points up to the next blank or the closing quote. -/
def takeQuotedWord (double : Bool) : (fuel : Nat) → Cursor → Except Fault (List CodePoint × Cursor)
  | 0, _ => .error .malformed
  | fuel + 1, c =>
    let more (codes : List CodePoint) (c : Cursor) : Except Fault (List CodePoint × Cursor) := do
      let (rest, c) ← takeQuotedWord double fuel c
      return (codes ++ rest, c)
    let (codes, c) := c.takeWhile isQuotedPlain
    let x := c.peek
    if !double && x == '\'' && c.peekAt 1 == '\'' then more (codes ++ [.char '\'']) (c.advanceBy 2)
    else if (double && x == '\'') || (!double && (x == '"' || x == '\\')) then more (codes ++ [x]) c.advance
    else if double && x == '\\' then
      let c := c.advance
      let e := c.peek
      match escapeCode? e with
      | some n => more (codes ++ [CodePoint.ofNat n]) c.advance
      | none =>
        match escapeWidth? e with
        | some width =>
          match hexNumber? c.advance width with
          | none => .error .malformed
          | some n =>
            if 0x7FFFFFFF < n then .error .codeOverflow
            else if 0x10FFFF < n then .error .codeTooLarge
            else more (codes ++ [CodePoint.ofNat n]) (c.advance.advanceBy width)
        | none =>
          match c.takeLineBreak? with
          | none => .error .malformed
          | some (_, c) => do
            let (bs, c) ← takeQuotedBreaks (c.size + 1) c
            more (codes ++ bs) c
    else .ok (codes, c)

/-- The blanks between two words inside quotes; a line break counts as a space, further ones as themselves. -/
def takeQuotedSpaces (c : Cursor) : Except Fault (List CodePoint × Cursor) := do
  let (blanks, c) := c.takeWhile fun x => x == ' ' || x == '\t'
  match c.takeLineBreak? with
  | some (b, c) =>
    let (bs, c) ← takeQuotedBreaks (c.size + 1) c
    let first : List CodePoint := if b ≠ '\n' then [b] else if bs.isEmpty then [' '] else []
    return (first ++ bs, c)
  | none => if c.rest.isEmpty then .error .malformed else return (blanks, c)

/-- The code points up to the closing quote, and the place behind it. -/
def takeQuotedFrom (double : Bool) : (fuel : Nat) → Cursor → Except Fault (List CodePoint × Cursor)
  | 0, _ => .error .malformed
  | fuel + 1, c => do
    let (word, c) ← takeQuotedWord double (c.size + 1) c
    if c.peek == (if double then '"' else '\'') then return (word, c.advance)
    else
      let (blanks, c) ← takeQuotedSpaces c
      let (more, c) ← takeQuotedFrom double fuel c
      return (word ++ blanks ++ more, c)

/-- A scalar in quotes; the opening quote comes next. -/
def takeQuoted (c : Cursor) : Except Fault (Token × Cursor) := do
  let double := c.peek == '"'
  let (codes, c) ← takeQuotedFrom double (c.size + 1) c.advance
  return (.scalar (Text.ofList codes) false, c)

end LintPreview.Yaml
