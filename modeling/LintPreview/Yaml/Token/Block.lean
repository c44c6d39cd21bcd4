import LintPreview.Yaml.Token

/-!
Block scalars: literal ones keep their line breaks, folded ones join lines.

* `takeBlockScalar`: the text of the indented lines that follow the mark.
-/

namespace LintPreview.Yaml

/-- What to do with the line breaks at the end of a block scalar. -/
inductive Chomping where
  | strip
  | clip
  | keep
deriving DecidableEq, Repr

/-- The rest of a line that holds nothing but a comment, with its line break. -/
def takeIgnoredLine (c : Cursor) : Except Fault Cursor :=
  let c := c.skipWhile (· == ' ')
  let c := if c.peek == '#' then c.skipWhile fun x => !isBreakOrEnd x else c
  if isBreakOrEnd c.peek then .ok c.skipLineBreak else .error .malformed

/-- A chomping mark. -/
def takeChomping (c : Cursor) : Option Chomping × Cursor :=
  if c.peek == '+' then (some .keep, c.advance) else if c.peek == '-' then (some .strip, c.advance) else (none, c)

/-- An indentation digit; a zero is none. -/
def takeIncrement (c : Cursor) : Except Fault (Option Nat × Cursor) :=
  if c.peek.isDigit then
    if c.peek == '0' then .error .malformed else .ok (some (c.peek.toNat - 48), c.advance)
  else .ok (none, c)

/-- The marks behind the bar or the angle, in either order. -/
def takeBlockHeader (c : Cursor) : Except Fault (Chomping × Option Nat × Cursor) := do
  let (chomping, c) := takeChomping c
  let (increment, c) ← takeIncrement c
  let (chomping, c) := match chomping, increment with
    | none, some _ => takeChomping c
    | given, _ => (given, c)
  if isSpaceOrEnd c.peek then return (chomping.getD .clip, increment, c) else .error .malformed

/-- Empty lines in front of a block scalar, and the greatest column of the spaces in them. -/
def takeLeadingBreaks : (fuel : Nat) → (widest : Nat) → Cursor → List CodePoint × Nat × Cursor
  | 0, widest, c => ([], widest, c)
  | fuel + 1, widest, c =>
    match c.takeLineBreak? with
    | some (b, c) =>
      let (bs, widest, c) := takeLeadingBreaks fuel widest c
      (b :: bs, widest, c)
    | none =>
      if c.peek == ' ' then
        let c := c.advance
        takeLeadingBreaks fuel (max widest c.column) c
      else ([], widest, c)

/-- The place behind spaces up to the column `indent`. -/
def skipIndent (indent : Nat) (c : Cursor) : Cursor :=
  c.advanceBy (min (indent - c.column) (c.rest.takeWhile fun x : CodePoint => x == ' ').length)

/-- Empty lines between the lines of a block scalar. -/
def takeBlockBreaks (indent : Nat) : (fuel : Nat) → Cursor → List CodePoint × Cursor
  | 0, c => ([], c)
  | fuel + 1, c =>
    let c := skipIndent indent c
    match c.takeLineBreak? with
    | some (b, c) =>
      let (bs, c) := takeBlockBreaks indent fuel c
      (b :: bs, c)
    | none => ([], c)

/-- Whether a line of the block scalar starts here. -/
def atBlockLine (indent : Nat) (c : Cursor) : Bool := c.column == indent && !c.rest.isEmpty

/-- The lines of a block scalar from a line start on, with the empty lines `breaks` in front. The last line break
and the empty lines at the end are given apart. -/
def takeBlockLines (folded : Bool) (indent : Nat) :
    (fuel : Nat) → (breaks : List CodePoint) → Cursor → List CodePoint × List CodePoint × List CodePoint × Cursor
  | 0, breaks, c => ([], [], breaks, c)
  | fuel + 1, breaks, c =>
    let flush := !(c.peek == ' ' || c.peek == '\t')
    let (line, c) := c.takeWhile fun x => !isBreakOrEnd x
    let (lineBreak, c) := match c.takeLineBreak? with
      | some (b, c) => ([b], c)
      | none => ([], c)
    let (next, c) := takeBlockBreaks indent (c.size + 1) c
    if atBlockLine indent c then
      let joint : List CodePoint :=
        if folded && lineBreak == [.char '\n'] && flush && !(c.peek == ' ' || c.peek == '\t') then
          if next.isEmpty then [' '] else []
        else lineBreak
      let (more, lastBreak, tail, c) := takeBlockLines folded indent fuel next c
      (breaks ++ line ++ joint ++ more, lastBreak, tail, c)
    else (breaks ++ line, lineBreak, next, c)

/-- A block scalar in a collection indented to `parent`; the bar or the angle comes next. -/
def takeBlockScalar (folded : Bool) (parent : Int) (c : Cursor) : Except Fault (Token × Cursor) := do
  let (chomping, increment, c) ← takeBlockHeader c.advance
  let c ← takeIgnoredLine c
  let least := (max (parent + 1) 1).toNat
  let (breaks, indent, c) := match increment with
    | none =>
      let (bs, widest, c) := takeLeadingBreaks (c.size + 1) 0 c
      (bs, max least widest, c)
    | some n =>
      let indent := least + n - 1
      let (bs, c) := takeBlockBreaks indent (c.size + 1) c
      (bs, indent, c)
  let (text, lastBreak, tail, c) :=
    if atBlockLine indent c then takeBlockLines folded indent (c.size + 1) breaks c
    else ([], [], breaks, c)
  let text := match chomping with
    | .strip => text
    | .clip => text ++ lastBreak
    | .keep => text ++ lastBreak ++ tail
  return (.scalar (Text.ofList text) false, c)

end LintPreview.Yaml
