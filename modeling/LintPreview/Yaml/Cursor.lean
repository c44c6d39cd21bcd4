import LintPreview.Text.Digit

/-!
A place in a YAML text.

* `Cursor`: what is left of the text, with index, line and column; behind the end stands a NUL.
* `Cursor.advance`: a line break starts a new line, a byte order mark takes no column.
* `Cursor.takeLineBreak`: a line break and the character that it counts as.
-/

namespace LintPreview.Yaml

/-- A place in a text of `size` characters. -/
structure Cursor where
  size : Nat
  rest : List CodePoint
  index : Nat := 0
  line : Nat := 0
  column : Nat := 0
deriving Repr

/-- The characters that break a line. -/
def isBreak (c : CodePoint) : Bool :=
  c == '\n' || c == '\r' || c == '\u0085' || c == '\u2028' || c == '\u2029'

/-- A line break or the end. -/
def isBreakOrEnd (c : CodePoint) : Bool := c == '\x00' || isBreak c

/-- A space, a line break or the end. -/
def isSpaceOrEnd (c : CodePoint) : Bool := c == ' ' || isBreakOrEnd c

/-- A space, a tab, a line break or the end. -/
def isBlankOrEnd (c : CodePoint) : Bool := c == '\t' || isSpaceOrEnd c

/-- Letters, digits, dashes and underscores: the characters of a name. -/
def isNameChar (c : CodePoint) : Bool :=
  ('0' ≤ c && c ≤ '9') || ('A' ≤ c && c ≤ 'Z') || ('a' ≤ c && c ≤ 'z') || c == '-' || c == '_'

/-- The characters that a YAML text may hold. -/
def isAllowed (c : CodePoint) : Bool :=
  let n := c.toNat
  n == 9 || n == 10 || n == 13 || (0x20 ≤ n && n ≤ 0x7E) || n == 0x85 || (0xA0 ≤ n && n ≤ 0xD7FF) ||
    (0xE000 ≤ n && n ≤ 0xFFFD) || 0x10000 ≤ n

namespace Cursor

/-- The character `k` places ahead. -/
def peekAt (c : Cursor) (k : Nat) : CodePoint := (c.rest.drop k).head?.getD '\x00'

/-- The next character. -/
def peek (c : Cursor) : CodePoint := c.rest.head?.getD '\x00'

/-- The place behind the next character. -/
def advance (c : Cursor) : Cursor :=
  match c.rest with
  | [] => c
  | x :: rest =>
    if isBreak x && !(x == '\r' && rest.head? == some '\n') then ⟨c.size, rest, c.index + 1, c.line + 1, 0⟩
    else if x == '\uFEFF' then ⟨c.size, rest, c.index + 1, c.line, c.column⟩
    else ⟨c.size, rest, c.index + 1, c.line, c.column + 1⟩

/-- The place `n` characters ahead. -/
def advanceBy : Nat → Cursor → Cursor
  | 0, c => c
  | n + 1, c => advanceBy n c.advance

/-- The next characters that fit, and the place behind them. -/
def takeWhile (p : CodePoint → Bool) (c : Cursor) : List CodePoint × Cursor :=
  let taken := c.rest.takeWhile p
  (taken, advanceBy taken.length c)

/-- The place behind the next characters that fit. -/
def skipWhile (p : CodePoint → Bool) (c : Cursor) : Cursor := (c.takeWhile p).2

/-- A line break, as the character it counts as, and the place behind it. -/
def takeLineBreak? (c : Cursor) : Option (CodePoint × Cursor) :=
  match c.rest with
  | '\r' :: '\n' :: _ => some ('\n', advanceBy 2 c)
  | x :: _ =>
    if x == '\r' || x == '\n' || x == '\u0085' then some ('\n', c.advance)
    else if x == '\u2028' || x == '\u2029' then some (x, c.advance)
    else none
  | [] => none

/-- The place behind a line break, if one comes next. -/
def skipLineBreak (c : Cursor) : Cursor := ((c.takeLineBreak?).map (·.2)).getD c

/-- Whether three equal marks and a blank come next. -/
def atThree (c : Cursor) (mark : CodePoint) : Bool :=
  c.peekAt 0 == mark && c.peekAt 1 == mark && c.peekAt 2 == mark && isBlankOrEnd (c.peekAt 3)

/-- Whether a line of dashes or dots separates documents here. -/
def atSeparator (c : Cursor) : Bool := c.atThree '-' || c.atThree '.'

end Cursor

end LintPreview.Yaml
