import LintPreview.Text.Utf8
import LintPreview.Yaml.Token.Block

/-!
Names and tags: anchors, aliases, tags and directives.

* `takeAnchorName`, `takeTag`, `takeDirective`.
-/

namespace LintPreview.Yaml

/-- The name behind an anchor or alias mark, which comes next. -/
def takeAnchorName (c : Cursor) : Except Fault (Text × Cursor) :=
  let (name, c) := c.advance.takeWhile isNameChar
  let x := c.peek
  if name.isEmpty then .error .malformed
  else if isBlankOrEnd x || x.isAnyOf ['?', ':', ',', ']', '\x7d', '%', '@', '`'] then .ok (Text.ofList name, c)
  else .error .malformed

/-- The characters of a tag besides letters, digits, dashes, underscores and escapes. -/
def isTagPunctuation (c : CodePoint) : Bool :=
  c.isAnyOf [';', '/', '?', ':', '@', '&', '=', '+', '$', ',', '.', '!', '~', '*', '\'', '(', ')', '[', ']']

/-- Bytes written as a percent sign and two hexadecimal digits each. -/
def takeTagBytes : (fuel : Nat) → Cursor → Except Fault (List UInt8 × Cursor)
  | 0, c => .ok ([], c)
  | fuel + 1, c =>
    if c.peek == '%' then
      match Text.hexValue? (c.peekAt 1), Text.hexValue? (c.peekAt 2) with
      | some a, some b => do
        let (bs, c) ← takeTagBytes fuel (c.advanceBy 3)
        return (UInt8.ofNat (a * 16 + b) :: bs, c)
      | _, _ => .error .malformed
    else .ok ([], c)

/-- The characters of a tag from here on. -/
def takeTagFrom : (fuel : Nat) → Cursor → Except Fault (List CodePoint × Cursor)
  | 0, c => .ok ([], c)
  | fuel + 1, c => do
    let (plain, c) := c.takeWhile fun x => isNameChar x || isTagPunctuation x
    if c.peek == '%' then
      let (bytes, c) ← takeTagBytes (c.size + 1) c
      match Text.decode bytes with
      | .error _ => .error .malformed
      | .ok cs =>
        let (more, c) ← takeTagFrom fuel c
        return (plain ++ cs ++ more, c)
    else return (plain, c)

/-- The characters of a tag, of which there must be some. -/
def takeTagText (c : Cursor) : Except Fault (Text × Cursor) := do
  let (text, after) ← takeTagFrom (c.size + 1) c
  if after.index = c.index then .error .malformed else return (Text.ofList text, after)

/-- A handle: a bang, or a name between two bangs. -/
def takeTagHandle (c : Cursor) : Except Fault (Text × Cursor) :=
  if c.peek != '!' then .error .malformed
  else if c.peekAt 1 == ' ' then .ok ("!", c.advance)
  else
    let (name, c) := c.advance.takeWhile isNameChar
    if c.peek == '!' then .ok ("!" ++ Text.ofList name ++ "!", c.advance) else .error .malformed

/-- Whether another bang stands in the word behind the first one. -/
def hasSecondBang (c : Cursor) : Bool := ((c.rest.drop 1).takeWhile fun x => !isSpaceOrEnd x).contains '!'

/-- A tag; its bang comes next. -/
def takeTag (c : Cursor) : Except Fault (Token × Cursor) := do
  let x := c.peekAt 1
  let (token, c) ←
    if x == '<' then do
      let (suffix, c) ← takeTagText (c.advanceBy 2)
      if c.peek == '>' then pure (Token.tag none suffix, c.advance) else .error .malformed
    else if isBlankOrEnd x then pure (Token.tag none "!", c.advance)
    else do
      let (handle, c) ← if hasSecondBang c then takeTagHandle c else pure ("!", c.advance)
      let (suffix, c) ← takeTagText c
      pure (Token.tag (some handle) suffix, c)
  if isSpaceOrEnd c.peek then return (token, c) else .error .malformed

/-- A decimal number. -/
def takeVersionNumber (c : Cursor) : Except Fault (Nat × Cursor) :=
  let (ds, c) := c.takeWhile CodePoint.isDigit
  if ds.isEmpty then .error .malformed
  else ((Literal.readInt 10 (Text.ofList ds)).mapError Fault.literal).map fun n => (n.toNat, c)

/-- A directive; its percent sign comes next. -/
def takeDirective (c : Cursor) : Except Fault (Token × Cursor) := do
  let (name, c) := c.advance.takeWhile isNameChar
  if name.isEmpty || !isSpaceOrEnd c.peek then .error .malformed
  let (directive, c) ←
    if name == Text.toList "YAML" then do
      let (major, c) ← takeVersionNumber (c.skipWhile fun x : CodePoint => x == ' ')
      if c.peek != '.' then .error .malformed
      let (minor, c) ← takeVersionNumber c.advance
      if isSpaceOrEnd c.peek then pure (Directive.version major minor, c) else .error .malformed
    else if name == Text.toList "TAG" then do
      let (handle, c) ← takeTagHandle (c.skipWhile fun x : CodePoint => x == ' ')
      if c.peek != ' ' then .error .malformed
      let (start, c) ← takeTagText (c.skipWhile fun x : CodePoint => x == ' ')
      if isSpaceOrEnd c.peek then pure (Directive.tag handle start, c) else .error .malformed
    else pure (Directive.other, c.skipWhile fun x => !isBreakOrEnd x)
  let c ← takeIgnoredLine c
  return (.directive directive, c)

end LintPreview.Yaml
