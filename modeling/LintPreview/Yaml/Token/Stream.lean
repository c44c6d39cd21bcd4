import LintPreview.Yaml.Token.Mark
import LintPreview.Yaml.Token.Scalar

/-!
The tokens of a whole text. Indentation opens and closes block collections; a colon turns what stands before it on
the same line into a key.

* `Token.ofText`: the tokens of a text up to its end.
-/

namespace LintPreview.Yaml

/-- A token that becomes a key if a colon follows it: where it stands, and how many tokens came before it. -/
structure KeyCandidate where
  tokens : Nat
  required : Bool
  index : Nat
  line : Nat
  column : Nat
deriving Repr

/-- The most characters between the start of a key and its colon. -/
def maxKeyLength : Nat := 1024

/-- Reading tokens. There are `count` of them, in reverse; a candidate belongs to the block level, and one to every open
flow collection, innermost first. -/
structure TokenReader where
  cursor : Cursor
  tokens : List Token := []
  count : Nat := 0
  indent : Int := -1
  outer : List Int := []
  keyAllowed : Bool := true
  candidate : Option KeyCandidate := none
  outerCandidates : List (Option KeyCandidate) := []
deriving Repr

namespace TokenReader

/-- Whether a flow collection is open. -/
def inFlow (r : TokenReader) : Bool := !r.outerCandidates.isEmpty

/-- The reader with one more token. -/
def emit (r : TokenReader) (t : Token) : TokenReader := { r with tokens := t :: r.tokens, count := r.count + 1 }

/-- The reader with a token put behind the first `n` ones. -/
def emitAt (r : TokenReader) (n : Nat) (t : Token) : TokenReader :=
  let (after, before) := r.tokens.splitAt (r.count - n)
  { r with tokens := after ++ t :: before, count := r.count + 1 }

/-- The reader one character further. -/
def step (r : TokenReader) (n : Nat) : TokenReader := { r with cursor := r.cursor.advanceBy n }

/-- A place that is too far behind to become a key. -/
def isStale (c : Cursor) (k : KeyCandidate) : Bool := k.line != c.line || k.index + maxKeyLength < c.index

/-- Drops a candidate, which must not be one that needed a colon. -/
def dropCandidate (r : TokenReader) : Except Fault TokenReader :=
  match r.candidate with
  | some k => if k.required then .error .malformed else .ok { r with candidate := none }
  | none => .ok r

/-- A candidate that is kept unless it lies too far behind. -/
def freshen (c : Cursor) (k? : Option KeyCandidate) : Except Fault (Option KeyCandidate) :=
  match k? with
  | some k => if isStale c k then (if k.required then .error .malformed else .ok none) else .ok (some k)
  | none => .ok none

/-- Drops the candidates that lie too far behind. -/
def dropStale (r : TokenReader) : Except Fault TokenReader := do
  let candidate ← freshen r.cursor r.candidate
  let outer ← r.outerCandidates.mapM (freshen r.cursor)
  return { r with candidate := candidate, outerCandidates := outer }

/-- Makes the token that comes next a candidate, if a key may start here. -/
def saveCandidate (r : TokenReader) : Except Fault TokenReader :=
  let required := !r.inFlow && r.indent == (r.cursor.column : Int)
  if r.keyAllowed then do
    let r ← r.dropCandidate
    let found : KeyCandidate := ⟨r.count, required, r.cursor.index, r.cursor.line, r.cursor.column⟩
    return { r with candidate := some found }
  else .ok r

/-- Closes the block collections that are indented deeper than `column`. -/
def unwindTo (r : TokenReader) (column : Int) : TokenReader :=
  if r.inFlow then r else go r r.outer
where
  /-- Closes collections while there are outer ones. -/
  go (r : TokenReader) : List Int → TokenReader
    | [] => r
    | i :: rest =>
      if column < r.indent then go { r.emit .blockEnd with indent := i, outer := rest } rest else r

/-- Opens a block collection at `column`, if it is indented deeper than the current one. -/
def openAt (r : TokenReader) (column : Int) : Option TokenReader :=
  if r.indent < column then some { r with indent := column, outer := r.indent :: r.outer } else none

/-- The place behind spaces, comments and line breaks; a line break outside flow collections allows a key. -/
def skipToToken : (fuel : Nat) → TokenReader → TokenReader
  | 0, r => r
  | fuel + 1, r =>
    let c := r.cursor.skipWhile fun x : CodePoint => x == ' '
    let c := if c.peek == '#' then c.skipWhile fun x => !isBreakOrEnd x else c
    match c.takeLineBreak? with
    | some (_, c) => skipToToken fuel { r with cursor := c, keyAllowed := r.keyAllowed || !r.inFlow }
    | none => { r with cursor := c }

/-- A line that separates documents or directs the reader closes all block collections. -/
def closeBlocks (r : TokenReader) : Except Fault TokenReader := do
  let r ← (r.unwindTo (-1)).dropCandidate
  return { r with keyAllowed := false }

/-- Opens a flow collection. -/
def openFlow (r : TokenReader) (t : Token) : Except Fault TokenReader := do
  let r ← r.saveCandidate
  return { (r.emit t).step 1 with
    candidate := none, outerCandidates := r.candidate :: r.outerCandidates, keyAllowed := true }

/-- Closes a flow collection. -/
def closeFlow (r : TokenReader) (t : Token) : Except Fault TokenReader := do
  let r ← r.dropCandidate
  match r.outerCandidates with
  | [] => .error .malformed
  | k :: rest => return { (r.emit t).step 1 with candidate := k, outerCandidates := rest, keyAllowed := false }

/-- A mark that opens a block collection at its own column. -/
def blockMark (r : TokenReader) (opens mark : Token) : Except Fault TokenReader := do
  if !r.inFlow && !r.keyAllowed then .error .malformed
  let r := if r.inFlow then r else
    match r.openAt r.cursor.column with
    | some r => r.emit opens
    | none => r
  let r ← { r with keyAllowed := mark == Token.blockEntry || !r.inFlow }.dropCandidate
  return (r.emit mark).step 1

/-- A colon: it makes the candidate a key, or stands behind a key that has a mark of its own. -/
def valueMark (r : TokenReader) : Except Fault TokenReader :=
  match r.candidate with
  | some k =>
    let r := { r with candidate := none, keyAllowed := false }.emitAt k.tokens .key
    let r := if r.inFlow then r else
      match r.openAt k.column with
      | some r => r.emitAt k.tokens .blockMappingStart
      | none => r
    .ok ((r.emit .value).step 1)
  | none => r.blockMark .blockMappingStart .value

/-- Puts the token that `take` finds, which may become a key. -/
def keyToken (r : TokenReader) (take : Cursor → Except Fault (Token × Cursor)) : Except Fault TokenReader := do
  let r ← r.saveCandidate
  let (t, c) ← take r.cursor
  return { r.emit t with cursor := c, keyAllowed := false }

/-- A plain scalar. -/
def plainToken (r : TokenReader) : Except Fault TokenReader := do
  let r ← r.saveCandidate
  let (t, broke, c) := takePlain r.inFlow r.indent r.cursor
  return { r.emit t with cursor := c, keyAllowed := broke }

/-- A block scalar. -/
def blockScalarToken (r : TokenReader) (folded : Bool) : Except Fault TokenReader := do
  let r ← { r with keyAllowed := true }.dropCandidate
  let (t, c) ← takeBlockScalar folded r.indent r.cursor
  return { r.emit t with cursor := c }

/-- A comma between the items of a flow collection. -/
def flowEntry (r : TokenReader) : Except Fault TokenReader := do
  let r ← { r with keyAllowed := true }.dropCandidate
  return (r.emit .flowEntry).step 1

/-- Whether a blank follows the next character. -/
def blankFollows (c : Cursor) : Bool := isBlankOrEnd (c.peekAt 1)

/-- Reads the token that starts here. -/
def token (r : TokenReader) : Except Fault TokenReader :=
  let c := r.cursor
  let x := c.peek
  let atStart := c.column == 0
  if atStart && x == '%' then do
    let r ← r.closeBlocks
    let (t, c) ← takeDirective r.cursor
    return { r.emit t with cursor := c }
  else if atStart && c.atThree '-' then do
    return ((← r.closeBlocks).emit .documentStart).step 3
  else if atStart && c.atThree '.' then do
    return ((← r.closeBlocks).emit .documentEnd).step 3
  else if x == '[' then r.openFlow .flowSequenceStart
  else if x == '\x7b' then r.openFlow .flowMappingStart
  else if x == ']' then r.closeFlow .flowSequenceEnd
  else if x == '\x7d' then r.closeFlow .flowMappingEnd
  else if x == ',' then r.flowEntry
  else if x == '-' && blankFollows c then r.blockMark .blockSequenceStart .blockEntry
  else if x == '?' && (r.inFlow || blankFollows c) then r.blockMark .blockMappingStart .key
  else if x == ':' && (r.inFlow || blankFollows c) then r.valueMark
  else if x == '*' then r.keyToken fun c => (takeAnchorName c).map fun n => (.alias n.1, n.2)
  else if x == '&' then r.keyToken fun c => (takeAnchorName c).map fun n => (.anchor n.1, n.2)
  else if x == '!' then r.keyToken takeTag
  else if x == '|' && !r.inFlow then r.blockScalarToken false
  else if x == '>' && !r.inFlow then r.blockScalarToken true
  else if x == '\'' || x == '"' then r.keyToken takeQuoted
  else if startsPlain r.inFlow c then r.plainToken
  else .error .malformed

/-- How many of the tokens are certain: no key can be put in front of them any more. -/
def certain (r : TokenReader) : Nat :=
  ((r.candidate :: r.outerCandidates).filterMap fun k? => k?.map (·.tokens)).foldl min r.count

/-- Reads up to the next token; at the end of the text the last tokens are put, and none is left to read. -/
def next (r : TokenReader) : Except Fault (TokenReader × Bool) := do
  let r := r.skipToToken (r.cursor.size + 1)
  let r ← r.dropStale
  let r := r.unwindTo r.cursor.column
  if r.cursor.rest.isEmpty then
    return ((← (r.unwindTo (-1)).dropCandidate).emit .streamEnd, false)
  else return (← (← r.token).dropStale, true)

/-- Reads tokens up to the end of the text, of which each takes a character at least. A fault stands behind the tokens
that are certain when it is met. -/
def readAll : (fuel : Nat) → TokenReader → List Token
  | 0, r => r.tokens.reverse
  | fuel + 1, r =>
    match r.next with
    | .error fault => r.tokens.reverse.take r.certain ++ [.broken fault]
    | .ok (r, true) => readAll fuel r
    | .ok (r, false) => r.tokens.reverse

end TokenReader

/-- The tokens of a text. A byte order mark in front is passed over. -/
def Token.ofText (cs : List CodePoint) : List Token :=
  if cs.all isAllowed then
    let cursor : Cursor := { size := cs.length, rest := cs }
    let cursor := if cursor.peek == CodePoint.char '\uFEFF' then cursor.advance else cursor
    TokenReader.readAll (cs.length + 1) { cursor := cursor }
  else [.broken .malformed]

end LintPreview.Yaml
