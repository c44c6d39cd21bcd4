import LintPreview.Text.Basic

/-!
Blank characters, trimming, and the lines of a text.

* `isBlank`: the characters that separate words, 29 code points in ten runs.
* `trim`: a text without the blanks at its two ends.
* `trim_toList`: trimming works on the code points.
* `lines`: the pieces between line ends; a line end at the very end opens no further line.
* `unifyNewlines`: a carriage return, with or without a line feed after it, becomes one line feed.
* `dedent`: lines without the indentation that all of them share.
-/

namespace LintPreview.Text

/-- Blank characters: the ASCII and Unicode spaces, the line ends and the four information separators. -/
def isBlank (c : CodePoint) : Bool :=
  let n := c.toNat
  (9 ≤ n && n ≤ 13) || (28 ≤ n && n ≤ 32) || n == 0x85 || n == 0xA0 || n == 0x1680 ||
    (0x2000 ≤ n && n ≤ 0x200A) || n == 0x2028 || n == 0x2029 || n == 0x202F || n == 0x205F || n == 0x3000

/-- The characters from the first one that is not blank. -/
def trimLeftChars (cs : List CodePoint) : List CodePoint := cs.dropWhile isBlank

/-- The characters up to the last one that is not blank. -/
def trimRightChars (cs : List CodePoint) : List CodePoint := (cs.reverse.dropWhile isBlank).reverse

/-- The characters without blanks at either end. -/
def trimChars (cs : List CodePoint) : List CodePoint := trimRightChars (trimLeftChars cs)

/-- A text without the blanks at its two ends. -/
def trim (s : Text) : Text := Text.ofList (trimChars s.toList)

/-- A text without the blanks at its end. -/
def trimRight (s : Text) : Text := Text.ofList (trimRightChars s.toList)

@[simp] theorem trim_toList (s : Text) : (trim s).toList = trimChars s.toList := rfl

@[simp] theorem trimChars_nil : trimChars [] = [] := rfl

/-- Characters that end a line. -/
def isLineEnd (c : CodePoint) : Bool :=
  let n := c.toNat
  (10 ≤ n && n ≤ 13) || (28 ≤ n && n ≤ 30) || n == 0x85 || n == 0x2028 || n == 0x2029

/-- The lines of `cs`, where `line` holds the current line in reverse. -/
def linesFrom (line : List CodePoint) : List CodePoint → List (List CodePoint)
  | [] => if line.isEmpty then [] else [line.reverse]
  | '\r' :: '\n' :: rest => line.reverse :: linesFrom [] rest
  | c :: rest => if isLineEnd c then line.reverse :: linesFrom [] rest else linesFrom (c :: line) rest

/-- The lines of a text, without their ends. -/
def lines (cs : List CodePoint) : List (List CodePoint) := linesFrom [] cs

/-- Every line end made of a carriage return becomes one line feed. -/
def unifyNewlines : List CodePoint → List CodePoint
  | '\r' :: '\n' :: rest => '\n' :: unifyNewlines rest
  | '\r' :: rest => '\n' :: unifyNewlines rest
  | c :: rest => c :: unifyNewlines rest
  | [] => []

/-- The longest common beginning of two texts. -/
def commonStart : List CodePoint → List CodePoint → List CodePoint
  | a :: as, b :: bs => if a = b then a :: commonStart as bs else []
  | _, _ => []

/-- The pieces of `cs` between the characters `sep`; there is always at least one. -/
def splitOnChar (sep : CodePoint) : List CodePoint → List (List CodePoint)
  | [] => [[]]
  | c :: rest =>
    if c = sep then [] :: splitOnChar sep rest
    else match splitOnChar sep rest with
      | [] => [[c]]
      | piece :: pieces => (c :: piece) :: pieces

/-- Texts put together with `sep` between them. -/
def joinWith (sep : List CodePoint) : List (List CodePoint) → List CodePoint
  | [] => []
  | [x] => x
  | x :: y :: rest => x ++ sep ++ joinWith sep (y :: rest)

/-- The blanks and tabs that a line starts with. -/
def margin (line : List CodePoint) : List CodePoint := line.takeWhile fun c => c == ' ' || c == '\t'

/-- Whether a line holds nothing but spaces and tabs. -/
def isMarginOnly (line : List CodePoint) : Bool := line.all fun c => c == ' ' || c == '\t'

/-- Lines that hold only spaces and tabs become empty; the others lose the margin that they share. -/
def dedent (ls : List (List CodePoint)) : List (List CodePoint) :=
  let emptied := ls.map fun l => if isMarginOnly l then [] else l
  match (emptied.filter fun l => !l.isEmpty).map margin with
  | [] => emptied
  | m :: ms =>
    let shared := ms.foldl commonStart m
    emptied.map fun l => if l.isEmpty then l else l.drop shared.length

/-- Whether `needle` starts `cs`. -/
def startsWith (needle cs : List CodePoint) : Bool := needle.isPrefixOf cs

/-- Whether `needle` stands anywhere in the text. -/
def containsText (needle : List CodePoint) : List CodePoint → Bool
  | [] => needle.isEmpty
  | c :: rest => startsWith needle (c :: rest) || containsText needle rest

/-- The text before the first `sep` and, if there is one, the text after it. -/
def cutAt (sep : CodePoint) (cs : List CodePoint) : List CodePoint × Option (List CodePoint) :=
  match cs.span (· != sep) with
  | (before, _ :: after) => (before, some after)
  | (before, []) => (before, none)

/-- The text after the last `sep` and, if there is one, the text before it. -/
def cutAtLast (sep : CodePoint) (cs : List CodePoint) : Option (List CodePoint) × List CodePoint :=
  match cutAt sep cs.reverse with
  | (after, some before) => (some before.reverse, after.reverse)
  | (after, none) => (none, after.reverse)

end LintPreview.Text
