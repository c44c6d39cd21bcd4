import LintPreview.Yaml.Token

/-!
Tags: the kind of value that a node stands for.

* `Tag.ofName`: the tag of a full name.
* `Tag.ofPlain`: the tag that a plain scalar has by its form.
-/

namespace LintPreview.Yaml

/-- The kind of value that a node stands for. -/
inductive Tag where
  | null
  | bool
  | int
  | float
  | binary
  | timestamp
  | text
  | sequence
  | mapping
  | set
  | orderedMapping
  | pairs
  | merge
  | default
  | unknown
deriving DecidableEq, Repr

/-- What the names of the standard tags start with. -/
def tagNamespace : Text := "tag:yaml.org,2002:"

/-- The standard tags by the ends of their names. -/
def standardTags : List (Text × Tag) :=
  [("null", .null), ("bool", .bool), ("int", .int), ("float", .float), ("binary", .binary),
   ("timestamp", .timestamp), ("str", .text), ("seq", .sequence), ("map", .mapping), ("set", .set),
   ("omap", .orderedMapping), ("pairs", .pairs), ("merge", .merge), ("value", .default)]

/-- The tag of a full name. -/
def Tag.ofName (name : Text) : Tag :=
  ((standardTags.find? fun t => name = tagNamespace ++ t.1).map (·.2)).getD .unknown

namespace Plain

/-- Digits and underscores. -/
def isDigitOrJoint (c : CodePoint) : Bool := c.isDigit || c == '_'

/-- A text without the sign in front of it. -/
def dropSign : List CodePoint → List CodePoint
  | '-' :: rest => rest
  | '+' :: rest => rest
  | cs => cs

/-- Groups of one or two digits below sixty, each after a colon. -/
def isSixties : List CodePoint → Bool
  | [] => true
  | ':' :: a :: b :: rest =>
    if a.isDigit && b.isDigit then a ≤ '5' && isSixties rest
    else a.isDigit && b == ':' && isSixties (b :: rest)
  | [':', a] => a.isDigit
  | _ => false

/-- The text of a boolean in its three spellings. -/
def booleanWords : List (Text × Bool) :=
  [("yes", true), ("no", false), ("true", true), ("false", false), ("on", true), ("off", false)]

/-- A word with its first letter as a capital. -/
def capitalized : List CodePoint → List CodePoint
  | [] => []
  | c :: rest => c.toUpper :: rest

/-- Whether `cs` is `word` in lower case, capitalised or in upper case. -/
def isSpelling (word : Text) (cs : List CodePoint) : Bool :=
  cs == word.toList || cs == capitalized word.toList || cs == word.toList.map CodePoint.toUpper

/-- Whether a text has the form of a boolean. -/
def isBool (cs : List CodePoint) : Bool := booleanWords.any fun w => isSpelling w.1 cs

/-- Whether a text has the form of null. -/
def isNull (cs : List CodePoint) : Bool :=
  cs.isEmpty || cs == [.char '~'] || isSpelling "null" cs

/-- A colon and two digits, the first below six if there are two, over and over: the tail of a number in base sixty. -/
def isBaseSixty (cs : List CodePoint) : Bool :=
  match cs with
  | c :: _ =>
    let tail := cs.dropWhile isDigitOrJoint
    '1' ≤ c && c ≤ '9' && !tail.isEmpty && isSixties tail
  | [] => false

/-- Whether a text has the form of a whole number. -/
def isInt (cs : List CodePoint) : Bool :=
  match dropSign cs with
  | '0' :: 'b' :: rest => !rest.isEmpty && rest.all fun c => c == '0' || c == '1' || c == '_'
  | '0' :: 'x' :: rest => !rest.isEmpty && rest.all fun c => (Text.hexValue? c).isSome || c == '_'
  | ['0'] => true
  | '0' :: rest => rest.all fun c => ('0' ≤ c && c ≤ '7') || c == '_'
  | c :: rest => ('1' ≤ c && c ≤ '9' && rest.all isDigitOrJoint) || isBaseSixty (c :: rest)
  | [] => false

/-- An exponent with a sign, or nothing. -/
def isExponent : List CodePoint → Bool
  | [] => true
  | e :: sign :: rest =>
    (e == 'e' || e == 'E') && (sign == '-' || sign == '+') && !rest.isEmpty && rest.all CodePoint.isDigit
  | _ => false

/-- Digits, colons and a point: a number in base sixty with a fraction. -/
def isBaseSixtyFraction (cs : List CodePoint) : Bool :=
  match cs with
  | c :: _ =>
    let tail := cs.dropWhile isDigitOrJoint
    let groups := tail.takeWhile fun x : CodePoint => x != '.'
    match tail.dropWhile fun x : CodePoint => x != '.' with
    | '.' :: fraction => c.isDigit && !groups.isEmpty && isSixties groups && fraction.all isDigitOrJoint
    | _ => false
  | [] => false

/-- Whether a text has the form of a decimal number. -/
def isFloat (cs : List CodePoint) : Bool :=
  let body := dropSign cs
  let signed := body.length < cs.length
  match body with
  | '.' :: c :: rest =>
    if c.isDigit then !signed && isExponent (rest.dropWhile isDigitOrJoint)
    else
      let word := c :: rest
      isSpelling "inf" word || (!signed && ["nan", "NaN", "NAN"].any fun w => word == Text.toList w)
  | c :: rest =>
    if c.isDigit then
      match rest.dropWhile isDigitOrJoint with
      | '.' :: fraction => isExponent (fraction.dropWhile isDigitOrJoint) || isBaseSixtyFraction body
      | _ => isBaseSixtyFraction body
    else false
  | [] => false

/-- `n` digits at the start, and the rest. -/
def takeDigits? : Nat → List CodePoint → Option (List CodePoint)
  | 0, cs => some cs
  | n + 1, c :: rest => if c.isDigit then takeDigits? n rest else none
  | _ + 1, [] => none

/-- One or two digits at the start, and the rest. -/
def takeOneOrTwo? (cs : List CodePoint) : Option (List CodePoint) := (takeDigits? 2 cs) <|> (takeDigits? 1 cs)

/-- A character at the start, and the rest. -/
def takeChar? (c : CodePoint) : List CodePoint → Option (List CodePoint)
  | x :: rest => if x = c then some rest else none
  | [] => none

/-- Whether a text is a time zone or nothing. -/
def isZone (cs : List CodePoint) : Bool :=
  match cs.dropWhile fun c : CodePoint => c == ' ' || c == '\t' with
  | [] => cs.isEmpty
  | ['Z'] => true
  | sign :: rest =>
    (sign == '-' || sign == '+') &&
      match takeOneOrTwo? rest with
      | some [] => true
      | some (':' :: rest) => takeDigits? 2 rest == some []
      | _ => false

/-- Whether a text is a time of day with an optional fraction and zone. -/
def isClock (cs : List CodePoint) : Bool :=
  match takeOneOrTwo? cs >>= takeChar? ':' >>= takeDigits? 2 >>= takeChar? ':' >>= takeDigits? 2 with
  | some ('.' :: rest) => isZone (rest.dropWhile CodePoint.isDigit)
  | some rest => isZone rest
  | none => false

/-- What stands between a date and a time. -/
def afterDateMark? (cs : List CodePoint) : Option (List CodePoint) :=
  match cs with
  | 'T' :: rest => some rest
  | 't' :: rest => some rest
  | c :: rest => if c == ' ' || c == '\t' then some (rest.dropWhile fun c : CodePoint => c == ' ' || c == '\t') else none
  | [] => none

/-- Whether a text has the form of a date, or of a date with a time. -/
def isTimestamp (cs : List CodePoint) : Bool :=
  let year := takeDigits? 4 cs >>= takeChar? '-'
  (year >>= takeDigits? 2 >>= takeChar? '-' >>= takeDigits? 2) == some [] ||
    match year >>= takeOneOrTwo? >>= takeChar? '-' >>= takeOneOrTwo? >>= afterDateMark? with
    | some clock => isClock clock
    | none => false

end Plain

/-- The tag that a text without a line feed at its end has by its form. -/
def Tag.ofForm (cs : List CodePoint) : Tag :=
  if Plain.isBool cs then .bool
  else if Plain.isFloat cs then .float
  else if Plain.isInt cs then .int
  else if cs == [.char '<', .char '<'] then .merge
  else if Plain.isNull cs then .null
  else if Plain.isTimestamp cs then .timestamp
  else if cs == [.char '='] then .default
  else if cs == [.char '!'] || cs == [.char '&'] || cs == [.char '*'] then .unknown
  else .text

/-- The text without one line feed at its end, unless nothing else is in it. -/
def dropFinalBreak (cs : List CodePoint) : List CodePoint :=
  if 1 < cs.length && cs.getLast? == some '\n' then cs.dropLast else cs

/-- The tag that a scalar has by its form; a line feed at its end does not count. -/
def Tag.ofPlain (s : Text) : Tag := Tag.ofForm (dropFinalBreak s.toList)

end LintPreview.Yaml
