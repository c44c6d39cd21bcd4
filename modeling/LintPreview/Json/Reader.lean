import LintPreview.Json.Value
import LintPreview.Number.Literal

/-!
Reading JSON text.

* `Json.read`: the value of a text, or why and where it is malformed. Besides the standard grammar `NaN`,
  `Infinity` and `-Infinity` are numbers.
* `JsonError.message`: the wording of an error, with line, column and position.
-/

namespace LintPreview

/-- What is wrong with a JSON text. -/
inductive JsonFault where
  | byteOrderMark
  | expectingValue
  | expectingKey
  | expectingColon
  | expectingComma
  | controlCharacter
  | unterminatedText
  | invalidEscape
  | invalidCodeEscape
  | extraData
deriving DecidableEq, Repr

/-- Why reading stopped. A fault comes with the number of characters from its place to the end of the text. -/
inductive JsonStop where
  | malformed (fault : JsonFault) (left : Nat)
  | numberTooLong (digits : Nat)
  | tooDeep
deriving DecidableEq, Repr

/-- A fault in its place; lines and columns count from one, positions from zero. -/
structure JsonMalformed where
  fault : JsonFault
  position : Nat
  line : Nat
  column : Nat
deriving DecidableEq, Repr

/-- Why a text has no JSON value. -/
inductive JsonError where
  | malformed (m : JsonMalformed)
  | numberTooLong (digits : Nat)
  | tooDeep
deriving DecidableEq, Repr

/-- The wording of a fault. -/
def JsonFault.message : JsonFault → Text
  | .byteOrderMark => "Unexpected UTF-8 BOM (decode using utf-8-sig)"
  | .expectingValue => "Expecting value"
  | .expectingKey => "Expecting property name enclosed in double quotes"
  | .expectingColon => "Expecting ':' delimiter"
  | .expectingComma => "Expecting ',' delimiter"
  | .controlCharacter => "Invalid control character at"
  | .unterminatedText => "Unterminated string starting at"
  | .invalidEscape => "Invalid \\escape"
  | .invalidCodeEscape => "Invalid \\uXXXX escape"
  | .extraData => "Extra data"

/-- The wording of a fault with its place. -/
def JsonMalformed.message (m : JsonMalformed) : Text :=
  m.fault.message ++ ": line " ++ Text.ofNat m.line ++ " column " ++ Text.ofNat m.column ++
    " (char " ++ Text.ofNat m.position ++ ")"

namespace Json

/-- How many lists and objects may be open at once. -/
def maxDepth : Nat := 970

/-- Blanks between the parts of a JSON text. -/
def isSpace (c : CodePoint) : Bool := c == ' ' || c == '\t' || c == '\n' || c == '\r'

/-- The rest from the first character that is no blank. -/
def skipSpace (cs : List CodePoint) : List CodePoint := cs.dropWhile isSpace

/-- The number of four hexadecimal digits at the start of `cs`, if another character follows them. -/
def hexFour? : List CodePoint → Option (Nat × List CodePoint)
  | a :: b :: c :: d :: e :: rest =>
    match Text.hexValue? a, Text.hexValue? b, Text.hexValue? c, Text.hexValue? d with
    | some a, some b, some c, some d => some (((a * 16 + b) * 16 + c) * 16 + d, e :: rest)
    | _, _, _, _ => none
  | _ => none

theorem hexFour?_length {cs rest : List CodePoint} {n : Nat} (h : hexFour? cs = some (n, rest)) :
    rest.length < cs.length := by
  unfold hexFour? at h
  split at h
  · split at h
    · simp only [Option.some.injEq, Prod.mk.injEq] at h
      obtain ⟨_, rfl⟩ := h
      simp only [List.length_cons]; omega
    · cases h
  · cases h

/-- The character that a one-letter escape stands for. -/
def simpleEscape? (c : CodePoint) : Option CodePoint :=
  if c = '"' ∨ c = '\\' ∨ c = '/' then some c
  else if c = 'b' then some '\x08'
  else if c = 'f' then some '\x0c'
  else if c = 'n' then some '\n'
  else if c = 'r' then some '\r'
  else if c = 't' then some '\t'
  else none

/-- Whether a code point is the first half of a surrogate pair. -/
def isHighHalf (n : Nat) : Bool := 0xD800 ≤ n && n ≤ 0xDBFF

/-- Whether a code point is the second half of a surrogate pair. -/
def isLowHalf (n : Nat) : Bool := 0xDC00 ≤ n && n ≤ 0xDFFF

/-- The code point of a surrogate pair. -/
def joinHalves (high low : Nat) : CodePoint := .ofNat (0x10000 + (high - 0xD800) * 0x400 + (low - 0xDC00))

/-- The second half of a surrogate pair whose first half `n` stands in front of `cs`, if its escape comes next. -/
def lowHalf? (n : Nat) : List CodePoint → Option (Nat × List CodePoint)
  | '\\' :: 'u' :: rest => if isHighHalf n then (hexFour? rest).filter fun x => isLowHalf x.1 else none
  | _ => none

theorem lowHalf?_length {cs rest : List CodePoint} {n m : Nat} (h : lowHalf? n cs = some (m, rest)) :
    rest.length < cs.length := by
  unfold lowHalf? at h
  split at h
  · split at h
    · obtain ⟨h, _⟩ := Option.filter_eq_some_iff.1 h
      have := hexFour?_length h
      simp only [List.length_cons]; omega
    · cases h
  · cases h

/-- The code points up to the closing quote and the rest; `opened` is the text behind the opening quote. Two escapes
of the halves of a surrogate pair are one code point. -/
def readCodes (opened : List CodePoint) : List CodePoint → Except JsonStop (List CodePoint × List CodePoint)
  | [] => .error (.malformed .unterminatedText (opened.length + 1))
  | '"' :: rest => .ok ([], rest)
  | ['\\'] => .error (.malformed .unterminatedText (opened.length + 1))
  | '\\' :: 'u' :: rest =>
    match h : hexFour? rest with
    | none => .error (.malformed .invalidCodeEscape (rest.length + 1))
    | some (n, rest') =>
      match h' : lowHalf? n rest' with
      | some (low, rest'') => do
        let (cs, tail) ← readCodes opened rest''
        return (joinHalves n low :: cs, tail)
      | none => do
        let (cs, tail) ← readCodes opened rest'
        return (.ofNat n :: cs, tail)
  | '\\' :: c :: rest =>
    match simpleEscape? c with
    | none => .error (.malformed .invalidEscape (rest.length + 2))
    | some e => do
      let (cs, tail) ← readCodes opened rest
      return (e :: cs, tail)
  | c :: rest =>
    if c.toNat ≤ 0x1F then .error (.malformed .controlCharacter (rest.length + 1))
    else do
      let (cs, tail) ← readCodes opened rest
      return (c :: cs, tail)
termination_by cs => cs.length
decreasing_by
  · have := hexFour?_length h; have := lowHalf?_length h'; simp only [List.length_cons]; omega
  · have := hexFour?_length h; simp only [List.length_cons]; omega
  · simp only [List.length_cons]; omega
  · simp only [List.length_cons]; omega

/-- The digits at the start of `cs`. -/
def digits (cs : List CodePoint) : List CodePoint := cs.takeWhile CodePoint.isDigit

/-- What follows the digits at the start of `cs`. -/
def afterDigits (cs : List CodePoint) : List CodePoint := cs.dropWhile CodePoint.isDigit

/-- The number that digits write. -/
def digitsValue (ds : List CodePoint) : Nat := ds.foldl (fun n c => n * 10 + (c.toNat - 48)) 0

/-- The whole part of a number: a zero alone or digits that start with no zero. -/
def wholePart? : List CodePoint → Option (List CodePoint × List CodePoint)
  | '0' :: rest => some (['0'], rest)
  | c :: rest => if c.isDigit then some (digits (c :: rest), afterDigits (c :: rest)) else none
  | [] => none

/-- The digits behind a point, if there are any. -/
def fractionPart : List CodePoint → List CodePoint × List CodePoint
  | '.' :: c :: rest => if c.isDigit then (digits (c :: rest), afterDigits (c :: rest)) else ([], '.' :: c :: rest)
  | cs => ([], cs)

/-- An exponent that has digits. -/
def exponentPart? : List CodePoint → Option (Int × List CodePoint)
  | e :: rest =>
    if e = 'e' ∨ e = 'E' then
      let (negative, rest) := Literal.splitSign rest
      match digits rest with
      | [] => none
      | ds => some (if negative then -(digitsValue ds : Int) else digitsValue ds, afterDigits rest)
    else none
  | [] => none

/-- A number without its sign. -/
def readMagnitude? (negative : Bool) (cs : List CodePoint) : Option (Except JsonStop (Json × List CodePoint)) :=
  match wholePart? cs with
  | none => none
  | some (whole, rest) =>
    let (fraction, rest) := fractionPart rest
    match exponentPart? rest with
    | some (power, rest) =>
      some (.ok (.float (Binary64.ofDecimal negative (digitsValue (whole ++ fraction)) (power - fraction.length)), rest))
    | none =>
      if fraction.isEmpty then
        if maxDecimalDigits < whole.length then some (.error (.numberTooLong whole.length))
        else some (.ok (.int (if negative then -(digitsValue whole : Int) else digitsValue whole), rest))
      else some (.ok (.float (Binary64.ofDecimal negative (digitsValue (whole ++ fraction)) (-(fraction.length : Int))), rest))

/-- A number at the start of `cs`. -/
def readNumber (cs : List CodePoint) : Except JsonStop (Json × List CodePoint) :=
  let found := match cs with
    | '-' :: rest => readMagnitude? true rest
    | _ => readMagnitude? false cs
  match found with
  | some result => result
  | none => .error (.malformed .expectingValue cs.length)

/-- The named values. -/
def names : List (List CodePoint × Json) :=
  ([("null", .null), ("true", .bool true), ("false", .bool false), ("NaN", .float .undefined),
    ("Infinity", .float (.infinite false)), ("-Infinity", .float (.infinite true))] : List (Text × Json)).map
    fun n => (n.1.toList, n.2)

/-- A named value at the start of `cs`. -/
def readName? (cs : List CodePoint) : Option (Json × List CodePoint) :=
  (names.find? fun n => n.1.isPrefixOf cs).map fun n => (n.2, cs.drop n.1.length)

mutual

/-- The value at the start of `cs`, with `depth` more lists and objects allowed to open. -/
def readValue : (fuel : Nat) → (depth : Nat) → List CodePoint → Except JsonStop (Json × List CodePoint)
  | 0, _, _ => .error .tooDeep
  | fuel + 1, depth, cs =>
    match cs with
    | '"' :: rest => do
      let (codes, tail) ← readCodes rest rest
      return (.text (Text.ofList codes), tail)
    | '[' :: rest =>
      match depth with
      | 0 => .error .tooDeep
      | depth + 1 =>
        match skipSpace rest with
        | ']' :: tail => .ok (.list [], tail)
        | inner => do
          let (items, tail) ← readItems fuel depth inner
          return (.list items, tail)
    | '{' :: rest =>
      match depth with
      | 0 => .error .tooDeep
      | depth + 1 =>
        match skipSpace rest with
        | '}' :: tail => .ok (.object [], tail)
        | inner => do
          let (entries, tail) ← readEntries fuel depth inner
          return (.object (collectEntries entries), tail)
    | _ =>
      match readName? cs with
      | some found => .ok found
      | none => readNumber cs

/-- Items up to the closing bracket. -/
def readItems : (fuel : Nat) → (depth : Nat) → List CodePoint → Except JsonStop (List Json × List CodePoint)
  | 0, _, _ => .error .tooDeep
  | fuel + 1, depth, cs => do
    let (v, rest) ← readValue fuel depth cs
    match skipSpace rest with
    | ']' :: tail => return ([v], tail)
    | ',' :: tail =>
      let (vs, tail) ← readItems fuel depth (skipSpace tail)
      return (v :: vs, tail)
    | other => .error (.malformed .expectingComma other.length)

/-- Entries up to the closing brace. -/
def readEntries : (fuel : Nat) → (depth : Nat) → List CodePoint → Except JsonStop (List (Text × Json) × List CodePoint)
  | 0, _, _ => .error .tooDeep
  | fuel + 1, depth, cs =>
    match cs with
    | '"' :: rest => do
      let (codes, rest) ← readCodes rest rest
      match skipSpace rest with
      | ':' :: rest =>
        let (v, rest) ← readValue fuel depth (skipSpace rest)
        match skipSpace rest with
        | '}' :: tail => return ([(Text.ofList codes, v)], tail)
        | ',' :: tail =>
          let (es, tail) ← readEntries fuel depth (skipSpace tail)
          return ((Text.ofList codes, v) :: es, tail)
        | other => .error (.malformed .expectingComma other.length)
      | other => .error (.malformed .expectingColon other.length)
    | other => .error (.malformed .expectingKey other.length)

end

/-- The whole text as one value with blanks around it. -/
def readAll (cs : List CodePoint) : Except JsonStop Json :=
  match cs with
  | '\uFEFF' :: rest => .error (.malformed .byteOrderMark (rest.length + 1))
  | _ => do
    let (v, rest) ← readValue (2 * cs.length + 2) maxDepth (skipSpace cs)
    match skipSpace rest with
    | [] => return v
    | other => .error (.malformed .extraData other.length)

/-- A fault `left` characters before the end of `cs`, in its place. -/
def place (cs : List CodePoint) (fault : JsonFault) (left : Nat) : JsonMalformed :=
  let position := cs.length - left
  let before := cs.take position
  let column := (before.reverse.takeWhile fun c : CodePoint => c != '\n').length + 1
  ⟨fault, position, before.count (CodePoint.char '\n') + 1, column⟩

/-- Reads a JSON text. -/
def readChars (cs : List CodePoint) : Except JsonError Json :=
  match readAll cs with
  | .ok v => .ok v
  | .error (.malformed fault left) => .error (.malformed (place cs fault left))
  | .error (.numberTooLong digits) => .error (.numberTooLong digits)
  | .error .tooDeep => .error .tooDeep

/-- Reads a JSON text. -/
def read (s : Text) : Except JsonError Json := readChars s.toList

end Json

end LintPreview
