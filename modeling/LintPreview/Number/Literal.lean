import LintPreview.Number.Binary64
import LintPreview.Text.Lines
import LintPreview.Text.Digit
import LintPreview.Text.Quoted

/-!
Numbers read from text.

* `Literal.readInt`: a whole number in a base, with an optional sign and single underscores between digits.
* `Literal.readFloat`: a decimal number, `inf`, `infinity` or `nan`.
* `LiteralError`: why a text is no number, with its wording.
-/

namespace LintPreview

-- Powers are the same whatever else is imported.
attribute [local instance (2000)] instPowNat

/-- Why a text does not read as a number. -/
inductive LiteralError where
  | notWhole (base : Nat) (text : Text)
  | tooLong (digits : Nat)
  | notDecimal (text : Text)
deriving DecidableEq, Repr

/-- The most digits that a whole number may have in a decimal text. -/
def maxDecimalDigits : Nat := 4300

/-- What follows the limit in the wording of a number that is too long. -/
def raiseLimitHint : Text := "; use sys.set_int_max_str_digits() to increase the limit"

/-- Whether a whole number has too many digits to be written. -/
def isTooLongToWrite (i : Int) : Bool := 10 ^ maxDecimalDigits ≤ i.natAbs

/-- The wording of a whole number that has too many digits to be written. -/
def tooLongToWriteMessage : Text :=
  "Exceeds the limit (" ++ Text.ofNat maxDecimalDigits ++ " digits) for integer string conversion" ++ raiseLimitHint

/-- The wording of an error. -/
def LiteralError.message : LiteralError → Text
  | .notWhole base text =>
    let shown := (Text.quoted text).toList.take 200
    "invalid literal for int() with base " ++ Text.ofNat base ++ ": " ++ Text.ofList shown
  | .tooLong digits =>
    "Exceeds the limit (" ++ Text.ofNat maxDecimalDigits ++ " digits) for integer string conversion: value has " ++
      Text.ofNat digits ++ " digits" ++ raiseLimitHint
  | .notDecimal text => "could not convert string to float: " ++ Text.quoted text

namespace Literal

/-- Blanks that may surround a number: the ASCII ones without the separators, and every other Unicode blank. -/
def isPadding (c : CodePoint) : Bool :=
  c == ' ' || ('\t' ≤ c && c ≤ '\r') || (0x7F < c.toNat && Text.isBlank c)

/-- A text without the blanks around a number. -/
def strip (cs : List CodePoint) : List CodePoint := ((cs.dropWhile isPadding).reverse.dropWhile isPadding).reverse

/-- A sign and what follows it. -/
def splitSign : List CodePoint → Bool × List CodePoint
  | '-' :: rest => (true, rest)
  | '+' :: rest => (false, rest)
  | cs => (false, cs)

/-- The value of a digit in bases up to 36; decimal digits of every script count. -/
def digitValue? (c : CodePoint) : Option Nat :=
  match Text.decimalValue? c with
  | some d => some d
  | none =>
    if 'a' ≤ c ∧ c ≤ 'z' then some (c.toNat - 87) else if 'A' ≤ c ∧ c ≤ 'Z' then some (c.toNat - 55) else none

/-- Digits in `base` at the start of `cs` and the rest. Single underscores may stand between digits; elsewhere in the
run they spoil it. -/
def digitsFrom (base : Nat) (afterDigit : Bool) : List CodePoint → Option (List Nat × List CodePoint)
  | [] => if afterDigit then some ([], []) else none
  | '_' :: rest => if afterDigit then digitsFrom base false rest else none
  | c :: rest =>
    match (digitValue? c).filter (· < base) with
    | some d => (digitsFrom base true rest).map fun (ds, tail) => (d :: ds, tail)
    | none => if afterDigit then some ([], c :: rest) else none

/-- The value of digits, the first one counting most. -/
def valueOf (base : Nat) (ds : List Nat) : Nat := ds.foldl (fun n d => n * base + d) 0

/-- Whether `cs` starts with the mark of its base, such as `0x`; an underscore may follow the mark. -/
def dropBaseMark (base : Nat) (cs : List CodePoint) : List CodePoint :=
  let marked (low high : CodePoint) : List CodePoint :=
    match cs with
    | '0' :: c :: '_' :: rest => if c = low ∨ c = high then rest else cs
    | '0' :: c :: rest => if c = low ∨ c = high then rest else cs
    | _ => cs
  if base = 2 then marked 'b' 'B' else if base = 8 then marked 'o' 'O' else if base = 16 then marked 'x' 'X' else cs

/-- A whole number in `base`. In base ten the number of digits is looked at before what follows them. -/
def readInt (base : Nat) (text : Text) : Except LiteralError Int :=
  let (negative, body) := splitSign (strip text.toList)
  match digitsFrom base false (dropBaseMark base body) with
  | none => .error (.notWhole base text)
  | some (ds, tail) =>
    if base = 10 ∧ maxDecimalDigits < ds.length then .error (.tooLong ds.length)
    else if tail.isEmpty then .ok (if negative then -(valueOf base ds : Int) else valueOf base ds)
    else .error (.notWhole base text)

/-- An underscore is passed over when a digit follows it. -/
def dropJoint : List CodePoint → List CodePoint
  | '_' :: e :: rest => if (Text.decimalValue? e).isSome then e :: rest else '_' :: e :: rest
  | cs => cs

theorem dropJoint_length_le (cs : List CodePoint) : (dropJoint cs).length ≤ cs.length := by
  unfold dropJoint
  split
  · split <;> simp
  · exact Nat.le_refl _

/-- Digits at the start of `cs` and the rest; a single underscore may stand between two digits. -/
def takeDigits : List CodePoint → List Nat × List CodePoint
  | [] => ([], [])
  | c :: rest =>
    match Text.decimalValue? c with
    | none => ([], c :: rest)
    | some d =>
      let (ds, tail) := takeDigits (dropJoint rest)
      (d :: ds, tail)
termination_by cs => cs.length
decreasing_by have := dropJoint_length_le rest; simp only [List.length_cons]; omega

/-- An exponent at the start of `cs`, zero if there is none, and the rest. -/
def takeExponent (cs : List CodePoint) : Option (Int × List CodePoint) :=
  match cs with
  | c :: rest =>
    if c = 'e' ∨ c = 'E' then
      let (negative, rest) := splitSign rest
      match takeDigits rest with
      | ([], _) => none
      | (ds, tail) => some (if negative then -(valueOf 10 ds : Int) else valueOf 10 ds, tail)
    else some (0, cs)
  | [] => some (0, [])

/-- A decimal number without sign: digits with an optional point and exponent. -/
def readUnsigned (negative : Bool) (cs : List CodePoint) : Option Binary64 :=
  let (whole, rest) := takeDigits cs
  let (fraction, rest) := match rest with
    | '.' :: rest => takeDigits rest
    | rest => ([], rest)
  if whole.isEmpty && fraction.isEmpty then none
  else match takeExponent rest with
    | some (power, []) => some (Binary64.ofDecimal negative (valueOf 10 (whole ++ fraction)) (power - fraction.length))
    | _ => none

/-- The named numbers. -/
def readName? (negative : Bool) (name : Text) : Option Binary64 :=
  if name = "inf" ∨ name = "infinity" then some (.infinite negative)
  else if name = "nan" then some .undefined
  else none

/-- A decimal number. -/
def readFloat (text : Text) : Except LiteralError Binary64 :=
  let (negative, body) := splitSign (strip text.toList)
  match readName? negative (Text.ofList (body.map CodePoint.toLower)) with
  | some x => .ok x
  | none =>
    match readUnsigned negative body with
    | some x => .ok x
    | none => .error (.notDecimal text)

end Literal

end LintPreview
