import LintPreview.Remote.LabelTable
import LintPreview.Text.Composition
import LintPreview.Text.Quoted

/-!
Labels of host names: the parts between dots.

* `LabelFault`: why a text is no label or no host name.
* `checkLabel`: a label is composed text, has hyphens only where they may stand, starts with no mark, holds only code
  points that are allowed in their place, and is read in one direction.
-/

namespace LintPreview.Remote

/-- Why a text is no label or no host name. Positions count from 1. -/
inductive LabelFault where
  | empty
  | notComposed
  | innerHyphens
  | outerHyphen
  | markInFront
  | joiner (c : CodePoint) (position : Nat) (label : Text)
  | context (c : CodePoint) (position : Nat) (label : Text)
  | refused (c : CodePoint) (position : Nat) (label : Text)
  | unknownDirection (position : Nat) (label : Text)
  | firstDirection (label : Text)
  | leftInRightToLeft (position : Nat)
  | mixedDigits
  | rightInLeftToRight (position : Nat)
  | lastDirection
  | noCode
  | hyphenBehindCode
  | badCode
  | labelTooLong
  | noLabels
  | nameTooLong
deriving DecidableEq, Repr

/-- The number of a code point in at least four capital hexadecimal digits. -/
def codeName (c : CodePoint) : Text :=
  let digits := (Text.ofString (String.ofList (Nat.toDigits 16 c.toNat))).toList.map CodePoint.toUpper
  "U+" ++ Text.ofList (List.replicate (4 - digits.length) (.char '0') ++ digits)

/-- The wording of a fault. -/
def LabelFault.message : LabelFault → Text
  | .empty => "Empty Label"
  | .notComposed => "Label must be in Normalization Form C"
  | .innerHyphens => "Label has disallowed hyphens in 3rd and 4th position"
  | .outerHyphen => "Label must not start or end with a hyphen"
  | .markInFront => "Label begins with an illegal combining character"
  | .joiner c position label =>
    "Joiner " ++ codeName c ++ " not allowed at position " ++ Text.ofNat position ++ " in " ++ Text.quoted label
  | .context c position label =>
    "Codepoint " ++ codeName c ++ " not allowed at position " ++ Text.ofNat position ++ " in " ++ Text.quoted label
  | .refused c position label =>
    "Codepoint " ++ codeName c ++ " at position " ++ Text.ofNat position ++ " of " ++ Text.quoted label ++
      " not allowed"
  | .unknownDirection position label =>
    "Unknown directionality in label " ++ Text.quoted label ++ " at position " ++ Text.ofNat position
  | .firstDirection label =>
    "First codepoint in label " ++ Text.quoted label ++ " must be directionality L, R or AL"
  | .leftInRightToLeft position =>
    "Invalid direction for codepoint at position " ++ Text.ofNat position ++ " in a right-to-left label"
  | .mixedDigits => "Can not mix numeral types in a right-to-left label"
  | .rightInLeftToRight position =>
    "Invalid direction for codepoint at position " ++ Text.ofNat position ++ " in a left-to-right label"
  | .lastDirection => "Label ends with illegal codepoint directionality"
  | .noCode => "Malformed A-label, no Punycode eligible content found"
  | .hyphenBehindCode => "A-label must not end with a hyphen"
  | .badCode => "Invalid A-label"
  | .labelTooLong => "Label too long"
  | .noLabels => "Empty domain"
  | .nameTooLong => "Domain too long"

/-- Whether one of the ranges holds a code point. -/
def isIn (ranges : List (Nat × Nat)) (c : CodePoint) : Bool := Text.inRanges ranges c.toNat

/-! ### Neighbours -/

/-- The class of marks that suppress the vowel of the letter before. -/
def viramaClass : Nat := 9

/-- Whether the first letter that is not joined across lies in some ranges. -/
def meetsLetter (ranges : List (Nat × Nat)) (cs : List CodePoint) : Bool :=
  ((cs.dropWhile (isIn transparentRanges)).head?).any (isIn ranges)

/-- Whether a joiner may stand between the reversed text `before` and the text `after`. -/
def joinerFits (c : CodePoint) (before after : List CodePoint) : Bool :=
  (before.head?).any (fun b => Text.combiningClass b.toNat == viramaClass) ||
    c.toNat == 0x200C && meetsLetter (leftJoiningRanges ++ dualJoiningRanges) before &&
      meetsLetter (rightJoiningRanges ++ dualJoiningRanges) after

/-- Whether a code point is a digit as Arabic writes it. -/
def isArabicDigit (c : CodePoint) : Bool := 0x660 ≤ c.toNat && c.toNat ≤ 0x669

/-- Whether a code point is a digit as Persian and Urdu write it. -/
def isExtendedDigit (c : CodePoint) : Bool := 0x6F0 ≤ c.toNat && c.toNat ≤ 0x6F9

/-- Whether a code point needs certain others in its label. -/
def needsContext (c : CodePoint) : Bool :=
  [0xB7, 0x375, 0x5F3, 0x5F4, 0x30FB].contains c.toNat || isArabicDigit c || isExtendedDigit c

/-- Whether a code point that needs others may stand in a label between the reversed text `before` and the text
`after`. -/
def contextFits (label : List CodePoint) (c : CodePoint) (before after : List CodePoint) : Bool :=
  if c.toNat = 0xB7 then before.head? == some 'l' && after.head? == some 'l'
  else if c.toNat = 0x375 then (after.head?).any (isIn greekRanges)
  else if c.toNat = 0x5F3 ∨ c.toNat = 0x5F4 then (before.head?).any (isIn hebrewRanges)
  else if c.toNat = 0x30FB then label.any fun d => d.toNat != 0x30FB && isIn kanaOrHanRanges d
  else if isArabicDigit c then !label.any isExtendedDigit
  else !label.any isArabicDigit

/-- Checks the code point `c` of a label in its place. -/
def checkPlace (label : List CodePoint) (before : List CodePoint) (c : CodePoint) (after : List CodePoint) :
    Except LabelFault Unit :=
  let position := before.length + 1
  if isIn labelRanges c then .ok ()
  else if c.toNat = 0x200C ∨ c.toNat = 0x200D then
    if joinerFits c before after then .ok () else .error (.joiner c position (Text.ofList label))
  else if needsContext c then
    if contextFits label c before after then .ok () else .error (.context c position (Text.ofList label))
  else .error (.refused c position (Text.ofList label))

/-- Checks the code points of a label from one place on, where `before` is reversed. -/
def checkPlaces (label : List CodePoint) (before : List CodePoint) : List CodePoint → Except LabelFault Unit
  | [] => .ok ()
  | c :: rest => do
    checkPlace label before c rest
    checkPlaces label (c :: before) rest

/-! ### Direction -/

/-- How a code point of a label is read. -/
inductive Direction where
  | left
  | right
  | arabicNumber
  | number
  | neutral
  | attached
  | unknown
deriving DecidableEq, Repr

/-- How a code point of a label is read. -/
def Direction.of (c : CodePoint) : Direction :=
  if isIn rightToLeftRanges c || isIn arabicRanges c then .right
  else if isIn arabicNumberRanges c then .arabicNumber
  else if isIn numberRanges c then .number
  else if isIn neutralRanges c then .neutral
  else if isIn attachedRanges c then .attached
  else if isIn unknownRanges c then .unknown
  else .left

/-- The place of the first code point, from `position` on, whose direction fails a test. -/
def misreadAt? (fits : Direction → Bool) (position : Nat) : List Direction → Option Nat
  | [] => none
  | d :: rest => if fits d then misreadAt? fits (position + 1) rest else some position

/-- Whether the last code point that is not attached to another is read in a way that may end a label. -/
def endsWith (fits : Direction → Bool) (ds : List Direction) : Bool :=
  ((ds.reverse.dropWhile (· == .attached)).head?).any fits

/-- Whether digits of both kinds occur, and where the second kind occurs first. -/
def mixedAt? (position : Nat) (seen : Option Direction) : List Direction → Option Nat
  | [] => none
  | d :: rest =>
    if d = .number ∨ d = .arabicNumber then
      if seen = none ∨ seen = some d then mixedAt? (position + 1) (some d) rest else some position
    else mixedAt? (position + 1) seen rest

/-- Checks the directions of a label that is read from right to left. -/
def checkRightToLeft (ds : List Direction) : Except LabelFault Unit :=
  match misreadAt? (· != .left) 1 ds, mixedAt? 1 none ds with
  | some p, some q => .error (if p < q then .leftInRightToLeft p else .mixedDigits)
  | some p, none => .error (.leftInRightToLeft p)
  | none, some _ => .error .mixedDigits
  | none, none => if endsWith [.right, .number, .arabicNumber].contains ds then .ok () else .error .lastDirection

/-- Checks the directions of a label that is read from left to right though it holds parts that are not. -/
def checkLeftToRight (ds : List Direction) : Except LabelFault Unit :=
  match misreadAt? (fun d => d != .right && d != .arabicNumber) 1 ds with
  | some p => .error (.rightInLeftToRight p)
  | none => if endsWith [.left, .number].contains ds then .ok () else .error .lastDirection

/-- Checks that a label is read in one direction. -/
def checkDirection (label : List CodePoint) : Except LabelFault Unit :=
  let ds := label.map Direction.of
  match misreadAt? (· != .unknown) 1 ds with
  | some position => .error (.unknownDirection position (Text.ofList label))
  | none =>
    if !ds.any fun d => d == .right || d == .arabicNumber then .ok ()
    else match ds.head? with
      | some .right => checkRightToLeft ds
      | some .left => checkLeftToRight ds
      | _ => .error (.firstDirection (Text.ofList label))

/-! ### Labels -/

/-- Checks a label. -/
def checkLabel (label : List CodePoint) : Except LabelFault Unit := do
  if label.isEmpty then throw .empty
  if !Text.isComposed label then throw .notComposed
  if (label.drop 2).take 2 == [.char '-', .char '-'] then throw .innerHyphens
  if label.head? == some '-' || label.getLast? == some '-' then throw .outerHyphen
  if (label.head?).any (isIn markRanges) then throw .markInFront
  checkPlaces label [] label
  checkDirection label

end LintPreview.Remote
