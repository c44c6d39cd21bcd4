/-!
Code points and texts.

* `CodePoint`: a character, or one half of a surrogate pair that stands alone. Escapes in JSON and in YAML can write
  such halves, so texts that come from there are sequences of code points, not of characters.
* `Text`: a sequence of code points.
* `CodePoint.ofNat_toNat`: a code point is given by its number.
* `Text.chars?`: the characters of a text, if it holds no lone half.
-/

namespace LintPreview

instance decidableEqExcept {ε α : Type} [DecidableEq ε] [DecidableEq α] : DecidableEq (Except ε α)
  | .ok a, .ok b => if h : a = b then .isTrue (congrArg _ h) else .isFalse fun heq => h (Except.ok.inj heq)
  | .error a, .error b => if h : a = b then .isTrue (congrArg _ h) else .isFalse fun heq => h (Except.error.inj heq)
  | .ok _, .error _ => .isFalse nofun
  | .error _, .ok _ => .isFalse nofun

/-- Half of a surrogate pair, by its distance from U+D800. -/
abbrev Half := Fin 0x800

/-- A character, or half of a surrogate pair that stands alone. -/
inductive CodePoint where
  | char (c : Char)
  | half (h : Half)
deriving DecidableEq, Repr, Inhabited

namespace CodePoint

instance : Coe Char CodePoint := ⟨.char⟩

instance : Coe (List Char) (List CodePoint) := ⟨List.map .char⟩

/-- The number of a code point. -/
def toNat : CodePoint → Nat
  | .char c => c.toNat
  | .half h => 0xD800 + h.val

/-- The code point of a number; what is out of range becomes zero. -/
def ofNat (n : Nat) : CodePoint :=
  if h : 0xD800 ≤ n ∧ n < 0xE000 then .half ⟨n - 0xD800, by omega⟩ else .char (Char.ofNat n)

/-- The character, if the code point is one. -/
def char? : CodePoint → Option Char
  | .char c => some c
  | .half _ => none

/-- Whether the code point is half of a surrogate pair. -/
def isHalf : CodePoint → Bool
  | .char _ => false
  | .half _ => true

instance : LE CodePoint := ⟨fun a b => a.toNat ≤ b.toNat⟩

instance : LT CodePoint := ⟨fun a b => a.toNat < b.toNat⟩

instance (a b : CodePoint) : Decidable (a ≤ b) := inferInstanceAs (Decidable (a.toNat ≤ b.toNat))

instance (a b : CodePoint) : Decidable (a < b) := inferInstanceAs (Decidable (a.toNat < b.toNat))

/-- Whether the code point is a digit from zero to nine. -/
def isDigit : CodePoint → Bool
  | .char c => c.isDigit
  | .half _ => false

/-- Whether the code point is a letter from A to Z in either case. -/
def isLetter : CodePoint → Bool
  | .char c => c.isAlpha
  | .half _ => false

/-- Whether the code point is one of some marks. -/
def isAnyOf (marks : List Char) : CodePoint → Bool
  | .char c => marks.contains c
  | .half _ => false

/-- The lower form of a letter from A to Z; any other code point stays. -/
def toLower : CodePoint → CodePoint
  | .char c => .char c.toLower
  | .half h => .half h

/-- The capital of a letter from a to z; any other code point stays. -/
def toUpper : CodePoint → CodePoint
  | .char c => .char c.toUpper
  | .half h => .half h

/-- Whether the code point is in the ASCII range. -/
def isAscii (c : CodePoint) : Bool := c.toNat < 0x80

theorem ofNat_toNat (c : CodePoint) : ofNat c.toNat = c := by
  cases c with
  | char c =>
    have h := c.valid
    have hn : ¬ (0xD800 ≤ c.toNat ∧ c.toNat < 0xE000) := by
      rcases h with h | h
      · have : c.toNat < 0xD800 := h
        omega
      · have : 0xDFFF < c.toNat := h.1
        omega
    simp [toNat, ofNat, hn, Char.ofNat_toNat]
  | half h => simp [toNat, ofNat]; omega

end CodePoint

/-- A sequence of code points. -/
structure Text where
  points : List CodePoint
deriving DecidableEq, Repr, Inhabited

namespace Text

/-- The text of code points. -/
def ofList (points : List CodePoint) : Text := ⟨points⟩

/-- The code points of a text. -/
def toList (t : Text) : List CodePoint := t.points

/-- The text of characters. -/
def ofChars (cs : List Char) : Text := ⟨cs.map .char⟩

/-- The text of a string. -/
def ofString (s : String) : Text := ofChars s.toList

instance : Coe String Text := ⟨ofString⟩

/-- Two texts one after the other. -/
def append (s t : Text) : Text := ⟨s.points ++ t.points⟩

instance : Append Text := ⟨append⟩

/-- Texts are in the order of the numbers of their code points. -/
instance : LE Text := ⟨fun s t => List.instLE.le (s.points.map CodePoint.toNat) (t.points.map CodePoint.toNat)⟩

instance (s t : Text) : Decidable (s ≤ t) :=
  inferInstanceAs (Decidable (List.instLE.le (s.points.map CodePoint.toNat) (t.points.map CodePoint.toNat)))

/-- The text without code points. -/
def empty : Text := ⟨[]⟩

/-- Whether a text has no code points. -/
def isEmpty (t : Text) : Bool := t.points.isEmpty

/-- The number of code points. -/
def length (t : Text) : Nat := t.points.length

/-- The characters of a text, if it holds no lone half. -/
def chars? (t : Text) : Option (List Char) := t.points.mapM CodePoint.char?

/-- The text as a string, if it holds no lone half. -/
def string? (t : Text) : Option String := t.chars?.map String.ofList

/-- Whether a text holds no lone half. -/
def isWhole (t : Text) : Bool := t.points.all fun c => !c.isHalf

/-- The decimal digits of a number, with its sign. -/
def ofInt (i : Int) : Text := ofString (toString i)

/-- The decimal digits of a number. -/
def ofNat (n : Nat) : Text := ofString (toString n)

/-- Texts put together with `sep` between them. -/
def intercalate (sep : Text) : List Text → Text
  | [] => empty
  | [t] => t
  | t :: u :: rest => t ++ sep ++ intercalate sep (u :: rest)

@[simp] theorem toList_ofList (points : List CodePoint) : (ofList points).toList = points := rfl

@[simp] theorem ofList_toList (t : Text) : ofList t.toList = t := rfl

@[simp] theorem toList_append (s t : Text) : (s ++ t).toList = s.toList ++ t.toList := rfl

theorem ext_toList {s t : Text} (h : s.toList = t.toList) : s = t := by
  cases s; cases t; exact congrArg ofList h

end Text

end LintPreview
