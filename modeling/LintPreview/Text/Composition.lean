import LintPreview.Text.Case
import LintPreview.Text.CompositionTable

/-!
Composed texts: those in which no mark stands apart from a letter that it can be put together with.

* `decomposed`: the code points of a text taken apart, its marks in the order of their classes.
* `composed`: code points put together again, each mark with the letter before it unless another mark blocks it.
* `isComposed`: whether a text is the composed form of its parts.
-/

namespace LintPreview.Text

/-! ### Parts -/

/-- The combining class of a code point. -/
def combiningClass (n : Nat) : Nat :=
  match combiningClasses.find? fun r => r.1 ≤ n && n ≤ r.2.1 with
  | some (_, _, k) => k
  | none => 0

/-- The parts of a Hangul syllable. -/
def syllableParts (n : Nat) : List Nat :=
  let place := n - 0xAC00
  [0x1100 + place / 588, 0x1161 + place % 588 / 28] ++ if place % 28 = 0 then [] else [0x11A7 + place % 28]

/-- The parts of a code point, taken apart `depth` times at most. -/
def parts : (depth : Nat) → Nat → List Nat
  | 0, n => [n]
  | depth + 1, n =>
    if 0xAC00 ≤ n ∧ n ≤ 0xD7A3 then syllableParts n
    else match compositions.find? fun c => c.1 == n with
      | some (_, a, b) => parts depth a ++ [b]
      | none => [n]

/-- A mark put among marks behind those of its own class and of lower ones. -/
def insertMark (n : Nat) : List Nat → List Nat
  | [] => [n]
  | m :: rest => if combiningClass m ≤ combiningClass n then m :: insertMark n rest else n :: m :: rest

/-- Code points behind the sorted marks `run`, with every run of marks in the order of their classes. -/
def sortMarks (run : List Nat) : List Nat → List Nat
  | [] => run
  | n :: rest => if combiningClass n = 0 then run ++ n :: sortMarks [] rest else sortMarks (insertMark n run) rest

/-- The parts of code points in order. No code point is put together more than four times over. -/
def decomposed (ns : List Nat) : List Nat := sortMarks [] (ns.flatMap (parts 4))

/-! ### Composition -/

/-- The code point that two others make. -/
def pair? (a b : Nat) : Option Nat :=
  if 0x1100 ≤ a ∧ a < 0x1113 ∧ 0x1161 ≤ b ∧ b < 0x1176 then some (0xAC00 + ((a - 0x1100) * 21 + (b - 0x1161)) * 28)
  else if 0xAC00 ≤ a ∧ a ≤ 0xD7A3 ∧ (a - 0xAC00) % 28 = 0 ∧ 0x11A8 ≤ b ∧ b < 0x11C3 then some (a + (b - 0x11A7))
  else (compositions.find? fun c => c.2.1 == a && c.2.2 == b).map Prod.fst

/-- Whether marks in reverse keep a later code point from the letter before them. -/
def isBlocked (marks : List Nat) (n : Nat) : Bool :=
  match marks with
  | [] => false
  | m :: _ => combiningClass n ≤ combiningClass m

/-- Code points behind a letter and marks in reverse that stay apart from it. -/
def composeFrom (letter : Nat) (marks : List Nat) : List Nat → List Nat
  | [] => letter :: marks.reverse
  | n :: rest =>
    match if isBlocked marks n then none else pair? letter n with
    | some whole => composeFrom whole marks rest
    | none =>
      if combiningClass n = 0 then letter :: marks.reverse ++ composeFrom n [] rest
      else composeFrom letter (n :: marks) rest

/-- Parts put together. -/
def composed (ns : List Nat) : List Nat :=
  match ns.dropWhile fun n => combiningClass n != 0 with
  | [] => ns
  | letter :: rest => ns.takeWhile (fun n => combiningClass n != 0) ++ composeFrom letter [] rest

/-- Whether a text is the composed form of its parts. -/
def isComposed (cs : List CodePoint) : Bool :=
  let ns := cs.map CodePoint.toNat
  ns.all (fun n => n < 0x300) || (ns.all fun n => !inRanges neverComposed n) && composed (decomposed ns) == ns

end LintPreview.Text
