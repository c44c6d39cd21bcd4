import LintPreview.Number.Binary64
import LintPreview.Text.Basic

/-!
The shortest decimal of a double-precision number.

* `Binary64.shortest`: the fewest digits that read back as the same number, and of those the nearest.
* `DecimalStyle`, `Binary64.render`: how the digits are set out as text.
-/

namespace LintPreview.Binary64

-- Powers are the same whatever else is imported.
attribute [local instance (2000)] instPowNat

/-- The power of ten at or below `num / den`, for `num > 0`. -/
def decimalExponent (num den : Nat) : Int :=
  if den ≤ num then (digitCount (num / den) : Int) - 1
  else -(digitCount ((den + num - 1) / num - 1) : Int)

/-- The numbers that round to `m · 2 ^ e` lie between `low / scale` and `high / scale`, ends included iff `m` is even. -/
structure Interval where
  low : Nat
  value : Nat
  high : Nat
  scale : Nat
  closed : Bool

/-- The interval of `m · 2 ^ e`. Below a power of two the neighbours are half as far apart. -/
def interval (m : Nat) (e : Int) : Interval :=
  let below := if m = (2 : Nat) ^ (52 : Nat) ∧ leastExponent < e then 1 else 2
  let (up, scale) := if e < 2 then (1, (2 : Nat) ^ (2 - e).toNat) else ((2 : Nat) ^ (e - 2).toNat, 1)
  ⟨(4 * m - below) * up, 4 * m * up, (4 * m + 2) * up, scale, m % 2 = 0⟩

/-- Whether `digits · 10 ^ power` lies in the interval. -/
def Interval.holds (i : Interval) (digits : Nat) (power : Int) : Bool :=
  let (n, d) := if power < 0 then (digits, 10 ^ (-power).toNat) else (digits * 10 ^ power.toNat, 1)
  let x := n * i.scale
  if i.closed then i.low * d ≤ x && x ≤ i.high * d else i.low * d < x && x < i.high * d

/-- The best decimal on the grid of step `10 ^ power`, if one of the value's two neighbours lies in the interval. -/
def Interval.best? (i : Interval) (power : Int) : Option Nat :=
  let (n, d) := if power < 0 then (i.value * 10 ^ (-power).toNat, i.scale) else (i.value, i.scale * 10 ^ power.toNat)
  let q := n / d
  let r := n % d
  match i.holds q power && 0 < q, i.holds (q + 1) power with
  | true, true => some (if 2 * r < d then q else if d < 2 * r then q + 1 else q + q % 2)
  | true, false => some q
  | false, true => some (q + 1)
  | false, false => none

/-- The first grid with a hit, trying one digit more each time. -/
def Interval.search (i : Interval) (top : Int) : (digits : Nat) → (left : Nat) → Nat × Int
  | digits, 0 => (i.value / i.scale, top - digits)
  | digits, left + 1 =>
    let power := top - digits
    match i.best? power with
    | some d => (d, power)
    | none => i.search top (digits + 1) left

/-- Trailing zeros moved into the power of ten. -/
def stripZeros : (fuel : Nat) → (digits : Nat) → (power : Int) → Nat × Int
  | 0, digits, power => (digits, power)
  | fuel + 1, digits, power =>
    if digits % 10 = 0 ∧ digits ≠ 0 then stripZeros fuel (digits / 10) (power + 1) else (digits, power)

/-- The shortest decimal `digits · 10 ^ power` that reads back as `m · 2 ^ e`, for `m > 0`. -/
def shortest (m : Nat) (e : Int) : Nat × Int :=
  let i := interval m e
  let top := decimalExponent i.value i.scale
  let (d, p) := i.search top 0 17
  stripZeros 20 d p

/-- How the digits of a number are set out. The point position is where the decimal point stands, counted from
the first digit; the least and greatest such positions written without an exponent are `positionalFrom` and
`positionalTo`. -/
structure DecimalStyle where
  positionalFrom : Int
  positionalTo : Int
  exponentPlus : Bool
  exponentWidth : Nat
  undefinedText : Text
  infinityText : Text

/-- `n` in decimal, with zeros in front up to `width` digits. -/
def padded (width n : Nat) : List CodePoint :=
  let ds := (Nat.toDigits 10 n).map CodePoint.char
  List.replicate (width - ds.length) (CodePoint.char '0') ++ ds

/-- Digits with the decimal point at position `point`. -/
def positional (ds : List CodePoint) (point : Int) : List CodePoint :=
  if point ≤ 0 then '0' :: '.' :: (List.replicate (-point).toNat (CodePoint.char '0') ++ ds)
  else if ds.length ≤ point.toNat then
    ds ++ List.replicate (point.toNat - ds.length) (CodePoint.char '0') ++ (['.', '0'] : List CodePoint)
  else ds.take point.toNat ++ (CodePoint.char '.' :: ds.drop point.toNat)

/-- Digits with one digit in front of the point and an exponent. -/
def scientific (style : DecimalStyle) (ds : List CodePoint) (exponent : Int) : List CodePoint :=
  let mantissa := match ds with
    | d :: f :: rest => d :: '.' :: f :: rest
    | short => short
  let sign : List CodePoint := if exponent < 0 then ['-'] else if style.exponentPlus then ['+'] else []
  mantissa ++ CodePoint.char 'e' :: (sign ++ padded style.exponentWidth exponent.natAbs)

/-- The text of a number without its sign. -/
def renderUnsigned (style : DecimalStyle) : Binary64 → List CodePoint
  | .undefined => style.undefinedText.toList
  | .infinite _ => style.infinityText.toList
  | .finite _ 0 _ => ['0', '.', '0']
  | .finite _ m e =>
    let (d, p) := shortest m e
    let ds := (Nat.toDigits 10 d).map CodePoint.char
    let point := p + ds.length
    if style.positionalFrom ≤ point ∧ point ≤ style.positionalTo then positional ds point
    else scientific style ds (point - 1)

/-- The text of a number. -/
def render (style : DecimalStyle) (x : Binary64) : Text :=
  Text.ofList ((if x.isNegative then [.char '-'] else []) ++ renderUnsigned style x)

/-- Messages and configuration values: positional from `0.0001` up to sixteen digits, an exponent of at least two
digits with its sign, `nan` and `inf`. -/
def plainStyle : DecimalStyle := ⟨-3, 16, true, 2, "nan", "inf"⟩

/-- Snapshot files: positional from `0.00001` up to sixteen digits, an exponent with its sign. -/
def snapshotStyle : DecimalStyle := ⟨-4, 16, true, 1, "null", "null"⟩

/-- The text of a number in messages and configuration values. -/
def toText (x : Binary64) : Text := x.render plainStyle

end LintPreview.Binary64
