/-!
Double-precision numbers as exact values.

* `Binary64.ofRatio`: the number nearest to a ratio, a tie going to the even neighbour.
* `Binary64.ofDecimal`: the number nearest to `digits · 10 ^ power`.
* `Binary64.ratio?`: the exact value of a finite number.
* `Binary64.add`, `Binary64.mul`: the rounded sum and product.
-/

namespace LintPreview

-- Powers are the same whatever else is imported.
attribute [local instance (2000)] instPowNat

/-- A double-precision number: `significand · 2 ^ exponent` with a sign, an infinity, or no number at all.
A finite one is kept in its usual form, with the significand below `2 ^ 53` and as large as the exponent allows. -/
inductive Binary64 where
  | finite (negative : Bool) (significand : Nat) (exponent : Int)
  | infinite (negative : Bool)
  | undefined
deriving DecidableEq, Repr, Inhabited

namespace Binary64

/-- Binary digits of a significand. -/
def precision : Nat := 53

/-- The least exponent. -/
def leastExponent : Int := -1074

/-- The greatest exponent. -/
def greatestExponent : Int := 971

/-- Zero. -/
def zero : Binary64 := .finite false 0 leastExponent

/-- The quotient rounded to the nearest whole number, a tie going to the even one. -/
def roundDiv (num den : Nat) : Nat :=
  let q := num / den
  let r := num % den
  if 2 * r < den then q else if den < 2 * r then q + 1 else q + q % 2

/-- `num / den / 2 ^ e` as a pair of whole numbers. -/
def scaled (num den : Nat) (e : Int) : Nat × Nat :=
  if e < 0 then (num * 2 ^ (-e).toNat, den) else (num, den * 2 ^ e.toNat)

/-- The exponent for which `num / den` has a significand of full precision, not below the least one. -/
def exponentOf (num den : Nat) : Int :=
  let guess : Int := (num.log2 : Int) - den.log2 - 53
  let (n, d) := scaled num den guess
  let e := if n / d < (2 : Nat) ^ (52 : Nat) then guess - 1 else if n / d < (2 : Nat) ^ (53 : Nat) then guess else guess + 1
  max e leastExponent

/-- The number nearest to `num / den`. -/
def ofRatio (negative : Bool) (num den : Nat) : Binary64 :=
  if num = 0 ∨ den = 0 then .finite negative 0 leastExponent
  else
    let e := exponentOf num den
    let (n, d) := scaled num den e
    let m := roundDiv n d
    let (m, e) := if m = (2 : Nat) ^ (53 : Nat) then ((2 : Nat) ^ (52 : Nat), e + 1) else (m, e)
    if greatestExponent < e then .infinite negative else .finite negative m e

/-- Decimal digits of a number. -/
def digitCount (n : Nat) : Nat := (Nat.toDigits 10 n).length

/-- The number nearest to `digits · 10 ^ power`. Powers far outside the range are settled by size alone. -/
def ofDecimal (negative : Bool) (digits : Nat) (power : Int) : Binary64 :=
  if digits = 0 then .finite negative 0 leastExponent
  else
    let size := power + digitCount digits
    if 400 < size then .infinite negative
    else if size < -400 then .finite negative 0 leastExponent
    else if power < 0 then ofRatio negative digits (10 ^ (-power).toNat)
    else ofRatio negative (digits * 10 ^ power.toNat) 1

/-- The number nearest to a whole number. -/
def ofInt (i : Int) : Binary64 := ofRatio (i < 0) i.natAbs 1

/-- The exact value, as a sign and a ratio. -/
def ratio? : Binary64 → Option (Bool × Nat × Nat)
  | .finite negative m e =>
    some (if e < 0 then (negative, m, 2 ^ (-e).toNat) else (negative, m * 2 ^ e.toNat, 1))
  | _ => none

/-- The whole number that a finite number equals, if it does. -/
def toInt? (x : Binary64) : Option Int :=
  match x.ratio? with
  | some (negative, num, den) =>
    if num % den = 0 then some (if negative then -(num / den : Nat) else (num / den : Nat)) else none
  | none => none

/-- Whether the sign is negative. -/
def isNegative : Binary64 → Bool
  | .finite negative _ _ => negative
  | .infinite negative => negative
  | .undefined => false

/-- Whether the number is finite. -/
def isFinite : Binary64 → Bool
  | .finite .. => true
  | _ => false

/-- The opposite number. -/
def neg : Binary64 → Binary64
  | .finite negative m e => .finite (!negative) m e
  | .infinite negative => .infinite (!negative)
  | .undefined => .undefined

/-- Whether the number is greater than zero. -/
def isPositive : Binary64 → Bool
  | .finite negative m _ => !negative && 0 < m
  | .infinite negative => !negative
  | .undefined => false

/-- Whether the number is zero. -/
def isZero : Binary64 → Bool
  | .finite _ m _ => m == 0
  | _ => false

/-- Whether the number is at most zero; the undefined number is not. -/
def isAtMostZero : Binary64 → Bool
  | .undefined => false
  | x => !x.isPositive

/-- A signed ratio as a number of thirds-free form: its signed numerator. -/
def signed (negative : Bool) (num : Nat) : Int := if negative then -(num : Int) else num

/-- The rounded sum. -/
def add (x y : Binary64) : Binary64 :=
  match x, y with
  | .undefined, _ => .undefined
  | _, .undefined => .undefined
  | .infinite a, .infinite b => if a = b then .infinite a else .undefined
  | .infinite a, _ => .infinite a
  | _, .infinite b => .infinite b
  | .finite a .., .finite b .. =>
    match x.ratio?, y.ratio? with
    | some (_, n, d), some (_, n', d') =>
      let sum := signed a (n * d') + signed b (n' * d)
      if sum = 0 then .finite (a && b) 0 leastExponent else ofRatio (sum < 0) sum.natAbs (d * d')
    | _, _ => .undefined

/-- The rounded product. -/
def mul (x y : Binary64) : Binary64 :=
  match x, y with
  | .undefined, _ => .undefined
  | _, .undefined => .undefined
  | .infinite a, y => if y.isZero then .undefined else .infinite (a != y.isNegative)
  | x, .infinite b => if x.isZero then .undefined else .infinite (x.isNegative != b)
  | .finite a .., .finite b .. =>
    match x.ratio?, y.ratio? with
    | some (_, n, d), some (_, n', d') => ofRatio (a != b) (n * n') (d * d')
    | _, _ => .undefined

end Binary64

end LintPreview
