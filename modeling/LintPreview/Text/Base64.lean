import LintPreview.Text.Digit

/-!
Base64.

* `Base64.encode`: four letters for every three bytes, filled up with equals signs, in lines of at most 76 letters.
* `Base64.decode?`: the bytes of letters; other characters are passed over.
-/

namespace LintPreview.Text.Base64

/-- The letter for a number below 64. -/
def letter (n : Nat) : CodePoint :=
  if n < 26 then CodePoint.ofNat (65 + n)
  else if n < 52 then CodePoint.ofNat (71 + n)
  else if n < 62 then CodePoint.ofNat (n - 4)
  else if n = 62 then '+' else '/'

/-- The number that a letter stands for. -/
def value? (c : CodePoint) : Option Nat :=
  if 'A' ≤ c ∧ c ≤ 'Z' then some (c.toNat - 65)
  else if 'a' ≤ c ∧ c ≤ 'z' then some (c.toNat - 71)
  else if '0' ≤ c ∧ c ≤ '9' then some (c.toNat + 4)
  else if c = '+' then some 62
  else if c = '/' then some 63
  else none

/-- The letters of bytes. -/
def letters : List UInt8 → List CodePoint
  | a :: b :: c :: rest =>
    let n := (a.toNat * 256 + b.toNat) * 256 + c.toNat
    letter (n / 262144) :: letter (n / 4096 % 64) :: letter (n / 64 % 64) :: letter (n % 64) :: letters rest
  | [a, b] =>
    let n := (a.toNat * 256 + b.toNat) * 256
    [letter (n / 262144), letter (n / 4096 % 64), letter (n / 64 % 64), '=']
  | [a] =>
    let n := a.toNat * 65536
    [letter (n / 262144), letter (n / 4096 % 64), '=', '=']
  | [] => []

/-- Lines of at most 57 bytes. -/
def byteLines : (fuel : Nat) → List UInt8 → List (List UInt8)
  | 0, _ => []
  | _, [] => []
  | fuel + 1, bs => bs.take 57 :: byteLines fuel (bs.drop 57)

/-- The letters of bytes in lines, each ended by a line feed. -/
def encode (bs : List UInt8) : List CodePoint :=
  (byteLines bs.length bs).flatMap fun line => letters line ++ [.char '\n']

/-- The bytes of letters. `open` holds the numbers of the current group in reverse, `pads` the equals signs seen in it. -/
def decodeFrom (group : List Nat) (pads : Nat) : List CodePoint → Option (List UInt8)
  | [] => if group.isEmpty then some [] else none
  | c :: rest =>
    if c = '=' then
      if 2 ≤ group.length && 4 ≤ group.length + pads + 1 then some []
      else decodeFrom group (if 2 ≤ group.length then pads + 1 else pads) rest
    else match value? c, group with
      | none, _ => decodeFrom group pads rest
      | some n, [] => decodeFrom [n] 0 rest
      | some n, [a] => (decodeFrom [n, a] 0 rest).map (UInt8.ofNat (a * 4 + n / 16) :: ·)
      | some n, [b, a] => (decodeFrom [n, b, a] 0 rest).map (UInt8.ofNat (b % 16 * 16 + n / 4) :: ·)
      | some n, c :: _ => (decodeFrom [] 0 rest).map (UInt8.ofNat (c % 4 * 64 + n) :: ·)

/-- The bytes of letters, if the last group is complete. -/
def decode? (cs : List CodePoint) : Option (List UInt8) := decodeFrom [] 0 cs

end LintPreview.Text.Base64
