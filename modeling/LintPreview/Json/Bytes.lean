import LintPreview.Json.Reader
import LintPreview.Text.Utf8

/-!
JSON text read from bytes.

* `Encoding.detect`: which encoding the bytes have, by the mark in front or by the zero bytes among the first four, and
  how long the mark is.
* `Encoding.codes?`: the code points of the bytes. Halves of surrogate pairs may stand alone.
* `Json.ofBytes`: the value of the bytes, or why there is none.
-/

namespace LintPreview

/-- Which byte of a unit comes first. -/
inductive ByteOrder where
  | big
  | little
deriving DecidableEq, Repr

/-- How code points are written as bytes. -/
inductive Encoding where
  | utf8
  | utf16 (order : ByteOrder)
  | utf32 (order : ByteOrder)
deriving DecidableEq, Repr

namespace Encoding

/-- The encoding of a text without a mark: the first characters of a JSON text are ASCII. -/
def detectUnmarked : List UInt8 → Encoding
  | 0 :: 0 :: _ :: _ :: _ => .utf32 .big
  | 0 :: _ :: _ :: _ :: _ => .utf16 .big
  | _ :: 0 :: 0 :: 0 :: _ => .utf32 .little
  | _ :: 0 :: _ :: _ :: _ => .utf16 .little
  | [0, _] => .utf16 .big
  | [_, 0] => .utf16 .little
  | _ => .utf8

/-- The encoding of a text, and the size of the mark in front of it. -/
def detect : List UInt8 → Encoding × Nat
  | 0x00 :: 0x00 :: 0xFE :: 0xFF :: _ => (.utf32 .big, 4)
  | 0xFF :: 0xFE :: 0x00 :: 0x00 :: _ => (.utf32 .little, 4)
  | 0xFE :: 0xFF :: _ => (.utf16 .big, 2)
  | 0xFF :: 0xFE :: _ => (.utf16 .little, 2)
  | 0xEF :: 0xBB :: 0xBF :: _ => (.utf8, 3)
  | bytes => (detectUnmarked bytes, 0)

/-- The units of two bytes each, if none is cut short. -/
def pairs? (order : ByteOrder) : List UInt8 → Option (List Nat)
  | [] => some []
  | [_] => none
  | a :: b :: rest =>
    let unit := match order with
      | .big => a.toNat * 256 + b.toNat
      | .little => b.toNat * 256 + a.toNat
    (pairs? order rest).map (unit :: ·)

/-- The code points of units; the units of two halves of a surrogate pair are one code point. -/
def ofUnits : List Nat → List CodePoint
  | a :: b :: rest =>
    if Json.isHighHalf a && Json.isLowHalf b then Json.joinHalves a b :: ofUnits rest
    else .ofNat a :: ofUnits (b :: rest)
  | short => short.map CodePoint.ofNat

/-- The code points of four bytes each, if none is cut short or too large. -/
def quads? (order : ByteOrder) : List UInt8 → Option (List CodePoint)
  | [] => some []
  | a :: b :: c :: d :: rest =>
    let code := match order with
      | .big => ((a.toNat * 256 + b.toNat) * 256 + c.toNat) * 256 + d.toNat
      | .little => ((d.toNat * 256 + c.toNat) * 256 + b.toNat) * 256 + a.toNat
    if 0x10FFFF < code then none else (quads? order rest).map (.ofNat code :: ·)
  | _ => none

/-- The code point of half a surrogate pair written in three bytes. -/
def loneHalf? : List UInt8 → Option (CodePoint × List UInt8)
  | 0xED :: a :: b :: rest =>
    if 0xA0 ≤ a && a ≤ 0xBF && Text.isContinuation b then
      some (.ofNat (0xD000 + (a.toNat - 0x80) * 64 + (b.toNat - 0x80)), rest)
    else none
  | _ => none

/-- The code points of bytes of one to four for each. -/
def runs? : (fuel : Nat) → List UInt8 → Option (List CodePoint)
  | _, [] => some []
  | 0, _ => none
  | fuel + 1, b :: rest =>
    match Text.utf8Step b rest, loneHalf? (b :: rest) with
    | .char c more, _ => (runs? fuel (rest.drop more)).map (.char c :: ·)
    | .broken .., some (code, rest) => (runs? fuel rest).map (code :: ·)
    | .broken .., none => none

/-- The code points of bytes. -/
def codes? (e : Encoding) (bytes : List UInt8) : Option (List CodePoint) :=
  match e with
  | .utf8 => runs? bytes.length bytes
  | .utf16 order => (pairs? order bytes).map ofUnits
  | .utf32 order => quads? order bytes

end Encoding

namespace Json

/-- The value of bytes; nothing if the bytes encode no text. -/
def ofBytes (bytes : List UInt8) : Option (Except JsonError Json) :=
  let (encoding, mark) := Encoding.detect bytes
  (encoding.codes? (bytes.drop mark)).map readChars

end Json

end LintPreview
