import LintPreview.Text.Quoted

/-!
Reading bytes as UTF-8.

* `decode`: the text, or the first place that is not UTF-8 with its cause.
* `decodeLossy`: every longest broken part becomes one replacement character.
* `encode`: the bytes of a text, or its first run of lone halves, which have none.
* `beyondAscii?`: the first run of code points that have no ASCII code.
* `encodeName`, `decodeName`: names of files. Bytes that are not UTF-8 are halves from U+DC80 to U+DCFF in the text.
-/

namespace LintPreview.Text

/-- Why bytes are not UTF-8. -/
inductive Utf8Fault where
  | startByte
  | continuationByte
  | endOfData
deriving DecidableEq, Repr

/-- What a first byte opens: a character, or a broken part, with the number of bytes behind the first. -/
inductive Utf8Step where
  | char (c : Char) (more : Nat)
  | broken (more : Nat) (fault : Utf8Fault)

/-- Whether a byte continues a character. -/
def isContinuation (b : UInt8) : Bool := 0x80 ≤ b && b ≤ 0xBF

/-- The character of a code point put together from bytes. -/
def charOfParts (high : Nat) (parts : List UInt8) : Char :=
  Char.ofNat (parts.foldl (fun n b => n * 64 + (b.toNat - 0x80)) high)

/-- The range that the second byte must lie in, by the first byte. -/
def secondByteRange (b : UInt8) : UInt8 × UInt8 :=
  if b == 0xE0 then (0xA0, 0xBF) else if b == 0xED then (0x80, 0x9F)
  else if b == 0xF0 then (0x90, 0xBF) else if b == 0xF4 then (0x80, 0x8F) else (0x80, 0xBF)

/-- What `b`, followed by `rest`, opens. -/
def utf8Step (b : UInt8) (rest : List UInt8) : Utf8Step :=
  let (low, high) := secondByteRange b
  let fits (x : UInt8) : Bool := low ≤ x && x ≤ high
  if b < 0x80 then .char (Char.ofNat b.toNat) 0
  else if b < 0xC2 || 0xF4 < b then .broken 0 .startByte
  else match rest with
    | [] => .broken 0 .endOfData
    | x :: rest =>
      if !fits x then .broken 0 .continuationByte
      else if b < 0xE0 then .char (charOfParts (b.toNat - 0xC0) [x]) 1
      else match rest with
        | [] => .broken 1 .endOfData
        | y :: rest =>
          if !isContinuation y then .broken 1 .continuationByte
          else if b < 0xF0 then .char (charOfParts (b.toNat - 0xE0) [x, y]) 2
          else match rest with
            | [] => .broken 2 .endOfData
            | z :: _ =>
              if !isContinuation z then .broken 2 .continuationByte
              else .char (charOfParts (b.toNat - 0xF0) [x, y, z]) 3

/-- The bytes from a place on are not UTF-8. -/
structure Utf8Error where
  start : Nat
  size : Nat
  first : UInt8
  fault : Utf8Fault
deriving DecidableEq, Repr

/-- The text of bytes from position `start` on, the first `passed` of which belong to a character that is read
already. -/
def decodeFrom (start : Nat) : (passed : Nat) → List UInt8 → Except Utf8Error (List CodePoint)
  | _, [] => .ok []
  | passed + 1, _ :: rest => decodeFrom start passed rest
  | 0, b :: rest =>
    match utf8Step b rest with
    | .char c more => (decodeFrom (start + more + 1) more rest).map (.char c :: ·)
    | .broken more fault => .error ⟨start, more + 1, b, fault⟩

/-- The text that the bytes encode. -/
def decode (bytes : List UInt8) : Except Utf8Error (List CodePoint) := decodeFrom 0 0 bytes

/-- The text of bytes, the first `passed` of which are read already, with one replacement character for every broken
part. -/
def decodeLossyFrom : (passed : Nat) → List UInt8 → List CodePoint
  | _, [] => []
  | passed + 1, _ :: rest => decodeLossyFrom passed rest
  | 0, b :: rest =>
    match utf8Step b rest with
    | .char c more => .char c :: decodeLossyFrom more rest
    | .broken more _ => CodePoint.ofNat 0xFFFD :: decodeLossyFrom more rest

/-- The text of the bytes with one replacement character for every broken part. -/
def decodeLossy (bytes : List UInt8) : List CodePoint := decodeLossyFrom 0 bytes

/-- The bytes of a character. -/
def utf8Bytes (c : Char) : List UInt8 :=
  let n := c.toNat
  if n < 0x80 then [n.toUInt8]
  else if n < 0x800 then [(0xC0 + n / 64).toUInt8, (0x80 + n % 64).toUInt8]
  else if n < 0x10000 then [(0xE0 + n / 4096).toUInt8, (0x80 + n / 64 % 64).toUInt8, (0x80 + n % 64).toUInt8]
  else [(0xF0 + n / 262144).toUInt8, (0x80 + n / 4096 % 64).toUInt8, (0x80 + n / 64 % 64).toUInt8,
    (0x80 + n % 64).toUInt8]

/-- A run of lone halves, which have no bytes: its place, its length and its first half. -/
structure LoneHalves where
  start : Nat
  size : Nat
  first : Half
deriving DecidableEq, Repr

/-- The bytes of code points that start at position `start`. -/
def encodeFrom (start : Nat) : List CodePoint → Except LoneHalves (List UInt8)
  | [] => .ok []
  | .char c :: rest => (encodeFrom (start + 1) rest).map (utf8Bytes c ++ ·)
  | .half h :: rest => .error ⟨start, 1 + (rest.takeWhile CodePoint.isHalf).length, h⟩

/-- The bytes of a text, or its first run of lone halves. -/
def encode (s : Text) : Except LoneHalves (List UInt8) := encodeFrom 0 s.toList

/-- The byte that a half stands for in the name of a file. -/
def byteOfHalf? (h : Half) : Option UInt8 :=
  if 0x480 ≤ h.val ∧ h.val < 0x500 then some (UInt8.ofNat (h.val - 0x400)) else none

/-- The half that stands for a byte in the name of a file. -/
def halfOfByte (b : UInt8) : CodePoint := CodePoint.ofNat (0xDC00 + b.toNat)

/-- The bytes of code points that start at position `start`, where some halves stand for bytes. -/
def encodeNameFrom (start : Nat) : List CodePoint → Except LoneHalves (List UInt8)
  | [] => .ok []
  | .char c :: rest => (encodeNameFrom (start + 1) rest).map (utf8Bytes c ++ ·)
  | .half h :: rest =>
    match byteOfHalf? h with
    | some b => (encodeNameFrom (start + 1) rest).map (b :: ·)
    | none => .error ⟨start, 1 + (rest.takeWhile CodePoint.isHalf).length, h⟩

/-- The bytes of the name of a file, or the first run of halves in it that stand for no byte. -/
def encodeName (s : Text) : Except LoneHalves (List UInt8) := encodeNameFrom 0 s.toList

/-- The code points of the name of a file, the first `passed` bytes of which are read already. -/
def decodeNameFrom : (passed : Nat) → List UInt8 → List CodePoint
  | _, [] => []
  | passed + 1, _ :: rest => decodeNameFrom passed rest
  | 0, b :: rest =>
    match utf8Step b rest with
    | .char c more => .char c :: decodeNameFrom more rest
    | .broken _ _ => halfOfByte b :: decodeNameFrom 0 rest

/-- The name of a file with these bytes. -/
def decodeName (bytes : List UInt8) : Text := ofList (decodeNameFrom 0 bytes)

/-- A run of code points beyond ASCII: its place, its length and its first code point. -/
structure BeyondAscii where
  start : Nat
  size : Nat
  first : CodePoint
deriving DecidableEq, Repr

/-- The first run of code points beyond ASCII in code points that start at position `start`. -/
def beyondAsciiFrom? (start : Nat) : List CodePoint → Option BeyondAscii
  | [] => none
  | c :: rest =>
    if c.isAscii then beyondAsciiFrom? (start + 1) rest
    else some ⟨start, 1 + (rest.takeWhile fun d => !d.isAscii).length, c⟩

/-- The first run of code points beyond ASCII in a text. -/
def beyondAscii? (s : Text) : Option BeyondAscii := beyondAsciiFrom? 0 s.toList

/-- The wording of `size` code points from `start` on that a code does not reach. -/
def unencodableMessage (code : Text) (start size : Nat) (first : CodePoint) (reason : Text) : Text :=
  let place :=
    if size = 1 then "character '" ++ ofList (codeEscape first.toNat) ++ "' in position " ++ ofNat start
    else "characters in position " ++ ofNat start ++ "-" ++ ofNat (start + size - 1)
  "'" ++ code ++ "' codec can't encode " ++ place ++ ": " ++ reason

/-- The wording of a run of lone halves. -/
def LoneHalves.message (e : LoneHalves) : Text :=
  unencodableMessage "utf-8" e.start e.size (.half e.first) "surrogates not allowed"

/-- The wording of a run of code points beyond ASCII. -/
def BeyondAscii.message (e : BeyondAscii) : Text :=
  unencodableMessage "ascii" e.start e.size e.first "ordinal not in range(128)"

/-- The wording of a fault. -/
def Utf8Fault.message : Utf8Fault → Text
  | .startByte => "invalid start byte"
  | .continuationByte => "invalid continuation byte"
  | .endOfData => "unexpected end of data"

/-- The wording of an error. -/
def Utf8Error.message (e : Utf8Error) : Text :=
  if e.size = 1 then
    "'utf-8' codec can't decode byte 0x" ++ ofList (toHex 2 e.first.toNat) ++ " in position " ++
      ofNat e.start ++ ": " ++ e.fault.message
  else
    "'utf-8' codec can't decode bytes in position " ++ ofNat e.start ++ "-" ++
      ofNat (e.start + e.size - 1) ++ ": " ++ e.fault.message

end LintPreview.Text
