import LintPreview.Deflate.Inflate

/-!
Compressed streams, which arrive part by part.

* `adler32`, `crc32`: checksums, two sums modulo the largest prime below 2^16 and the remainder of a polynomial division,
  lowest bit first.
* `Frame`: what stands around the blocks of a stream: a header in front and checks behind.
* `inflate`: the text of bytes as far as they have arrived, or the fault at which the reading halts.
* `Stream.feed`: the text that one more part adds. What arrives behind the end of the stream adds nothing.
-/

namespace LintPreview.Deflate

/-- The largest prime below 2^16. -/
def adlerModulus : Nat := 65521

/-- The sum of bytes and the sum of its steps. -/
def adler32 (bytes : Array UInt8) : Nat :=
  let (a, b) := bytes.foldl (fun (a, b) x =>
    let a := (a + x.toNat) % adlerModulus
    (a, (b + a) % adlerModulus)) (1, 0)
  b * 65536 + a

/-- The polynomial of the division, its highest power left out, lowest bit last. -/
def crcPolynomial : UInt32 := 0xEDB88320

/-- A remainder after one more bit. -/
def crcBit (r : UInt32) : UInt32 := if r &&& 1 = 1 then (r >>> 1) ^^^ crcPolynomial else r >>> 1

/-- A remainder after one more byte. -/
def crcByte (r : UInt32) (b : UInt8) : UInt32 := Nat.repeat crcBit 8 (r ^^^ b.toUInt32)

/-- The remainder of bytes. -/
def crc32 (bytes : Array UInt8) : Nat := (bytes.foldl crcByte 0xFFFFFFFF ^^^ 0xFFFFFFFF).toNat

-- Powers are the same whatever else is imported.
attribute [local instance (2000)] instPowNat

/-- What stands around the blocks of a stream. -/
inductive Frame where
  | bare
  | checked
  | archive
deriving DecidableEq, Repr

/-! ### Headers -/

/-- Passes `count` bytes. -/
def skipBytes (count : Nat) : Inflating Unit := do
  let s ← get
  if s.bytes.size < s.place / 8 + count then throw .atEnd
  set { s with place := s.place + 8 * count }

/-- Passes bytes up to a zero. -/
def skipThroughZero : (fuel : Nat) → Inflating Unit
  | 0 => throw .atEnd
  | fuel + 1 => do if (← takeBits 8) = 0 then return else skipThroughZero fuel

/-- Whether a flag is set in a number. -/
def hasFlag (n flag : Nat) : Bool := n / flag % 2 == 1

/-- Reads the header of a stream that ends in a sum of its text. -/
def readCheckedHeader : Inflating Unit := do
  let first ← takeBits 16
  demand ((first % 256 * 256 + first / 256) % 31 == 0) .header
  demand (first % 16 == 8) .method
  demand (first / 16 % 16 ≤ 7) .window
  if hasFlag first 0x2000 then
    discard (takeBits 32)
    throw (.fault .needsDictionary)

/-- Reads the header of a stream that may carry a name and comments. -/
def readArchiveHeader : Inflating Unit := do
  demand ((← takeBits 16) == 0x8B1F) .header
  let flags ← takeBits 16
  demand (flags % 256 == 8) .method
  demand (flags / 0x2000 == 0) .headerFlags
  skipBytes 4
  skipBytes 2
  if hasFlag flags 0x400 then skipBytes (← takeBits 16)
  let size := (← get).bytes.size
  if hasFlag flags 0x800 then skipThroughZero (size + 1)
  if hasFlag flags 0x1000 then skipThroughZero (size + 1)
  if hasFlag flags 0x200 then
    let s ← get
    demand ((← takeBits 16) == crc32 (s.bytes.extract 0 (s.place / 8)) % 65536) .headerSum

/-- Reads what stands in front of the blocks. -/
def Frame.readHeader : Frame → Inflating Unit
  | .bare => return
  | .checked => readCheckedHeader
  | .archive => readArchiveHeader

/-! ### Checks -/

/-- The number whose bytes stand in the opposite order. -/
def reverseBytes (n : Nat) : Nat :=
  n % 256 * 0x1000000 + n / 0x100 % 256 * 0x10000 + n / 0x10000 % 256 * 0x100 + n / 0x1000000

/-- Reads the checks behind the blocks. -/
def Frame.readChecks : Frame → Inflating Unit
  | .bare => return
  | .checked => do
    skipToByte
    demand (reverseBytes (← takeBits 32) == adler32 (← get).text) .dataSum
  | .archive => do
    skipToByte
    demand ((← takeBits 32) == crc32 (← get).text) .dataSum
    demand ((← takeBits 32) == (← get).text.size % (2 : Nat) ^ (32 : Nat)) .dataLength

/-! ### Streams -/

/-- Reads a stream. -/
def Frame.read (frame : Frame) : Inflating Unit := do
  frame.readHeader
  readBlocks (8 * (← get).bytes.size)
  frame.readChecks

/-- The text of bytes as far as they have arrived. -/
def inflate (frame : Frame) (bytes : Array UInt8) : Except InflateFault (Array UInt8) :=
  match frame.read.run { bytes } with
  | (.error (.fault f), _) => .error f
  | (_, s) => .ok s.text

/-- A stream: the bytes that have arrived, and how long the text is that has been given for them. -/
structure Stream where
  frame : Frame
  bytes : Array UInt8 := #[]
  given : Nat := 0
deriving Repr

/-- The text that one more part adds, and the stream behind it. -/
def Stream.feed (s : Stream) (part : List UInt8) : Except InflateFault (List UInt8 × Stream) := do
  let bytes := s.bytes ++ part.toArray
  let text ← inflate s.frame bytes
  return ((text.extract s.given text.size).toList, { s with bytes, given := text.size })

end LintPreview.Deflate
