import LintPreview.Text.Basic

/-!
Reading compressed blocks.

* `PrefixCode.ofLengths`: the prefix code that is given by the lengths of its words. Shorter words come first, and words
  of one length in the order of their symbols.
* `PrefixCode.slack`: how much room the words leave. A code is full if none is left, and none exists if it is negative.
* `PrefixCode.search`: the search for a symbol, bit by bit.
* `InflateFault`: why bytes are not a compressed text.
* `Inflation`: the bytes that have arrived, how far they are read, and what they stand for so far.
* `Inflating`: a reading that halts at a fault, or where the bytes end before the text does.
* `readBlocks`: the blocks of a text up to the last one.
-/

namespace LintPreview.Deflate

-- Powers are the same whatever else is imported.
attribute [local instance (2000)] instPowNat

/-- The most bits in a word. -/
def maxWordLength : Nat := 15

/-- A prefix code: how many words have 1, 2, … bits, and the symbols in the order of their words. -/
structure PrefixCode where
  counts : List Nat
  symbols : Array Nat
deriving Repr

namespace PrefixCode

/-- The symbols whose words have `length` bits. -/
def symbolsOf (lengths : List Nat) (length : Nat) : List Nat :=
  (lengths.zipIdx.filter fun p => p.1 == length).map Prod.snd

/-- The code whose words have these lengths; a symbol of length 0 has no word. -/
def ofLengths (lengths : List Nat) : PrefixCode :=
  let groups := ((List.range maxWordLength).map (· + 1)).map (symbolsOf lengths)
  { counts := groups.map List.length, symbols := groups.flatten.toArray }

/-- The length of the longest word. -/
def longest (code : PrefixCode) : Nat := maxWordLength - (code.counts.reverse.takeWhile (· == 0)).length

/-- The room that words leave, in words of the greatest length. -/
def slack (code : PrefixCode) : Int :=
  code.counts.zipIdx.foldl (fun room c => room - c.1 * 2 ^ (maxWordLength - 1 - c.2)) (2 ^ maxWordLength)

/-- The words longer than some others do not fit if those leave this room. -/
def isFull (code : PrefixCode) : Bool := code.slack == 0

/-- Whether no word is used, or a single one of one bit. -/
def isTrivial (code : PrefixCode) : Bool := code.longest == 0 || (code.longest == 1 && code.slack > 0)

/-- A search for a symbol: the counts of the lengths to come, the first word of the next length, the number of shorter
words, and the word read so far. -/
structure Search where
  counts : List Nat
  first : Nat
  passed : Nat
  word : Nat

/-- The start of a search. A code without words ends it after one bit. -/
def search (code : PrefixCode) : Search := ⟨code.counts.take (max 1 code.longest), 0, 0, 0⟩

/-- What one more bit leads to: the place of a symbol, a longer search, or nothing. -/
inductive Found where
  | symbol (place : Nat)
  | longer (s : Search)
  | nothing

/-- A search after one more bit. -/
def Search.step (s : Search) (bit : Nat) : Found :=
  match s.counts with
  | [] => .nothing
  | count :: rest =>
    let word := 2 * s.word + bit
    if word < s.first + count then .symbol (s.passed + (word - s.first))
    else if rest.isEmpty then .nothing
    else .longer ⟨rest, 2 * (s.first + count), s.passed + count, word⟩

end PrefixCode

/-- Why bytes are not a compressed text. -/
inductive InflateFault where
  | header
  | method
  | window
  | headerFlags
  | headerSum
  | needsDictionary
  | blockKind
  | storedLengths
  | tooManyCodes
  | lengthCodes
  | lengthRepeat
  | noEnd
  | literalCodes
  | distanceCodes
  | literal
  | distance
  | tooFarBack
  | dataSum
  | dataLength
deriving DecidableEq, Repr

/-- What is wrong with the bytes; nothing if they need what does not come with them. -/
def InflateFault.detail? : InflateFault → Option Text
  | .header => some "incorrect header check"
  | .method => some "unknown compression method"
  | .window => some "invalid window size"
  | .headerFlags => some "unknown header flags set"
  | .headerSum => some "header crc mismatch"
  | .needsDictionary => none
  | .blockKind => some "invalid block type"
  | .storedLengths => some "invalid stored block lengths"
  | .tooManyCodes => some "too many length or distance symbols"
  | .lengthCodes => some "invalid code lengths set"
  | .lengthRepeat => some "invalid bit length repeat"
  | .noEnd => some "invalid code -- missing end-of-block"
  | .literalCodes => some "invalid literal/lengths set"
  | .distanceCodes => some "invalid distances set"
  | .literal => some "invalid literal/length code"
  | .distance => some "invalid distance code"
  | .tooFarBack => some "invalid distance too far back"
  | .dataSum => some "incorrect data check"
  | .dataLength => some "incorrect length check"

/-- The wording of a fault. -/
def InflateFault.message (f : InflateFault) : Text :=
  match f.detail? with
  | some detail => "Error -3 while decompressing data: " ++ detail
  | none => "Error 2 while decompressing data"

/-- Bytes that have arrived, the number of bits read from them, and the text that those stand for. -/
structure Inflation where
  bytes : Array UInt8
  place : Nat := 0
  text : Array UInt8 := #[]

/-- Why a reading halts. -/
inductive Halt where
  | atEnd
  | fault (f : InflateFault)
deriving DecidableEq, Repr

/-- A reading of compressed bytes. What has been read before it halts stays. -/
abbrev Inflating (α : Type) : Type := ExceptT Halt (StateM Inflation) α

/-! ### Bits -/

/-- The bit at a place, lowest bit of a byte first. -/
def bitAt (bytes : Array UInt8) (place : Nat) : Nat := ((bytes.getD (place / 8) 0).toNat >>> (place % 8)) % 2

/-- The number that `count` bits from a place on write, lowest bit first. -/
def bitsAt (bytes : Array UInt8) (place : Nat) : (count : Nat) → Nat
  | 0 => 0
  | count + 1 => bitAt bytes place + 2 * bitsAt bytes (place + 1) count

/-- Reads a number of `count` bits. -/
def takeBits (count : Nat) : Inflating Nat := do
  let s ← get
  if 8 * s.bytes.size < s.place + count then throw .atEnd
  set { s with place := s.place + count }
  return bitsAt s.bytes s.place count

/-- Halts at a fault unless a condition holds. -/
def demand (holds : Bool) (f : InflateFault) : Inflating Unit := if holds then pure () else throw (.fault f)

/-- Passes the bits up to the end of a byte. -/
def skipToByte : Inflating Unit := modify fun s => { s with place := (s.place + 7) / 8 * 8 }

/-- Adds a byte to the text. -/
def putByte (b : UInt8) : Inflating Unit := modify fun s => { s with text := s.text.push b }

/-- Reads the rest of the word of a symbol; nothing if no word fits. -/
def takeRest (code : PrefixCode) : (fuel : Nat) → PrefixCode.Search → Inflating (Option Nat)
  | 0, _ => return none
  | fuel + 1, s => do
    match s.step (← takeBits 1) with
    | .symbol place => return code.symbols[place]?
    | .longer s => takeRest code fuel s
    | .nothing => return none

/-- Reads the word of a symbol; nothing if no word fits. -/
def takeSymbol (code : PrefixCode) : Inflating (Option Nat) := takeRest code maxWordLength code.search

/-! ### Blocks -/

/-- Copies bytes as they are. -/
def copyStored : (count : Nat) → Inflating Unit
  | 0 => return
  | count + 1 => do
    putByte (UInt8.ofNat (← takeBits 8))
    copyStored count

/-- Reads a block of bytes as they are. -/
def readStored : Inflating Unit := do
  skipToByte
  let lengths ← takeBits 32
  let count := lengths % 65536
  demand (lengths / 65536 == 65535 - count) .storedLengths
  copyStored count

/-- The shortest copy that each symbol from 257 on stands for, and the number of bits that are added to it. -/
def copyLengths : Array (Nat × Nat) := #[
  (3, 0), (4, 0), (5, 0), (6, 0), (7, 0), (8, 0), (9, 0), (10, 0), (11, 1), (13, 1), (15, 1), (17, 1), (19, 2), (23, 2),
  (27, 2), (31, 2), (35, 3), (43, 3), (51, 3), (59, 3), (67, 4), (83, 4), (99, 4), (115, 4), (131, 5), (163, 5),
  (195, 5), (227, 5), (258, 0)]

/-- The shortest distance that each symbol stands for, and the number of bits that are added to it. -/
def copyDistances : Array (Nat × Nat) := #[
  (1, 0), (2, 0), (3, 0), (4, 0), (5, 1), (7, 1), (9, 2), (13, 2), (17, 3), (25, 3), (33, 4), (49, 4), (65, 5), (97, 5),
  (129, 6), (193, 6), (257, 7), (385, 7), (513, 8), (769, 8), (1025, 9), (1537, 9), (2049, 10), (3073, 10), (4097, 11),
  (6145, 11), (8193, 12), (12289, 12), (16385, 13), (24577, 13)]

/-- Copies `count` bytes of the text from `distance` bytes before its end, those that are being written included. -/
def copyBack (distance : Nat) : (count : Nat) → Inflating Unit
  | 0 => return
  | count + 1 => do
    modify fun s => { s with text := s.text.push (s.text.getD (s.text.size - distance) 0) }
    copyBack distance count

/-- Reads a number that a symbol and some bits behind it write. -/
def takeNumber (table : Array (Nat × Nat)) (place : Nat) (f : InflateFault) : Inflating Nat :=
  match table[place]? with
  | some (least, bits) => return least + (← takeBits bits)
  | none => throw (.fault f)

/-- Reads the distance of a copy of `count` bytes and makes it. -/
def readCopy (distances : PrefixCode) (count : Nat) : Inflating Unit := do
  match ← takeSymbol distances with
  | none => throw (.fault .distance)
  | some symbol =>
    let distance ← takeNumber copyDistances symbol .distance
    demand (distance ≤ (← get).text.size) .tooFarBack
    copyBack distance count

/-- Reads symbols up to the end of a block. Each takes at least one bit. -/
def readSymbols (literals distances : PrefixCode) : (fuel : Nat) → Inflating Unit
  | 0 => throw .atEnd
  | fuel + 1 => do
    match ← takeSymbol literals with
    | none => throw (.fault .literal)
    | some symbol =>
      if symbol < 256 then
        putByte (UInt8.ofNat symbol)
        readSymbols literals distances fuel
      else if symbol = 256 then return
      else
        readCopy distances (← takeNumber copyLengths (symbol - 257) .literal)
        readSymbols literals distances fuel

/-- Reads a block in two codes. -/
def readCoded (literals distances : PrefixCode) : Inflating Unit := do
  readSymbols literals distances (8 * (← get).bytes.size)

/-- The code of literals and lengths that needs no description. -/
def fixedLiterals : PrefixCode := PrefixCode.ofLengths
  (List.replicate 144 8 ++ List.replicate 112 9 ++ List.replicate 24 7 ++ List.replicate 8 8)

/-- The code of distances that needs no description. -/
def fixedDistances : PrefixCode := PrefixCode.ofLengths (List.replicate 32 5)

/-- The order in which the lengths of the words for lengths stand. -/
def lengthOrder : List Nat := [16, 17, 18, 0, 8, 7, 9, 6, 10, 5, 11, 4, 12, 3, 13, 2, 14, 1, 15]

/-- Reads `count` numbers of three bits. -/
def takeTriples : (count : Nat) → Inflating (List Nat)
  | 0 => return []
  | count + 1 => do
    let n ← takeBits 3
    return n :: (← takeTriples count)

/-- Reads `left` lengths behind those in `done`, which is in reverse; a symbol may stand for a run of them. -/
def takeLengths (code : PrefixCode) : (fuel left : Nat) → (done : List Nat) → Inflating (List Nat)
  | _, 0, done => return done.reverse
  | 0, _, done => return done.reverse
  | fuel + 1, left, done => do
    let symbol := (← takeSymbol code).getD 0
    if symbol < 16 then takeLengths code fuel (left - 1) (symbol :: done)
    else
      let (least, bits) := if symbol = 16 then (3, 2) else if symbol = 17 then (3, 3) else (11, 7)
      let count := least + (← takeBits bits)
      demand (symbol != 16 || !done.isEmpty) .lengthRepeat
      demand (count ≤ left) .lengthRepeat
      let length := if symbol = 16 then done.headD 0 else 0
      takeLengths code fuel (left - count) (List.replicate count length ++ done)

/-- Reads a block behind the description of its codes. -/
def readDescribed : Inflating Unit := do
  let literalCount := 257 + (← takeBits 5)
  let distanceCount := 1 + (← takeBits 5)
  let lengthCount := 4 + (← takeBits 4)
  demand (literalCount ≤ 286 && distanceCount ≤ 30) .tooManyCodes
  let stated := lengthOrder.zip (← takeTriples lengthCount)
  let code := PrefixCode.ofLengths ((List.range 19).map fun i => (stated.lookup i).getD 0)
  demand (code.isFull || code.longest == 0) .lengthCodes
  let lengths ← takeLengths code (literalCount + distanceCount) (literalCount + distanceCount) []
  demand (lengths[256]? != some 0) .noEnd
  let literals := PrefixCode.ofLengths (lengths.take literalCount)
  demand (literals.isFull || literals.isTrivial) .literalCodes
  let distances := PrefixCode.ofLengths (lengths.drop literalCount)
  demand (distances.isFull || distances.isTrivial) .distanceCodes
  readCoded literals distances

/-- Reads a block and whether it is the last one. -/
def readBlock : Inflating Bool := do
  let head ← takeBits 3
  match head / 2 with
  | 0 => readStored
  | 1 => readCoded fixedLiterals fixedDistances
  | 2 => readDescribed
  | _ => throw (.fault .blockKind)
  return head % 2 == 1

/-- Reads blocks up to the last one. Each takes at least one bit. -/
def readBlocks : (fuel : Nat) → Inflating Unit
  | 0 => throw .atEnd
  | fuel + 1 => do if ← readBlock then return else readBlocks fuel

end LintPreview.Deflate
