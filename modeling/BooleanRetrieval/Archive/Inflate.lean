/-!
# Inflating

Compressed members of archives are sequences of blocks. A block holds bytes as they are, or symbols in
a prefix code: single bytes and references to bytes written before. The lengths of the codes of all
symbols determine the code.
-/

set_option autoImplicit false

namespace BooleanRetrieval.Archive

/-- The bits of bytes, each byte from its lowest bit. -/
def bitsOf (bytes : List UInt8) : List Bool :=
  bytes.flatMap fun b => (List.range 8).map fun i => b.toNat.testBit i

/-- Why inflating stops before the end of the last block. -/
inductive InflateFault where
  /-- The bits end, which is no offence: more of them could follow. -/
  | endOfData
  | unknownKind
  | contradictoryLength
  | tooManySymbols
  /-- The code of the code lengths is no prefix code, or some bits mean nothing in it. -/
  | badLengthCode
  | badRepeat
  /-- The end of the block has no code. -/
  | endless
  | badLiteralCode
  | badDistanceCode
  /-- The bits stand for no literal and no length. -/
  | noLiteral
  /-- The bits stand for no distance. -/
  | noDistance
  /-- A reference goes back to before the first byte. -/
  | tooFarBack
  deriving DecidableEq, Repr

/-- The text of a fault. -/
def InflateFault.message : InflateFault → String
  | endOfData => "incomplete or truncated stream"
  | unknownKind => "invalid block type"
  | contradictoryLength => "invalid stored block lengths"
  | tooManySymbols => "too many length or distance symbols"
  | badLengthCode => "invalid code lengths set"
  | badRepeat => "invalid bit length repeat"
  | endless => "invalid code -- missing end-of-block"
  | badLiteralCode => "invalid literal/lengths set"
  | badDistanceCode => "invalid distances set"
  | noLiteral => "invalid literal/length code"
  | noDistance => "invalid distance code"
  | tooFarBack => "invalid distance too far back"

/-- A number of the given count of bits, the lowest bit first. -/
def takeNumber : Nat → List Bool → Except InflateFault (Nat × List Bool)
  | 0, bits => .ok (0, bits)
  | _ + 1, [] => .error .endOfData
  | count + 1, bit :: bits => do
    let (n, rest) ← takeNumber count bits
    .ok (2 * n + bit.toNat, rest)

/-- A prefix code: how many symbols have codes of one bit, of two bits and so on, and the symbols in
the order of their codes. -/
structure PrefixCode where
  counts : List Nat
  symbols : Array Nat

/-- The most bits of a code. -/
def maxCodeBits : Nat := 15

/-- The code in which the symbols have codes of the given lengths; zero stands for a symbol without a
code. The counts end with the longest codes, and there is at least one of them. -/
def PrefixCode.ofLengths (lengths : List Nat) : PrefixCode :=
  let numbered := lengths.zipIdx
  let ofLength (n : Nat) : List Nat := (numbered.filter (·.1 = n)).map (·.2)
  let longest := max 1 (min maxCodeBits (lengths.foldl max 0))
  let groups := (List.range' 1 longest).map ofLength
  ⟨groups.map List.length, groups.flatten.toArray⟩

/-- How many codes of the greatest length are left over, or nothing if there are more codes than fit.
`left` is the number of codes that are left over of the length before. -/
def unusedCodes (left : Nat) : List Nat → Option Nat
  | [] => some left
  | count :: counts => if 2 * left < count then none else unusedCodes (2 * left - count) counts

/-- Whether all sequences of bits begin with codes, each with exactly one. -/
def PrefixCode.isComplete (c : PrefixCode) : Bool :=
  unusedCodes 1 c.counts = some 0

/-- Whether no sequence of bits has two codes, and some have none only because there is at most one
code, of one bit. -/
def PrefixCode.isUsable (c : PrefixCode) : Bool :=
  c.isComplete || (c.counts.length ≤ 1 && (unusedCodes 1 c.counts).isSome)

/-- Read a symbol. `code` is the number that the bits so far write, `first` the first code of this
length and `index` the place of its symbol. Bits that are no code give no symbol. -/
def PrefixCode.decodeFrom (symbols : Array Nat) (code first index : Nat) :
    List Nat → List Bool → Except InflateFault (Option Nat × List Bool)
  | count :: counts, bit :: bits =>
    let code := code + bit.toNat
    if code < first + count then .ok (symbols[index + (code - first)]?, bits)
    else decodeFrom symbols (2 * code) (2 * (first + count)) (index + count) counts bits
  | [], bits => .ok (none, bits)
  | _ :: _, [] => .error .endOfData

/-- Read a symbol, if the bits are a code. -/
def PrefixCode.decode? (c : PrefixCode) (bits : List Bool) :
    Except InflateFault (Option Nat × List Bool) :=
  decodeFrom c.symbols 0 0 0 c.counts bits

/-- Read a symbol. `otherwise` is the fault of bits that are no code. -/
def PrefixCode.decode (c : PrefixCode) (otherwise : InflateFault) (bits : List Bool) :
    Except InflateFault (Nat × List Bool) :=
  match c.decode? bits with
  | .ok (some symbol, bits) => .ok (symbol, bits)
  | .ok (none, _) => .error otherwise
  | .error fault => .error fault

/-- The least length and the count of further bits of each length symbol. -/
def lengthRows : List (Nat × Nat) :=
  [(3, 0), (4, 0), (5, 0), (6, 0), (7, 0), (8, 0), (9, 0), (10, 0), (11, 1), (13, 1), (15, 1),
   (17, 1), (19, 2), (23, 2), (27, 2), (31, 2), (35, 3), (43, 3), (51, 3), (59, 3), (67, 4), (83, 4),
   (99, 4), (115, 4), (131, 5), (163, 5), (195, 5), (227, 5), (258, 0)]

/-- The least distance and the count of further bits of each distance symbol. -/
def distanceRows : List (Nat × Nat) :=
  [(1, 0), (2, 0), (3, 0), (4, 0), (5, 1), (7, 1), (9, 2), (13, 2), (17, 3), (25, 3), (33, 4),
   (49, 4), (65, 5), (97, 5), (129, 6), (193, 6), (257, 7), (385, 7), (513, 8), (769, 8), (1025, 9),
   (1537, 9), (2049, 10), (3073, 10), (4097, 11), (6145, 11), (8193, 12), (12289, 12), (16385, 13),
   (24577, 13)]

/-- The number that a row gives with its further bits. `otherwise` is the fault of a symbol without a
row. -/
def takeRow (rows : List (Nat × Nat)) (otherwise : InflateFault) (symbol : Nat) (bits : List Bool) :
    Except InflateFault (Nat × List Bool) :=
  match rows[symbol]? with
  | none => .error otherwise
  | some (least, further) => do
    let (n, rest) ← takeNumber further bits
    .ok (least + n, rest)

/-- Repeat bytes from a distance before the end, if there are as many. -/
def copyBack (out : Array UInt8) (distance : Nat) : Nat → Option (Array UInt8)
  | 0 => some out
  | length + 1 =>
    if distance ≤ out.size then do
      copyBack (out.push (← out[out.size - distance]?)) distance length
    else none

/-- What a symbol of a block stands for. -/
inductive BlockSymbol where
  | literal (b : UInt8)
  | endOfBlock
  | reference (length distance : Nat)

/-- Read a symbol of a block with the distance that belongs to it. -/
def takeSymbol (literals distances : PrefixCode) (bits : List Bool) :
    Except InflateFault (BlockSymbol × List Bool) := do
  let (symbol, bits) ← literals.decode .noLiteral bits
  if symbol < 256 then .ok (.literal (UInt8.ofNat symbol), bits)
  else if symbol = 256 then .ok (.endOfBlock, bits)
  else
    let (length, bits) ← takeRow lengthRows .noLiteral (symbol - 257) bits
    let (symbol, bits) ← distances.decode .noDistance bits
    let (distance, bits) ← takeRow distanceRows .noDistance symbol bits
    .ok (.reference length distance, bits)

/-- The bytes written so far, and the bits behind them or why there is nothing more to read. -/
abbrev Inflating : Type := Array UInt8 × Except InflateFault (List Bool)

/-- Read symbols up to the end of the block. The first number bounds how many there are. -/
def inflateSymbols (literals distances : PrefixCode) :
    Nat → Array UInt8 → List Bool → Inflating
  | 0, out, _ => (out, .error .endOfData)
  | fuel + 1, out, bits =>
    match takeSymbol literals distances bits with
    | .error fault => (out, .error fault)
    | .ok (.literal b, bits) => inflateSymbols literals distances fuel (out.push b) bits
    | .ok (.endOfBlock, bits) => (out, .ok bits)
    | .ok (.reference length distance, bits) =>
      match copyBack out distance length with
      | none => (out, .error .tooFarBack)
      | some out => inflateSymbols literals distances fuel out bits

/-- The code of literals and lengths that needs no description. -/
def fixedLiterals : PrefixCode :=
  .ofLengths (List.replicate 144 8 ++ List.replicate 112 9 ++ List.replicate 24 7
    ++ List.replicate 8 8)

/-- The code of distances that needs no description. -/
def fixedDistances : PrefixCode :=
  .ofLengths (List.replicate 30 5)

/-- The order in which the lengths of the codes for code lengths are given. -/
def lengthOrder : List Nat :=
  [16, 17, 18, 0, 8, 7, 9, 6, 10, 5, 11, 4, 12, 3, 13, 2, 14, 1, 15]

/-- Read numbers of three bits. -/
def takeTriples : Nat → List Bool → Except InflateFault (List Nat × List Bool)
  | 0, bits => .ok ([], bits)
  | count + 1, bits => do
    let (n, bits) ← takeNumber 3 bits
    let (rest, bits) ← takeTriples count bits
    .ok (n :: rest, bits)

/-- Read code lengths, the latest first, until there are as many as wanted. The number bounds how many
steps that takes. Without any codes each bit stands for the length zero. -/
def takeLengths (code : PrefixCode) (wanted : Nat) :
    Nat → List Nat → List Bool → Except InflateFault (List Nat × List Bool)
  | 0, _, _ => .error .badRepeat
  | fuel + 1, done, bits =>
    if wanted < done.length then .error .badRepeat
    else if wanted = done.length then .ok (done.reverse, bits)
    else do
      let (symbol, bits) ← code.decode? bits
      let repeated (value? : Option Nat) (least further : Nat) :
          Except InflateFault (List Nat × List Bool) := do
        let (n, bits) ← takeNumber further bits
        match value? with
        | some value =>
          takeLengths code wanted fuel (List.replicate (least + n) value ++ done) bits
        | none => .error .badRepeat
      match symbol.getD 0 with
      | 16 => repeated done.head? 3 2
      | 17 => repeated (some 0) 3 3
      | 18 => repeated (some 0) 11 7
      | length => takeLengths code wanted fuel (length :: done) bits

/-- The codes of a block, given the lengths of the codes of its literals and its distances. -/
def blockCodes (literals distances : List Nat) : Except InflateFault (PrefixCode × PrefixCode) :=
  if literals.getD 256 0 = 0 then .error .endless
  else
    let literals := PrefixCode.ofLengths literals
    let distances := PrefixCode.ofLengths distances
    if !literals.isUsable then .error .badLiteralCode
    else if !distances.isUsable then .error .badDistanceCode
    else .ok (literals, distances)

/-- The most literals and lengths that a block may describe. -/
def maxLiterals : Nat := 286

/-- The most distances that a block may describe. -/
def maxDistances : Nat := 30

/-- Read the description of the codes of a block. -/
def takeCodes (bits : List Bool) :
    Except InflateFault ((PrefixCode × PrefixCode) × List Bool) := do
  let (literalCount, bits) ← takeNumber 5 bits
  let (distanceCount, bits) ← takeNumber 5 bits
  let (lengthCount, bits) ← takeNumber 4 bits
  let literalCount := literalCount + 257
  let distanceCount := distanceCount + 1
  if maxLiterals < literalCount || maxDistances < distanceCount then .error .tooManySymbols
  else
    let (given, bits) ← takeTriples (lengthCount + 4) bits
    let lengths := (List.range 19).map fun symbol => ((lengthOrder.zip given).lookup symbol).getD 0
    let code := PrefixCode.ofLengths lengths
    if !code.isComplete && lengths.any (0 < ·) then .error .badLengthCode
    else
      let wanted := literalCount + distanceCount
      let (all, bits) ← takeLengths code wanted (wanted + 1) [] bits
      .ok (← blockCodes (all.take literalCount) (all.drop literalCount), bits)

/-- Read bytes of eight bits each. -/
def takeBytes : Nat → Array UInt8 → List Bool → Inflating
  | 0, out, bits => (out, .ok bits)
  | count + 1, out, bits =>
    match takeNumber 8 bits with
    | .error fault => (out, .error fault)
    | .ok (n, bits) => takeBytes count (out.push (UInt8.ofNat n)) bits

/-- Read the length of a block of plain bytes, which begins at the next whole byte. -/
def takeStoredLength (bits : List Bool) : Except InflateFault (Nat × List Bool) := do
  let (length, bits) ← takeNumber 16 (bits.drop (bits.length % 8))
  let (complement, bits) ← takeNumber 16 bits
  if length + complement = 0xFFFF then .ok (length, bits)
  else .error .contradictoryLength

/-- Read a block of a kind. -/
def inflateBlock (kind : Nat) (out : Array UInt8) (bits : List Bool) : Inflating :=
  match kind with
  | 0 =>
    match takeStoredLength bits with
    | .error fault => (out, .error fault)
    | .ok (length, bits) => takeBytes length out bits
  | 1 => inflateSymbols fixedLiterals fixedDistances (bits.length + 1) out bits
  | 2 =>
    match takeCodes bits with
    | .error fault => (out, .error fault)
    | .ok ((literals, distances), bits) =>
      inflateSymbols literals distances (bits.length + 1) out bits
  | _ => (out, .error .unknownKind)

/-- Read the head of a block: whether it is the last one, and its kind. -/
def takeBlockHead (bits : List Bool) : Except InflateFault ((Bool × Nat) × List Bool) := do
  let (last, bits) ← takeNumber 1 bits
  let (kind, bits) ← takeNumber 2 bits
  .ok ((last = 1, kind), bits)

/-- Read blocks up to the last one. The first number bounds how many there are. -/
def inflateBlocks : Nat → Array UInt8 → List Bool → Array UInt8 × Option InflateFault
  | 0, out, _ => (out, some .endOfData)
  | fuel + 1, out, bits =>
    match takeBlockHead bits with
    | .error fault => (out, some fault)
    | .ok ((last, kind), bits) =>
      match inflateBlock kind out bits with
      | (out, .error fault) => (out, some fault)
      | (out, .ok bits) => if last then (out, none) else inflateBlocks fuel out bits

/-- The bytes that compressed bytes stand for, and why there may be more. -/
def inflate (bytes : List UInt8) : List UInt8 × Option InflateFault :=
  let bits := bitsOf bytes
  let (out, fault) := inflateBlocks (bits.length + 1) #[] bits
  (out.toList, fault)

end BooleanRetrieval.Archive
