import UriEndpoint.Compression.PrefixCode

/-!
# Deflated data

Deflated data is a sequence of blocks. A block holds bytes as they are, or symbols of a fixed code,
or symbols of a code that the block itself describes. A symbol is a byte, the end of the block, or
the length of a copy of bytes written before, whose distance follows. What has been written stays
when the data ends too early.
-/

namespace UriEndpoint.Inflate

/-- The bytes written so far. -/
abbrev Written := Array UInt8

/-- The bytes written, and the rest of the stream or why it is not read to its end. -/
structure Progress where
  written : Written
  rest : Except StreamEnd BitStream

/-- The bases and the extra bits of the lengths of copies, from the first symbol of a length on. -/
def lengthTable : List (Nat × Nat) :=
  [(3, 0), (4, 0), (5, 0), (6, 0), (7, 0), (8, 0), (9, 0), (10, 0), (11, 1), (13, 1), (15, 1),
    (17, 1), (19, 2), (23, 2), (27, 2), (31, 2), (35, 3), (43, 3), (51, 3), (59, 3), (67, 4),
    (83, 4), (99, 4), (115, 4), (131, 5), (163, 5), (195, 5), (227, 5), (258, 0)]

/-- The bases and the extra bits of the distances of copies. -/
def distanceTable : List (Nat × Nat) :=
  [(1, 0), (2, 0), (3, 0), (4, 0), (5, 1), (7, 1), (9, 2), (13, 2), (17, 3), (25, 3), (33, 4),
    (49, 4), (65, 5), (97, 5), (129, 6), (193, 6), (257, 7), (385, 7), (513, 8), (769, 8),
    (1025, 9), (1537, 9), (2049, 10), (3073, 10), (4097, 11), (6145, 11), (8193, 12), (12289, 12),
    (16385, 13), (24577, 13)]

/-- The symbol that ends a block. -/
def endSymbol : Nat := 256

/-- The codes of a block: for bytes, ends and lengths, and for distances. -/
structure Codes where
  symbols : PrefixCode
  distances : PrefixCode

/-- The codes of a block that describes none. -/
def fixedCodes : Codes where
  symbols := .ofLengths
    (List.replicate 144 8 ++ List.replicate 112 9 ++ List.replicate 24 7 ++ List.replicate 8 8)
  distances := .ofLengths (List.replicate 32 5)

/-- A base and the extra bits that belong to it, and the rest. -/
def extended (table : List (Nat × Nat)) (index : Nat) (stream : BitStream) :
    Except StreamEnd (Nat × BitStream) :=
  match table[index]? with
  | none => .error .wrong
  | some (base, count) => do
      let (more, rest) ← BitStream.take count stream
      return (base + more, rest)

/-- The bytes written with a copy from a distance back. -/
def copied (written : Written) (distance : Nat) : Nat → Written
  | 0 => written
  | length + 1 => copied (written.push (written.getD (written.size - distance) 0)) distance length

/-- A step in a block: a byte, a copy, or the end. -/
inductive BlockStep where
  | byte (value : UInt8)
  | copy (length distance : Nat)
  | finish

/-- The next step in a block, and the rest. -/
def nextStep (codes : Codes) (stream : BitStream) : Except StreamEnd (BlockStep × BitStream) := do
  let (symbol, rest) ← codes.symbols.read stream
  if symbol < endSymbol then return (.byte (UInt8.ofNat symbol), rest)
  else if symbol = endSymbol then return (.finish, rest)
  else
    let (length, rest) ← extended lengthTable (symbol - endSymbol - 1) rest
    let (index, rest) ← codes.distances.read rest
    let (distance, rest) ← extended distanceTable index rest
    return (.copy length distance, rest)

/-- The steps of a block to its end. -/
def steps (codes : Codes) : Nat → Written → BitStream → Progress
  | 0, written, _ => ⟨written, .error .early⟩
  | fuel + 1, written, stream =>
      match nextStep codes stream with
      | .error ending => ⟨written, .error ending⟩
      | .ok (.finish, rest) => ⟨written, .ok rest⟩
      | .ok (.byte value, rest) => steps codes fuel (written.push value) rest
      | .ok (.copy length distance, rest) =>
          if written.size < distance then ⟨written, .error .wrong⟩
          else steps codes fuel (copied written distance length) rest

/-- The bytes of a stream as they are, at most so many. -/
def plainBytes : Nat → Written → BitStream → Progress
  | 0, written, stream => ⟨written, .ok stream⟩
  | count + 1, written, stream =>
      match BitStream.take 8 stream with
      | .error ending => ⟨written, .error ending⟩
      | .ok (byte, rest) => plainBytes count (written.push (UInt8.ofNat byte)) rest

/-- A block of bytes as they are, whose number comes twice, the second time inverted. -/
def plainBlock (written : Written) (stream : BitStream) : Progress :=
  match BitStream.take 32 stream.aligned with
  | .error ending => ⟨written, .error ending⟩
  | .ok (sizes, rest) =>
      let size := sizes % 0x10000
      if size + sizes / 0x10000 = 0xFFFF then plainBytes size written rest
      else ⟨written, .error .wrong⟩

/-- The order in which the lengths of the codes for lengths come. -/
def lengthOrder : List Nat :=
  [16, 17, 18, 0, 8, 7, 9, 6, 10, 5, 11, 4, 12, 3, 13, 2, 14, 1, 15]

/-- So many numbers of three bits, and the rest. -/
def smallNumbers : Nat → BitStream → Except StreamEnd (List Nat × BitStream)
  | 0, stream => .ok ([], stream)
  | count + 1, stream => do
      let (number, rest) ← BitStream.take 3 stream
      let (numbers, rest) ← smallNumbers count rest
      return (number :: numbers, rest)

/-- The code for lengths, from the lengths of its own codes in their order. -/
def lengthCode (given : List Nat) : Except StreamEnd PrefixCode :=
  let lengths := (List.range lengthOrder.length).map fun value =>
    ((lengthOrder.zip given).lookup value).getD 0
  if lengths.all (· == 0) then .ok (.fork (.symbol 0) (.symbol 0))
  else if PrefixCode.isComplete lengths then .ok (.ofLengths lengths)
  else .error .wrong

/-- So many lengths, collected in reverse; a symbol may repeat the one before or zero. -/
def readLengths (code : PrefixCode) (total : Nat) :
    Nat → List Nat → BitStream → Except StreamEnd (List Nat × BitStream)
  | 0, _, _ => .error .early
  | fuel + 1, read, stream =>
      if total ≤ read.length then .ok (read.reverse, stream)
      else do
        let (symbol, rest) ← code.read stream
        if symbol < 16 then readLengths code total fuel (symbol :: read) rest
        else
          -- Symbol 16 repeats the length before, 17 and 18 repeat zero.
          let (least, bits) :=
            if symbol = 16 then (3, 2) else if symbol = 17 then (3, 3) else (11, 7)
          let (more, rest) ← BitStream.take bits rest
          let count := least + more
          let repeated ←
            if symbol = 16 then
              match read.head? with
              | some last => pure last
              | none => throw .wrong
            else pure 0
          if total < read.length + count then throw .wrong
          else readLengths code total fuel (List.replicate count repeated ++ read) rest

/-- Whether lengths are those of a code; one code of one bit may be alone, and there may be none. -/
def areUsable (lengths : List Nat) : Bool :=
  lengths.all (· ≤ 1) && !PrefixCode.isOverfull lengths || PrefixCode.isComplete lengths

/-- The codes that a block describes, and the rest. -/
def describedCodes (stream : BitStream) : Except StreamEnd (Codes × BitStream) := do
  let (counts, rest) ← BitStream.take 14 stream
  let symbolCount := counts % 32 + 257
  let distanceCount := counts / 32 % 32 + 1
  if 286 < symbolCount ∨ 30 < distanceCount then throw .wrong
  let (given, rest) ← smallNumbers (counts / 1024 + 4) rest
  let code ← lengthCode given
  let total := symbolCount + distanceCount
  let (lengths, rest) ← readLengths code total (total + 1) [] rest
  let symbols := lengths.take symbolCount
  let distances := lengths.drop symbolCount
  if symbols.getD endSymbol 0 = 0 ∨ !areUsable symbols ∨ !areUsable distances then throw .wrong
  return (⟨.ofLengths symbols, .ofLengths distances⟩, rest)

/-- A block after its first three bits, by its kind. -/
def block (kind : Nat) (written : Written) (stream : BitStream) : Progress :=
  match kind with
  | 0 => plainBlock written stream
  | 1 => steps fixedCodes (stream.length + 1) written stream
  | 2 =>
      match describedCodes stream with
      | .error ending => ⟨written, .error ending⟩
      | .ok (codes, rest) => steps codes (rest.length + 1) written rest
  | _ => ⟨written, .error .wrong⟩

/-- The blocks up to the last one. -/
def blocks : Nat → Written → BitStream → Progress
  | 0, written, _ => ⟨written, .error .early⟩
  | fuel + 1, written, stream =>
      match BitStream.take 3 stream with
      | .error ending => ⟨written, .error ending⟩
      | .ok (head, rest) =>
          let progress := block (head / 2) written rest
          match progress.rest with
          | .error _ => progress
          | .ok rest => if head % 2 = 1 then progress else blocks fuel progress.written rest

/-- What deflated data holds, and the stream after it. -/
def inflate (stream : BitStream) : Progress := blocks (stream.length + 1) #[] stream

end UriEndpoint.Inflate
