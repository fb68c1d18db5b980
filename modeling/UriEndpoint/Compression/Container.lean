import UriEndpoint.Compression.Inflate

/-!
# Containers of deflated data

Deflated data comes on its own or in one of two containers, which say before it what follows and
after it what has to come out: one has a checksum of sums, the other a checksum of remainders and
the number of bytes. What follows a container is not looked at.
-/

namespace UriEndpoint.Compression

/-- The modulus of the checksum of sums. -/
def sumModulus : Nat := 65521

/-- The checksum of sums: that of the bytes, and that of the sums on the way. -/
def sumCheck (bytes : List UInt8) : Nat :=
  let (sum, sums) := bytes.foldl
    (fun (sum, sums) byte =>
      let sum := (sum + byte.toNat) % sumModulus
      (sum, (sums + sum) % sumModulus))
    (1, 0)
  sums * 0x10000 + sum

/-- The polynomial of the checksum of remainders, lowest power first. -/
def polynomial : UInt32 := 0xEDB88320

/-- A remainder after so many bits. -/
def remainderAfter (remainder : UInt32) : Nat → UInt32
  | 0 => remainder
  | count + 1 =>
      let next := if remainder % 2 = 1 then remainder >>> 1 ^^^ polynomial else remainder >>> 1
      remainderAfter next count

/-- The checksum of remainders. -/
def remainderCheck (bytes : List UInt8) : Nat :=
  (bytes.foldl (fun remainder byte => remainderAfter (remainder ^^^ byte.toUInt32) 8)
    0xFFFFFFFF ^^^ 0xFFFFFFFF).toNat

/-- So many bytes, and the rest. -/
def takeBytes (count : Nat) (bytes : List UInt8) :
    Except StreamEnd (List UInt8 × List UInt8) :=
  if bytes.length < count then .error .early else .ok (bytes.take count, bytes.drop count)

/-- The number that bytes stand for, least one first. -/
def bytesNumber : List UInt8 → Nat
  | [] => 0
  | byte :: rest => byte.toNat + 0x100 * bytesNumber rest

/-- The rest after bytes up to and with a zero. -/
def afterZero (bytes : List UInt8) : Except StreamEnd (List UInt8) :=
  match bytes.dropWhile (· != 0) with
  | [] => .error .early
  | _ :: rest => .ok rest

/-- Whether a flag of the container with remainders is set. -/
def hasFlag (flags place : Nat) : Bool := flags / Nat.pow 2 place % 2 == 1

/-- The data after the head of the container with remainders. -/
def afterRemainderHead (bytes : List UInt8) : Except StreamEnd (List UInt8) := do
  let (mark, rest) ← takeBytes 2 bytes
  if mark ≠ [0x1F, 0x8B] then throw .wrong
  let (kind, rest) ← takeBytes 2 rest
  let flags := (kind.getD 1 0).toNat
  if kind.head? ≠ some 8 ∨ 0x20 ≤ flags then throw .wrong
  let (_, rest) ← takeBytes 6 rest
  -- What the flags announce follows in this order: more data, a name, a remark, a remainder.
  let rest ←
    if hasFlag flags 2 then do
      let (size, rest) ← takeBytes 2 rest
      let (_, rest) ← takeBytes (bytesNumber size) rest
      pure rest
    else pure rest
  let rest ← if hasFlag flags 3 then afterZero rest else pure rest
  let rest ← if hasFlag flags 4 then afterZero rest else pure rest
  if hasFlag flags 1 then
    let (check, after) ← takeBytes 2 rest
    let head := bytes.take (bytes.length - rest.length)
    if bytesNumber check ≠ remainderCheck head % 0x10000 then throw .wrong
    return after
  else return rest

/-- The data after the head of the container with sums. -/
def afterSumHead (bytes : List UInt8) : Except StreamEnd (List UInt8) := do
  let (head, rest) ← takeBytes 2 bytes
  let kind := (head.getD 0 0).toNat
  let flags := (head.getD 1 0).toNat
  if (kind * 0x100 + flags) % 31 ≠ 0 ∨ kind % 16 ≠ 8 ∨ 7 < kind / 16 then throw .wrong
  if hasFlag flags 5 then
    let _ ← takeBytes 4 rest
    throw .wrong
  return rest

/-- Whether numbers of so many bits with these values follow. -/
def follow : List (Nat × Nat) → BitStream → Except StreamEnd Unit
  | [], _ => .ok ()
  | (size, expected) :: checks, stream => do
      let (given, rest) ← BitStream.take size stream
      if given = expected then follow checks rest else throw .wrong

/-- What came out of a stream; nothing if it went wrong, all there is if it ended early. -/
def outcome (written : List UInt8) : Except StreamEnd Unit → Option (List UInt8)
  | .error .wrong => none
  | _ => some written

/-- The content of data between a head and checks. -/
def contained (head : Except StreamEnd (List UInt8))
    (checks : List UInt8 → List (Nat × Nat)) : Option (List UInt8) :=
  match head with
  | .error ending => outcome [] (.error ending)
  | .ok bytes =>
      let progress := Inflate.inflate (BitStream.ofBytes bytes)
      let written := progress.written.toList
      outcome written (progress.rest.bind fun rest => follow (checks written) rest.aligned)

/-- The content of the container with remainders. -/
def ofRemainderContainer (bytes : List UInt8) : Option (List UInt8) :=
  contained (afterRemainderHead bytes) fun written =>
    [(32, remainderCheck written), (32, written.length % Nat.pow 2 32)]

/-- A number of four bytes with the first byte last. -/
def turned (number : Nat) : Nat :=
  (number % 0x100) * 0x1000000 + (number / 0x100 % 0x100) * 0x10000 +
    (number / 0x10000 % 0x100) * 0x100 + number / 0x1000000

/-- The content of the container with sums. -/
def ofSumContainer (bytes : List UInt8) : Option (List UInt8) :=
  contained (afterSumHead bytes) fun written => [(32, turned (sumCheck written))]

/-- The content of data without a container. -/
def ofBareData (bytes : List UInt8) : Option (List UInt8) :=
  contained (.ok bytes) fun _ => []

end UriEndpoint.Compression
