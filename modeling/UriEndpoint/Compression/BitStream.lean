/-!
# Streams of bits

Compressed bytes are read as bits, the least one of each byte first. A stream may end before what is
being read is complete; that is different from a stream that cannot be right.
-/

namespace UriEndpoint

/-- Bits in the order in which they are read. -/
abbrev BitStream := List Bool

/-- Why nothing more is read from a stream. -/
inductive StreamEnd where
  /-- The stream ends too early. -/
  | early
  /-- The stream cannot be right, whatever follows. -/
  | wrong
deriving DecidableEq, Repr

namespace BitStream

/-- The bits of a byte from a place on, least one first. -/
def bitsOf (byte : Nat) : Nat → BitStream
  | 0 => []
  | count + 1 => (byte % 2 == 1) :: bitsOf (byte / 2) count

/-- The bits of bytes. -/
def ofBytes (bytes : List UInt8) : BitStream := bytes.flatMap fun byte => bitsOf byte.toNat 8

/-- The number that bits stand for, least one first. -/
def number : BitStream → Nat
  | [] => 0
  | bit :: rest => (if bit then 1 else 0) + 2 * number rest

/-- A number of so many bits, and the rest. -/
def take : Nat → BitStream → Except StreamEnd (Nat × BitStream)
  | 0, stream => .ok (0, stream)
  | _ + 1, [] => .error .early
  | count + 1, bit :: stream => do
      let (more, rest) ← take count stream
      return ((if bit then 1 else 0) + 2 * more, rest)

/-- The stream from the next whole byte on, when it ends with a whole byte. -/
def aligned (stream : BitStream) : BitStream := List.drop (stream.length % 8) stream

end BitStream

end UriEndpoint
