import UriEndpoint.Compression.BitStream

/-!
# Prefix codes

A prefix code gives every symbol a sequence of bits of which none is the beginning of another. It is
known from the lengths alone: codes of one length follow each other in the order of their symbols,
and shorter ones come before longer ones. A code is kept as a tree whose leaves are the symbols.
-/

namespace UriEndpoint

/-- A prefix code as a tree; a sequence of bits that is no code leads nowhere. -/
inductive PrefixCode where
  | nowhere
  | symbol (value : Nat)
  | fork (zero one : PrefixCode)
deriving Repr

namespace PrefixCode

/-- The most bits of a code. -/
def mostBits : Nat := 15

/-- The code with a symbol at the end of a sequence of bits. -/
def insert (value : Nat) : List Bool → PrefixCode → PrefixCode
  | [], _ => symbol value
  | bit :: rest, code =>
      let (zero, one) :=
        match code with
        | fork zero one => (zero, one)
        | _ => (nowhere, nowhere)
      if bit then fork zero (insert value rest one) else fork (insert value rest zero) one

/-- The symbols with codes of a length, in order. -/
def symbolsOf (lengths : List Nat) (length : Nat) : List Nat :=
  lengths.zipIdx.filterMap fun (other, value) => if other = length then some value else none

/-- The bits of a number, greatest one first. -/
def bitsDown (count number : Nat) : List Bool := (BitStream.bitsOf number count).reverse

/-- Enters symbols with codes of one length from the next free one on. -/
def enterAll (length : Nat) (state : PrefixCode × Nat) (values : List Nat) : PrefixCode × Nat :=
  values.foldl
    (fun (code, next) value => (insert value (bitsDown length next) code, next + 1)) state

/-- The code with these lengths; a symbol of length zero has none. -/
def ofLengths (lengths : List Nat) : PrefixCode :=
  ((List.range mostBits).foldl
    (fun (code, next) shorter =>
      enterAll (shorter + 1) (code, 2 * next) (symbolsOf lengths (shorter + 1)))
    (nowhere, 0)).1

/-- How much of all sequences of bits the codes of these lengths use up, in units of the longest. -/
def usedUp (lengths : List Nat) : Nat :=
  ((lengths.filter (0 < ·)).map fun length => Nat.pow 2 (mostBits - length)).foldl (· + ·) 0

/-- Whether codes of these lengths leave no sequence of bits over. -/
def isComplete (lengths : List Nat) : Bool := usedUp lengths == Nat.pow 2 mostBits

/-- Whether codes of these lengths are too many. -/
def isOverfull (lengths : List Nat) : Bool := Nat.pow 2 mostBits < usedUp lengths

/-- A symbol, and the rest of the stream. -/
def read (stream : BitStream) : PrefixCode → Except StreamEnd (Nat × BitStream)
  | nowhere => .error .wrong
  | symbol value => .ok (value, stream)
  | fork zero one =>
      match stream with
      | [] => .error .early
      | bit :: rest => if bit then one.read rest else zero.read rest

end PrefixCode

end UriEndpoint
