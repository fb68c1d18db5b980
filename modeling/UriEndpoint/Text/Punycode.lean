import UriEndpoint.Text.Basic

/-!
# Punycode

A label with letters beyond ASCII has a form in ASCII: first its letters of ASCII, then, after a
hyphen, where the others go, in ascending order. Each of them is the distance from the one before it
over all code points and all places, written in digits of radix thirty-six, least digit first. The
last digit of a distance lies below a threshold that adapts to the distances already written.
-/

namespace UriEndpoint.Punycode

/-- The first code point beyond ASCII. -/
def firstPoint : Nat := 0x80

/-- The radix of the digits. -/
def radix : Nat := 36

/-- The bias before the first distance. -/
def firstBias : Nat := 72

/-- A digit as a letter or a decimal digit. -/
def digitLetter (digit : Nat) : Char :=
  if digit < 26 then Char.ofNat (0x61 + digit) else Char.ofNat (0x30 + (digit - 26))

/-- The digit that a letter in either case or a decimal digit stands for. -/
def digit? (letter : Char) : Option Nat :=
  if 'a' ≤ letter ∧ letter ≤ 'z' then some (letter.toNat - 0x61)
  else if 'A' ≤ letter ∧ letter ≤ 'Z' then some (letter.toNat - 0x41)
  else if letter.isDigit then some (letter.toNat - 0x30 + 26)
  else none

/-- The threshold of the digit at a place, counted in steps of the radix from one step on. -/
def threshold (place bias : Nat) : Nat := max 1 (min 26 (place - bias))

theorem one_le_threshold (place bias : Nat) : 1 ≤ threshold place bias := Nat.le_max_left ..

/-- A distance scaled down until the digits of the next one fit it; the steps that this took. -/
def scaledDown (distance steps : Nat) : Nat × Nat :=
  if 455 < distance then scaledDown (distance / 35) (steps + 1) else (distance, steps)
termination_by distance
decreasing_by omega

/-- The bias after a distance, when so many letters have been placed. -/
def nextBias (distance placed : Nat) (isFirst : Bool) : Nat :=
  let damped := distance / (if isFirst then 700 else 2)
  let (scaled, steps) := scaledDown (damped + damped / placed) 0
  radix * steps + radix * scaled / (scaled + 38)

/-- The digits of a distance from a place on. -/
def distanceDigits (bias place distance : Nat) : Text :=
  let least := threshold place bias
  if distance < least then [digitLetter distance]
  else
    digitLetter (least + (distance - least) % (radix - least)) ::
      distanceDigits bias (place + radix) ((distance - least) / (radix - least))
termination_by distance
decreasing_by
  have lower := one_le_threshold place bias
  exact Nat.lt_of_le_of_lt (Nat.div_le_self _ _) (by omega)

/-- How far a label has been written. -/
structure Progress where
  written : Text
  distance : Nat
  bias : Nat
  placed : Nat

/-- Passes over one letter of the label while the letters of one code point are placed. -/
def Progress.pass (plain point : Nat) (progress : Progress) (letter : Char) : Progress :=
  if letter.toNat < point then { progress with distance := progress.distance + 1 }
  else if letter.toNat = point then
    let digits := distanceDigits progress.bias radix progress.distance
    { written := progress.written ++ digits
      distance := 0
      bias := nextBias progress.distance (progress.placed + 1) (progress.placed == plain)
      placed := progress.placed + 1 }
  else progress

/-- Places the letters of each code point in turn. -/
def placeAll (label : Text) (plain next : Nat) (progress : Progress) : List Nat → Progress
  | [] => progress
  | point :: others =>
      let skipped := (point - next) * (progress.placed + 1)
      let passed := label.foldl (Progress.pass plain point)
        { progress with distance := progress.distance + skipped }
      placeAll label plain (point + 1) { passed with distance := passed.distance + 1 } others

/-- Whether a character is one of ASCII. -/
def isPlain (letter : Char) : Bool := letter.toNat < firstPoint

/-- The form of a label in ASCII. -/
def encode (label : Text) : Text :=
  let plain := label.filter isPlain
  let points := ((label.filter fun letter => !isPlain letter).map Char.toNat).mergeSort.eraseDups
  let progress := placeAll label plain.length firstPoint ⟨[], 0, firstBias, plain.length⟩ points
  plain ++ (if plain.isEmpty then [] else ['-']) ++ progress.written

/-- How far a form has been read: the letters placed, the last of them and where the next one goes
at the earliest, and the distance being read. -/
structure Reading where
  read : Text
  point : Nat := firstPoint
  earliest : Nat := 0
  bias : Nat := firstBias
  isFirst : Bool := true
  sum : Nat := 0
  weight : Nat := 1
  place : Nat := radix

/-- Places a letter once the distance to it has been read; nothing if there is no such letter. -/
def Reading.placing (reading : Reading) (distance : Nat) : Option Reading :=
  let places := reading.read.length + 1
  let total := reading.earliest + distance
  let point := reading.point + total / places
  if point < 0xD800 ∨ (0xE000 ≤ point ∧ point < 0x110000) then
    some
      { read := reading.read.insertIdx (total % places) (Char.ofNat point)
        point
        earliest := total % places + 1
        bias := nextBias distance places reading.isFirst
        isFirst := false }
  else none

/-- Reads the distances that digits give; the last one has to be complete. -/
def Reading.distances (reading : Reading) : Text → Option Text
  | [] => if reading.place = radix then some reading.read else none
  | letter :: rest =>
      match digit? letter with
      | none => none
      | some digit =>
          let sum := reading.sum + digit * reading.weight
          let least := threshold reading.place reading.bias
          if digit < least then (reading.placing sum).bind fun reading => reading.distances rest
          else
            distances
              { reading with
                sum
                weight := reading.weight * (radix - least)
                place := reading.place + radix }
              rest

/-- The label that a form in ASCII stands for. -/
def decode? (form : Text) : Option Text :=
  match (Text.pieces '-' form).reverse with
  | digits :: piece :: pieces =>
      Reading.distances { read := Text.joined '-' (piece :: pieces).reverse } digits
  | _ => Reading.distances { read := [] } form

end UriEndpoint.Punycode
