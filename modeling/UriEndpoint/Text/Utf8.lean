import UriEndpoint.Text.Basic

/-!
# Text in bytes

Bodies and files are bytes. They are read as UTF-8, in which every text has exactly one form; bytes
that are no such form are no text. Where something has to be shown all the same, each longest
beginning of a character that is not completed, and each byte that begins none, is marked instead.
-/

namespace UriEndpoint.Text

/-- The text that bytes encode, if they are valid. -/
def ofUtf8? (bytes : ByteArray) : Option Text := (String.fromUTF8? bytes).map String.toList

/-- The bytes of a text. -/
def toUtf8 (text : Text) : ByteArray := (String.ofList text).toUTF8

/-- What stands for bytes that are no text. -/
def replacementMark : Char := Char.ofNat 0xFFFD

/-- What a first byte begins: the bits that it gives, how many bytes follow it, and the bounds of
the next one. -/
def leadOf? (byte : UInt8) : Option (Nat × Nat × Nat × Nat) :=
  let value := byte.toNat
  if 0xC2 ≤ value ∧ value ≤ 0xDF then some (value - 0xC0, 1, 0x80, 0xBF)
  else if value = 0xE0 then some (0, 2, 0xA0, 0xBF)
  else if value = 0xED then some (0xD, 2, 0x80, 0x9F)
  else if 0xE1 ≤ value ∧ value ≤ 0xEF then some (value - 0xE0, 2, 0x80, 0xBF)
  else if value = 0xF0 then some (0, 3, 0x90, 0xBF)
  else if 0xF1 ≤ value ∧ value ≤ 0xF3 then some (value - 0xF0, 3, 0x80, 0xBF)
  else if value = 0xF4 then some (4, 3, 0x80, 0x8F)
  else none

/-- A character of which some bits are read and some bytes are to follow. -/
structure OpenCharacter where
  bits : Nat
  missing : Nat
  least : Nat
  most : Nat

/-- What a byte begins: a character on its own, one that is still open, or neither. -/
def opening (byte : UInt8) : Text × Option OpenCharacter :=
  if byte.toNat < 0x80 then ([Char.ofNat byte.toNat], none)
  else
    match leadOf? byte with
    | some (bits, missing, least, most) => ([], some ⟨bits, missing, least, most⟩)
    | none => ([replacementMark], none)

/-- The text of bytes after an open character, if there is one. -/
def markedFrom (open? : Option OpenCharacter) : List UInt8 → Text
  | [] => (open?.map fun _ => replacementMark).toList
  | byte :: rest =>
      match open? with
      | none => let (letters, next) := opening byte; letters ++ markedFrom next rest
      | some character =>
          if character.least ≤ byte.toNat ∧ byte.toNat ≤ character.most then
            let bits := character.bits * 0x40 + (byte.toNat - 0x80)
            if character.missing ≤ 1 then Char.ofNat bits :: markedFrom none rest
            else markedFrom (some ⟨bits, character.missing - 1, 0x80, 0xBF⟩) rest
          else
            let (letters, next) := opening byte
            replacementMark :: letters ++ markedFrom next rest

/-- The text of bytes, in which what is no text is marked. -/
def ofUtf8Marked (bytes : List UInt8) : Text := markedFrom none bytes

end UriEndpoint.Text
