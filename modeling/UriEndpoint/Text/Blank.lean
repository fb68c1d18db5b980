import UriEndpoint.Text.Basic

/-!
# Blank text

White space of the Unicode standard together with the four information separators. A region of a
template that holds nothing else is blank, and blank regions parse to nothing.
-/

namespace UriEndpoint.Text

/-- The runs of white-space code points, both ends included. -/
def blankRuns : List (Nat × Nat) :=
  [(0x09, 0x0D), (0x1C, 0x20), (0x85, 0x85), (0xA0, 0xA0), (0x1680, 0x1680), (0x2000, 0x200A),
    (0x2028, 0x2029), (0x202F, 0x202F), (0x205F, 0x205F), (0x3000, 0x3000)]

/-- Whether a character is white space. -/
def isBlankLetter (letter : Char) : Bool :=
  blankRuns.any fun run => run.1 ≤ letter.toNat && letter.toNat ≤ run.2

/-- Whether a text is empty or white space throughout. -/
def isBlank (text : Text) : Bool := text.all isBlankLetter

/-- The text without white space at its two ends. -/
def stripped (text : Text) : Text :=
  ((text.dropWhile isBlankLetter).reverse.dropWhile isBlankLetter).reverse

/-- A separator of information, U+001C to U+001F. -/
def isInformationSeparator (letter : Char) : Bool :=
  0x1C ≤ letter.toNat && letter.toNat ≤ 0x1F

/-- Numbers in text may be padded with white space, information separators excepted. -/
def isPadding (letter : Char) : Bool := isBlankLetter letter && !isInformationSeparator letter

/-- The text without padding at its two ends. -/
def unpadded (text : Text) : Text :=
  ((text.dropWhile isPadding).reverse.dropWhile isPadding).reverse

theorem isBlank_append (first second : Text) :
    isBlank (first ++ second) = (isBlank first && isBlank second) := by
  simp [isBlank]

theorem isBlank_eq_false_of_mem {text : Text} {letter : Char} (member : letter ∈ text)
    (visible : isBlankLetter letter = false) : isBlank text = false := by
  rw [isBlank, List.all_eq_false]
  exact ⟨letter, member, by simp [visible]⟩

end UriEndpoint.Text
