/-!
# Text as a sequence of code points

Text is a list of code points, so that cutting it at a delimiter is recursion on the list. The
operations here cut at the first delimiter, cut at every delimiter, join pieces again and trim a set
of marks from both ends. The laws beside them say that cutting loses no character
(`append_cut`, `joined_pieces`) and that pieces without the delimiter are found again
(`pieces_joined`).
-/

namespace UriEndpoint

/-- A sequence of code points. -/
abbrev Text := List Char

namespace Text

/-- What stands before the first `mark`, and what follows that mark when there is one. -/
def cut (mark : Char) : Text → Text × Option Text
  | [] => ([], none)
  | letter :: rest =>
      if letter = mark then ([], some rest)
      else (letter :: (cut mark rest).1, (cut mark rest).2)

/-- The pieces between the marks; a text without the mark is its own only piece. -/
def pieces (mark : Char) : Text → List Text
  | [] => [[]]
  | letter :: rest =>
      if letter = mark then [] :: pieces mark rest
      else
        match pieces mark rest with
        | [] => [[letter]]
        | first :: others => (letter :: first) :: others

/-- The pieces one after another, with one `mark` between neighbours. -/
def joined (mark : Char) : List Text → Text
  | [] => []
  | [piece] => piece
  | piece :: next :: others => piece ++ mark :: joined mark (next :: others)

/-- The text without the marks of `marks` at its two ends. -/
def trimmed (marks : List Char) (text : Text) : Text :=
  ((text.dropWhile marks.contains).reverse.dropWhile marks.contains).reverse

/-- The text without one leading `mark`, if it has one. -/
def withoutLeading (mark : Char) : Text → Text
  | [] => []
  | letter :: rest => if letter = mark then rest else letter :: rest

/-- The tail that a mark opens: nothing at all when there is no tail. -/
def opened (mark : Char) : Option Text → Text
  | none => []
  | some rest => mark :: rest

theorem cut_cons_same (mark : Char) (rest : Text) : cut mark (mark :: rest) = ([], some rest) := by
  simp [cut]

theorem cut_cons_other {mark letter : Char} (other : letter ≠ mark) (rest : Text) :
    cut mark (letter :: rest) = (letter :: (cut mark rest).1, (cut mark rest).2) := by
  simp [cut, other]

theorem append_cut (mark : Char) (text : Text) :
    (cut mark text).1 ++ opened mark (cut mark text).2 = text := by
  induction text with
  | nil => rfl
  | cons letter rest ih =>
      by_cases same : letter = mark
      · subst same
        simp [cut_cons_same, opened]
      · rw [cut_cons_other same]
        simpa using ih

theorem not_mem_cut_fst (mark : Char) (text : Text) : mark ∉ (cut mark text).1 := by
  induction text with
  | nil => simp [cut]
  | cons letter rest ih =>
      by_cases same : letter = mark
      · subst same
        simp [cut_cons_same]
      · rw [cut_cons_other same]
        simpa [Ne.symm same] using ih

/-- A text that begins without the mark is cut where the mark follows. -/
theorem cut_append {mark : Char} {before : Text} (absent : mark ∉ before) (tail : Option Text) :
    cut mark (before ++ opened mark tail) = (before, tail) := by
  induction before with
  | nil => cases tail <;> simp [opened, cut]
  | cons letter rest ih =>
      have other : letter ≠ mark := fun same => absent (by simp [same])
      rw [List.cons_append, cut_cons_other other, ih (fun member => absent (by simp [member]))]

/-- A text is divided at its first mark in one way. -/
theorem eq_of_append_mark {mark : Char} {front other back rest : Text} (plain : mark ∉ front)
    (otherPlain : mark ∉ other) (same : front ++ mark :: back = other ++ mark :: rest) :
    front = other ∧ back = rest := by
  have divided := cut_append plain (some back)
  rw [opened, same, ← opened, cut_append otherPlain (some rest)] at divided
  cases divided
  exact ⟨rfl, rfl⟩

/-- The cut of a text is its only division at a mark that its front does not hold. -/
theorem cut_eq_iff {mark : Char} {text before : Text} {tail : Option Text} :
    cut mark text = (before, tail) ↔ mark ∉ before ∧ text = before ++ opened mark tail := by
  constructor
  · intro cutting
    have front := not_mem_cut_fst mark text
    have kept := append_cut mark text
    rw [cutting] at front kept
    exact ⟨front, kept.symm⟩
  · rintro ⟨absent, rfl⟩
    exact cut_append absent tail

/-- Every text is a front without the mark and a tail that the mark opens, if it has one. -/
theorem exists_eq_append_opened (mark : Char) (text : Text) :
    ∃ front tail, mark ∉ front ∧ text = front ++ opened mark tail :=
  ⟨_, _, not_mem_cut_fst mark text, (append_cut mark text).symm⟩

/-- A front without the mark does not change where the rest is cut. -/
theorem cut_append_of_not_mem {mark : Char} {front : Text} (absent : mark ∉ front) (rest : Text) :
    cut mark (front ++ rest) = (front ++ (cut mark rest).1, (cut mark rest).2) := by
  rw [cut_eq_iff, List.mem_append, not_or, List.append_assoc, append_cut]
  exact ⟨⟨absent, not_mem_cut_fst mark rest⟩, rfl⟩

theorem cut_fst_eq_takeWhile (mark : Char) (text : Text) :
    (cut mark text).1 = text.takeWhile (· != mark) := by
  induction text with
  | nil => rfl
  | cons letter rest ih =>
      by_cases same : letter = mark
      · simp [cut, same]
      · simp [cut, same, ih]

/-- A text has a tail behind its first mark exactly if it holds the mark. -/
theorem cut_snd_eq_none_iff {mark : Char} {text : Text} :
    (cut mark text).2 = none ↔ mark ∉ text := by
  induction text with
  | nil => simp [cut]
  | cons letter rest ih =>
      by_cases same : letter = mark
      · simp [cut, same]
      · simp [cut, same, Ne.symm same, ih]

theorem length_of_cut {mark : Char} {text before rest : Text}
    (cutting : cut mark text = (before, some rest)) : rest.length < text.length := by
  have kept := congrArg List.length (append_cut mark text)
  rw [cutting] at kept
  simp only [opened, List.length_append, List.length_cons] at kept
  omega

theorem pieces_ne_nil (mark : Char) (text : Text) : pieces mark text ≠ [] := by
  cases text with
  | nil => simp [pieces]
  | cons letter rest =>
      by_cases same : letter = mark
      · simp [pieces, same]
      · simp only [pieces, same, if_false]
        split <;> simp

theorem joined_pieces (mark : Char) (text : Text) : joined mark (pieces mark text) = text := by
  induction text with
  | nil => rfl
  | cons letter rest ih =>
      have present := pieces_ne_nil mark rest
      by_cases same : letter = mark
      · simp only [pieces, same, if_true]
        cases shape : pieces mark rest with
        | nil => exact absurd shape present
        | cons first others =>
            rw [shape] at ih
            simp [joined, ih]
      · simp only [pieces, same, if_false]
        cases shape : pieces mark rest with
        | nil => exact absurd shape present
        | cons first others =>
            rw [shape] at ih
            cases others with
            | nil => simpa [joined] using ih
            | cons next more => simpa [joined] using ih

theorem pieces_of_not_mem {mark : Char} {text : Text} (absent : mark ∉ text) :
    pieces mark text = [text] := by
  induction text with
  | nil => rfl
  | cons letter rest ih =>
      have other : letter ≠ mark := fun same => absent (by simp [same])
      simp [pieces, other, ih (fun member => absent (by simp [member]))]

/-- Around a mark, the pieces before it are followed by those after it. -/
theorem pieces_append (mark : Char) (front rest : Text) :
    pieces mark (front ++ mark :: rest) = pieces mark front ++ pieces mark rest := by
  induction front with
  | nil => simp [pieces]
  | cons letter front ih =>
      by_cases same : letter = mark
      · simp [pieces, same, ih]
      · cases shape : pieces mark front with
        | nil => exact absurd shape (pieces_ne_nil mark front)
        | cons first others => simp [pieces, same, ih, shape]

theorem pieces_append_mark {mark : Char} {piece : Text} (absent : mark ∉ piece) (rest : Text) :
    pieces mark (piece ++ mark :: rest) = piece :: pieces mark rest := by
  rw [pieces_append, pieces_of_not_mem absent, List.singleton_append]

/-- Pieces that do not hold the mark are found again after joining. -/
theorem pieces_joined {mark : Char} {parts : List Text} (present : parts ≠ [])
    (absent : ∀ part ∈ parts, mark ∉ part) : pieces mark (joined mark parts) = parts := by
  induction parts with
  | nil => exact absurd rfl present
  | cons part others ih =>
      cases others with
      | nil => simpa [joined] using pieces_of_not_mem (absent part (by simp))
      | cons next more =>
          rw [joined, pieces_append_mark (absent part (by simp)),
            ih (by simp) (fun piece member => absent piece (by simp [member]))]

theorem not_mem_of_mem_pieces {mark : Char} {text piece : Text}
    (member : piece ∈ pieces mark text) : mark ∉ piece := by
  induction text generalizing piece with
  | nil => simp_all [pieces]
  | cons letter rest ih =>
      by_cases same : letter = mark
      · simp only [pieces, same, if_true, List.mem_cons] at member
        rcases member with rfl | member
        · simp
        · exact ih member
      · simp only [pieces, same, if_false] at member
        cases shape : pieces mark rest with
        | nil => exact absurd shape (pieces_ne_nil mark rest)
        | cons first others =>
            rw [shape] at member ih
            rcases List.mem_cons.1 member with rfl | member
            · simpa [Ne.symm same] using ih (List.mem_cons_self ..)
            · exact ih (List.mem_cons_of_mem _ member)

theorem joined_cons (mark : Char) (part : Text) (others : List Text) :
    joined mark (part :: others) = part ++ others.flatMap (mark :: ·) := by
  induction others generalizing part with
  | nil => simp [joined]
  | cons next more ih => rw [joined, ih, List.flatMap_cons, List.cons_append]

/-- A front joins the first of the parts. -/
theorem append_joined_cons (mark : Char) (front part : Text) (others : List Text) :
    front ++ joined mark (part :: others) = joined mark ((front ++ part) :: others) := by
  rw [joined_cons, joined_cons, List.append_assoc]

theorem joined_cons_of_ne_nil {mark : Char} {others : List Text} (present : others ≠ [])
    (part : Text) : joined mark (part :: others) = part ++ mark :: joined mark others := by
  obtain ⟨next, more, rfl⟩ := List.exists_cons_of_ne_nil present
  rfl

theorem joined_append {mark : Char} {front rest : List Text} (frontPresent : front ≠ [])
    (restPresent : rest ≠ []) :
    joined mark (front ++ rest) = joined mark front ++ mark :: joined mark rest := by
  obtain ⟨part, others, rfl⟩ := List.exists_cons_of_ne_nil frontPresent
  obtain ⟨next, more, rfl⟩ := List.exists_cons_of_ne_nil restPresent
  rw [List.cons_append, joined_cons, joined_cons, joined_cons, List.flatMap_append,
    List.flatMap_cons, List.append_assoc, List.cons_append]

/-- A part among others stands between those before it, each with a mark behind it, and those after
it, each with a mark in front. -/
theorem joined_append_cons (mark : Char) (before : List Text) (part : Text) (after : List Text) :
    joined mark (before ++ part :: after) =
      before.flatMap (· ++ [mark]) ++ part ++ after.flatMap (mark :: ·) := by
  cases before with
  | nil => rw [List.nil_append, joined_cons, List.flatMap_nil, List.nil_append]
  | cons first more =>
      rw [List.cons_append, joined_cons]
      induction more generalizing first with
      | nil => simp
      | cons next more ih => simpa using congrArg (first ++ mark :: ·) (ih next)

theorem joined_suffix_append (mark : Char) (front rest : List Text) :
    joined mark rest <:+ joined mark (front ++ rest) := by
  by_cases frontEmpty : front = []
  · subst frontEmpty
    exact List.suffix_refl _
  · by_cases restEmpty : rest = []
    · rw [restEmpty, joined]
      exact List.nil_suffix
    · rw [joined_append frontEmpty restEmpty]
      exact (List.suffix_cons _ _).trans (List.suffix_append _ _)

theorem length_le_joined {mark : Char} {part : Text} {parts : List Text}
    (member : part ∈ parts) : part.length ≤ (joined mark parts).length := by
  obtain ⟨before, after, rfl⟩ := List.append_of_mem member
  rw [joined_append_cons]
  simp only [List.length_append]
  omega

theorem mem_joined {mark letter : Char} {part : Text} {parts : List Text} (among : part ∈ parts)
    (inside : letter ∈ part) : letter ∈ joined mark parts := by
  induction parts with
  | nil => cases among
  | cons first others ih =>
      cases others with
      | nil => exact List.mem_singleton.mp among ▸ inside
      | cons next more =>
          rw [joined, List.mem_append, List.mem_cons]
          rcases List.mem_cons.mp among with rfl | among
          · exact .inl inside
          · exact .inr (.inr (ih among))

theorem mem_of_mem_pieces {mark letter : Char} {text piece : Text}
    (among : piece ∈ pieces mark text) (inside : letter ∈ piece) : letter ∈ text := by
  rw [← joined_pieces mark text]
  exact mem_joined among inside

theorem mem_of_mem_joined {mark letter : Char} {parts : List Text}
    (member : letter ∈ joined mark parts) : letter = mark ∨ ∃ part ∈ parts, letter ∈ part := by
  induction parts with
  | nil => cases member
  | cons part others ih =>
      cases others with
      | nil => exact .inr ⟨part, List.mem_cons_self .., member⟩
      | cons next more =>
          rw [joined, List.mem_append, List.mem_cons] at member
          rcases member with here | rfl | further
          · exact .inr ⟨part, List.mem_cons_self .., here⟩
          · exact .inl rfl
          · exact (ih further).imp_right fun ⟨other, among, inside⟩ =>
              ⟨other, List.mem_cons_of_mem _ among, inside⟩

end Text

end UriEndpoint
