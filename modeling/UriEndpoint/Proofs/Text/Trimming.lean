import Mathlib.Data.List.TakeWhile
import UriEndpoint.Text.Basic

/-! # Trimmed text

Trimming takes marks from both ends of a text until other characters stand there. What is left is
the one core with bare ends around which the text has nothing but marks (`trimmed_eq_iff`).
-/

namespace UriEndpoint.Text

/-- None of the marks stands at either end of a text. -/
def BareEnds (marks : List Char) (text : Text) : Prop :=
  ∀ mark ∈ marks, text.head? ≠ some mark ∧ text.getLast? ≠ some mark

instance (marks : List Char) (text : Text) : Decidable (BareEnds marks text) :=
  List.decidableBAll (fun mark => text.head? ≠ some mark ∧ text.getLast? ≠ some mark) marks

theorem head?_dropWhile_contains {marks : List Char} {text : Text} {mark : Char}
    (member : mark ∈ marks) : (text.dropWhile marks.contains).head? ≠ some mark := by
  intro first
  have other := List.head?_dropWhile_not marks.contains text
  rw [first] at other
  simp [member] at other

theorem dropWhile_contains_of_head? {marks : List Char} {text : Text}
    (bare : ∀ mark ∈ marks, text.head? ≠ some mark) : text.dropWhile marks.contains = text := by
  cases text with
  | nil => rfl
  | cons letter rest =>
      have other : ¬ marks.contains letter = true := by
        intro found
        exact bare letter (List.contains_iff_mem.mp found) rfl
      rw [List.dropWhile_cons_of_neg other]

/-- A text that does not begin with a mark loses its marks at the end without losing its head. -/
private theorem head?_of_reversed {marks : List Char} {text : Text} {mark : Char}
    (first : ((text.reverse.dropWhile marks.contains).reverse).head? = some mark) :
    text.head? = some mark := by
  obtain ⟨marksAtEnd, whole⟩ := List.dropWhile_suffix (l := text.reverse) marks.contains
  rw [← List.reverse_reverse text, ← whole, List.reverse_append, List.head?_append, first]
  rfl

theorem bareEnds_trimmed (marks : List Char) (text : Text) :
    BareEnds marks (trimmed marks text) := by
  intro mark member
  constructor
  · exact fun first => head?_dropWhile_contains member (head?_of_reversed first)
  · rw [trimmed, List.getLast?_reverse]
    exact head?_dropWhile_contains member

/-- A text is a core with nothing but marks around it, and no mark stands at either end of the
core. -/
structure Padded (marks : List Char) (core text : Text) : Prop where
  bare : BareEnds marks core
  around : ∃ front back : Text, text = front ++ core ++ back ∧
    (∀ letter ∈ front, letter ∈ marks) ∧ ∀ letter ∈ back, letter ∈ marks

theorem Padded.mem {marks : List Char} {core text : Text} (padded : Padded marks core text)
    {letter : Char} (member : letter ∈ core) : letter ∈ text := by
  obtain ⟨front, back, rfl, _, _⟩ := padded.around
  exact List.mem_append_left _ (List.mem_append_right _ member)

theorem Padded.length_le {marks : List Char} {core text : Text}
    (padded : Padded marks core text) : core.length ≤ text.length := by
  obtain ⟨front, back, rfl, _, _⟩ := padded.around
  simp only [List.length_append]
  omega

/-- Nothing is left of a text exactly if it is nothing but marks. -/
theorem trimmed_eq_nil_iff {marks : List Char} {text : Text} :
    trimmed marks text = [] ↔ ∀ letter ∈ text, letter ∈ marks := by
  rw [trimmed, List.reverse_eq_nil_iff, List.dropWhile_eq_nil_iff]
  simp only [List.mem_reverse, List.contains_iff_mem]
  constructor
  · intro marked letter member
    rw [← List.takeWhile_append_dropWhile (p := marks.contains) (l := text),
      List.mem_append] at member
    rcases member with front | rest
    · exact List.contains_iff_mem.mp (List.mem_takeWhile_imp front)
    · exact marked letter rest
  · exact fun marked letter member => marked letter (List.dropWhile_subset _ member)

/-- What is taken off a text are the marks around its core. -/
theorem padded_trimmed (marks : List Char) (text : Text) :
    Padded marks (trimmed marks text) text := by
  have marked {letter : Char} {part : Text} (member : letter ∈ part.takeWhile marks.contains) :
      letter ∈ marks := List.contains_iff_mem.mp (List.mem_takeWhile_imp member)
  let rest := text.dropWhile marks.contains
  refine ⟨bareEnds_trimmed marks text, text.takeWhile marks.contains,
    (rest.reverse.takeWhile marks.contains).reverse, ?_, fun _ => marked,
    fun _ member => marked (List.mem_reverse.mp member)⟩
  rw [trimmed, List.append_assoc, ← List.reverse_append, List.takeWhile_append_dropWhile,
    List.reverse_reverse, List.takeWhile_append_dropWhile]

theorem trimmed_of_padded {marks : List Char} {core text : Text}
    (padded : Padded marks core text) : trimmed marks text = core := by
  obtain ⟨bare, front, back, rfl, frontMarks, backMarks⟩ := padded
  by_cases present : core = []
  · rw [present, trimmed_eq_nil_iff, List.append_nil, List.forall_mem_append]
    exact ⟨frontMarks, backMarks⟩
  have head : (core ++ back).dropWhile marks.contains = core ++ back := by
    apply dropWhile_contains_of_head?
    intro mark member first
    obtain ⟨letter, rest, rfl⟩ := List.exists_cons_of_ne_nil present
    exact (bare mark member).1 first
  have last : core.reverse.dropWhile marks.contains = core.reverse := by
    apply dropWhile_contains_of_head?
    intro mark member first
    rw [List.head?_reverse] at first
    exact (bare mark member).2 first
  unfold trimmed
  rw [List.append_assoc, List.dropWhile_append_of_pos (by simpa using frontMarks), head,
    List.reverse_append, List.dropWhile_append_of_pos (by simpa using backMarks), last,
    List.reverse_reverse]

/-- A text is trimmed to the one core that it is a padding of. -/
theorem trimmed_eq_iff {marks : List Char} {core text : Text} :
    trimmed marks text = core ↔ Padded marks core text :=
  ⟨fun same => same ▸ padded_trimmed marks text, trimmed_of_padded⟩

end UriEndpoint.Text
