import UriEndpoint.Text.Quoted

/-!
# Texts with half a surrogate pair

Half a surrogate pair is a code point that is no character. A text that holds one is kept spelled:
each half as the escape of its code unit and each backslash as two, all other characters as they
are. So a backslash without another one begins a half, and what is spelled without halves is a text
(`unspelled_flatMap_spelledLetter`).
-/

namespace UriEndpoint.Text

/-- A code unit as an escape of four hexadecimal digits. -/
def escapedUnit (unit : Nat) : Text := '\\' :: 'u' :: hexDigits 4 unit

/-- One character spelled. -/
def spelledLetter (letter : Char) : Text := if letter = '\\' then ['\\', '\\'] else [letter]

/-- Whether a half is spelled. -/
def holdsHalf : Text → Bool
  | [] => false
  | '\\' :: '\\' :: rest => holdsHalf rest
  | letter :: rest => letter == '\\' || holdsHalf rest

/-- The text that is spelled without halves. -/
def unspelled : Text → Text
  | [] => []
  | '\\' :: '\\' :: rest => '\\' :: unspelled rest
  | letter :: rest => letter :: unspelled rest

/-- One character of a spelled text where texts are escaped: a backslash is an escape already. -/
def spelledEscape (escaped : Char → Text) (letter : Char) : Text :=
  if letter = '\\' then [letter] else escaped letter

/-- The spelled text in quotes. -/
def quotedSpelled (text : Text) : Text :=
  enclosingMark text :: text.flatMap (spelledEscape (quotedLetter (enclosingMark text))) ++
    [enclosingMark text]

theorem unspelled_cons {letter : Char} (plain : letter ≠ '\\') (rest : Text) :
    unspelled (letter :: rest) = letter :: unspelled rest := by
  rw [unspelled.eq_3]
  rintro _ rfl
  exact absurd rfl plain

theorem holdsHalf_cons {letter : Char} (plain : letter ≠ '\\') (rest : Text) :
    holdsHalf (letter :: rest) = holdsHalf rest := by
  rw [holdsHalf.eq_3, beq_false_of_ne plain, Bool.false_or]
  rintro _ rfl
  exact absurd rfl plain

/-- What is spelled of a text is that text. -/
theorem unspelled_flatMap_spelledLetter (text : Text) :
    unspelled (text.flatMap spelledLetter) = text := by
  induction text with
  | nil => rfl
  | cons letter rest ih =>
      rw [List.flatMap_cons, spelledLetter]
      split
      · rename_i same
        subst same
        exact congrArg _ ih
      · rename_i plain
        rw [List.singleton_append, unspelled_cons plain, ih]

/-- The characters before a half have no part in whether one is spelled. -/
theorem holdsHalf_flatMap_append (text rest : Text) :
    holdsHalf (text.flatMap spelledLetter ++ rest) = holdsHalf rest := by
  induction text with
  | nil => rfl
  | cons letter text ih =>
      rw [List.flatMap_cons, List.append_assoc, spelledLetter]
      split
      · exact ih
      · rename_i plain
        rw [List.singleton_append, holdsHalf_cons plain, ih]

theorem holdsHalf_escapedUnit (unit : Nat) (rest : Text) :
    holdsHalf (escapedUnit unit ++ rest) = true := rfl

/-- Away from backslashes a spelled text is read piece by piece. -/
theorem unspelled_append_mark {mark : Char} (plain : mark ≠ '\\') (front rest : Text) :
    unspelled (front ++ mark :: rest) = unspelled front ++ mark :: unspelled rest := by
  fun_induction unspelled front with
  | case1 => exact unspelled_cons plain rest
  | case2 front ih => exact congrArg _ ih
  | case3 letter front single ih =>
      rw [List.cons_append, List.cons_append, ← ih]
      apply unspelled.eq_3
      rintro after rfl same
      cases front with
      | nil => exact plain (List.cons.inj same).1
      | cons other others =>
          obtain ⟨rfl, _⟩ := List.cons.inj same
          exact single others rfl rfl

theorem unspelled_opened {mark : Char} (plain : mark ≠ '\\') (front : Text)
    (tail : Option Text) :
    unspelled (front ++ opened mark tail) =
      unspelled front ++ opened mark (tail.map unspelled) := by
  cases tail with
  | none => simp [opened]
  | some rest => exact unspelled_append_mark plain front rest

theorem unspelled_joined {mark : Char} (plain : mark ≠ '\\') (parts : List Text) :
    unspelled (joined mark parts) = joined mark (parts.map unspelled) := by
  induction parts with
  | nil => rfl
  | cons part others ih =>
      cases others with
      | nil => rfl
      | cons next others => rw [joined, unspelled_append_mark plain, ih]; rfl

theorem mem_unspelled {letter : Char} {text : Text} : letter ∈ unspelled text ↔ letter ∈ text := by
  fun_induction unspelled text with
  | case1 => rfl
  | case2 rest ih => simp [ih]
  | case3 other rest single ih => simp [ih]

theorem unspelled_of_not_mem {text : Text} (plain : '\\' ∉ text) : unspelled text = text := by
  induction text with
  | nil => rfl
  | cons letter rest ih =>
      rw [List.mem_cons, not_or] at plain
      rw [unspelled_cons (Ne.symm plain.1), ih plain.2]

end UriEndpoint.Text
