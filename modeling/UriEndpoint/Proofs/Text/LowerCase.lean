import UriEndpoint.Text.Lowercase

/-! # Lower case once and for all

What has been made lower case stays as it is when it is made lower case again, since no capital
becomes another capital (`lowered_of_mem_lowered`).
-/

namespace UriEndpoint.Text

namespace CapitalRun

/-- The code point that a run makes of one that it holds. -/
def lower (run : CapitalRun) (point : Nat) : Nat := (point + run.offset).toNat

/-- No code point that a run makes is held by another run. If those that it makes lie among those
that the other holds, they are the even ones and the others the odd ones, or the other way round. -/
def isApartFrom (run other : CapitalRun) : Bool :=
  !Nat.ble other.first (run.lower run.last) || !Nat.ble (run.lower run.first) other.last ||
    (run.stride % 2 == 0 || run.first == run.last) && other.stride % 2 == 0 &&
      (run.lower run.first + other.first) % 2 == 1

theorem holds_lower_of_isApartFrom {run other : CapitalRun} (apart : run.isApartFrom other = true)
    {point : Nat} (holds : run.holds point = true) (positive : 0 ≤ run.first + run.offset) :
    other.holds (run.lower point) = false := by
  have parity {stride gap : Nat} (even : stride % 2 = 0) (strided : gap % stride = 0) :
      gap % 2 = 0 :=
    Nat.mod_eq_zero_of_dvd
      (Nat.dvd_trans (Nat.dvd_of_mod_eq_zero even) (Nat.dvd_of_mod_eq_zero strided))
  rw [Bool.eq_false_iff]
  intro again
  simp only [CapitalRun.holds, Bool.and_eq_true, decide_eq_true_eq, beq_iff_eq] at holds again
  obtain ⟨⟨fromFirst, upToLast⟩, strided⟩ := holds
  obtain ⟨⟨otherFirst, otherLast⟩, otherStrided⟩ := again
  simp only [isApartFrom, Bool.or_eq_true, Bool.not_eq_true', Bool.and_eq_true, beq_iff_eq,
    ← Bool.not_eq_true (Nat.ble _ _), Nat.ble_eq, Nat.not_le, lower] at apart
  rw [lower] at otherFirst otherLast otherStrided
  rcases apart with (above | below) | ⟨⟨even, otherEven⟩, odd⟩
  · omega
  · omega
  · have otherParity := parity otherEven otherStrided
    rcases even with even | single
    · have ownParity := parity even strided
      omega
    · omega

theorem isApartFrom_capitalRuns :
    (capitalRuns.all fun run => capitalRuns.all run.isApartFrom) = true := by
  decide +kernel

/-- The one capital of two characters is not made by a run either. -/
theorem isApartFrom_dotted : (capitalRuns.all fun run =>
    run.isApartFrom ⟨0x130, 0x130, 1, 0⟩ && decide (0 ≤ run.first + run.offset)) = true := by
  decide +kernel

end CapitalRun

theorem lowered_of_not_capital {letter : Char} (plain : letter.toNat ≠ 0x130)
    (small : ∀ run ∈ capitalRuns, run.holds letter.toNat = false) : lowered letter = [letter] := by
  have missing : capitalRuns.find? (·.holds letter.toNat) = none :=
    List.find?_eq_none.mpr fun run member => by simp [small run member]
  rw [lowered, if_neg plain, missing]

/-- What a run makes of a capital is no capital. -/
theorem lowered_lower {run : CapitalRun} (member : run ∈ capitalRuns) {point : Nat}
    (holds : run.holds point = true) :
    lowered (Char.ofNat (run.lower point)) = [Char.ofNat (run.lower point)] := by
  by_cases valid : (run.lower point).isValidChar
  · have apart := List.all_eq_true.mp
      (List.all_eq_true.mp CapitalRun.isApartFrom_capitalRuns run member)
    obtain ⟨dotted, positive⟩ := Bool.and_eq_true_iff.mp
      (List.all_eq_true.mp CapitalRun.isApartFrom_dotted run member)
    have positive := of_decide_eq_true positive
    have made : (Char.ofNat (run.lower point)).toNat = run.lower point := by
      rw [Char.ofNat, dif_pos valid]
      rfl
    apply lowered_of_not_capital <;> rw [made]
    · intro same
      have other := CapitalRun.holds_lower_of_isApartFrom dotted holds positive
      rw [same] at other
      revert other
      decide
    · intro other among
      exact CapitalRun.holds_lower_of_isApartFrom (apart other among) holds positive
  · rw [Char.ofNat, dif_neg valid]
    decide +kernel

theorem lowered_of_mem_lowered {letter other : Char} (member : other ∈ lowered letter) :
    lowered other = [other] := by
  rw [lowered] at member
  split at member
  · rcases List.mem_cons.mp member with rfl | last
    · decide +kernel
    · rw [List.mem_singleton.mp last]
      decide +kernel
  · split at member
    · rename_i run found
      rw [List.mem_singleton.mp member]
      have holds : run.holds letter.toNat = true := by simpa using List.find?_some found
      exact lowered_lower (List.mem_of_find?_eq_some found) holds
    · rename_i plain _ missing
      obtain rfl := List.mem_singleton.mp member
      rw [lowered, if_neg plain, missing]

/-- A text is lower case: none of its letters changes. -/
def IsLowercase (text : Text) : Prop := ∀ letter ∈ text, lowered letter = [letter]

instance (text : Text) : Decidable text.IsLowercase :=
  List.decidableBAll (fun letter => lowered letter = [letter]) text

theorem isLowercase_lowercase (text : Text) : text.lowercase.IsLowercase := by
  intro letter member
  obtain ⟨_, _, among⟩ := List.mem_flatMap.mp member
  exact lowered_of_mem_lowered among

theorem IsLowercase.lowercase_eq {text : Text} (lower : text.IsLowercase) :
    text.lowercase = text := by
  induction text with
  | nil => rfl
  | cons letter rest ih =>
      obtain ⟨first, others⟩ := List.forall_mem_cons.mp lower
      rw [lowercase, List.flatMap_cons, first, List.singleton_append]
      exact congrArg _ (ih others)

end UriEndpoint.Text
