import UriEndpoint.Template.Basic

/-! # The first repeated name

The uniqueness check keeps the names met so far and stops at the first that it has met before. It
passes exactly when all names are different (`firstRepeat_eq_none_iff`), and the name that it stops
at ends the shortest beginning of the list in which some name occurs twice
(`firstRepeat_eq_some_iff`). By position it stands at the least place whose name stands at a place
before it (`firstRepeats_iff_exists`).
-/

namespace UriEndpoint

/-- A name is the first in a list that repeats a name before it. -/
def FirstRepeats (names : List Text) (name : Text) : Prop :=
  ∃ before after, names = before ++ name :: after ∧ before.Nodup ∧ name ∈ before

theorem forall_not_mem_cons_iff {met : Text} {seen names : List Text} :
    (∀ name ∈ names, name ∉ met :: seen) ↔ met ∉ names ∧ ∀ name ∈ names, name ∉ seen := by
  simp only [List.mem_cons, not_or]
  constructor
  · intro fresh
    exact ⟨fun member => (fresh met member).1 rfl, fun name member => (fresh name member).2⟩
  · rintro ⟨absent, fresh⟩ name member
    exact ⟨fun same => absent (same ▸ member), fresh name member⟩

/-- The check after some names have been met: the names met are the invariant of the scan. -/
theorem firstRepeatAfter_eq_none_iff {seen names : List Text} :
    firstRepeatAfter seen names = none ↔ names.Nodup ∧ ∀ name ∈ names, name ∉ seen := by
  induction names generalizing seen with
  | nil => simp [firstRepeatAfter]
  | cons name rest ih =>
      by_cases met : name ∈ seen
      · simp [firstRepeatAfter, met]
      · rw [firstRepeatAfter, if_neg met, ih, forall_not_mem_cons_iff, List.nodup_cons,
          List.forall_mem_cons]
        constructor
        · rintro ⟨distinct, absent, fresh⟩
          exact ⟨⟨absent, distinct⟩, met, fresh⟩
        · rintro ⟨⟨absent, distinct⟩, _, fresh⟩
          exact ⟨distinct, absent, fresh⟩

/-- The first repeated name has none before it that repeats one. -/
theorem firstRepeatAfter_eq_some_iff {seen names : List Text} {name : Text} :
    firstRepeatAfter seen names = some name ↔
      ∃ before after, names = before ++ name :: after ∧ before.Nodup ∧
        (∀ earlier ∈ before, earlier ∉ seen) ∧ (name ∈ seen ∨ name ∈ before) := by
  induction names generalizing seen with
  | nil => simp [firstRepeatAfter]
  | cons head rest ih =>
      by_cases met : head ∈ seen
      · rw [firstRepeatAfter, if_pos met, Option.some.injEq]
        constructor
        · rintro rfl
          exact ⟨[], rest, rfl, List.nodup_nil, by simp, .inl met⟩
        · rintro ⟨_ | ⟨earlier, before⟩, after, shape, distinct, fresh, repeated⟩
          · exact (List.cons.inj shape).1
          · obtain ⟨rfl, rfl⟩ := List.cons.inj shape
            exact absurd met (fresh head (List.mem_cons_self ..))
      · rw [firstRepeatAfter, if_neg met, ih]
        constructor
        · rintro ⟨before, after, rfl, distinct, fresh, repeated⟩
          obtain ⟨absent, fresh⟩ := forall_not_mem_cons_iff.mp fresh
          refine ⟨head :: before, after, rfl, List.nodup_cons.mpr ⟨absent, distinct⟩,
            List.forall_mem_cons.mpr ⟨met, fresh⟩, ?_⟩
          rcases repeated with early | member
          · rcases List.mem_cons.mp early with rfl | early
            · exact .inr (List.mem_cons_self ..)
            · exact .inl early
          · exact .inr (List.mem_cons_of_mem _ member)
        · rintro ⟨_ | ⟨earlier, before⟩, after, shape, distinct, fresh, repeated⟩
          · obtain ⟨rfl, rfl⟩ := List.cons.inj shape
            exact absurd repeated (by simp [met])
          · obtain ⟨rfl, rfl⟩ := List.cons.inj shape
            obtain ⟨absent, distinct⟩ := List.nodup_cons.mp distinct
            have fresh := (List.forall_mem_cons.mp fresh).2
            refine ⟨before, after, rfl, distinct,
              forall_not_mem_cons_iff.mpr ⟨absent, fresh⟩, ?_⟩
            rcases repeated with early | member
            · exact .inl (List.mem_cons_of_mem _ early)
            · rcases List.mem_cons.mp member with rfl | member
              · exact .inl (List.mem_cons_self ..)
              · exact .inr member

theorem firstRepeat_eq_none_iff {names : List Text} : firstRepeat names = none ↔ names.Nodup := by
  rw [firstRepeat, firstRepeatAfter_eq_none_iff]
  simp

/-- The name that the check stops at is the first to repeat a name before it. -/
theorem firstRepeat_eq_some_iff {names : List Text} {name : Text} :
    firstRepeat names = some name ↔ FirstRepeats names name := by
  rw [firstRepeat, firstRepeatAfter_eq_some_iff, FirstRepeats]
  simp

/-- The check passes exactly if all variable names are distinct. -/
theorem checkUniqueness_eq_ok_iff {segments : List Segment} {params : List Param} {done : Unit} :
    checkUniqueness segments params = .ok done ↔ (variableNames segments params).Nodup := by
  rw [← firstRepeat_eq_none_iff, checkUniqueness]
  cases firstRepeat (variableNames segments params) <;> simp

/-- The check fails with the first name that repeats one. -/
theorem checkUniqueness_eq_error_iff {segments : List Segment} {params : List Param}
    {fault : TemplateFault} :
    checkUniqueness segments params = .error fault ↔
      ∃ name, FirstRepeats (variableNames segments params) name ∧
        fault = .repeatedVariable name := by
  simp only [← firstRepeat_eq_some_iff, checkUniqueness]
  cases firstRepeat (variableNames segments params) with
  | none => simp
  | some name => simp [eq_comm]

/-! ## Positions -/

/-- A position is the least at which a list has a name that it has at a position before. -/
structure RepeatsFirstAt (names : List Text) (position : Nat) (name : Text) : Prop where
  found : names[position]? = some name
  met : name ∈ names.take position
  least : ∀ earlier < position, ∀ other ∈ names[earlier]?, other ∉ names.take earlier

/-- Names are distinct exactly if none stands before itself. -/
theorem nodup_iff_not_mem_take {names : List Text} :
    names.Nodup ↔ ∀ position, ∀ name ∈ names[position]?, name ∉ names.take position := by
  rw [List.Nodup, List.pairwise_iff_getElem]
  constructor
  · intro distinct position name found repeated
    obtain ⟨bound, here⟩ := List.getElem?_eq_some_iff.mp found
    obtain ⟨earlier, within, there⟩ := List.mem_take_iff_getElem.mp repeated
    have before : earlier < position := by omega
    exact distinct earlier position (by omega) bound before (there.trans here.symm)
  · intro fresh earlier position _ bound before same
    refine fresh position names[position] (List.getElem?_eq_getElem bound) ?_
    exact List.mem_take_iff_getElem.mpr ⟨earlier, by omega, same⟩

/-- A name repeats first exactly if it does at some position. -/
theorem firstRepeats_iff_exists {names : List Text} {name : Text} :
    FirstRepeats names name ↔ ∃ position, RepeatsFirstAt names position name := by
  constructor
  · rintro ⟨before, after, rfl, distinct, repeated⟩
    refine ⟨before.length, by simp, by simpa using repeated, ?_⟩
    intro earlier bound other found
    rw [List.getElem?_append_left bound] at found
    rw [List.take_append_of_le_length (Nat.le_of_lt bound)]
    exact nodup_iff_not_mem_take.mp distinct earlier other found
  · rintro ⟨position, found, met, least⟩
    obtain ⟨bound, here⟩ := List.getElem?_eq_some_iff.mp found
    have whole : names = names.take position ++ name :: names.drop (position + 1) := by
      rw [← here, ← List.drop_eq_getElem_cons, List.take_append_drop]
    refine ⟨_, _, whole, nodup_iff_not_mem_take.mpr ?_, met⟩
    intro earlier other earlierFound
    have before : earlier < position := by
      have inside := (List.getElem?_eq_some_iff.mp earlierFound).1
      rw [List.length_take] at inside
      omega
    rw [List.getElem?_take_of_lt before] at earlierFound
    rw [List.take_take, Nat.min_eq_left (Nat.le_of_lt before)]
    exact least earlier before other earlierFound

/-- **The uniqueness check stops at the first repetition.** It passes exactly if all names are
distinct, those of the placeholders followed by those of the params. It refuses exactly if there is
a least position whose name has been met before, and with that name. Neither the literals nor the
wire names count. -/
theorem checkUniqueness_stops_at_first_repetition (segments : List Segment)
    (params : List Param) :
    (checkUniqueness segments params = .ok () ↔ (variableNames segments params).Nodup) ∧
    (∀ fault, checkUniqueness segments params = .error fault ↔
      ∃ position name, RepeatsFirstAt (variableNames segments params) position name ∧
        fault = .repeatedVariable name) ∧
    ∀ otherSegments otherParams,
      otherSegments.filterMap Segment.variableName? =
        segments.filterMap Segment.variableName? →
      otherParams.map Param.varName = params.map Param.varName →
      checkUniqueness otherSegments otherParams = checkUniqueness segments params := by
  refine ⟨checkUniqueness_eq_ok_iff, ?_, ?_⟩
  · intro fault
    rw [checkUniqueness_eq_error_iff, exists_comm]
    simp only [firstRepeats_iff_exists, exists_and_right]
  · intro otherSegments otherParams path query
    have names : variableNames otherSegments otherParams = variableNames segments params := by
      rw [variableNames, variableNames, path, query]
    rw [checkUniqueness, checkUniqueness, names]

/-- Two names repeat, one inside the other, across path and query; the one whose second occurrence
comes first is reported, whatever the literals and the wire names are. -/
theorem checkUniqueness_stops_at_first_repetition_of_nested :
    RepeatsFirstAt [['b'], ['a'], ['c'], ['a'], ['b']] 3 ['a'] ∧
      checkUniqueness [.placeholder ['b'], .literal ['a'], .placeholder ['a']]
        [⟨['w'], ['c']⟩, ⟨['w'], ['a']⟩, ⟨['v'], ['b']⟩] = .error (.repeatedVariable ['a']) ∧
      checkUniqueness [.placeholder ['b'], .placeholder ['a'], .literal ['z']]
        [⟨['x'], ['c']⟩, ⟨['y'], ['a']⟩, ⟨['c'], ['b']⟩] = .error (.repeatedVariable ['a']) := by
  have first : RepeatsFirstAt [['b'], ['a'], ['c'], ['a'], ['b']] 3 ['a'] :=
    ⟨by decide, by decide, by decide⟩
  obtain ⟨_, refuses, ignores⟩ := checkUniqueness_stops_at_first_repetition
    [.placeholder ['b'], .literal ['a'], .placeholder ['a']]
    [⟨['w'], ['c']⟩, ⟨['w'], ['a']⟩, ⟨['v'], ['b']⟩]
  have refused := (refuses (.repeatedVariable ['a'])).mpr ⟨3, ['a'], first, rfl⟩
  exact ⟨first, refused, (ignores _ _ (by decide) (by decide)).trans refused⟩

end UriEndpoint
