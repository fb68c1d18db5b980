import UriEndpoint.Proofs.Template.QueryGrammar

/-! # What is left of a query

Reading stops where fewer than three characters remain. The clauses that stand there are too short to
be well spelled, so a query that is read gives all params that its clauses give
(`Param.filterMap_ofClause?_of_read`), and one that is refused has a misspelled clause from whose
beginning on enough text remains (`Param.readQuery_eq_error_iff_refused`).
-/

namespace UriEndpoint

namespace Param

/-- The param of a clause, if the clause is well spelled. -/
def ofClause? (clause : Text) : Option Param := (ofClause clause).toOption

/-- A misspelled clause of a query, after the clauses in `before`, from whose beginning on enough
text remains for a clause. -/
structure RefusedAt (query : Text) (before : List Text) (clause : Text) (fault : TemplateFault) :
    Prop where
  remains : ∃ after, query.pieces '&' = before ++ clause :: after ∧
    3 ≤ (Text.joined '&' (clause :: after)).length
  refused : ofClause clause = .error fault

/-- No other such clause stands before this one. -/
structure FirstRefusedAt (query : Text) (before : List Text) (clause : Text)
    (fault : TemplateFault) : Prop extends RefusedAt query before clause fault where
  first : ∀ front other blamed, RefusedAt query front other blamed →
    before.length ≤ front.length

theorem ofClause?_eq_none_of_short {clause : Text} (short : clause.length < 3) :
    ofClause? clause = none := by
  unfold ofClause?
  cases read : ofClause clause with
  | error fault => rfl
  | ok param =>
      have long := (ofClause_eq_ok_iff.mp read).length_le
      omega

theorem ofClause?_eq_none_of_not_mem {clause : Text} (plain : '=' ∉ clause) :
    ofClause? clause = none := by
  rw [ofClause?, ofClause_of_not_mem plain]
  rfl

/-- If each clause is read, the params are those that the clauses give. -/
theorem filterMap_ofClause?_of_forall₂ {parts : List Text} {params : List Param}
    (each : List.Forall₂ (fun clause param => ofClause clause = .ok param) parts params) :
    parts.filterMap ofClause? = params := by
  induction each with
  | nil => rfl
  | cons first others ih =>
      have given : ofClause? _ = some _ := congrArg Except.toOption first
      rw [List.filterMap_cons_some given, ih]

/-- The clauses that are not attempted are the last ones, and short together. -/
theorem exists_eq_attempted_append (parts : List Text) :
    ∃ dropped, parts = attempted parts ++ dropped ∧ (Text.joined '&' dropped).length < 3 := by
  induction parts with
  | nil => exact ⟨[], rfl, by decide⟩
  | cons part others ih =>
      by_cases short : (Text.joined '&' (part :: others)).length < 3
      · rw [attempted_of_short short]
        exact ⟨part :: others, rfl, short⟩
      · obtain ⟨dropped, division, rest⟩ := ih
        refine ⟨dropped, ?_, rest⟩
        rw [attempted_cons_of_long (Nat.not_lt.mp short), List.cons_append, ← division]

/-- The first clause attempted is the first one from which on enough text is left. -/
theorem exists_of_attempted_eq_cons {parts more : List Text} {clause : Text}
    (attempts : attempted parts = clause :: more) :
    ∃ others, parts = clause :: others ∧ 3 ≤ (Text.joined '&' (clause :: others)).length ∧
      attempted others = more := by
  cases parts with
  | nil => cases attempts
  | cons part others =>
      by_cases short : (Text.joined '&' (part :: others)).length < 3
      · rw [attempted_of_short short] at attempts
        cases attempts
      · rw [attempted_cons_of_long (Nat.not_lt.mp short)] at attempts
        cases attempts
        exact ⟨others, rfl, Nat.not_lt.mp short, rfl⟩

/-- A clause is attempted exactly where enough text remains. -/
theorem exists_attempted_eq_append_iff {parts before : List Text} {clause : Text} :
    (∃ more, attempted parts = before ++ clause :: more) ↔
      ∃ after, parts = before ++ clause :: after ∧
        3 ≤ (Text.joined '&' (clause :: after)).length := by
  constructor
  · rintro ⟨more, attempts⟩
    induction before generalizing parts with
    | nil =>
        obtain ⟨others, rfl, remains, _⟩ := exists_of_attempted_eq_cons attempts
        exact ⟨others, rfl, remains⟩
    | cons earlier before ih =>
        obtain ⟨others, rfl, _, rest⟩ := exists_of_attempted_eq_cons attempts
        obtain ⟨after, rfl, remains⟩ := ih rest
        exact ⟨after, rfl, remains⟩
  · rintro ⟨after, rfl, remains⟩
    induction before with
    | nil => exact ⟨attempted after, attempted_cons_of_long remains⟩
    | cons earlier before ih =>
        obtain ⟨more, attempts⟩ := ih
        have longer := (Text.joined_suffix_append '&' (earlier :: before)
          (clause :: after)).length_le
        refine ⟨more, ?_⟩
        rw [List.cons_append] at longer ⊢
        rw [attempted_cons_of_long (Nat.le_trans remains longer), attempts]
        rfl

theorem filterMap_ofClause?_of_isBlank {query : Text} (blank : query.isBlank = true) :
    (query.pieces '&').filterMap ofClause? = [] := by
  rw [List.filterMap_eq_nil_iff]
  intro piece member
  apply ofClause?_eq_none_of_not_mem
  intro equals
  have inside : '=' ∈ Text.joined '&' (query.pieces '&') := Text.mem_joined member equals
  rw [Text.joined_pieces] at inside
  rw [Text.isBlank_eq_false_of_mem inside (by decide)] at blank
  cases blank

/-- A query that is not blank consists of the clauses that are read and an end too short for one. -/
theorem exists_dropped_of_read {query : Text} {params : List Param}
    (visible : query.isBlank = false) (accepted : readQuery query = .ok params) :
    ∃ read dropped, query.pieces '&' = read ++ dropped ∧
      List.Forall₂ (fun clause param => ofClause clause = .ok param) read params ∧
      (Text.joined '&' dropped).length < 3 := by
  rw [readQuery_eq_mapM, clauses_of_visible visible, mapM_eq_ok_iff] at accepted
  obtain ⟨dropped, division, short⟩ := exists_eq_attempted_append (query.pieces '&')
  exact ⟨_, dropped, division, accepted, short⟩

/-- A query that is read gives the params of all its well spelled clauses. -/
theorem filterMap_ofClause?_of_read {query : Text} {params : List Param}
    (accepted : readQuery query = .ok params) :
    (query.pieces '&').filterMap ofClause? = params := by
  cases blank : query.isBlank with
  | true =>
      rw [readQuery, if_pos blank] at accepted
      cases accepted
      exact filterMap_ofClause?_of_isBlank blank
  | false =>
      obtain ⟨read, dropped, division, each, short⟩ := exists_dropped_of_read blank accepted
      have rest : dropped.filterMap ofClause? = [] := by
        rw [List.filterMap_eq_nil_iff]
        intro piece member
        exact ofClause?_eq_none_of_short (Nat.lt_of_le_of_lt (Text.length_le_joined member) short)
      rw [division, List.filterMap_append, filterMap_ofClause?_of_forall₂ each, rest,
        List.append_nil]

/-- A refused clause is attempted after those before it. -/
theorem RefusedAt.exists_clauses_eq {query clause : Text} {before : List Text}
    {fault : TemplateFault} (refusal : RefusedAt query before clause fault)
    (visible : query.isBlank = false) : ∃ more, clauses query = before ++ clause :: more := by
  rw [clauses_of_visible visible]
  exact exists_attempted_eq_append_iff.mpr refusal.remains

/-- A refused clause is the first one exactly when all clauses before it are read. -/
theorem firstRefusedAt_iff {query clause : Text} {before : List Text} {fault : TemplateFault} :
    FirstRefusedAt query before clause fault ↔ RefusedAt query before clause fault ∧
      ∀ earlier ∈ before, ∃ param, ofClause earlier = .ok param := by
  constructor
  · rintro ⟨refusal, first⟩
    refine ⟨refusal, ?_⟩
    intro earlier member
    obtain ⟨front, back, rfl⟩ := List.append_of_mem member
    obtain ⟨after, division, remains⟩ := refusal.remains
    cases read : ofClause earlier with
    | ok param => exact ⟨param, rfl⟩
    | error blamed =>
        -- More text remains from an earlier clause on, so it would be refused there.
        have longer := (Text.joined_suffix_append '&' (earlier :: back)
          (clause :: after)).length_le
        have sooner := first front earlier blamed
          ⟨⟨back ++ clause :: after, by simp [division], Nat.le_trans remains longer⟩, read⟩
        rw [List.length_append, List.length_cons] at sooner
        omega
  · rintro ⟨refusal, each⟩
    refine ⟨refusal, ?_⟩
    intro front other blamed also
    obtain ⟨after, division, _⟩ := refusal.remains
    obtain ⟨rest, otherDivision, _⟩ := also.remains
    rw [division] at otherDivision
    rcases List.append_eq_append_iff.mp otherDivision with ⟨more, rfl, _⟩ | ⟨more, rfl, shape⟩
    · simp
    · cases more with
      | nil => simp
      | cons next more =>
          cases shape
          obtain ⟨param, read⟩ := each other (by simp)
          cases also.refused.symm.trans read

/-- A query is refused for its first refused clause, unless it is blank. -/
theorem readQuery_eq_error_iff_refused {query : Text} {fault : TemplateFault} :
    readQuery query = .error fault ↔
      query.isBlank = false ∧ ∃ before clause, FirstRefusedAt query before clause fault := by
  rw [readQuery_eq_mapM, mapM_eq_error_iff]
  constructor
  · rintro ⟨before, clause, more, attempts, each, failed⟩
    cases blank : query.isBlank with
    | true =>
        rw [clauses, if_pos blank] at attempts
        cases before <;> cases attempts
    | false =>
        rw [clauses_of_visible blank] at attempts
        have remains := exists_attempted_eq_append_iff.mp ⟨more, attempts⟩
        exact ⟨rfl, before, clause, firstRefusedAt_iff.mpr ⟨⟨remains, failed⟩, each⟩⟩
  · rintro ⟨visible, before, clause, firstRefusal⟩
    obtain ⟨refusal, each⟩ := firstRefusedAt_iff.mp firstRefusal
    obtain ⟨more, attempts⟩ := refusal.exists_clauses_eq visible
    exact ⟨before, clause, more, attempts, each, refusal.refused⟩

/-- A query with a refused clause is refused. -/
theorem exists_error_of_refused {query clause : Text} {before : List Text} {fault : TemplateFault}
    (visible : query.isBlank = false) (refusal : RefusedAt query before clause fault) :
    ∃ blamed, readQuery query = .error blamed := by
  obtain ⟨more, attempts⟩ := refusal.exists_clauses_eq visible
  cases outcome : readQuery query with
  | error blamed => exact ⟨blamed, rfl⟩
  | ok params =>
      rw [readQuery_eq_mapM, mapM_eq_ok_iff] at outcome
      have each := exists_forall₂_iff.mp ⟨params, outcome⟩
      obtain ⟨param, read⟩ := each clause (by simp [attempts])
      cases refusal.refused.symm.trans read

/-- **The short end of a query drops no params.** What a query is read into are the params of all
its well spelled clauses, in order; of a query that is not blank, at most two characters at the end
are not read. A query is refused exactly when it is not blank and a misspelled clause stands where
at least three characters remain, and the fault is that of the first such clause. -/
theorem readQuery_drops_no_clause (query : Text) :
    (∀ params, readQuery query = .ok params →
      params = (query.pieces '&').filterMap ofClause? ∧
      (query.isBlank = false → ∃ read dropped, query.pieces '&' = read ++ dropped ∧
        List.Forall₂ (fun clause param => ofClause clause = .ok param) read params ∧
        Text.joined '&' dropped <:+ query ∧ (Text.joined '&' dropped).length ≤ 2)) ∧
    ((∃ fault, readQuery query = .error fault) ↔
      query.isBlank = false ∧ ∃ before clause fault, RefusedAt query before clause fault) ∧
    ∀ fault, readQuery query = .error fault →
      ∃ before clause, FirstRefusedAt query before clause fault := by
  refine ⟨?_, ⟨?_, ?_⟩, ?_⟩
  · intro params accepted
    refine ⟨(filterMap_ofClause?_of_read accepted).symm, ?_⟩
    intro visible
    obtain ⟨read, dropped, division, each, short⟩ := exists_dropped_of_read visible accepted
    have ends := Text.joined_suffix_append '&' read dropped
    rw [← division, Text.joined_pieces] at ends
    exact ⟨read, dropped, division, each, ends, Nat.le_of_lt_succ short⟩
  · rintro ⟨fault, failed⟩
    obtain ⟨visible, before, clause, refusal, _⟩ := readQuery_eq_error_iff_refused.mp failed
    exact ⟨visible, before, clause, fault, refusal⟩
  · rintro ⟨visible, before, clause, fault, refusal⟩
    exact exists_error_of_refused visible refusal
  · intro fault failed
    exact (readQuery_eq_error_iff_refused.mp failed).2

/-- A query whose last letter is left, and one with an empty and a too short clause in the middle. -/
theorem readQuery_drops_no_clause_of_short_clauses :
    readQuery "a=b&c=\x7bd\x7d&e".toList = .ok [⟨['a'], ['b']⟩, ⟨['c'], ['d']⟩] ∧
      (Text.pieces '&' "a=b&c=\x7bd\x7d&e".toList).filterMap ofClause? =
        [⟨['a'], ['b']⟩, ⟨['c'], ['d']⟩] ∧
      readQuery "a=b&&x&c=d".toList = .error (.missingEquals []) ∧
      ∃ before clause, FirstRefusedAt "a=b&&x&c=d".toList before clause (.missingEquals []) := by
  have accepted : readQuery "a=b&c=\x7bd\x7d&e".toList =
      .ok [⟨['a'], ['b']⟩, ⟨['c'], ['d']⟩] := by decide +kernel
  have failed : readQuery "a=b&&x&c=d".toList = .error (.missingEquals []) := by decide +kernel
  obtain ⟨given, _⟩ := (readQuery_drops_no_clause _).1 _ accepted
  exact ⟨accepted, given.symm, failed, (readQuery_drops_no_clause _).2.2 _ failed⟩

end Param

end UriEndpoint
