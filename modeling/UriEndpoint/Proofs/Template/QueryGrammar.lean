import Mathlib.Data.List.Infix
import UriEndpoint.Proofs.Sequencing
import UriEndpoint.Proofs.Text.Trimming
import UriEndpoint.Template.Param

/-! # The grammar of queries

The pieces of a query between ampersands are its clauses. A clause is attempted when at least three
characters remain from its beginning to the end of the query, and reading a query is reading each
attempted clause in order (`Param.readQuery_eq_mapM`). So a query is read exactly when every
attempted clause is well spelled, and the first one that is not decides the fault.
-/

namespace UriEndpoint

namespace Param

/-- A clause is well spelled: two names stand around its first equals sign, each with any braces and
spaces around it but none at its ends, and neither is empty. -/
def Spells (clause : Text) (param : Param) : Prop :=
  ∃ left right : Text, clause = left ++ '=' :: right ∧ '=' ∉ left ∧
    Text.Padded ['\x7b', '\x7d', ' '] param.wireName left ∧
    Text.Padded ['\x7b', '\x7d', ' '] param.varName right ∧
    param.wireName ≠ [] ∧ param.varName ≠ []

/-- A well spelled clause has an equals sign and two names. -/
theorem Spells.length_le {clause : Text} {param : Param} (spells : Spells clause param) :
    3 ≤ clause.length := by
  obtain ⟨left, right, rfl, _, wire, name, wirePresent, namePresent⟩ := spells
  have leftLength := Nat.le_trans (List.length_pos_iff.mpr wirePresent) wire.length_le
  have rightLength := Nat.le_trans (List.length_pos_iff.mpr namePresent) name.length_le
  rw [List.length_append, List.length_cons]
  omega

theorem Spells.isBlank_eq_false {clause : Text} {param : Param} (spells : Spells clause param) :
    clause.isBlank = false := by
  obtain ⟨left, right, rfl, _⟩ := spells
  have equals : '=' ∈ left ++ '=' :: right := by simp
  exact Text.isBlank_eq_false_of_mem equals (by decide)

/-- The rule that a clause breaks. -/
inductive ClauseBreaks : Text → TemplateFault → Prop
  /-- There is no equals sign. -/
  | missingEquals {clause : Text} (plain : '=' ∉ clause) :
      ClauseBreaks clause (.missingEquals clause)
  /-- One of the two names around the first equals sign is nothing but braces and spaces. -/
  | missingName {left right : Text} (plain : '=' ∉ left)
      (unnamed : (∀ letter ∈ left, letter ∈ ['\x7b', '\x7d', ' ']) ∨
        ∀ letter ∈ right, letter ∈ ['\x7b', '\x7d', ' ']) :
      ClauseBreaks (left ++ '=' :: right) (.missingName (left ++ '=' :: right))

theorem ofClause_of_not_mem {clause : Text} (plain : '=' ∉ clause) :
    ofClause clause = .error (.missingEquals clause) := by
  have cutting : clause.cut '=' = (clause, none) :=
    Text.cut_eq_iff.mpr ⟨plain, (List.append_nil clause).symm⟩
  rw [ofClause, cutting]

/-- A clause is divided at its first equals sign, and both names are trimmed. -/
theorem ofClause_append {left : Text} (plain : '=' ∉ left) (right : Text) :
    ofClause (left ++ '=' :: right) =
      if left.trimmed ['\x7b', '\x7d', ' '] = [] ∨ right.trimmed ['\x7b', '\x7d', ' '] = [] then
        .error (.missingName (left ++ '=' :: right))
      else .ok ⟨left.trimmed ['\x7b', '\x7d', ' '], right.trimmed ['\x7b', '\x7d', ' ']⟩ := by
  have cutting : (left ++ '=' :: right).cut '=' = (left, some right) :=
    Text.cut_append plain (some right)
  rw [ofClause, cutting]
  rfl

theorem ofClause_of_spells {clause : Text} {param : Param} (spells : Spells clause param) :
    ofClause clause = .ok param := by
  obtain ⟨left, right, rfl, plain, wire, name, wirePresent, namePresent⟩ := spells
  rw [ofClause_append plain, Text.trimmed_of_padded wire, Text.trimmed_of_padded name,
    if_neg (not_or.mpr ⟨wirePresent, namePresent⟩)]

theorem ofClause_of_breaks {clause : Text} {fault : TemplateFault}
    (breaks : ClauseBreaks clause fault) : ofClause clause = .error fault := by
  cases breaks with
  | missingEquals plain => exact ofClause_of_not_mem plain
  | missingName plain unnamed =>
      rw [← Text.trimmed_eq_nil_iff, ← Text.trimmed_eq_nil_iff] at unnamed
      rw [ofClause_append plain, if_pos unnamed]

/-- Every clause spells a param or breaks a rule. -/
theorem spells_or_breaks (clause : Text) :
    (∃ param, Spells clause param) ∨ ∃ fault, ClauseBreaks clause fault := by
  rcases cutting : clause.cut '=' with ⟨left, _ | right⟩
  · obtain ⟨plain, whole⟩ := Text.cut_eq_iff.mp cutting
    rw [Text.opened, List.append_nil] at whole
    subst whole
    exact .inr ⟨_, .missingEquals plain⟩
  · obtain ⟨plain, whole⟩ := Text.cut_eq_iff.mp cutting
    rw [Text.opened] at whole
    subst whole
    by_cases unnamed : left.trimmed ['\x7b', '\x7d', ' '] = [] ∨
        right.trimmed ['\x7b', '\x7d', ' '] = []
    · rw [Text.trimmed_eq_nil_iff, Text.trimmed_eq_nil_iff] at unnamed
      exact .inr ⟨_, .missingName plain unnamed⟩
    · obtain ⟨wirePresent, namePresent⟩ := not_or.mp unnamed
      exact .inl ⟨⟨_, _⟩, left, right, rfl, plain, Text.padded_trimmed _ left,
        Text.padded_trimmed _ right, wirePresent, namePresent⟩

/-- The parser of clauses accepts what spells a param. -/
theorem ofClause_eq_ok_iff {clause : Text} {param : Param} :
    ofClause clause = .ok param ↔ Spells clause param := by
  constructor
  · intro found
    rcases spells_or_breaks clause with ⟨other, spells⟩ | ⟨fault, breaks⟩
    · cases (ofClause_of_spells spells).symm.trans found
      exact spells
    · cases (ofClause_of_breaks breaks).symm.trans found
  · exact ofClause_of_spells

theorem ofClause_eq_error_iff {clause : Text} {fault : TemplateFault} :
    ofClause clause = .error fault ↔ ClauseBreaks clause fault := by
  constructor
  · intro found
    rcases spells_or_breaks clause with ⟨other, spells⟩ | ⟨other, breaks⟩
    · cases (ofClause_of_spells spells).symm.trans found
    · cases (ofClause_of_breaks breaks).symm.trans found
      exact breaks
  · exact ofClause_of_breaks

/-- The clauses among `parts` from whose beginning on at least three characters remain. -/
def attempted (parts : List Text) : List Text :=
  (parts.tails.filter fun remaining =>
    decide (3 ≤ (Text.joined '&' remaining).length)).filterMap List.head?

theorem attempted_nil : attempted [] = [] := rfl

theorem attempted_cons (part : Text) (others : List Text) :
    attempted (part :: others) =
      if 3 ≤ (Text.joined '&' (part :: others)).length then
        part :: attempted others
      else attempted others := by
  unfold attempted
  rw [List.tails_cons, List.filter_cons]
  by_cases long : 3 ≤ (Text.joined '&' (part :: others)).length
  · simp [long]
  · simp [long]

theorem attempted_cons_of_long {part : Text} {others : List Text}
    (long : 3 ≤ (Text.joined '&' (part :: others)).length) :
    attempted (part :: others) = part :: attempted others := by
  rw [attempted_cons, if_pos long]

theorem mem_of_mem_attempted {clause : Text} {parts : List Text}
    (member : clause ∈ attempted parts) : clause ∈ parts := by
  induction parts with
  | nil => exact member
  | cons part others ih =>
      rw [attempted_cons] at member
      split at member
      · rcases List.mem_cons.mp member with rfl | member
        · exact List.mem_cons_self ..
        · exact List.mem_cons_of_mem _ (ih member)
      · exact List.mem_cons_of_mem _ (ih member)

/-- No clause of a text that is too short for one is attempted. -/
theorem attempted_of_short {parts : List Text}
    (short : (Text.joined '&' parts).length < 3) : attempted parts = [] := by
  induction parts with
  | nil => rfl
  | cons part others ih =>
      rw [attempted_cons, if_neg (Nat.not_le.mpr short)]
      apply ih
      exact Nat.lt_of_le_of_lt (Text.joined_suffix_append '&' [part] others).length_le short

/-- Clauses that are long enough by themselves are all attempted. -/
theorem attempted_of_long {parts : List Text} (long : ∀ part ∈ parts, 3 ≤ part.length) :
    attempted parts = parts := by
  induction parts with
  | nil => rfl
  | cons part others ih =>
      have whole : 3 ≤ (Text.joined '&' (part :: others)).length :=
        Nat.le_trans (long part (List.mem_cons_self ..))
          (Text.length_le_joined (List.mem_cons_self ..))
      rw [attempted_cons_of_long whole, ih (List.forall_mem_cons.mp long).2]

theorem scan_of_short {query : Text} (short : query.length < 3) :
    scan query = .ok [] := by
  have short : query.length < shortestClause := short
  rw [scan, if_pos short]

theorem scan_last {clause : Text} (long : ¬ clause.length < 3)
    (plain : '&' ∉ clause) : scan clause = (ofClause clause).map fun param => [param] := by
  have cutting : clause.cut '&' = (clause, none) :=
    Text.cut_eq_iff.mpr ⟨plain, (List.append_nil clause).symm⟩
  have long : ¬ clause.length < shortestClause := long
  rw [scan, if_neg long]
  split
  · next found => cases cutting.symm.trans found; rfl
  · next found => cases cutting.symm.trans found

/-- The first clause is attempted, and then what follows the ampersand behind it. -/
theorem scan_append {clause rest : Text}
    (long : ¬ (clause ++ '&' :: rest).length < 3) (plain : '&' ∉ clause) :
    scan (clause ++ '&' :: rest) =
      (ofClause clause).bind fun param => (scan rest).map (param :: ·) := by
  have cutting : (clause ++ '&' :: rest).cut '&' = (clause, some rest) :=
    Text.cut_append plain (some rest)
  have long : ¬ (clause ++ '&' :: rest).length < shortestClause := long
  rw [scan, if_neg long]
  split
  · next found => cases cutting.symm.trans found
  · next found =>
      cases cutting.symm.trans found
      cases ofClause clause <;> rfl

/-- Scanning clauses put together with ampersands reads the attempted ones in order. -/
theorem scan_joined {parts : List Text} (present : parts ≠ [])
    (plain : ∀ part ∈ parts, '&' ∉ part) :
    scan (Text.joined '&' parts) = (attempted parts).mapM ofClause := by
  induction parts with
  | nil => exact absurd rfl present
  | cons part others ih =>
      by_cases short : (Text.joined '&' (part :: others)).length < 3
      · rw [scan_of_short short, attempted_of_short short]
        rfl
      · have partPlain := plain part (List.mem_cons_self ..)
        rw [attempted_cons_of_long (Nat.not_lt.mp short)]
        cases others with
        | nil =>
            rw [Text.joined] at short ⊢
            rw [scan_last short partPlain, attempted_nil, List.mapM_cons, List.mapM_nil]
            cases ofClause part <;> rfl
        | cons next more =>
            rw [Text.joined] at short ⊢
            rw [scan_append short partPlain, List.mapM_cons,
              ih (by simp) fun other member => plain other (List.mem_cons_of_mem _ member)]
            cases ofClause part with
            | error fault => rfl
            | ok param => cases (attempted (next :: more)).mapM ofClause <;> rfl

/-- The clauses that are attempted when a query is read; a blank query has none. -/
def clauses (query : Text) : List Text :=
  if query.isBlank then [] else attempted (query.pieces '&')

/-- The clauses of a query that is not blank are those attempted. -/
theorem clauses_of_visible {query : Text} (visible : query.isBlank = false) :
    clauses query = attempted (query.pieces '&') := by
  rw [clauses, visible, if_neg Bool.false_ne_true]

theorem mem_pieces_of_mem_clauses {query clause : Text} (member : clause ∈ clauses query) :
    clause ∈ query.pieces '&' := by
  rw [clauses] at member
  split at member
  · cases member
  · exact mem_of_mem_attempted member

/-- Clauses that are visible and long enough are found again when they have been joined. -/
theorem clauses_joined {parts : List Text} (plain : ∀ part ∈ parts, '&' ∉ part)
    (long : ∀ part ∈ parts, 3 ≤ part.length) (present : ∀ part ∈ parts, part.isBlank = false) :
    clauses (Text.joined '&' parts) = parts := by
  cases parts with
  | nil => rfl
  | cons part others =>
      have first := present part (List.mem_cons_self ..)
      have whole : (Text.joined '&' (part :: others)).isBlank = false := by
        cases others with
        | nil => exact first
        | cons next more => rw [Text.joined, Text.isBlank_append, first, Bool.false_and]
      rw [clauses_of_visible whole,
        Text.pieces_joined (List.cons_ne_nil _ _) plain, attempted_of_long long]

/-- Reading a query is reading its attempted clauses in order. -/
theorem readQuery_eq_mapM (query : Text) : readQuery query = (clauses query).mapM ofClause := by
  cases blank : query.isBlank with
  | true =>
      rw [readQuery, clauses, if_pos blank, if_pos blank]
      rfl
  | false =>
      have scanned := scan_joined (Text.pieces_ne_nil '&' query)
        fun part member => Text.not_mem_of_mem_pieces member
      rw [Text.joined_pieces] at scanned
      rw [readQuery, clauses, blank]
      exact scanned

/-- A query is read exactly when every attempted clause is well spelled. -/
theorem readQuery_eq_ok_iff {query : Text} {params : List Param} :
    readQuery query = .ok params ↔ List.Forall₂ Spells (clauses query) params := by
  rw [readQuery_eq_mapM, mapM_eq_ok_iff]
  constructor <;> intro each <;> refine each.imp ?_
  · exact fun clause param found => ofClause_eq_ok_iff.mp found
  · exact fun clause param spells => ofClause_eq_ok_iff.mpr spells

/-- Well spelled clauses put together with ampersands are found and read again. -/
theorem forall₂_spells_clauses_joined {parts : List Text} {params : List Param}
    (each : List.Forall₂ Spells parts params) (plain : ∀ part ∈ parts, '&' ∉ part) :
    List.Forall₂ Spells (clauses (Text.joined '&' parts)) params := by
  have spelled := exists_forall₂_iff.mp ⟨params, each⟩
  rw [clauses_joined plain]
  · exact each
  · intro part member
    obtain ⟨param, spells⟩ := spelled part member
    exact spells.length_le
  · intro part member
    obtain ⟨param, spells⟩ := spelled part member
    exact spells.isBlank_eq_false

/-- A query can be read exactly if it is blank or every clause attempted spells a param. -/
theorem exists_params_iff {query : Text} :
    (∃ params, List.Forall₂ Spells (clauses query) params) ↔
      query.isBlank = true ∨
        ∀ clause ∈ attempted (query.pieces '&'), ∃ param, Spells clause param := by
  rw [exists_forall₂_iff, clauses]
  cases query.isBlank <;> simp

/-- A query spells one list of params. -/
theorem params_unique {query : Text} {first second : List Param}
    (spelledFirst : List.Forall₂ Spells (clauses query) first)
    (spelledSecond : List.Forall₂ Spells (clauses query) second) : first = second :=
  Except.ok.inj ((readQuery_eq_ok_iff.mpr spelledFirst).symm.trans
    (readQuery_eq_ok_iff.mpr spelledSecond))

/-- The rule that the first misspelled clause of a query breaks. -/
def QueryBreaks (query : Text) (fault : TemplateFault) : Prop :=
  ∃ before clause after, clauses query = before ++ clause :: after ∧
    (∀ earlier ∈ before, ∃ param, Spells earlier param) ∧ ClauseBreaks clause fault

/-- A query is refused for the rule that its first misspelled clause breaks. -/
theorem readQuery_eq_error_iff {query : Text} {fault : TemplateFault} :
    readQuery query = .error fault ↔ QueryBreaks query fault := by
  rw [readQuery_eq_mapM, mapM_eq_error_iff, QueryBreaks]
  simp only [ofClause_eq_ok_iff, ofClause_eq_error_iff]

end Param

end UriEndpoint
