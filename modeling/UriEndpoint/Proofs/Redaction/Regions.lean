import UriEndpoint.Proofs.Redaction.QueriedUri
import UriEndpoint.Proofs.Template.Regions

/-! # The regions of a masked URI

Two cuts of a URI have to agree for masking to touch the query only. The regions of a text end at
its first number sign, so a question mark behind that sign belongs to the fragment. Masking looks
for the question mark first. Where that mark stands before any number sign, the query that is masked
is the region. Where it stands behind one, path and query stay and the fragment is masked as if it
were a URI of its own.
-/

namespace UriEndpoint.Redaction

/-! ## Texts that masking changes -/

/-- An entry has a sensitive name and a value that is not the mask. -/
def HoldsSecret (entry : Text) : Prop :=
  ∃ name value, '=' ∉ name ∧ isSensitive name = true ∧ value ≠ mask ∧
    entry = name ++ '=' :: value

/-- A text has a query behind its first question mark, and an entry there holds a secret. -/
def ShowsSecret (text : Text) : Prop :=
  ∃ parts : QueriedUri, parts.written = text ∧ ∃ entry ∈ parts.entries, HoldsSecret entry

/-- An entry is kept exactly if it holds no secret. -/
theorem maskedEntry_eq_self_iff (entry : Text) :
    maskedEntry entry = entry ↔ ¬HoldsSecret entry := by
  constructor
  · rintro same ⟨name, value, plain, sensitive, differ, rfl⟩
    rw [maskedEntry_append plain, if_pos sensitive, List.append_cancel_left_eq,
      List.cons.injEq] at same
    exact differ same.2.symm
  · intro harmless
    have comes := entryMasked_maskedEntry entry
    generalize maskedEntry entry = masked at comes
    cases comes with
    | bare => rfl
    | harmless => rfl
    | secret plain sensitive value =>
        by_contra differ
        apply harmless
        refine ⟨_, value, plain, sensitive, fun same => differ ?_, rfl⟩
        rw [same]

theorem QueriedUri.masked_eq_self_iff (parts : QueriedUri) :
    parts.masked = parts ↔ ∀ entry ∈ parts.entries, ¬HoldsSecret entry := by
  simp only [← maskedEntry_eq_self_iff]
  constructor
  · intro same entry member
    have entries : parts.entries.map maskedEntry = parts.entries.map id := by
      rw [List.map_id]
      exact congrArg QueriedUri.entries same
    exact List.map_inj_left.mp entries entry member
  · intro kept
    have entries : parts.entries.map maskedEntry = parts.entries := by
      rw [List.map_congr_left kept, List.map_id']
    exact QueriedUri.ext rfl entries rfl

/-- Masking leaves a text as it is exactly when no secret shows in it. -/
theorem maskedUri_eq_self_iff (text : Text) : maskedUri text = text ↔ ¬ShowsSecret text := by
  by_cases marked : '?' ∈ text
  · obtain ⟨parts, rfl⟩ := QueriedUri.exists_written marked
    rw [maskedUri_written, QueriedUri.written_injective.eq_iff, QueriedUri.masked_eq_self_iff]
    constructor
    · rintro harmless ⟨other, same, entry, member, secret⟩
      obtain rfl := QueriedUri.written_injective same
      exact harmless entry member secret
    · intro hidden entry member secret
      exact hidden ⟨parts, rfl, entry, member, secret⟩
  · rw [maskedUri_of_not_mem marked]
    simp only [true_iff]
    rintro ⟨parts, rfl, _⟩
    exact marked parts.question_mem_written

/-! ## Queries -/

theorem pieces_maskedQuery (query : Text) :
    (maskedQuery query).pieces '&' = (query.pieces '&').map maskedEntry := by
  apply Text.pieces_joined
  · exact List.map_eq_nil_iff.not.mpr (Text.pieces_ne_nil '&' query)
  · intro entry member
    obtain ⟨plain, among, rfl⟩ := List.mem_map.mp member
    exact not_mem_maskedEntry (Text.not_mem_of_mem_pieces among) (by decide)

/-- The entries of a query come out of masking one by one. -/
theorem forall₂_pieces_maskedQuery (query : Text) :
    List.Forall₂ EntryMasked (query.pieces '&') ((maskedQuery query).pieces '&') := by
  rw [pieces_maskedQuery, List.forall₂_map_right_iff, List.forall₂_same]
  intro entry _
  exact entryMasked_maskedEntry entry

theorem number_not_mem_maskedQuery {query : Text} (plain : '#' ∉ query) :
    '#' ∉ maskedQuery query := by
  intro member
  rcases Text.mem_of_mem_joined member with same | ⟨entry, among, inside⟩
  · cases same
  · obtain ⟨piece, within, rfl⟩ := List.mem_map.mp among
    have absent : '#' ∉ piece := fun further => plain (Text.mem_of_mem_pieces within further)
    exact not_mem_maskedEntry absent (by decide) inside

theorem maskedQuery_nil : maskedQuery [] = [] := by
  rw [maskedQuery_of_not_mem List.not_mem_nil, maskedEntry_of_not_mem List.not_mem_nil]

/-! ## Regions -/

/-- A front without a question mark is passed over. -/
theorem maskedUri_append_of_not_mem {front : Text} (plain : '?' ∉ front) (rest : Text) :
    maskedUri (front ++ rest) = front ++ maskedUri rest := by
  obtain ⟨head, tail, headPlain, rfl⟩ := Text.exists_eq_append_opened '?' rest
  have bothPlain : '?' ∉ front ++ head := by
    rw [List.mem_append, not_or]
    exact ⟨plain, headPlain⟩
  cases tail with
  | none =>
      rw [Text.opened, List.append_nil, maskedUri_of_not_mem headPlain,
        maskedUri_of_not_mem bothPlain]
  | some query =>
      rw [Text.opened, ← List.append_assoc, maskedUri_append bothPlain, maskedUri_append headPlain,
        List.append_assoc]

/-- Without a query masking goes into the fragment, as if that were a URI. -/
theorem maskedUri_path_fragment {path : Text} (plain : '?' ∉ path) (fragment : Option Text) :
    maskedUri (path ++ Text.opened '#' fragment) =
      path ++ Text.opened '#' (fragment.map maskedUri) := by
  cases fragment with
  | none =>
      rw [Option.map_none, Text.opened, List.append_nil]
      exact maskedUri_of_not_mem plain
  | some fragment =>
      have front : '?' ∉ path ++ ['#'] := by
        rw [List.mem_append, not_or]
        exact ⟨plain, by decide⟩
      have passed := maskedUri_append_of_not_mem front fragment
      rwa [List.append_assoc, List.append_assoc] at passed

/-- With a query masking leaves path and fragment alone. -/
theorem maskedUri_path_query {path query : Text} (pathPlain : '?' ∉ path)
    (queryPlain : '#' ∉ query) (fragment : Option Text) :
    maskedUri (path ++ '?' :: query ++ Text.opened '#' fragment) =
      path ++ '?' :: maskedQuery query ++ Text.opened '#' fragment := by
  rw [List.append_assoc, List.cons_append, maskedUri_append pathPlain,
    maskedRest_append queryPlain, List.append_assoc, List.cons_append]

/-- The regions of a masked URI. The fragment is masked itself if the first question mark stands
in it. -/
theorem ofText_maskedUri (uri : Text) :
    Regions.ofText ('/' :: maskedUri uri) =
      { path := (Regions.ofText ('/' :: uri)).path
        query := maskedQuery (Regions.ofText ('/' :: uri)).query
        fragment :=
          if '?' ∈ (uri.cut '#').1 then (Regions.ofText ('/' :: uri)).fragment
          else maskedUri (Regions.ofText ('/' :: uri)).fragment } := by
  obtain ⟨⟨question, number⟩, queryPlain, query, fragment, unslashed, queryEq, fragmentEq⟩ :=
    Regions.divides_ofText ('/' :: uri)
  have whole := Regions.unslashed_iff.mp unslashed
  generalize Regions.ofText ('/' :: uri) = regions at *
  obtain ⟨path, queryText, fragmentText⟩ := regions
  obtain rfl : queryText = query.getD [] := queryEq
  obtain rfl : fragmentText = fragment.getD [] := fragmentEq
  obtain rfl : uri = path ++ Text.opened '?' query ++ Text.opened '#' fragment := whole
  apply Regions.ofText_eq_of_divides
  refine ⟨⟨question, number⟩, number_not_mem_maskedQuery queryPlain, ?_⟩
  have front : '#' ∉ path ++ Text.opened '?' query := by
    rw [List.mem_append, not_or]
    refine ⟨number, ?_⟩
    cases query with
    | none => exact List.not_mem_nil
    | some query => simpa [Text.opened] using queryPlain
  rw [Text.cut_append front]
  -- Without a query region any question mark stands in the fragment, and masking finds it there.
  cases query with
  | none =>
      refine ⟨none, fragment.map maskedUri, Regions.unslashed_iff.mpr ?_, maskedQuery_nil, ?_⟩
      · rw [Text.opened, List.append_nil, maskedUri_path_fragment question]
        rfl
      · rw [Text.opened, List.append_nil]
        simp only [question, if_false]
        cases fragment <;> rfl
  | some query =>
      refine ⟨some (maskedQuery query), fragment, Regions.unslashed_iff.mpr ?_, rfl, ?_⟩
      · exact maskedUri_path_query question queryPlain fragment
      · simp [Text.opened]

/-- Two texts have the same regions but for what masking does to the entries of the query. -/
structure QueryMasked (before after : Regions) : Prop where
  path : after.path = before.path
  query : List.Forall₂ EntryMasked (before.query.pieces '&') (after.query.pieces '&')
  fragment : after.fragment = before.fragment

/-- **Masking touches the query only, unless the first question mark stands in the fragment.** The
path stays, and so does the query but for values under sensitive names. The fragment stays if a
question mark stands before the first number sign. Otherwise it is masked as a URI, which leaves it
as it is exactly when it shows no secret. -/
theorem maskedUri_regions (uri : Text) :
    (Regions.ofText ('/' :: maskedUri uri)).path = (Regions.ofText ('/' :: uri)).path ∧
    List.Forall₂ EntryMasked ((Regions.ofText ('/' :: uri)).query.pieces '&')
      ((Regions.ofText ('/' :: maskedUri uri)).query.pieces '&') ∧
    (Regions.ofText ('/' :: maskedUri uri)).fragment =
      (if '?' ∈ (uri.cut '#').1 then (Regions.ofText ('/' :: uri)).fragment
      else maskedUri (Regions.ofText ('/' :: uri)).fragment) ∧
    (QueryMasked (Regions.ofText ('/' :: uri)) (Regions.ofText ('/' :: maskedUri uri)) ↔
      '?' ∈ (uri.cut '#').1 ∨ ¬ShowsSecret (Regions.ofText ('/' :: uri)).fragment) := by
  rw [ofText_maskedUri]
  generalize Regions.ofText ('/' :: uri) = regions
  have query := forall₂_pieces_maskedQuery regions.query
  refine ⟨rfl, query, rfl, ?_⟩
  rw [← maskedUri_eq_self_iff]
  by_cases first : '?' ∈ (uri.cut '#').1
  · simp only [first, if_true, true_or, iff_true]
    exact ⟨rfl, query, rfl⟩
  · simp only [first, if_false, false_or]
    constructor
    · intro masked
      exact masked.fragment
    · intro same
      exact ⟨rfl, query, same⟩

/-- What follows a number sign is masked where the first question mark follows it too. -/
theorem fragment_masked_behind_question_mark :
    Regions.ofText ('/' :: "a#b?token=x".toList) =
        ⟨['a'], [], "b?token=x".toList⟩ ∧
      Regions.ofText ('/' :: maskedUri "a#b?token=x".toList) =
        ⟨['a'], [], "b?token=[REDACTED]".toList⟩ ∧
      ¬QueryMasked (Regions.ofText ('/' :: "a#b?token=x".toList))
        (Regions.ofText ('/' :: maskedUri "a#b?token=x".toList)) := by
  have before : Regions.ofText ('/' :: "a#b?token=x".toList) =
      ⟨['a'], [], "b?token=x".toList⟩ := by decide +kernel
  have after : Regions.ofText ('/' :: maskedUri "a#b?token=x".toList) =
      ⟨['a'], [], "b?token=[REDACTED]".toList⟩ := by decide +kernel
  refine ⟨before, after, fun masked => ?_⟩
  have same := masked.fragment
  rw [before, after] at same
  exact absurd same (by decide +kernel)

end UriEndpoint.Redaction
