import UriEndpoint.Proofs.Redaction.Masking

/-! # A URI as masking divides it

A URI with a question mark consists of a head, the entries of a query and perhaps a fragment. No
part holds a delimiter that is looked for in it, so there is one such division, and masking, which
goes from entry to entry, puts no delimiter in and takes none away. A masked URI therefore divides
as the URI itself does. Masking once more changes nothing, and two URIs that differ only in what
stands under sensitive names in the query are the same masked.
-/

namespace UriEndpoint.Redaction

/-! ## Entries -/

/-- How an entry of a query comes out of masking. -/
inductive EntryMasked : Text → Text → Prop
  | bare {entry : Text} (unnamed : '=' ∉ entry) : EntryMasked entry entry
  | harmless {name : Text} (plain : '=' ∉ name) (harmless : isSensitive name = false)
      (value : Text) : EntryMasked (name ++ '=' :: value) (name ++ '=' :: value)
  | secret {name : Text} (plain : '=' ∉ name) (sensitive : isSensitive name = true)
      (value : Text) : EntryMasked (name ++ '=' :: value) (name ++ '=' :: mask)

/-- Two entries are the same but for the value under a sensitive name. -/
inductive EntriesApart : Text → Text → Prop
  | same (entry : Text) : EntriesApart entry entry
  | secret {name : Text} (plain : '=' ∉ name) (sensitive : isSensitive name = true)
      (first second : Text) : EntriesApart (name ++ '=' :: first) (name ++ '=' :: second)

/-- An entry is kept, or it has the mask behind a sensitive name. -/
theorem entryMasked_maskedEntry (entry : Text) : EntryMasked entry (maskedEntry entry) := by
  obtain ⟨name, tail, plain, rfl⟩ := Text.exists_eq_append_opened '=' entry
  cases tail with
  | none =>
      rw [Text.opened, List.append_nil, maskedEntry_of_not_mem plain]
      exact .bare plain
  | some value =>
      rw [Text.opened, maskedEntry_append plain]
      cases sensitive : isSensitive name with
      | true => exact .secret plain sensitive value
      | false => exact .harmless plain sensitive value

/-- What has been masked is not masked any further. -/
theorem EntryMasked.maskedEntry_eq {entry masked : Text} (comes : EntryMasked entry masked) :
    maskedEntry masked = masked := by
  cases comes with
  | bare unnamed => exact maskedEntry_of_not_mem unnamed
  | harmless plain harmless value => simp [maskedEntry_append plain, harmless]
  | secret plain sensitive value => simp [maskedEntry_append plain, sensitive]

/-- Entries that differ in a secret are the same masked. -/
theorem EntriesApart.maskedEntry_eq {first second : Text} (apart : EntriesApart first second) :
    maskedEntry first = maskedEntry second := by
  cases apart with
  | same entry => rfl
  | secret plain sensitive one other => simp [maskedEntry_append plain, sensitive]

/-- Masking brings no delimiter into an entry. -/
theorem not_mem_maskedEntry {mark : Char} {entry : Text} (absent : mark ∉ entry)
    (hidden : mark ∉ mask) : mark ∉ maskedEntry entry := by
  have comes := entryMasked_maskedEntry entry
  generalize maskedEntry entry = masked at comes
  cases comes with
  | bare => exact absent
  | harmless => exact absent
  | secret plain sensitive value =>
      rw [List.mem_append, List.mem_cons, not_or, not_or] at absent ⊢
      exact ⟨absent.1, absent.2.1, hidden⟩

/-! ## Division -/

/-- A URI with a query: what stands before its first question mark, the entries behind that mark,
and what follows the first number sign behind it, if there is one. -/
@[ext]
structure QueriedUri where
  head : Text
  entries : List Text
  fragment : Option Text
  head_plain : '?' ∉ head
  entries_plain : ∀ entry ∈ entries, '&' ∉ entry ∧ '#' ∉ entry
  entries_ne_nil : entries ≠ []

namespace QueriedUri

/-- The division of a URI: at the first question mark, behind it at the first number sign, and at
every ampersand between the two. -/
def ofText? (uri : Text) : Option QueriedUri :=
  (uri.cut '?').2.map fun rest =>
    { head := (uri.cut '?').1
      entries := (rest.cut '#').1.pieces '&'
      fragment := (rest.cut '#').2
      head_plain := Text.not_mem_cut_fst '?' uri
      entries_plain := fun _ member =>
        ⟨Text.not_mem_of_mem_pieces member, fun inside =>
          Text.not_mem_cut_fst '#' rest (Text.mem_of_mem_pieces member inside)⟩
      entries_ne_nil := Text.pieces_ne_nil '&' _ }

/-- The query as it stands in the URI. -/
def query (parts : QueriedUri) : Text := Text.joined '&' parts.entries

def written (parts : QueriedUri) : Text :=
  parts.head ++ '?' :: (parts.query ++ Text.opened '#' parts.fragment)

/-- The division with every entry masked. -/
def masked (parts : QueriedUri) : QueriedUri where
  head := parts.head
  entries := parts.entries.map maskedEntry
  fragment := parts.fragment
  head_plain := parts.head_plain
  entries_plain := by
    intro entry member
    obtain ⟨plain, among, rfl⟩ := List.mem_map.mp member
    obtain ⟨ampersand, number⟩ := parts.entries_plain plain among
    exact ⟨not_mem_maskedEntry ampersand (by decide), not_mem_maskedEntry number (by decide)⟩
  entries_ne_nil := List.map_eq_nil_iff.not.mpr parts.entries_ne_nil

variable (parts : QueriedUri)

theorem number_not_mem_query : '#' ∉ parts.query := by
  intro member
  rcases Text.mem_of_mem_joined member with same | ⟨entry, among, inside⟩
  · cases same
  · exact (parts.entries_plain entry among).2 inside

/-- A division is found again in the URI that it writes. -/
theorem ofText?_written : ofText? parts.written = some parts := by
  have outer : parts.written.cut '?' =
      (parts.head, some (parts.query ++ Text.opened '#' parts.fragment)) :=
    Text.cut_append parts.head_plain (some _)
  have inner : (parts.query ++ Text.opened '#' parts.fragment).cut '#' =
      (parts.query, parts.fragment) :=
    Text.cut_append parts.number_not_mem_query parts.fragment
  have entries : parts.query.pieces '&' = parts.entries :=
    Text.pieces_joined parts.entries_ne_nil fun entry member => (parts.entries_plain entry member).1
  simp only [ofText?, outer, inner, entries, Option.map_some]

theorem written_of_ofText? {uri : Text} {parts : QueriedUri} (found : ofText? uri = some parts) :
    parts.written = uri := by
  obtain ⟨rest, cutting, rfl⟩ := Option.map_eq_some_iff.mp found
  have outer := Text.append_cut '?' uri
  have inner := Text.append_cut '#' rest
  rw [cutting, Text.opened] at outer
  simp only [written, query, Text.joined_pieces, inner, outer]

/-- A URI has one division. -/
theorem written_injective : Function.Injective written := by
  intro first second same
  apply Option.some.inj
  rw [← ofText?_written, ← ofText?_written, same]

theorem question_mem_written : '?' ∈ parts.written :=
  List.mem_append_right _ (List.mem_cons_self ..)

/-- Every URI with a question mark divides. -/
theorem exists_written {uri : Text} (marked : '?' ∈ uri) :
    ∃ parts : QueriedUri, parts.written = uri := by
  cases found : ofText? uri with
  | some parts => exact ⟨parts, written_of_ofText? found⟩
  | none =>
      have tail : (uri.cut '?').2 = none := Option.map_eq_none_iff.mp found
      have whole := Text.append_cut '?' uri
      have plain := Text.not_mem_cut_fst '?' uri
      rw [tail, Text.opened, List.append_nil] at whole
      rw [whole] at plain
      exact absurd marked plain

theorem masked_masked : parts.masked.masked = parts.masked := by
  apply QueriedUri.ext
  · rfl
  · simp only [masked, List.map_map]
    apply List.map_congr_left
    intro entry _
    exact (entryMasked_maskedEntry entry).maskedEntry_eq
  · rfl

end QueriedUri

/-! ## Masking -/

theorem maskedUri_of_not_mem {uri : Text} (plain : '?' ∉ uri) : maskedUri uri = uri := by
  have cutting : uri.cut '?' = (uri, none) := by
    simpa [Text.opened] using Text.cut_append plain none
  simp only [maskedUri, cutting]

/-- Masking goes from entry to entry. -/
theorem maskedUri_written (parts : QueriedUri) :
    maskedUri parts.written = parts.masked.written := by
  have entries : ∀ entry ∈ parts.entries, '&' ∉ entry := fun entry member =>
    (parts.entries_plain entry member).1
  rw [QueriedUri.written, maskedUri_append parts.head_plain,
    maskedRest_append parts.number_not_mem_query, QueriedUri.query, maskedQuery_joined entries]
  rfl

/-- Masking a URI twice is masking it once. -/
theorem maskedUri_maskedUri (uri : Text) : maskedUri (maskedUri uri) = maskedUri uri := by
  by_cases marked : '?' ∈ uri
  · obtain ⟨parts, rfl⟩ := QueriedUri.exists_written marked
    rw [maskedUri_written, maskedUri_written, parts.masked_masked]
  · rw [maskedUri_of_not_mem marked, maskedUri_of_not_mem marked]

/-- What masking leaves of the division of a URI. -/
structure QueriedUri.MaskedAs (before after : QueriedUri) : Prop where
  head : after.head = before.head
  entries : List.Forall₂ EntryMasked before.entries after.entries
  fragment : after.fragment = before.fragment

/-- Masking keeps head and fragment and goes from entry to entry. -/
theorem QueriedUri.maskedAs_masked (parts : QueriedUri) : parts.MaskedAs parts.masked where
  head := rfl
  entries := by
    rw [masked, List.forall₂_map_right_iff, List.forall₂_same]
    intro entry _
    exact entryMasked_maskedEntry entry
  fragment := rfl

/-- Two URIs differ only in values under sensitive names in the query. -/
inductive DifferInSecrets : Text → Text → Prop
  | same (uri : Text) : DifferInSecrets uri uri
  | query (first second : QueriedUri) (head : first.head = second.head)
      (entries : List.Forall₂ EntriesApart first.entries second.entries)
      (fragment : first.fragment = second.fragment) :
      DifferInSecrets first.written second.written

/-- URIs that differ in secrets are the same masked. -/
theorem DifferInSecrets.maskedUri_eq {first second : Text}
    (differ : DifferInSecrets first second) : maskedUri first = maskedUri second := by
  cases differ with
  | same uri => rfl
  | query one other head entries fragment =>
      have pointwise : List.Forall₂ (· = ·) (one.entries.map maskedEntry)
          (other.entries.map maskedEntry) := by
        rw [List.forall₂_map_left_iff, List.forall₂_map_right_iff]
        exact entries.imp fun _ _ apart => apart.maskedEntry_eq
      rw [List.forall₂_eq_eq_eq] at pointwise
      have masked : one.masked = other.masked := QueriedUri.ext head pointwise fragment
      rw [maskedUri_written, maskedUri_written, masked]

/-- **A masked URI divides as the URI does.** Cut at the same delimiters both have the same head,
the same fragment and the same entries one by one, but for the mask under sensitive names. So
masking twice is masking once, and values under sensitive names in the query leave no trace. -/
theorem maskedUri_divides_alike (uri : Text) :
    ('?' ∈ uri → ∃ before after, QueriedUri.ofText? uri = some before ∧
      QueriedUri.ofText? (maskedUri uri) = some after ∧ before.MaskedAs after) ∧
    maskedUri (maskedUri uri) = maskedUri uri ∧
    ∀ other, DifferInSecrets uri other → maskedUri uri = maskedUri other := by
  refine ⟨?_, maskedUri_maskedUri uri, fun other differ => differ.maskedUri_eq⟩
  intro marked
  obtain ⟨parts, rfl⟩ := QueriedUri.exists_written marked
  refine ⟨parts, parts.masked, parts.ofText?_written, ?_, parts.maskedAs_masked⟩
  rw [maskedUri_written, QueriedUri.ofText?_written]

/-- Secrets beside an empty entry, a name without a value and a value without a name, with further
delimiters in the head, in a secret and in the fragment. -/
theorem maskedUri_divides_alike_of_odd_entries :
    let uri := "a#b?=x&Token=y=?&&key&KEY=#f?token=1".toList
    let other := "a#b?=x&Token=&&key&KEY=zz#f?token=1".toList
    '?' ∈ uri ∧ DifferInSecrets uri other ∧
      (∃ before after, QueriedUri.ofText? uri = some before ∧
        QueriedUri.ofText? (maskedUri uri) = some after ∧ before.MaskedAs after) ∧
      maskedUri uri = maskedUri other := by
  intro uri other
  have marked : '?' ∈ uri := by decide +kernel
  have differ : DifferInSecrets uri other := by
    let first : QueriedUri :=
      ⟨"a#b".toList, ["=x", "Token=y=?", "", "key", "KEY="].map String.toList,
        some "f?token=1".toList, by decide +kernel, by decide +kernel, by decide +kernel⟩
    let second : QueriedUri :=
      ⟨"a#b".toList, ["=x", "Token=", "", "key", "KEY=zz"].map String.toList,
        some "f?token=1".toList, by decide +kernel, by decide +kernel, by decide +kernel⟩
    have uriWritten : first.written = uri := by decide +kernel
    have otherWritten : second.written = other := by decide +kernel
    have token : EntriesApart "Token=y=?".toList "Token=".toList :=
      @EntriesApart.secret "Token".toList (by decide +kernel) (by decide +kernel) "y=?".toList []
    have key : EntriesApart "KEY=".toList "KEY=zz".toList :=
      @EntriesApart.secret "KEY".toList (by decide +kernel) (by decide +kernel) [] "zz".toList
    rw [← uriWritten, ← otherWritten]
    exact .query first second rfl
      (.cons (.same _) (.cons token (.cons (.same _) (.cons (.same _) (.cons key .nil))))) rfl
  obtain ⟨divides, _, others⟩ := maskedUri_divides_alike uri
  exact ⟨marked, differ, divides marked, others other differ⟩

end UriEndpoint.Redaction
