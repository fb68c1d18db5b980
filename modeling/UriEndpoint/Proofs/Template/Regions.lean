import UriEndpoint.Template.Basic

/-! # The division of a text into regions

Every text has exactly one division into path, query and fragment. It is said here without the cuts
that find it: the path holds neither delimiter, the query no number sign, and the text, less one
leading slash, is put together again from the regions and the delimiters that were there
(`divides_iff`). There are four ways to put it together (`spells_iff`), and what a division leaves
out of a text is the slash and the two delimiters, each only if it is there (`restored_ofText`).
-/

namespace UriEndpoint.Regions

/-- A text without the slash that it begins with, if it begins with one. -/
inductive Unslashed : Text → Text → Prop
  | slash (rest : Text) : Unslashed ('/' :: rest) rest
  | bare {text : Text} (bare : text.head? ≠ some '/') : Unslashed text text

theorem unslashed_iff {text rest : Text} : Unslashed text rest ↔ text.withoutLeading '/' = rest := by
  constructor
  · intro unslashed
    cases unslashed with
    | slash => rw [Text.withoutLeading, if_pos rfl]
    | bare bare =>
        cases text with
        | nil => rfl
        | cons letter rest =>
            rw [Text.withoutLeading, if_neg fun same => bare (congrArg some same)]
  · rintro rfl
    cases text with
    | nil => exact .bare nofun
    | cons letter rest =>
        by_cases same : letter = '/'
        · rw [same, Text.withoutLeading, if_pos rfl]
          exact .slash rest
        · rw [Text.withoutLeading, if_neg same]
          exact .bare fun first => same (Option.some.inj first)

/-- The regions divide a text. A region whose delimiter is missing is empty. -/
structure Divides (regions : Regions) (text : Text) : Prop where
  path_plain : '?' ∉ regions.path ∧ '#' ∉ regions.path
  query_plain : '#' ∉ regions.query
  whole : ∃ query fragment : Option Text,
    Unslashed text (regions.path ++ Text.opened '?' query ++ Text.opened '#' fragment) ∧
      regions.query = query.getD [] ∧ regions.fragment = fragment.getD []

theorem divides_ofText (text : Text) : (ofText text).Divides text := by
  have outer := Text.append_cut '#' (text.withoutLeading '/')
  have outerPlain := Text.not_mem_cut_fst '#' (text.withoutLeading '/')
  have inner := Text.append_cut '?' ((text.withoutLeading '/').cut '#').1
  have innerPlain := Text.not_mem_cut_fst '?' ((text.withoutLeading '/').cut '#').1
  rw [← inner, List.mem_append, not_or] at outerPlain
  refine ⟨⟨innerPlain, outerPlain.1⟩, ?_, _, _, ?_, rfl, rfl⟩
  · change '#' ∉ (((text.withoutLeading '/').cut '#').1.cut '?').2.getD []
    cases found : (((text.withoutLeading '/').cut '#').1.cut '?').2 with
    | none => exact List.not_mem_nil
    | some query =>
        rw [found] at outerPlain
        exact fun member => outerPlain.2 (List.mem_cons_of_mem _ member)
  · rw [unslashed_iff]
    change _ = (((text.withoutLeading '/').cut '#').1.cut '?').1 ++ _ ++ _
    rw [inner, outer]

/-- A division of a text is the one that cutting finds. -/
theorem ofText_eq_of_divides {regions : Regions} {text : Text} (divides : regions.Divides text) :
    ofText text = regions := by
  obtain ⟨⟨question, number⟩, queryPlain, query, fragment, unslashed, queryEq, fragmentEq⟩ := divides
  have whole := unslashed_iff.mp unslashed
  have frontPlain : '#' ∉ regions.path ++ Text.opened '?' query := by
    rw [List.mem_append, not_or]
    refine ⟨number, ?_⟩
    cases query with
    | none => exact List.not_mem_nil
    | some query =>
        rw [queryEq] at queryPlain
        simpa [Text.opened] using queryPlain
  have outer : (text.withoutLeading '/').cut '#' =
      (regions.path ++ Text.opened '?' query, fragment) :=
    Text.cut_eq_iff.mpr ⟨frontPlain, whole⟩
  have inner : (regions.path ++ Text.opened '?' query).cut '?' = (regions.path, query) :=
    Text.cut_append question query
  unfold ofText
  simp only [outer, inner, ← queryEq, ← fragmentEq]

/-- A text is divided by its regions and by no others. -/
theorem divides_iff {regions : Regions} {text : Text} :
    regions.Divides text ↔ ofText text = regions :=
  ⟨ofText_eq_of_divides, fun found => found ▸ divides_ofText text⟩

/-- The forms of a text that regions make up. A region is empty where its delimiter is missing. -/
inductive Spells : Regions → Text → Prop
  | path (path : Text) : Spells ⟨path, [], []⟩ path
  | query (path query : Text) : Spells ⟨path, query, []⟩ (path ++ '?' :: query)
  | fragment (path fragment : Text) : Spells ⟨path, [], fragment⟩ (path ++ '#' :: fragment)
  | full (path query fragment : Text) :
      Spells ⟨path, query, fragment⟩ (path ++ '?' :: query ++ '#' :: fragment)

/-- The four forms are those of a query and a fragment that may each be absent. -/
theorem spells_iff {regions : Regions} {text : Text} :
    regions.Spells text ↔ ∃ query fragment : Option Text,
      text = regions.path ++ Text.opened '?' query ++ Text.opened '#' fragment ∧
        regions.query = query.getD [] ∧ regions.fragment = fragment.getD [] := by
  obtain ⟨path, query, fragment⟩ := regions
  constructor
  · intro spells
    cases spells with
    | path => exact ⟨none, none, by simp [Text.opened], rfl, rfl⟩
    | query => exact ⟨some query, none, by simp [Text.opened], rfl, rfl⟩
    | fragment => exact ⟨none, some fragment, by simp [Text.opened], rfl, rfl⟩
    | full => exact ⟨some query, some fragment, rfl, rfl, rfl⟩
  · rintro ⟨_ | query, _ | fragment, rfl, ⟨⟩, ⟨⟩⟩
    · simpa [Text.opened] using Spells.path path
    · simpa [Text.opened] using Spells.fragment path fragment
    · simpa [Text.opened] using Spells.query path query
    · exact Spells.full path query fragment

/-- Regions are those of a text exactly if they spell it without its slash and hold no mark that
would divide them. -/
theorem ofText_eq_iff_spells {regions : Regions} {text : Text} :
    ofText text = regions ↔
      ('?' ∉ regions.path ∧ '#' ∉ regions.path) ∧ '#' ∉ regions.query ∧
        regions.Spells (text.withoutLeading '/') := by
  rw [← divides_iff, spells_iff]
  simp only [← unslashed_iff]
  constructor
  · rintro ⟨path, query, whole⟩
    exact ⟨path, query, whole⟩
  · rintro ⟨path, query, whole⟩
    exact ⟨path, query, whole⟩

/-! ## What a division leaves out -/

/-- The mark alone if it is present, and nothing otherwise. -/
def markIf (mark : Char) (present : Prop) [Decidable present] : Text :=
  if present then [mark] else []

theorem markIf_congr {mark : Char} {present other : Prop} [Decidable present] [Decidable other]
    (same : present ↔ other) : markIf mark present = markIf mark other := by
  simp only [markIf, same]

theorem opened_cut (mark : Char) (text : Text) :
    Text.opened mark (text.cut mark).2 =
      markIf mark (mark ∈ text) ++ (text.cut mark).2.getD [] := by
  by_cases present : mark ∈ text
  · have opens : (text.cut mark).2 ≠ none := fun closed =>
      Text.cut_snd_eq_none_iff.mp closed present
    obtain ⟨tail, found⟩ := Option.ne_none_iff_exists'.mp opens
    rw [found, markIf, if_pos present]
    rfl
  · rw [Text.cut_snd_eq_none_iff.mpr present, markIf, if_neg present]
    rfl

/-- A leading mark and what is left without it are the text. -/
theorem markIf_append_withoutLeading (text : Text) :
    markIf '/' (text.head? = some '/') ++ text.withoutLeading '/' = text := by
  cases text with
  | nil => rfl
  | cons letter rest => by_cases same : letter = '/' <;> simp [markIf, Text.withoutLeading, same]

theorem mem_withoutLeading {mark letter : Char} (other : letter ≠ mark) (text : Text) :
    letter ∈ text.withoutLeading mark ↔ letter ∈ text := by
  cases text with
  | nil => rfl
  | cons first rest =>
      by_cases same : first = mark <;> simp [Text.withoutLeading, same, other]

/-- Before its first number sign a text holds a question mark with its leading slash or without. -/
theorem question_mem_cut_iff (text : Text) :
    '?' ∈ ((text.withoutLeading '/').cut '#').1 ↔ '?' ∈ text.takeWhile (· != '#') := by
  rw [Text.cut_fst_eq_takeWhile]
  cases text with
  | nil => rfl
  | cons first rest => by_cases same : first = '/' <;> simp [Text.withoutLeading, same]

/-- A text is its regions with one leading slash, the first question mark that no number sign
precedes and the first number sign, each if it is there. -/
theorem restored_ofText (text : Text) :
    text = markIf '/' (text.head? = some '/') ++ (ofText text).path ++
      markIf '?' ('?' ∈ text.takeWhile (· != '#')) ++ (ofText text).query ++
      markIf '#' ('#' ∈ text) ++ (ofText text).fragment := by
  have outer := Text.append_cut '#' (text.withoutLeading '/')
  have inner := Text.append_cut '?' ((text.withoutLeading '/').cut '#').1
  rw [opened_cut, markIf_congr (mem_withoutLeading (by decide) text)] at outer
  rw [opened_cut, markIf_congr (question_mem_cut_iff text)] at inner
  calc
    text = markIf '/' (text.head? = some '/') ++ text.withoutLeading '/' :=
      (markIf_append_withoutLeading text).symm
    _ = _ := by
      rw [← outer, ← inner]
      simp only [ofText, List.append_assoc]

/-- One slash before a text without a slash does not change its regions. -/
theorem ofText_cons_slash {text : Text} (bare : text.head? ≠ some '/') :
    ofText ('/' :: text) = ofText text := by
  have same : Text.withoutLeading '/' ('/' :: text) = text.withoutLeading '/' := by
    cases text with
    | nil => rfl
    | cons letter rest =>
        have other : letter ≠ '/' := fun same => bare (by rw [same]; rfl)
        simp [Text.withoutLeading, other]
  simp only [ofText, same]

/-- **A text divides in one way, and no other character of it is lost.** Regions are those of a text
exactly if no delimiter stands where it would divide them again and they make up the text, less one
leading slash, in one of the four forms. What is left out of the text is the leading slash, the
first question mark that no number sign precedes and the first number sign; a slash in front of a
text that begins with none changes nothing. -/
theorem ofText_divides_exactly (text : Text) :
    (∀ regions : Regions, ofText text = regions ↔
      ('?' ∉ regions.path ∧ '#' ∉ regions.path) ∧ '#' ∉ regions.query ∧
        regions.Spells (text.withoutLeading '/')) ∧
    text = markIf '/' (text.head? = some '/') ++ (ofText text).path ++
      markIf '?' ('?' ∈ text.takeWhile (· != '#')) ++ (ofText text).query ++
      markIf '#' ('#' ∈ text) ++ (ofText text).fragment ∧
    (text.head? ≠ some '/' → ofText ('/' :: text) = ofText text) :=
  ⟨fun _ => ofText_eq_iff_spells, restored_ofText text, ofText_cons_slash⟩

/-- Both delimiters occur twice; in a second text the number sign stands before the question mark,
and only one of its slashes is dropped. -/
theorem ofText_divides_exactly_of_repeated_delimiters :
    ofText "/a?b?c#d?e#".toList = ⟨"a".toList, "b?c".toList, "d?e#".toList⟩ ∧
      ofText "//#a?b".toList = ⟨"/".toList, [], "a?b".toList⟩ := by
  have bare := (ofText_divides_exactly "a?b?c#d?e#".toList).2.2 (by decide)
  have full := ((ofText_divides_exactly "a?b?c#d?e#".toList).1
    ⟨"a".toList, "b?c".toList, "d?e#".toList⟩).mpr
      ⟨by decide, by decide, .full "a".toList "b?c".toList "d?e#".toList⟩
  have early := ((ofText_divides_exactly "//#a?b".toList).1
    ⟨"/".toList, [], "a?b".toList⟩).mpr
      ⟨by decide, by decide, .fragment "/".toList "a?b".toList⟩
  exact ⟨bare.trans full, early⟩

end UriEndpoint.Regions
