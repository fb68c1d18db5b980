import Mathlib.Data.List.Induction
import UriEndpoint.Proofs.Settings.Outlines
import UriEndpoint.Proofs.Text.LowerCase

/-! # Variables in any order

The settings that variables give do not depend on the order in which the variables were set, but for
names that agree in lower case: of these the last counts (`Environment.get?_lowered`). Which field a
variable sets can be read off its name, and a variable that sets a field wins over those that would
set something within it, whichever comes first (`Environment.outline_get?_fields`).
-/

namespace UriEndpoint

namespace Environment

/-- The variables whose names are a name in lower case, in order. -/
def spellings (environment : Environment) (name : Text) : List (Text × Text) :=
  environment.entries.filter fun entry => entry.1.lowercase == name

/-- Two environments have the same variables, and among those for settings the ones whose names agree
in lower case in the same order. -/
structure Same (first second : Environment) : Prop where
  values : ∀ name, first.get? name = second.get? name
  order : ∀ name, lead <+: name → first.spellings name = second.spellings name

/-! ## Lower case -/

theorem lookup_cons_eq (name value other : Text) (entries : List (Text × Text)) :
    ((name, value) :: entries).lookup other =
      if other = name then some value else entries.lookup other := by
  rw [List.lookup_cons]
  by_cases same : other = name
  · rw [beq_iff_eq.mpr same, if_pos same]
  · rw [beq_eq_false_iff_ne.mpr same, if_neg same]

/-- An assignment is found under its name and leaves the others. -/
theorem lookup_assign (entries : List (Text × Text)) (name value other : Text) :
    (assign name value entries).lookup other =
      if other = name then some value else entries.lookup other := by
  induction entries with
  | nil => exact lookup_cons_eq name value other []
  | cons entry rest ih =>
      obtain ⟨first, kept⟩ := entry
      rw [assign, lookup_cons_eq]
      by_cases known : first = name
      · rw [if_pos known, lookup_cons_eq, known]
        split <;> rfl
      · rw [if_neg known, lookup_cons_eq, ih]
        by_cases same : other = first
        · rw [if_pos same, if_pos same, if_neg fun wanted => known (same.symm.trans wanted)]
        · rw [if_neg same, if_neg same]

theorem mem_names_assign {entries : List (Text × Text)} {name value other : Text} :
    other ∈ (assign name value entries).map Prod.fst ↔
      other = name ∨ other ∈ entries.map Prod.fst := by
  induction entries with
  | nil => simp [assign]
  | cons entry rest ih =>
      obtain ⟨first, kept⟩ := entry
      rw [assign]
      by_cases known : first = name
      · simp [known]
      · rw [if_neg known, List.map_cons, List.mem_cons, ih, List.map_cons, List.mem_cons]
        exact or_left_comm

theorem nodup_assign {entries : List (Text × Text)} (distinct : (entries.map Prod.fst).Nodup)
    (name value : Text) : ((assign name value entries).map Prod.fst).Nodup := by
  induction entries with
  | nil => exact List.nodup_singleton name
  | cons entry rest ih =>
      obtain ⟨first, kept⟩ := entry
      obtain ⟨absent, others⟩ := List.nodup_cons.mp distinct
      rw [assign]
      by_cases known : first = name
      · rw [if_pos known, List.map_cons]
        exact List.nodup_cons.mpr ⟨known ▸ absent, others⟩
      · rw [if_neg known, List.map_cons]
        refine List.nodup_cons.mpr ⟨?_, ih others⟩
        rw [mem_names_assign, not_or]
        exact ⟨known, absent⟩

/-- Of the variables whose names are the same in lower case the last counts. -/
theorem get?_lowered (environment : Environment) (name : Text) :
    environment.lowered.get? name = (environment.spellings name).getLast?.map Prod.snd := by
  have lowering (entries lower : List (Text × Text)) :
      (entries.foldl (fun lower entry => assign entry.1.lowercase entry.2 lower) lower).lookup
          name =
        (((entries.filter fun entry => entry.1.lowercase == name).getLast?).map Prod.snd).or
          (lower.lookup name) := by
    induction entries generalizing lower with
    | nil => rfl
    | cons entry rest ih =>
        rw [List.foldl_cons, ih, lookup_assign]
        by_cases same : entry.1.lowercase = name
        · rw [List.filter_cons, if_pos (beq_iff_eq.mpr same), List.getLast?_cons, if_pos same.symm]
          cases (rest.filter fun entry => entry.1.lowercase == name).getLast? <;> rfl
        · rw [List.filter_cons, if_neg fun found => same (beq_iff_eq.mp found),
            if_neg (Ne.symm same)]
  rw [get?, lowered, lowering, List.lookup_nil, Option.or_none]
  rfl

/-- The names of variables are distinct and in lower case. -/
structure Lowered (environment : Environment) : Prop where
  distinct : (environment.entries.map Prod.fst).Nodup
  small : ∀ name ∈ environment.entries.map Prod.fst, name.IsLowercase

/-- An environment with its names made lower case has lower-case names. -/
theorem lowered_lowered (environment : Environment) : environment.lowered.Lowered := by
  refine List.foldlRecOn environment.entries _ (motive := fun lower => Lowered ⟨lower⟩)
    ⟨List.nodup_nil, List.forall_mem_nil _⟩ ?_
  intro lower lowered entry _
  refine ⟨nodup_assign lowered.distinct _ _, fun name member => ?_⟩
  rcases mem_names_assign.mp member with rfl | among
  · exact Text.isLowercase_lowercase entry.1
  · exact lowered.small name among

/-! ## Other orders -/

/-- If names are distinct, the order does not matter for what stands under one of them. -/
theorem lookup_eq_of_perm {entries others : List (Text × Text)} (perm : entries.Perm others)
    (distinct : (entries.map Prod.fst).Nodup) (name : Text) :
    entries.lookup name = others.lookup name := by
  induction perm with
  | nil => rfl
  | cons entry _ ih =>
      rw [lookup_cons_eq, lookup_cons_eq, ih (List.nodup_cons.mp distinct).2]
  | swap entry other rest =>
      have differ : other.1 ≠ entry.1 :=
        fun same => (List.nodup_cons.mp distinct).1 (same ▸ List.mem_cons_self ..)
      rw [lookup_cons_eq, lookup_cons_eq, lookup_cons_eq, lookup_cons_eq]
      by_cases here : name = entry.1
      · rw [if_pos here, if_pos here, if_neg fun there => differ (there.symm.trans here)]
      · rw [if_neg here, if_neg here]
  | trans perm _ first second =>
      exact (first distinct).trans (second ((perm.map Prod.fst).nodup distinct))

/-- Environments are the same in any order of variables whose names differ in lower case. -/
theorem same_of_perm {first second : Environment} (perm : first.entries.Perm second.entries)
    (apart : (first.entries.map fun entry => entry.1.lowercase).Nodup) : first.Same second where
  values name := by
    have lowered : first.entries.map (fun entry => entry.1.lowercase) =
        (first.entries.map Prod.fst).map Text.lowercase := (List.map_map ..).symm
    exact lookup_eq_of_perm perm ((lowered ▸ apart).of_map _) name
  order name _ := by
    have single : (first.spellings name).length ≤ 1 := by
      rw [spellings, ← List.countP_eq_length_filter]
      have once := List.nodup_iff_count_le_one.mp apart name
      rwa [List.count, List.countP_map] at once
    have same : (first.spellings name).Perm (second.spellings name) := perm.filter _
    generalize first.spellings name = kept at single same
    match kept with
    | [] => exact (List.nil_perm.mp same).symm
    | [entry] => exact List.singleton_perm.mp same
    | _ :: _ :: _ => exact absurd single (by simp)

/-! ## The names of fields -/

theorem nestedNames_ne_nil (part text : Text) : nestedNames part text ≠ [] := by
  fun_induction nestedNames part text <;> simp_all

/-- A text is one name if it has no two underscores together. -/
theorem eq_of_nestedNames {part text name : Text} (single : nestedNames part text = [name]) :
    name = part.reverse ++ text := by
  fun_induction nestedNames part text with
  | case1 part rest =>
      exact absurd (List.cons.inj single).2 (nestedNames_ne_nil [] rest)
  | case2 part letter rest _ ih => rw [ih single, List.reverse_cons, List.append_assoc]; rfl
  | case3 part => rw [(List.cons.inj single).1, List.append_nil]

/-- Letters of nested names come from the text that they are cut from. -/
theorem mem_of_mem_nestedNames {part text name : Text} {letter : Char}
    (among : name ∈ nestedNames part text) (member : letter ∈ name) :
    letter ∈ part ∨ letter ∈ text := by
  fun_induction nestedNames part text with
  | case1 part rest ih =>
      rcases List.mem_cons.mp among with rfl | later
      · exact .inl (List.mem_reverse.mp member)
      · have inside := (ih later).resolve_left List.not_mem_nil
        exact .inr (List.mem_cons_of_mem _ (List.mem_cons_of_mem _ inside))
  | case2 part letter rest _ ih =>
      rcases ih among with first | later
      · rcases List.mem_cons.mp first with rfl | first
        · exact .inr (List.mem_cons_self ..)
        · exact .inl first
      · exact .inr (List.mem_cons_of_mem _ later)
  | case3 part =>
      rw [List.mem_singleton.mp among] at member
      exact .inl (List.mem_reverse.mp member)

/-- The names that a variable leads through below a section, from its name after the opening of the
section. -/
def path? (opening name : Text) : Option (List Text) :=
  if opening.isPrefixOf name then some (nestedNames [] (name.drop opening.length)) else none

/-- The fields that variables set after an opening. -/
def fields (opening : Text) (entries : List (Text × Text)) : Table :=
  entries.foldl
    (fun table entry =>
      match path? opening entry.1 with
      | some names => placed table names entry.2
      | none => table)
    []

/-- The nested fields of a section come from the variables behind its opening. -/
theorem nestedFields_eq (environment : Environment) (sectionName : Text) :
    environment.nestedFields sectionName =
      fields (lead ++ sectionName ++ ['_', '_']) environment.entries := by
  rw [nestedFields, fields]
  congr 1
  funext table entry
  rw [path?]
  split <;> rfl

/-- A variable sets a field itself if behind the opening stands the name of that field and no
delimiter. -/
theorem path?_eq_singleton_iff {opening name key : Text} :
    path? opening name = some [key] ↔ name = opening ++ key ∧ nestedNames [] key = [key] := by
  constructor
  · intro found
    rw [path?] at found
    split at found
    · rename_i opens
      obtain ⟨rest, rfl⟩ := List.isPrefixOf_iff_prefix.mp opens
      rw [List.drop_left, Option.some.injEq] at found
      obtain rfl : key = rest := eq_of_nestedNames found
      exact ⟨rfl, found⟩
    · cases found
  · rintro ⟨rfl, single⟩
    rw [path?, if_pos (List.isPrefixOf_iff_prefix.mpr (List.prefix_append ..)), List.drop_left,
      single]

theorem path?_ne_nil {opening name : Text} : path? opening name ≠ some [] := by
  rw [path?]
  split
  · exact fun same => nestedNames_ne_nil _ _ (Option.some.inj same)
  · exact nofun

/-! ## What stands in a field -/

/-- The text that variables set a field to. -/
def setTo? (opening : Text) (entries : List (Text × Text)) (key : Text) : Option Text :=
  if nestedNames [] key = [key] then entries.lookup (opening ++ key) else none

/-- Whether a variable leads into a field. -/
def leadsInto (opening key : Text) (entry : Text × Text) : Bool :=
  match path? opening entry.1 with
  | some (first :: _ :: _) => first == key
  | _ => false

/-- A further variable sets a field if none before it does. -/
theorem setTo?_concat (opening : Text) (entries : List (Text × Text)) (name value key : Text) :
    setTo? opening (entries ++ [(name, value)]) key =
      (setTo? opening entries key).or
        (if path? opening name = some [key] then some value else none) := by
  rw [setTo?, setTo?, List.lookup_append, lookup_cons_eq, List.lookup_nil]
  simp only [path?_eq_singleton_iff]
  by_cases single : nestedNames [] key = [key]
  · simp only [single, if_true, and_true, eq_comm]
  · simp only [single, if_false, and_false, Option.or_none]

/-- Placing a value leaves what stands under other first names. -/
theorem get?_placed_other {table : Table} {names : List Text} {key : Text}
    (other : names.head? ≠ some key) (value : Text) :
    (placed table names value).get? key = table.get? key := by
  match names with
  | [] => rfl
  | [name] => exact Table.get?_put_other table (fun same => other (congrArg some same.symm)) _
  | name :: next :: more =>
      have differ : key ≠ name := fun same => other (congrArg some same.symm)
      simp only [placed]
      split
      · exact Table.get?_put_other table differ _
      · exact Table.get?_put_other table differ _
      · rfl

/-- Something set within a field leaves a text that stands there. -/
theorem outline_get?_placed (table : Table) (key next : Text) (more : List Text) (value : Text) :
    ((placed table (key :: next :: more) value).get? key).map Value.outline =
      some (((table.get? key).map Value.outline).getD (.table [])) := by
  simp only [placed]
  split
  · rename_i absent
    rw [Table.get?_put_self, absent]
    rfl
  · rename_i inner found
    rw [Table.get?_put_self, found]
    rfl
  · rename_i kept found
    rw [found]
    rfl

/-- A variable sets a field, or leads into it, or leaves it alone. -/
theorem outline_get?_placed_of_path {opening name : Text} {names : List Text}
    (path : path? opening name = some names) (table : Table) (value key : Text) :
    ((placed table names value).get? key).map Value.outline =
      if path? opening name = some [key] then some (.text value)
      else if leadsInto opening key (name, value) then
        some (((table.get? key).map Value.outline).getD (.table []))
      else (table.get? key).map Value.outline := by
  rw [leadsInto, path]
  match names with
  | [] => exact absurd path path?_ne_nil
  | [first] =>
      by_cases here : first = key
      · subst here
        rw [if_pos rfl]
        exact congrArg (Option.map Value.outline) (Table.get?_put_self table first _)
      · have other : [first].head? ≠ some key := fun same => here (Option.some.inj same)
        have elsewhere : some [first] ≠ some [key] := by simpa using here
        rw [if_neg elsewhere, if_neg Bool.false_ne_true, get?_placed_other other]
  | first :: next :: more =>
      rw [if_neg (by simp)]
      by_cases here : first = key
      · subst here
        rw [if_pos (beq_self_eq_true first), outline_get?_placed]
      · have other : (first :: next :: more).head? ≠ some key :=
          fun same => here (Option.some.inj same)
        rw [if_neg (by simpa using here), get?_placed_other other]

theorem fields_concat (opening : Text) (entries : List (Text × Text)) (name value : Text) :
    fields opening (entries ++ [(name, value)]) =
      match path? opening name with
      | some names => placed (fields opening entries) names value
      | none => fields opening entries := by
  rw [fields, List.foldl_append]
  rfl

/-- Only one variable sets a field. -/
theorem setTo?_eq_none_of_new {opening name key : Text} {entries : List (Text × Text)}
    (path : path? opening name = some [key]) (new : name ∉ entries.map Prod.fst) :
    setTo? opening entries key = none := by
  obtain ⟨rfl, single⟩ := path?_eq_singleton_iff.mp path
  rw [setTo?, if_pos single, List.lookup_eq_none_iff]
  intro entry member
  rw [bne_iff_ne]
  exact fun same => new (same ▸ List.mem_map_of_mem member)

/-- A field holds the text that it is set to, and else a table if a variable leads into it. -/
theorem outline_get?_fields {opening : Text} {entries : List (Text × Text)}
    (distinct : (entries.map Prod.fst).Nodup) (key : Text) :
    ((fields opening entries).get? key).map Value.outline =
      ((setTo? opening entries key).map Value.text).or
        (if entries.any (leadsInto opening key) then some (.table []) else none) := by
  induction entries using List.reverseRecOn with
  | nil =>
      rw [setTo?, List.lookup_nil, ite_self]
      rfl
  | append_singleton entries entry ih =>
      obtain ⟨name, value⟩ := entry
      rw [List.map_append, List.map_singleton, List.nodup_append] at distinct
      obtain ⟨distinct, _, apart⟩ := distinct
      have new : name ∉ entries.map Prod.fst := fun member =>
        apart name member name (List.mem_singleton_self name) rfl
      have ih := ih distinct
      rw [fields_concat, setTo?_concat, List.any_append, List.any_cons, List.any_nil,
        Bool.or_false]
      cases path : path? opening name with
      | none =>
          have leads : leadsInto opening key (name, value) = false := by rw [leadsInto, path]
          rw [leads, Bool.or_false, if_neg nofun, Option.or_none, ih]
      | some names =>
          change ((placed (fields opening entries) names value).get? key).map Value.outline = _
          rw [outline_get?_placed_of_path path, path, ih]
          by_cases sets : some names = some [key]
          · rw [if_pos sets, if_pos sets, setTo?_eq_none_of_new (path.trans sets) new]
            rfl
          · rw [if_neg sets, if_neg sets, Option.or_none]
            cases leadsInto opening key (name, value) <;> cases setTo? opening entries key <;>
              cases entries.any (leadsInto opening key) <;> rfl

/-- Fields depend on which variables there are, in whatever order. -/
theorem sameFields_fields {opening : Text} {first second : List (Text × Text)}
    (distinct : (first.map Prod.fst).Nodup) (otherDistinct : (second.map Prod.fst).Nodup)
    (same : ∀ name, opening <+: name → first.lookup name = second.lookup name) :
    (fields opening first).SameFields (fields opening second) := by
  intro key
  have leads {one other : List (Text × Text)}
      (same : ∀ name, opening <+: name → one.lookup name = other.lookup name)
      (leading : one.any (leadsInto opening key) = true) :
      other.any (leadsInto opening key) = true := by
    obtain ⟨⟨name, value⟩, member, into⟩ := List.any_eq_true.mp leading
    have opens : opening <+: name := by
      rw [leadsInto, path?] at into
      split at into
      · rename_i found
        split at found
        · exact List.isPrefixOf_iff_prefix.mp ‹_›
        · cases found
      · cases into
    have found : one.lookup name ≠ none := fun absent => by
      simpa using List.lookup_eq_none_iff.mp absent _ member
    rw [same name opens, Option.ne_none_iff_exists'] at found
    obtain ⟨otherValue, found⟩ := found
    obtain ⟨before, after, whole, _⟩ := List.lookup_eq_some_iff.mp found
    refine List.any_eq_true.mpr ⟨(name, otherValue), by simp [whole], ?_⟩
    exact into
  rw [outline_get?_fields distinct, outline_get?_fields otherDistinct, setTo?, setTo?,
    same _ (List.prefix_append ..),
    Bool.eq_iff_iff.mpr ⟨leads same, leads fun name opens => (same name opens).symm⟩]

theorem mem_keys_placed {table : Table} {names : List Text} {value key : Text}
    (member : key ∈ (placed table names value).keys) :
    key ∈ table.keys ∨ names.head? = some key := by
  by_cases first : names.head? = some key
  · exact .inr first
  · refine .inl (Decidable.by_contra fun absent => ?_)
    rw [← Table.get?_eq_none_iff, ← get?_placed_other first value, Table.get?_eq_none_iff] at absent
    exact absent member

theorem nodup_placed {table : Table} (distinct : table.keys.Nodup) (names : List Text)
    (value : Text) : (placed table names value).keys.Nodup := by
  match names with
  | [] => exact distinct
  | [name] => exact Table.nodup_put distinct name _
  | name :: next :: more =>
      simp only [placed]
      split
      · exact Table.nodup_put distinct name _
      · exact Table.nodup_put distinct name _
      · exact distinct

theorem nodup_fields (opening : Text) (entries : List (Text × Text)) :
    (fields opening entries).keys.Nodup := by
  refine List.foldlRecOn entries _ (motive := fun table : Table => table.keys.Nodup)
    List.nodup_nil ?_
  intro table distinct entry _
  split
  · exact nodup_placed distinct _ _
  · exact distinct

/-- Fields are named in lower case if variables are. -/
theorem isLowercase_of_mem_fields {opening key : Text} {entries : List (Text × Text)}
    (small : ∀ name ∈ entries.map Prod.fst, name.IsLowercase)
    (member : key ∈ (fields opening entries).keys) : key.IsLowercase := by
  revert key
  refine List.foldlRecOn entries _
    (motive := fun table : Table => ∀ {key : Text}, key ∈ table.keys → key.IsLowercase)
    (fun member => by cases member) ?_
  intro table lowered entry among key member
  split at member
  · rename_i names found
    rcases mem_keys_placed member with known | first
    · exact lowered known
    · intro letter inside
      rw [path?] at found
      split at found
      · cases found
        have named := List.mem_of_head? first
        have later := (mem_of_mem_nestedNames named inside).resolve_left List.not_mem_nil
        exact small entry.1 (List.mem_map_of_mem among) letter (List.mem_of_mem_drop later)
      · cases found
  · exact lowered member

end Environment

end UriEndpoint
