import Mathlib.Data.List.Nodup
import UriEndpoint.Value.Basic

/-! # Keys of tables

A table whose keys are distinct can be read off by looking its keys up: it is determined by its keys
in order and by what stands under each of them (`Table.ext_of_get?`). The tables that stand in it may
have keys of their own more than once, so distinct keys are asked for on one level further
(`Table.Distinct`) or on every level that is reached through tables (`Table.Keyed`).
-/

namespace UriEndpoint

mutual

/-- No table has a key twice, of those reached through tables. -/
def Value.Keyed : Value → Prop
  | .table entries => Table.Keyed entries
  | _ => True

/-- No key stands twice, in the table or in those reached from it through tables. -/
def Table.Keyed : Table → Prop
  | [] => True
  | (key, value) :: rest => key ∉ Table.keys rest ∧ Value.Keyed value ∧ Table.Keyed rest

end

namespace Table

variable {table : Table}

/-- Keys are distinct, in the table and in the tables that stand in it. -/
structure Distinct (table : Table) : Prop where
  nodup : table.keys.Nodup
  inside : ∀ key entries, table.get? key = some (.table entries) → (Table.keys entries).Nodup

/-! ## Looking keys up -/

theorem keys_cons (key : Text) (value : Value) (rest : Table) :
    keys ((key, value) :: rest) = key :: rest.keys := rfl

/-- A table has nothing under a key exactly if the key is not among its keys. -/
theorem get?_eq_none_iff (table : Table) (key : Text) :
    table.get? key = none ↔ key ∉ table.keys := by
  induction table with
  | nil => simp [get?, keys]
  | cons entry rest ih =>
      obtain ⟨other, value⟩ := entry
      rw [get?_cons, keys_cons, List.mem_cons, not_or]
      by_cases same : key = other
      · simp [same]
      · simp [same, ih]

/-- What stands under a key is an entry. -/
theorem mem_of_get? {key : Text} {value : Value} (found : table.get? key = some value) :
    (key, value) ∈ table := by
  induction table with
  | nil => cases found
  | cons entry rest ih =>
      obtain ⟨other, kept⟩ := entry
      rw [get?_cons] at found
      by_cases same : key = other
      · rw [if_pos same] at found
        rw [same, Option.some.inj found]
        exact List.mem_cons_self ..
      · rw [if_neg same] at found
        exact List.mem_cons_of_mem _ (ih found)

/-- Where no key comes twice, every entry is found under its key. -/
theorem get?_of_mem {key : Text} {value : Value} (distinct : table.keys.Nodup)
    (member : (key, value) ∈ table) : table.get? key = some value := by
  induction table with
  | nil => cases member
  | cons entry rest ih =>
      obtain ⟨other, kept⟩ := entry
      rw [keys_cons, List.nodup_cons] at distinct
      rw [get?_cons]
      rcases List.mem_cons.mp member with same | later
      · cases same
        rw [if_pos rfl]
      · have differ : key ≠ other := by
          intro same
          exact distinct.1 (same ▸ List.mem_map_of_mem later)
        rw [if_neg differ]
        exact ih distinct.2 later

/-- Tables with distinct keys are the same if their keys and what stands under them are. -/
theorem ext_of_get? {first second : Table} (distinct : first.keys.Nodup)
    (order : first.keys = second.keys) (values : ∀ key, first.get? key = second.get? key) :
    first = second := by
  induction first generalizing second with
  | nil =>
      cases second with
      | nil => rfl
      | cons entry rest => cases order
  | cons entry rest ih =>
      obtain ⟨key, value⟩ := entry
      rcases second with _ | ⟨⟨other, found⟩, others⟩
      · cases order
      · rw [keys_cons, keys_cons] at order
        obtain ⟨rfl, later⟩ := List.cons.inj order
        rw [keys_cons, List.nodup_cons] at distinct
        have here := values key
        rw [get?_cons, get?_cons, if_pos rfl, if_pos rfl] at here
        obtain rfl := Option.some.inj here
        have tails : rest = others := by
          apply ih distinct.2 later
          intro name
          by_cases same : name = key
          · subst same
            rw [(get?_eq_none_iff rest name).mpr distinct.1,
              (get?_eq_none_iff others name).mpr (later ▸ distinct.1)]
          · simpa [get?_cons, same] using values name
        rw [tails]

/-! ## Writing and filling -/

theorem mem_keys_put (table : Table) (key other : Text) (value : Value) :
    other ∈ (table.put key value).keys ↔ other = key ∨ other ∈ table.keys := by
  induction table with
  | nil => simp [put_nil, keys]
  | cons entry rest ih =>
      obtain ⟨first, kept⟩ := entry
      rw [put_cons]
      by_cases same : first = key
      · rw [if_pos same, keys_cons, keys_cons, same]
        simp
      · rw [if_neg same, keys_cons, keys_cons, List.mem_cons, ih, List.mem_cons]
        exact or_left_comm

/-- Putting an entry keeps the order of keys, and a new key comes last. -/
theorem keys_put (table : Table) (key : Text) (value : Value) :
    (table.put key value).keys =
      if key ∈ table.keys then table.keys else table.keys ++ [key] := by
  induction table with
  | nil => rfl
  | cons entry rest ih =>
      obtain ⟨first, kept⟩ := entry
      rw [put_cons]
      by_cases same : first = key
      · simp [same, keys_cons]
      · simp only [same, Ne.symm same, if_false, keys_cons, ih, List.mem_cons, false_or]
        split <;> rfl

theorem nodup_nil : (keys []).Nodup := List.nodup_nil

/-- Putting an entry repeats no key. -/
theorem nodup_put (distinct : table.keys.Nodup) (key : Text) (value : Value) :
    (table.put key value).keys.Nodup := by
  induction table with
  | nil => exact List.nodup_singleton key
  | cons entry rest ih =>
      obtain ⟨first, kept⟩ := entry
      rw [keys_cons, List.nodup_cons] at distinct
      rw [put_cons]
      by_cases same : first = key
      · rw [if_pos same, keys_cons, List.nodup_cons, ← same]
        exact distinct
      · rw [if_neg same, keys_cons, List.nodup_cons, mem_keys_put, not_or]
        exact ⟨⟨same, distinct.1⟩, ih distinct.2⟩

theorem nodup_putAll (distinct : table.keys.Nodup) (entries : Table) :
    (table.putAll entries).keys.Nodup := by
  induction entries generalizing table with
  | nil => exact distinct
  | cons entry rest ih => exact ih (nodup_put distinct entry.1 entry.2)

theorem nodup_fillAll (distinct : table.keys.Nodup) (entries : Table) :
    (table.fillAll entries).keys.Nodup := by
  induction entries generalizing table with
  | nil => exact distinct
  | cons entry rest ih =>
      rw [fillAll, List.foldl_cons]
      cases table.get? entry.1 with
      | none => exact ih (nodup_put distinct entry.1 entry.2)
      | some kept => exact ih distinct

/-- Of the entries written into a table the last with the key counts. -/
theorem get?_putAll (table entries : Table) (key : Text) :
    (table.putAll entries).get? key =
      ((entries.filter fun entry => entry.1 == key).getLast?.map Prod.snd).or (table.get? key) := by
  induction entries generalizing table with
  | nil => rfl
  | cons entry rest ih =>
      obtain ⟨other, value⟩ := entry
      refine (ih (table.put other value)).trans ?_
      by_cases same : other = key
      · subst same
        rw [get?_put_self, List.filter_cons, if_pos (beq_self_eq_true other), List.getLast?_cons]
        cases (rest.filter fun entry => entry.1 == other).getLast? <;> rfl
      · rw [get?_put_other table (Ne.symm same), List.filter_cons,
          if_neg fun found => same (beq_iff_eq.mp found)]

/-- What a table has stays when it is filled, and else the first entry with the key counts. -/
theorem get?_fillAll (table entries : Table) (key : Text) :
    (table.fillAll entries).get? key = (table.get? key).or (entries.get? key) := by
  induction entries generalizing table with
  | nil => exact (Option.or_none).symm
  | cons entry rest ih =>
      obtain ⟨other, value⟩ := entry
      rw [fillAll, List.foldl_cons, get?_cons]
      cases kept : table.get? other with
      | some _ =>
          refine (ih table).trans ?_
          by_cases same : key = other
          · rw [same, kept, Option.some_or, Option.some_or]
          · rw [if_neg same]
      | none =>
          refine (ih (table.put other value)).trans ?_
          by_cases same : key = other
          · rw [if_pos same, same, get?_put_self, kept, Option.some_or, Option.none_or]
          · rw [if_neg same, get?_put_other table same]

/-- The last entry whose key is wanted has the last such key, and what stands under it. -/
theorem getLast?_filter_keys (distinct : table.keys.Nodup) (wanted : Text → Bool) :
    (table.filter fun entry => wanted entry.1).getLast?.map Prod.snd =
      (table.keys.filter wanted).getLast?.bind table.get? := by
  have keys : table.keys.filter wanted =
      (table.filter fun entry => wanted entry.1).map Prod.fst := List.filter_map
  rw [keys, List.getLast?_map]
  cases last : (table.filter fun entry => wanted entry.1).getLast? with
  | none => rfl
  | some entry =>
      have member := List.mem_of_mem_filter (List.mem_of_getLast? last)
      exact (get?_of_mem distinct member).symm

/-! ## Tables in tables -/

/-- Keys are distinct in a table and in the tables right below it. -/
theorem distinct_iff : table.Distinct ↔
    table.keys.Nodup ∧ ∀ entry ∈ table, (Table.keys (entry.2.table?.getD [])).Nodup := by
  constructor
  · rintro ⟨distinct, inside⟩
    refine ⟨distinct, ?_⟩
    rintro ⟨key, value⟩ member
    cases value with
    | table entries => exact inside key entries (get?_of_mem distinct member)
    | _ => exact List.nodup_nil
  · rintro ⟨distinct, each⟩
    exact ⟨distinct, fun key entries found => each _ (mem_of_get? found)⟩

instance (table : Table) : Decidable table.Distinct := decidable_of_iff' _ distinct_iff

theorem keyed_nil : Keyed [] := trivial

/-- A table without repeated keys at any depth has none at the top. -/
theorem Keyed.nodup (keyed : table.Keyed) : table.keys.Nodup := by
  induction table with
  | nil => exact List.nodup_nil
  | cons entry rest ih =>
      obtain ⟨absent, _, others⟩ := keyed
      exact List.nodup_cons.mpr ⟨absent, ih others⟩

/-- A table without repeated keys at any depth has none in the tables under its keys. -/
theorem Keyed.inside {entries : Table} (keyed : table.Keyed)
    (found : table.get? key = some (.table entries)) : entries.Keyed := by
  induction table with
  | nil => cases found
  | cons entry rest ih =>
      obtain ⟨other, value⟩ := entry
      obtain ⟨_, here, others⟩ := keyed
      rw [get?_cons] at found
      by_cases same : key = other
      · rw [if_pos same] at found
        cases found
        exact here
      · rw [if_neg same] at found
        exact ih others found

/-- Of keys at any depth those of two levels are distinct too. -/
theorem Keyed.distinct (keyed : table.Keyed) : table.Distinct :=
  ⟨keyed.nodup, fun _ _ found => (keyed.inside found).nodup⟩

/-- Putting a value without repeated keys repeats none. -/
theorem Keyed.put (keyed : table.Keyed) (key : Text) {value : Value} (inner : value.Keyed) :
    (table.put key value).Keyed := by
  induction table with
  | nil => exact ⟨List.not_mem_nil, inner, trivial⟩
  | cons entry rest ih =>
      obtain ⟨first, kept⟩ := entry
      obtain ⟨absent, here, others⟩ := keyed
      rw [put_cons]
      by_cases same : first = key
      · subst same
        rw [if_pos rfl]
        exact ⟨absent, inner, others⟩
      · rw [if_neg same]
        refine ⟨?_, here, ih others⟩
        rw [mem_keys_put, not_or]
        exact ⟨same, absent⟩

/-- What holds of a table whenever it holds of the tables under its keys holds of every table. -/
theorem induction_on_inner {motive : Table → Prop}
    (step : ∀ table : Table, (∀ key entries, table.get? key = some (.table entries) →
      motive entries) → motive table) (table : Table) : motive table :=
  step table fun _ entries found =>
    have smaller : sizeOf entries < sizeOf table := by
      have inside := List.sizeOf_lt_of_mem (mem_of_get? found)
      simp only [Prod.mk.sizeOf_spec, Value.table.sizeOf_spec] at inside
      omega
    induction_on_inner step entries
termination_by sizeOf table
decreasing_by exact smaller

end Table

end UriEndpoint
