import UriEndpoint.Proofs.Settings.Overlay
import UriEndpoint.Proofs.Value.Paths

/-! # Laying over, path by path

What stands at a path of a table laid over another is decided by what the upper table has there. A
table of the upper one is laid over a table that stands below it, and anything else of the upper one
stands alone. Where the tables of the upper one come to an end the lower one shows through, but
below a value of the upper one that is no table there is nothing. Tables are values, so the two
tables themselves stay what they are.
-/

namespace UriEndpoint

/-! ## One key -/

namespace Value

theorem table?_eq_some_iff {value : Value} {entries : Table} :
    value.table? = some entries ↔ value = .table entries := by
  cases value <;> simp [table?]

theorem overlaid_none (value : Value) : Value.overlaid none value = value := by
  cases value <;> rfl

/-- Either two tables meet or the upper value stands alone. -/
theorem overlaid_cases (lower : Option Value) (value : Value) :
    (∃ below above, lower = some (.table below) ∧ value = .table above) ∨
      (Value.overlaid lower value = value ∧
        (value.table? = none ∨ lower.bind Value.table? = none)) := by
  cases value with
  | table above =>
      cases lower with
      | none => exact .inr ⟨rfl, .inr rfl⟩
      | some under =>
          cases under with
          | table below => exact .inl ⟨below, above, rfl, rfl⟩
          | _ => exact .inr ⟨rfl, .inr rfl⟩
  | _ => exact .inr ⟨rfl, .inl rfl⟩

end Value

namespace Table

variable {lower upper : Table} {key : Text} {path : List Text}

/-- Under a key that the upper table does not have the lower one shows through. -/
theorem at?_cons_overlaid_of_missing (keyed : upper.Keyed) (missing : upper.get? key = none)
    (lower : Table) (path : List Text) :
    (lower.overlaid upper).at? (key :: path) = lower.at? (key :: path) := by
  rw [at?_cons, get?_overlaid keyed.nodup, missing, at?_cons]

/-- Under a key where both have tables these are laid over each other. -/
theorem at?_cons_overlaid_of_tables {below above : Table} (keyed : upper.Keyed)
    (found : upper.get? key = some (.table above)) (under : lower.get? key = some (.table below))
    (path : List Text) :
    (lower.overlaid upper).at? (key :: path) = (below.overlaid above).at? path := by
  rw [at?_cons, get?_overlaid keyed.nodup, found, under]
  rfl

/-- Under a key where the upper value stands alone nothing of the lower table is left. -/
theorem at?_cons_overlaid_of_kept {value : Value} (keyed : upper.Keyed)
    (found : upper.get? key = some value)
    (kept : Value.overlaid (lower.get? key) value = value) (path : List Text) :
    (lower.overlaid upper).at? (key :: path) = upper.at? (key :: path) := by
  have here : (lower.overlaid upper).get? key = some value := by
    rw [get?_overlaid keyed.nodup, found]
    exact congrArg some kept
  rw [at?_cons_of_get? here, at?_cons_of_get? found]

/-! ## Whole paths -/

/-- A value that is not a table stands on the way. -/
def CutsOff (table : Table) (path : List Text) : Prop :=
  ∃ front key rest value, path = front ++ key :: rest ∧ table.at? front = some value ∧
    value.table? = none

theorem CutsOff.cons {inner : Table} (found : upper.get? key = some (.table inner))
    (cut : inner.CutsOff path) : upper.CutsOff (key :: path) := by
  obtain ⟨front, next, rest, value, rfl, reached, plain⟩ := cut
  refine ⟨key :: front, next, rest, value, rfl, ?_, plain⟩
  rw [at?_cons_of_get? found]
  exact reached

/-- What the upper table has at a path is laid over what the lower one has there. -/
theorem at?_overlaid_of_reached {value : Value} (keyed : upper.Keyed)
    (reached : upper.at? path = some value) (lower : Table) :
    (lower.overlaid upper).at? path = some (Value.overlaid (lower.at? path) value) := by
  -- Both tables change with each key that they share; where they do not, the upper value is kept.
  induction path generalizing lower upper with
  | nil =>
      cases reached
      rfl
  | cons key path ih =>
      cases found : upper.get? key with
      | none =>
          rw [at?_cons, found] at reached
          cases reached
      | some inner =>
          rcases Value.overlaid_cases (lower.get? key) inner with
            ⟨below, above, under, rfl⟩ | ⟨kept, alone⟩
          · rw [at?_cons_of_get? found] at reached
            rw [at?_cons_overlaid_of_tables keyed found under, at?_cons_of_get? under]
            exact ih (keyed.inside found) reached below
          · rw [at?_cons_overlaid_of_kept keyed found kept, reached]
            rw [at?_cons_of_get? found] at reached
            cases path with
            | nil =>
                obtain rfl : inner = value := Option.some.inj reached
                have single : lower.at? [key] = lower.get? key := Option.bind_fun_some _
                rw [single, kept]
            | cons next path =>
                -- The path leads on, so the upper value is a table and the lower one is not.
                have plain : lower.at? (key :: next :: path) = none := by
                  rcases alone with plain | plain
                  · rw [Value.at?_cons_of_not_table plain] at reached
                    cases reached
                  · exact at?_cons_cons_of_not_table plain next path
                rw [plain, Value.overlaid_none]

/-- Nothing stands below a value of the upper table that is no table. -/
theorem at?_overlaid_of_cutsOff (keyed : upper.Keyed) (cut : upper.CutsOff path)
    (lower : Table) : (lower.overlaid upper).at? path = none := by
  obtain ⟨front, key, rest, value, rfl, reached, plain⟩ := cut
  have result := at?_overlaid_of_reached keyed reached lower
  rcases Value.overlaid_cases (lower.at? front) value with ⟨_, _, _, rfl⟩ | ⟨kept, _⟩
  · cases plain
  · rw [kept] at result
    exact at?_append_cons_of_not_table result plain key rest

/-- Where the tables of the upper one come to an end the lower one shows through. -/
theorem at?_overlaid_of_absent (keyed : upper.Keyed) (absent : upper.at? path = none)
    (uncut : ¬upper.CutsOff path) (lower : Table) :
    (lower.overlaid upper).at? path = lower.at? path := by
  induction path generalizing lower upper with
  | nil => cases absent
  | cons key path ih =>
      cases found : upper.get? key with
      | none => exact at?_cons_overlaid_of_missing keyed found lower path
      | some inner =>
          rcases Value.overlaid_cases (lower.get? key) inner with
            ⟨below, above, under, rfl⟩ | ⟨kept, alone⟩
          · rw [at?_cons_overlaid_of_tables keyed found under, at?_cons_of_get? under]
            rw [at?_cons_of_get? found] at absent
            exact ih (keyed.inside found) absent (fun cut => uncut (cut.cons found)) below
          · rw [at?_cons_overlaid_of_kept keyed found kept, absent]
            rw [at?_cons_of_get? found] at absent
            cases path with
            | nil => cases absent
            | cons next path =>
                rcases alone with plain | plain
                · refine absurd ⟨[key], next, path, inner, rfl, ?_, plain⟩ uncut
                  rw [at?_cons_of_get? found]
                  rfl
                · exact (at?_cons_cons_of_not_table plain next path).symm

/-- What stands at a path of a table laid over another. -/
inductive OverlaidAt (lower upper : Table) (path : List Text) : Option Value → Prop
  /-- Something else than a table stands on the way in the upper table. -/
  | cutOff (cut : upper.CutsOff path) : OverlaidAt lower upper path none
  /-- Something else than a table stands there in the upper table. -/
  | replaced {value : Value} (reached : upper.at? path = some value)
      (plain : value.table? = none) : OverlaidAt lower upper path (some value)
  /-- Both tables have a table there. -/
  | merged {below above : Table} (reached : upper.at? path = some (.table above))
      (under : lower.at? path = some (.table below)) :
      OverlaidAt lower upper path (some (.table (below.overlaid above)))
  /-- The upper table alone has a table there. -/
  | taken {above : Table} (reached : upper.at? path = some (.table above))
      (plain : (lower.at? path).bind Value.table? = none) :
      OverlaidAt lower upper path (some (.table above))
  /-- The tables of the upper one stop short of the path. -/
  | left (absent : upper.at? path = none) (uncut : ¬upper.CutsOff path) :
      OverlaidAt lower upper path (lower.at? path)

/-- What the cases say stands at the path. -/
theorem OverlaidAt.at?_eq {result : Option Value} (keyed : upper.Keyed)
    (overlaid : OverlaidAt lower upper path result) :
    (lower.overlaid upper).at? path = result := by
  cases overlaid with
  | cutOff cut => exact at?_overlaid_of_cutsOff keyed cut lower
  | left absent uncut => exact at?_overlaid_of_absent keyed absent uncut lower
  | merged reached under =>
      rw [at?_overlaid_of_reached keyed reached, under]
      rfl
  | @replaced value reached plain =>
      rw [at?_overlaid_of_reached keyed reached]
      rcases Value.overlaid_cases (lower.at? path) value with ⟨_, _, _, rfl⟩ | ⟨kept, _⟩
      · cases plain
      · rw [kept]
  | @taken above reached plain =>
      rw [at?_overlaid_of_reached keyed reached]
      rcases Value.overlaid_cases (lower.at? path) (.table above) with ⟨_, _, under, _⟩ | ⟨kept, _⟩
      · rw [under] at plain
        cases plain
      · rw [kept]

/-- At every path one of the cases holds. -/
theorem exists_overlaidAt (lower upper : Table) (path : List Text) :
    ∃ result, OverlaidAt lower upper path result := by
  cases reached : upper.at? path with
  | none =>
      by_cases cut : upper.CutsOff path
      · exact ⟨_, .cutOff cut⟩
      · exact ⟨_, .left reached cut⟩
  | some value =>
      cases shape : value.table? with
      | none => exact ⟨_, .replaced reached shape⟩
      | some above =>
          obtain rfl := Value.table?_eq_some_iff.mp shape
          cases under : (lower.at? path).bind Value.table? with
          | none => exact ⟨_, .taken reached under⟩
          | some below =>
              obtain ⟨found, there, isTable⟩ := Option.bind_eq_some_iff.mp under
              obtain rfl := Value.table?_eq_some_iff.mp isTable
              exact ⟨_, .merged reached there⟩

/-- What stands at a path comes from one of the two tables. -/
theorem OverlaidAt.isSome {value : Value} (overlaid : OverlaidAt lower upper path (some value)) :
    (lower.at? path).isSome ∨ (upper.at? path).isSome := by
  generalize shown : some value = result at overlaid
  cases overlaid with
  | cutOff => cases shown
  | left =>
      left
      rw [← shown]
      rfl
  | replaced reached | merged reached | taken reached =>
      right
      rw [reached]
      rfl

/-- **A table laid over another, path by path.** Five cases say what stands at a path, one of them
holds for each path and it decides the value. Nothing stands where neither table has anything. Both
are values, so laying one over the other leaves them as they are. -/
theorem overlaid_path_by_path (keyed : upper.Keyed) (lower : Table) (path : List Text) :
    (∀ result, (lower.overlaid upper).at? path = result ↔ OverlaidAt lower upper path result) ∧
    (((lower.overlaid upper).at? path).isSome →
      (lower.at? path).isSome ∨ (upper.at? path).isSome) := by
  have holds : OverlaidAt lower upper path ((lower.overlaid upper).at? path) := by
    obtain ⟨result, overlaid⟩ := exists_overlaidAt lower upper path
    rw [overlaid.at?_eq keyed]
    exact overlaid
  refine ⟨fun result => ⟨?_, fun overlaid => overlaid.at?_eq keyed⟩, ?_⟩
  · rintro rfl
    exact holds
  · intro present
    obtain ⟨value, found⟩ := Option.isSome_iff_exists.mp present
    rw [found] at holds
    exact holds.isSome

/-- Below null, a table and a number there are a table, a text and nothing. -/
def plainLayer : Table :=
  [(['a'], .table [(['x'], .table [(['p'], .integer 1)]), (['y'], .text ['s']), (['z'], .null)])]

def mixedLayer : Table :=
  [(['a'], .table [(['x'], .null), (['y'], .table []), (['w'], .integer 2)])]

/-- Null over a table, a table over a text, and nothing over null. -/
theorem overlaid_path_by_path_of_mixed_values :
    mixedLayer.Keyed ∧
      (plainLayer.overlaid mixedLayer).at? [['a'], ['x']] = some .null ∧
      (plainLayer.overlaid mixedLayer).at? [['a'], ['x'], ['p']] = none ∧
      (plainLayer.overlaid mixedLayer).at? [['a'], ['y']] = some (.table []) ∧
      (plainLayer.overlaid mixedLayer).at? [['a'], ['z']] = some .null := by
  have keyed : mixedLayer.Keyed := by simp [mixedLayer, Keyed, Value.Keyed, keys]
  have law (path : List Text) (result : Option Value) :=
    (overlaid_path_by_path keyed plainLayer path).1 result
  have uncut : ¬mixedLayer.CutsOff [['a'], ['z']] := by
    rintro ⟨front, key, rest, value, split, reached, plain⟩
    rcases front with _ | ⟨first, _ | ⟨second, more⟩⟩
    · cases reached
      cases plain
    · obtain ⟨rfl, _⟩ := List.cons.inj split
      cases reached
      cases plain
    · simp at split
  refine ⟨keyed, (law _ _).mpr (.replaced rfl rfl), ?_, (law _ _).mpr (.taken rfl rfl), ?_⟩
  · exact (law _ _).mpr (.cutOff ⟨[['a'], ['x']], ['p'], [], .null, rfl, rfl, rfl⟩)
  · exact (law _ _).mpr (.left rfl uncut)

end Table

end UriEndpoint
