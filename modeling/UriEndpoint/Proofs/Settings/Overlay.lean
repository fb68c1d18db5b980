import UriEndpoint.Proofs.Value.Keys
import UriEndpoint.Settings.Layer

/-! # Looking up what is laid over

A table whose keys are distinct can be read off by looking its keys up. The same then goes for a
table laid over another: under each key stands the upper value, laid over the lower one if both are
tables, and the lower value where the upper table has none. A field of a section comes from the
upper section if that has it, and from the lower one unless something else stands in its place
above. Only the outline of a value is said to be that of the value above, since a table that stands
above takes up entries of the one below.
-/

namespace UriEndpoint

namespace Table

variable {table lower upper : Table}

/-! ## Laying over -/

theorem nodup_overlaid (distinct : lower.keys.Nodup) (upper : Table) :
    (lower.overlaid upper).keys.Nodup := by
  induction upper generalizing lower with
  | nil => exact distinct
  | cons entry rest ih =>
      obtain ⟨key, value⟩ := entry
      rw [overlaid_cons]
      exact ih (nodup_put distinct key _)

/-- The keys of the lower table stay in order, and new ones follow in the order of the upper one. -/
theorem keys_overlaid (distinct : upper.keys.Nodup) (lower : Table) :
    (lower.overlaid upper).keys = lower.keys ++ upper.keys.filter (· ∉ lower.keys) := by
  induction upper generalizing lower with
  | nil => simp [overlaid_nil, keys]
  | cons entry rest ih =>
      obtain ⟨key, value⟩ := entry
      rw [keys_cons, List.nodup_cons] at distinct
      rw [overlaid_cons, ih distinct.2, keys_put, keys_cons, List.filter_cons]
      by_cases known : key ∈ lower.keys
      · simp [known]
      · have later : (keys rest).filter (· ∉ lower.keys ++ [key]) =
            (keys rest).filter (· ∉ lower.keys) := by
          apply List.filter_congr
          intro other member
          have differ : other ≠ key := fun same => distinct.1 (same ▸ member)
          simp [differ]
        simp only [known, if_false, later, not_false_eq_true, decide_true, if_true,
          List.append_assoc, List.singleton_append]

/-- Under each key stands the upper value, laid over the lower one. -/
theorem get?_overlaid (distinct : upper.keys.Nodup) (lower : Table) (key : Text) :
    (lower.overlaid upper).get? key =
      match upper.get? key with
      | none => lower.get? key
      | some value => some (Value.overlaid (lower.get? key) value) := by
  induction upper generalizing lower with
  | nil => rfl
  | cons entry rest ih =>
      obtain ⟨other, value⟩ := entry
      rw [keys_cons, List.nodup_cons] at distinct
      rw [overlaid_cons, ih distinct.2, get?_cons]
      by_cases same : key = other
      · have later : Table.get? rest key = none :=
          (get?_eq_none_iff rest key).mpr (same ▸ distinct.1)
        rw [later, if_pos same, same]
        exact get?_put_self lower other _
      · rw [if_neg same, get?_put_other lower same]

theorem get?_overlaid_nil (distinct : table.keys.Nodup) (key : Text) :
    (overlaid [] table).get? key = table.get? key := by
  rw [get?_overlaid distinct, get?_nil]
  cases table.get? key with
  | none => rfl
  | some value => cases value <;> rfl

/-- A table over the empty one stays as it is. -/
theorem overlaid_empty (distinct : table.keys.Nodup) : overlaid [] table = table := by
  apply ext_of_get? (nodup_overlaid nodup_nil table)
  · rw [keys_overlaid distinct]
    simp [keys]
  · exact get?_overlaid_nil distinct

/-- Laying over repeats no key in the tables under the keys either. -/
theorem Distinct.overlaid (distinct : lower.Distinct) (above : upper.Distinct) :
    (lower.overlaid upper).Distinct := by
  refine ⟨nodup_overlaid distinct.nodup upper, ?_⟩
  intro key entries found
  rw [get?_overlaid above.nodup] at found
  cases upperFound : upper.get? key with
  | none =>
      rw [upperFound] at found
      exact distinct.inside key entries found
  | some value =>
      rw [upperFound] at found
      have result : Value.overlaid (lower.get? key) value = .table entries := Option.some.inj found
      cases value with
      | table inner =>
          have plain := above.inside key inner upperFound
          cases lowerFound : lower.get? key with
          | none =>
              rw [lowerFound] at result
              cases result
              exact plain
          | some below =>
              rw [lowerFound] at result
              cases below with
              | table others =>
                  cases result
                  exact nodup_overlaid (distinct.inside key others lowerFound) inner
              | _ =>
                  cases result
                  exact plain
      | _ => cases result

end Table

/-! ## Outlines -/

/-- A value with the entries of a table left out. -/
def Value.outline : Value → Value
  | .table _ => .table []
  | other => other

/-- A value laid over another has its own outline. -/
theorem Value.outline_overlaid (lower : Option Value) (value : Value) :
    (Value.overlaid lower value).outline = value.outline := by
  cases value with
  | table upper =>
      cases lower with
      | none => rfl
      | some below => cases below <;> rfl
  | _ => rfl

/-- The value of a field in what stands in the place of a section. -/
def fieldIn? (found : Option Value) (name : Text) : Option Value :=
  (found.bind Value.table?).bind fun entries => Table.get? entries name

/-- The value of a field in a section laid over another. Something else than a table hides the
section below it. -/
def fieldOver? (below above : Option Value) (name : Text) : Option Value :=
  match above with
  | none => fieldIn? below name
  | some (.table entries) => (Table.get? entries name).or (fieldIn? below name)
  | some _ => none

/-- Nothing but a table stands there. -/
def OnlyTable : Option Value → Prop
  | none | some (.table _) => True
  | some _ => False

/-- Whether a value can be a section shows in its outline. -/
theorem onlyTable_outline (found : Option Value) :
    OnlyTable (found.map Value.outline) ↔ OnlyTable found := by
  cases found with
  | none => exact Iff.rfl
  | some value => cases value <;> exact Iff.rfl

/-- If the first value found can be a section, so can the upper one. -/
theorem OnlyTable.of_or {above below : Option Value} (only : OnlyTable (above.or below)) :
    OnlyTable above := by
  cases above with
  | none => trivial
  | some value => exact only

/-- A field comes from the upper section, or else from the lower one. -/
theorem fieldOver?_of_onlyTable {above : Option Value} (only : OnlyTable above)
    (below : Option Value) (name : Text) :
    fieldOver? below above name = (fieldIn? above name).or (fieldIn? below name) := by
  cases above with
  | none => rfl
  | some value =>
      cases value with
      | table entries => rfl
      | _ => exact only.elim

namespace Table

variable {upper : Table}

/-- Under a key stands the outline of the upper value, or else of the lower one. -/
theorem outline_get?_overlaid (distinct : upper.keys.Nodup) (lower : Table) (key : Text) :
    ((lower.overlaid upper).get? key).map Value.outline =
      ((upper.get? key).or (lower.get? key)).map Value.outline := by
  rw [get?_overlaid distinct]
  cases upper.get? key with
  | none => rfl
  | some value => exact congrArg some (Value.outline_overlaid _ value)

/-- In a section that is laid over another a field has the outline that the two sections give it. -/
theorem outline_fieldIn?_overlaid (distinct : upper.Distinct) (lower : Table) (key name : Text) :
    (fieldIn? ((lower.overlaid upper).get? key) name).map Value.outline =
      (fieldOver? (lower.get? key) (upper.get? key) name).map Value.outline := by
  rw [get?_overlaid distinct.nodup]
  cases found : upper.get? key with
  | none => rfl
  | some value =>
      cases value with
      | table entries =>
          have alone : (get? entries name).or none = get? entries name := Option.or_none
          cases lower.get? key with
          | none => exact congrArg (Option.map Value.outline) alone.symm
          | some below =>
              cases below with
              | table others => exact outline_get?_overlaid (distinct.inside key _ found) others name
              | _ => exact congrArg (Option.map Value.outline) alone.symm
      | _ => rfl

end Table

end UriEndpoint
