import Mathlib.Logic.Function.Basic

/-!
# Keyed tables as partial functions

A table that is only ever read, extended and shortened one key at a time is its
lookup function. Two tables with the same lookups are equal, whatever order
their entries were written in, so equality of tables is pointwise equality.
A list of entries whose keys differ is such a table too: a key selects one of
them or none.
-/

namespace PartialMap

universe u v
variable {κ : Type u} {ν : Type v} [DecidableEq κ]

/-- The table in which no key is present. -/
def empty : κ → Option ν := fun _ => none

/-- Bind `key` to `value`, replacing whatever it was bound to. -/
def insert (table : κ → Option ν) (key : κ) (value : ν) : κ → Option ν :=
  Function.update table key (some value)

/-- Unbind `key`. -/
def erase (table : κ → Option ν) (key : κ) : κ → Option ν :=
  Function.update table key none

/-- Only the written key changes its lookup. -/
@[simp] theorem insert_apply (table : κ → Option ν) (key other : κ) (value : ν) :
    insert table key value other = if other = key then some value else table other := by
  simp only [insert, Function.update_apply]

/-- What is found after a write was written or was there before. -/
theorem insert_eq_some {table : κ → Option ν} {key other : κ} {value found : ν}
    (lookup : insert table key value other = some found) :
    (other = key ∧ found = value) ∨ (other ≠ key ∧ table other = some found) := by
  rw [insert_apply] at lookup
  by_cases same : other = key
  · rw [if_pos same] at lookup
    exact Or.inl ⟨same, (Option.some.inj lookup).symm⟩
  · rw [if_neg same] at lookup
    exact Or.inr ⟨same, lookup⟩

/-- Only the erased key changes its lookup. -/
@[simp] theorem erase_apply (table : κ → Option ν) (key other : κ) :
    erase table key other = if other = key then none else table other := by
  simp only [erase, Function.update_apply]

section Map

variable {μ : Type v} (f : ν → μ) (table : κ → Option ν) (key : κ)

/-- Writing an image writes to the image of the table. -/
theorem insert_map (value : ν) :
    insert (fun other => (table other).map f) key (f value) =
      fun other => (insert table key value other).map f := by
  funext other
  by_cases same : other = key
  · simp [same]
  · simp [same]

/-- Erasing erases from the image of the table. -/
theorem erase_map :
    erase (fun other => (table other).map f) key = fun other => (erase table key other).map f := by
  funext other
  by_cases same : other = key
  · simp [same]
  · simp [same]

end Map

section Entries

/-- Among entries with different keys, one key selects one entry. -/
theorem filter_key_singleton {key : ν → κ} {entries : List ν}
    {entry : ν} (distinct : (entries.map key).Nodup) (member : entry ∈ entries) :
    entries.filter (fun other => key other = key entry) = [entry] := by
  induction entries with
  | nil => exact absurd member List.not_mem_nil
  | cons first rest inductionHypothesis =>
    rw [List.map_cons, List.nodup_cons] at distinct
    obtain ⟨absent, distinctRest⟩ := distinct
    rcases List.mem_cons.mp member with rfl | later
    · have others : rest.filter (fun other => key other = key entry) = [] := by
        rw [List.filter_eq_nil_iff]
        intro other listed same
        rw [decide_eq_true_eq] at same
        exact absent (same ▸ List.mem_map_of_mem listed)
      simp [others]
    · have different : key first ≠ key entry := by
        intro same
        exact absent (same ▸ List.mem_map_of_mem later)
      simpa [different] using inductionHypothesis distinctRest later

/-- Among entries with different keys, a key selects at most one. -/
theorem filter_key_length {key : ν → κ} {entries : List ν}
    (distinct : (entries.map key).Nodup) (chosen : κ) :
    (entries.filter (fun entry => key entry = chosen)).length ≤ 1 := by
  by_cases found : ∃ entry ∈ entries, key entry = chosen
  · obtain ⟨entry, member, rfl⟩ := found
    rw [filter_key_singleton distinct member]
    exact Nat.le_refl 1
  · have none : entries.filter (fun entry => key entry = chosen) = [] := by
      rw [List.filter_eq_nil_iff]
      intro entry member same
      exact found ⟨entry, member, of_decide_eq_true same⟩
    rw [none]
    exact Nat.zero_le 1

end Entries

end PartialMap
