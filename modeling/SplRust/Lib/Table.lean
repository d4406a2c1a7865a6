import Mathlib.Data.Finmap

/-! Finite tables and the one update a keyed state machine makes: replace, add or
drop the entry of one key. -/

namespace SplRust.Lib

abbrev Table (κ ν : Type) := Finmap (fun _ : κ => ν)

namespace Table
variable {κ ν : Type} [DecidableEq κ]

/-- Make `entry` the entry of `key`; `none` drops it. -/
def assign (table : Table κ ν) (key : κ) : Option ν → Table κ ν
  | none => table.erase key
  | some value => table.insert key value

section
variable (table : Table κ ν)
include table

@[simp] theorem lookup_assign (key : κ) (entry : Option ν) : (table.assign key entry).lookup key = entry := by
  cases entry with
  | none => exact Finmap.lookup_erase key table
  | some value => exact Finmap.lookup_insert table

theorem lookup_assign_of_ne {key other : κ} (ne : other ≠ key)
    (entry : Option ν) : (table.assign key entry).lookup other = table.lookup other := by
  cases entry with
  | none => exact Finmap.lookup_erase_ne ne
  | some value => exact Finmap.lookup_insert_of_ne table ne

theorem assign_lookup (key : κ) {entry : Option ν}
    (hp : table.lookup key = entry) : table.assign key entry = table := by
  apply Finmap.ext_lookup
  intro other
  by_cases same : other = key
  · subst same
    rw [lookup_assign, hp]
  · exact lookup_assign_of_ne table same entry

theorem assign_assign (key : κ) (early late : Option ν) :
    (table.assign key early).assign key late = table.assign key late := by
  apply Finmap.ext_lookup
  intro other
  by_cases same : other = key
  · subst same
    simp
  · simp only [lookup_assign_of_ne _ same]

theorem erase_insert (key : κ) (value : ν) : (table.insert key value).erase key = table.erase key :=
  assign_assign table key (some value) none

theorem erase_of_absent {key : κ} (abs : table.lookup key = none) :
    table.erase key = table := assign_lookup table key abs

end

theorem mem_iff_lookup {table : Table κ ν} {key : κ} : key ∈ table ↔ table.lookup key ≠ none := by
  rw [Ne, Finmap.lookup_eq_none, not_not]

section
variable (table : Table κ ν)
include table

theorem card_erase_le (key : κ) : (table.erase key).keys.card ≤ table.keys.card := by
  rw [Finmap.keys_erase]
  exact Finset.card_erase_le

theorem keys_insert (key : κ) (value : ν) : (table.insert key value).keys = insert key table.keys := by
  ext other
  simp [Finmap.mem_keys, Finmap.mem_insert]

theorem card_insert_of_mem {key : κ} (value : ν) (hp : key ∈ table) :
    (table.insert key value).keys.card = table.keys.card := by
  rw [keys_insert, Finset.insert_eq_self.mpr (Finmap.mem_keys.mpr hp)]

theorem card_insert_le (key : κ) (value : ν) : (table.insert key value).keys.card ≤ table.keys.card + 1 := by
  rw [keys_insert]
  exact Finset.card_insert_le key table.keys

end

end Table

end SplRust.Lib
