import Mathlib.Data.List.Nodup
import Mathlib.Data.List.Perm.Subperm

/-! Hash maps as the list of their entries, in the order of an iteration. -/

namespace SplRust.Lib

abbrev Entries (κ ν : Type) := List (κ × ν)

namespace Entries
variable {κ ν : Type} [DecidableEq κ] {entries : Entries κ ν} {key oid : κ} {value : ν}

def get (entries : Entries κ ν) (key : κ) : Option ν := (entries.find? fun entry => entry.1 = key).map Prod.snd

def remove (entries : Entries κ ν) (key : κ) : Entries κ ν := entries.filter fun entry => entry.1 ≠ key

def insert (entries : Entries κ ν) (key : κ) (value : ν) : Entries κ ν := (key, value) :: entries.remove key

theorem mem_remove {en : κ × ν} : en ∈ entries.remove key ↔ en ∈ entries ∧ en.1 ≠ key := by
  rw [remove, List.mem_filter, decide_eq_true_iff]

theorem length_remove_le (entries : Entries κ ν) (key : κ) :
    (entries.remove key).length ≤ entries.length := List.length_filter_le _ _

theorem length_remove_lt {en : κ × ν} (mem : en ∈ entries) : (entries.remove en.1).length < entries.length :=
  List.length_filter_lt_length_iff_exists.mpr ⟨en, mem, by simp⟩

theorem mem_of_get (hp : entries.get key = some value) : (key, value) ∈ entries := by
  obtain ⟨⟨oid, _⟩, fnd, rfl⟩ := Option.map_eq_some_iff.mp hp
  have own : oid = key := by simpa using List.find?_some fnd
  exact own ▸ List.mem_of_find?_eq_some fnd

theorem not_mem_of_get (abs : entries.get key = none) (value : ν) : (key, value) ∉ entries := by
  intro mem
  have missing := List.find?_eq_none.mp (Option.map_eq_none_iff.mp abs) _ mem
  exact missing (decide_eq_true rfl)

theorem get_eq_none_iff : entries.get key = none ↔ key ∉ entries.map Prod.fst := by
  simp only [get, Option.map_eq_none_iff, List.find?_eq_none, decide_eq_true_eq, List.mem_map, not_exists, not_and]

theorem remove_of_get (abs : entries.get key = none) : entries.remove key = entries := by
  refine List.filter_eq_self.mpr fun en mem => decide_eq_true fun own => ?_
  exact not_mem_of_get abs en.2 (own ▸ mem)

/-- No two entries have the same key. -/
def Distinct (entries : Entries κ ν) : Prop := (entries.map Prod.fst).Nodup

namespace Distinct
variable (distinct : entries.Distinct)
include distinct

omit [DecidableEq κ] in
theorem sublist {kept : Entries κ ν} (sub : kept.Sublist entries) : kept.Distinct :=
  List.Nodup.sublist (sub.map _) distinct

theorem insert : (entries.insert key value).Distinct := by
  refine List.nodup_cons.mpr ⟨fun mem => ?_, distinct.sublist List.filter_sublist⟩
  obtain ⟨_, still, own⟩ := List.mem_map.mp mem
  exact (mem_remove.mp still).2 own

omit [DecidableEq κ] in
theorem same {entry twin : κ × ν} (mem : entry ∈ entries) (twin_mem : twin ∈ entries)
    (own : entry.1 = twin.1) : entry = twin :=
  List.inj_on_of_nodup_map distinct mem twin_mem own

theorem get (mem : (key, value) ∈ entries) : entries.get key = some value := by
  cases hp : entries.get key with
  | none => exact absurd mem (not_mem_of_get hp value)
  | some oid =>
    cases distinct.same (mem_of_get hp) mem rfl
    rfl

theorem length_remove {en : κ × ν} (mem : en ∈ entries) :
    (entries.remove en.1).length + 1 = entries.length := by
  have covers : entries.map Prod.fst ⊆ (entries.insert en.1 en.2).map Prod.fst := by
    intro key mem
    obtain ⟨oid, there, rfl⟩ := List.mem_map.mp mem
    by_cases own : oid.1 = en.1
    · exact own ▸ List.mem_cons_self
    · exact List.mem_cons_of_mem _ (List.mem_map_of_mem (mem_remove.mpr ⟨there, own⟩))
  have longer := (List.Nodup.subperm distinct covers).length_le
  have shorter := length_remove_lt mem
  simp only [List.length_map, Entries.insert, List.length_cons] at longer
  omega

end Distinct

end Entries

end SplRust.Lib
