import Mathlib.Data.List.Perm.Subperm
import SqlDialect.Keyed

/-!
# Collections that agree

Two collections agree if they have the same keys and related values under them, whatever their order
is. That can be found out by looking through one of them only: since no key is there twice, entries
that are as many on both sides, and all of whose keys are on the other side, leave no key out there.

Main statements: `agree_iff` for values that are related, and `get?_eq_iff` for equal values.
-/

namespace SqlDialect.Keyed

variable {α β : Type} {m : Keyed α} {n : Keyed β}

theorem length_keys (m : Keyed α) : m.keys.length = m.entries.length :=
  List.length_map _

/-- As many keys, all of which are on the other side, are all keys of the other side. -/
theorem mem_keys_iff_of_subset (hlength : m.entries.length = n.entries.length)
    (hsub : m.keys ⊆ n.keys) (key : String) : key ∈ m.keys ↔ key ∈ n.keys := by
  have hle : n.keys.length ≤ m.keys.length := by
    rw [length_keys, length_keys]
    exact Nat.le_of_eq hlength.symm
  exact ((List.subperm_of_subset m.nodup_keys hsub).perm_of_length_le hle).mem_iff

theorem length_eq_of_mem_keys_iff (h : ∀ key, key ∈ m.keys ↔ key ∈ n.keys) :
    m.entries.length = n.entries.length := by
  have hperm : m.keys.Perm n.keys :=
    (List.perm_ext_iff_of_nodup m.nodup_keys n.nodup_keys).mpr h
  rw [← length_keys, ← length_keys, hperm.length_eq]

theorem agree_iff {R : α → β → Prop} :
    (m.entries.length = n.entries.length ∧
        ∀ entry ∈ m.entries, ∃ v, n.get? entry.1 = some v ∧ R entry.2 v) ↔
      ∀ key, (key ∈ m.keys ↔ key ∈ n.keys) ∧
        ∀ v v', m.get? key = some v → n.get? key = some v' → R v v' := by
  constructor
  · rintro ⟨hlength, hall⟩ key
    have hsub : m.keys ⊆ n.keys := by
      intro k hk
      obtain ⟨entry, hentry, rfl⟩ := List.mem_map.mp hk
      obtain ⟨v, hv, -⟩ := hall entry hentry
      rw [mem_keys_iff, hv]
      rfl
    refine ⟨mem_keys_iff_of_subset hlength hsub key, ?_⟩
    intro v v' hv hv'
    obtain ⟨found, hfound, hR⟩ := hall (key, v) (Entries.mem_of_get? hv)
    obtain rfl : found = v' := Option.some.inj (hfound.symm.trans hv')
    exact hR
  · intro h
    refine ⟨length_eq_of_mem_keys_iff fun key => (h key).1, ?_⟩
    intro entry hentry
    have hv : m.get? entry.1 = some entry.2 := (Entries.get?_eq_some_iff m.nodup).mpr hentry
    have hkey : entry.1 ∈ n.keys := (h entry.1).1.mp (List.mem_map_of_mem hentry)
    obtain ⟨v', hv'⟩ := Option.isSome_iff_exists.mp (mem_keys_iff.mp hkey)
    exact ⟨v', hv', (h entry.1).2 entry.2 v' hv hv'⟩

/-- All look-ups in two collections are the same if one of them has as many entries as the other and
each of them is found there. -/
theorem get?_eq_iff {m n : Keyed α} :
    (m.entries.length = n.entries.length ∧
        ∀ entry ∈ m.entries, n.get? entry.1 = some entry.2) ↔
      ∀ key, m.get? key = n.get? key := by
  have hagree := agree_iff (R := fun v v' => v' = v) (m := m) (n := n)
  simp only [exists_eq_right] at hagree
  rw [hagree]
  refine forall_congr' fun key => ?_
  rw [mem_keys_iff, mem_keys_iff]
  cases m.get? key <;> cases n.get? key <;> simp [eq_comm]

end SqlDialect.Keyed
