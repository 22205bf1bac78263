import SqlDialect.Keyed

/-!
# Writing over and leaving out

Three facts about collections that are put together from others. When one collection is written over
another, its values count and the other's are found where it has none. Leaving a key out at the end
comes to the same as leaving it out from the start: `erase` passes every write under another key and
swallows every write under its own, so the order of the other entries does not tell whether the key
was ever there. And the first key of a kind is that of the collection that is written over, if it has
one, since its keys stay in front.

Main statements: `get?_insertAll`, `erase_insertAll` and `find?_keys_insertAll`.
-/

namespace SqlDialect

variable {α : Type}

/-! ## Entries -/

namespace Entries

variable {key other : String}

theorem erase_cons_self (value : α) (entries : List (String × α)) :
    erase key ((key, value) :: entries) = erase key entries := by
  simp [erase]

theorem erase_cons_of_ne (h : other ≠ key) (value : α) (entries : List (String × α)) :
    erase key ((other, value) :: entries) = (other, value) :: erase key entries := by
  simp [erase, h]

theorem erase_erase_self (key : String) (entries : List (String × α)) :
    erase key (erase key entries) = erase key entries := by
  simp [erase, List.filter_filter]

theorem erase_insert_self (value : α) (entries : List (String × α)) :
    erase key (insert key value entries) = erase key entries := by
  induction entries with
  | nil => exact erase_cons_self value []
  | cons entry rest ih =>
    obtain ⟨k, v⟩ := entry
    by_cases h : k = key
    · subst h
      simp only [insert, if_true, erase_cons_self]
    · simp only [insert, h, if_false, erase_cons_of_ne h, ih]

theorem erase_insert_of_ne (h : other ≠ key) (value : α) (entries : List (String × α)) :
    erase key (insert other value entries) = insert other value (erase key entries) := by
  induction entries with
  | nil => exact erase_cons_of_ne h value []
  | cons entry rest ih =>
    obtain ⟨k, v⟩ := entry
    by_cases hk : k = key
    · subst hk
      simp only [insert, Ne.symm h, if_false, erase_cons_self, ih]
    · rw [erase_cons_of_ne hk]
      by_cases ho : k = other
      · subst ho
        simp only [insert, if_true, erase_cons_of_ne hk]
      · simp only [insert, ho, if_false, erase_cons_of_ne hk, ih]

theorem get?_eq_none_of_notMem {entries : List (String × α)} (h : key ∉ keys entries) :
    get? key entries = none :=
  Option.not_isSome_iff_eq_none.mp fun hsome => h (mem_keys_iff.mpr hsome)

/-- Where no key is there twice, a value is left if its entry is. -/
theorem get?_filter {entries : List (String × α)} (h : (keys entries).Nodup)
    (p : String × α → Bool) (key : String) :
    get? key (entries.filter p) = (get? key entries).filter fun v => p (key, v) := by
  induction entries with
  | nil => rfl
  | cons entry rest ih =>
    obtain ⟨k, v⟩ := entry
    rw [keys, List.map_cons, List.nodup_cons] at h
    by_cases hkey : k = key
    · subst hkey
      -- The key does not come again, so with its entry the value is gone.
      have hrest : get? k rest = none := get?_eq_none_of_notMem h.1
      have hleft : get? k (rest.filter p) = none := by rw [ih h.2, hrest, Option.filter_none]
      cases hp : p (k, v) <;> simp [hp, get?, hleft, Option.filter]
    · cases hp : p (k, v) <;> simp [hp, get?, hkey, ih h.2]

/-- Changing the values of entries changes what is found. -/
theorem get?_map (f : String → α → α) (key : String) (entries : List (String × α)) :
    get? key (entries.map fun entry => (entry.1, f entry.1 entry.2)) =
      (get? key entries).map (f key) := by
  induction entries with
  | nil => rfl
  | cons entry rest ih =>
    by_cases hkey : entry.1 = key
    · subst hkey
      simp [get?]
    · simp [get?, hkey, ih]

end Entries

namespace Keyed

/-- A collection is its entries. -/
theorem ext_entries {m n : Keyed α} (h : m.entries = n.entries) : m = n := by
  cases m
  cases n
  cases h
  rfl

/-! ## Leaving a key out -/

variable {key other : String}

theorem erase_erase_self (m : Keyed α) (key : String) : (m.erase key).erase key = m.erase key :=
  ext_entries (Entries.erase_erase_self key m.entries)

theorem erase_comm (m : Keyed α) (key other : String) :
    (m.erase key).erase other = (m.erase other).erase key := by
  apply ext_entries
  simp only [erase, Entries.erase, List.filter_filter, Bool.and_comm]

theorem erase_insert_self (m : Keyed α) (key : String) (value : α) :
    (m.insert key value).erase key = m.erase key :=
  ext_entries (Entries.erase_insert_self value m.entries)

theorem erase_insert_of_ne (h : other ≠ key) (m : Keyed α) (value : α) :
    (m.insert other value).erase key = (m.erase key).insert other value :=
  ext_entries (Entries.erase_insert_of_ne h value m.entries)

theorem insertAll_cons (m : Keyed α) (entry : String × α) (rest : List (String × α)) :
    m.insertAll (entry :: rest) = (m.insert entry.1 entry.2).insertAll rest := rfl

/-- A key can be left out of all that is written instead of being left out after it. -/
theorem erase_insertAll (m : Keyed α) (key : String) (entries : List (String × α)) :
    (m.insertAll entries).erase key = (m.erase key).insertAll (Entries.erase key entries) := by
  induction entries generalizing m with
  | nil => rfl
  | cons entry rest ih =>
    obtain ⟨k, v⟩ := entry
    rw [insertAll_cons, ih]
    by_cases h : k = key
    · subst h
      rw [erase_insert_self, Entries.erase_cons_self]
    · rw [erase_insert_of_ne h, Entries.erase_cons_of_ne h, insertAll_cons]

/-! ## Writing over -/

/-- Where no key is there twice, what is written over a collection counts, and else the collection. -/
theorem get?_insertAll_of_nodup {entries : List (String × α)} (h : (Entries.keys entries).Nodup)
    (m : Keyed α) (key : String) :
    (m.insertAll entries).get? key = (Entries.get? key entries).or (m.get? key) := by
  induction entries generalizing m with
  | nil => rfl
  | cons entry rest ih =>
    rw [Entries.keys, List.map_cons, List.nodup_cons] at h
    rw [insertAll_cons, ih h.2, get?_insert, Entries.get?]
    by_cases hkey : entry.1 = key
    · subst hkey
      -- The key does not come again, so what is written now stays.
      simp [Entries.get?_eq_none_of_notMem h.1]
    · simp [hkey, Ne.symm hkey]

/-- One collection written over another. -/
theorem get?_insertAll (m n : Keyed α) (key : String) :
    (m.insertAll n.entries).get? key = (n.get? key).or (m.get? key) :=
  get?_insertAll_of_nodup n.nodup m key

theorem mem_keys_insertAll {m n : Keyed α} {key : String} :
    key ∈ (m.insertAll n.entries).keys ↔ key ∈ n.keys ∨ key ∈ m.keys := by
  rw [mem_keys_iff, mem_keys_iff, mem_keys_iff, get?_insertAll, Option.isSome_or, Bool.or_eq_true]

/-! ## The first key of a kind -/

/-- The first key of a kind is found as before, and else where it has just been written. -/
theorem find?_keys_insert (p : String → Bool) (m : Keyed α) (key : String) (value : α) :
    (m.insert key value).keys.find? p =
      (m.keys.find? p).or (if p key then some key else none) := by
  rw [keys_insert]
  split
  · next hmem =>
    cases hp : p key with
    | false => exact Option.or_none.symm
    | true =>
      have hsome : (m.keys.find? p).isSome = true :=
        List.find?_isSome.mpr ⟨key, hmem, hp⟩
      exact (Option.or_of_isSome hsome).symm
  · rw [List.find?_append, List.find?_singleton]

/-- The first key of a kind in one collection written over another. -/
theorem find?_keys_insertAll (p : String → Bool) (m : Keyed α) (entries : List (String × α)) :
    (m.insertAll entries).keys.find? p =
      (m.keys.find? p).or ((Entries.keys entries).find? p) := by
  induction entries generalizing m with
  | nil => exact Option.or_none.symm
  | cons entry rest ih =>
    have hkeys : Entries.keys (entry :: rest) = entry.1 :: Entries.keys rest := rfl
    rw [insertAll_cons, ih, find?_keys_insert, Option.or_assoc, hkeys, List.find?_cons]
    cases p entry.1 <;> rfl

end Keyed

end SqlDialect
