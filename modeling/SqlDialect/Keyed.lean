/-!
# Ordered entries with keys

A `Keyed α` is a list of entries under keys, no key twice, in the order in which the keys came in.
Writing to a key that is there keeps its place; a new key goes to the end, and so does one that was
erased and comes back.

Main statements: how `insert` and `erase` act on look-ups (`get?_insert`, `get?_erase`) and on the
order of the keys (`keys_insert`, `keys_erase`).
-/

namespace SqlDialect

/-- The entries with one key written: in its place if it is there, else at the end. -/
def Entries.insert {α : Type} (key : String) (value : α) :
    List (String × α) → List (String × α)
  | [] => [(key, value)]
  | entry :: rest =>
    if entry.1 = key then (key, value) :: rest else entry :: Entries.insert key value rest

/-- The entries without one key. -/
def Entries.erase {α : Type} (key : String) (entries : List (String × α)) : List (String × α) :=
  entries.filter fun entry => entry.1 ≠ key

/-- The value under a key. -/
def Entries.get? {α : Type} (key : String) : List (String × α) → Option α
  | [] => none
  | entry :: rest => if entry.1 = key then some entry.2 else Entries.get? key rest

/-- The keys in their order. -/
def Entries.keys {α : Type} (entries : List (String × α)) : List String :=
  entries.map Prod.fst

theorem Entries.keys_insert {α : Type} (key : String) (value : α) (entries : List (String × α)) :
    Entries.keys (Entries.insert key value entries) =
      if key ∈ Entries.keys entries then Entries.keys entries
      else Entries.keys entries ++ [key] := by
  induction entries with
  | nil => simp [Entries.insert, Entries.keys]
  | cons entry rest ih =>
    by_cases h : entry.1 = key
    · simp [Entries.insert, Entries.keys, h]
    · have h' : ¬ key = entry.1 := fun e => h e.symm
      simp only [Entries.insert, h, if_false, Entries.keys, List.map_cons, List.mem_cons, h',
        false_or]
      simp only [Entries.keys] at ih
      rw [ih]
      split <;> simp [*]

theorem Entries.keys_erase {α : Type} (key : String) (entries : List (String × α)) :
    Entries.keys (Entries.erase key entries) = (Entries.keys entries).filter (· ≠ key) := by
  simp [Entries.keys, Entries.erase, List.filter_map, Function.comp_def]

theorem Entries.get?_insert {α : Type} (key other : String) (value : α)
    (entries : List (String × α)) :
    Entries.get? other (Entries.insert key value entries) =
      if other = key then some value else Entries.get? other entries := by
  induction entries with
  | nil =>
    simp only [Entries.insert, Entries.get?]
    by_cases h : other = key
    · simp [h]
    · have h' : ¬ key = other := fun e => h e.symm
      simp [h, h']
  | cons entry rest ih =>
    by_cases h : entry.1 = key
    · by_cases ho : other = key <;> simp_all [Entries.insert, Entries.get?, eq_comm]
    · simp only [Entries.insert, h, if_false, Entries.get?, ih]
      by_cases ho : other = key
      · subst ho; simp [h]
      · simp [ho]

theorem Entries.get?_erase {α : Type} (key other : String) (entries : List (String × α)) :
    Entries.get? other (Entries.erase key entries) =
      if other = key then none else Entries.get? other entries := by
  induction entries with
  | nil => simp [Entries.erase, Entries.get?]
  | cons entry rest ih =>
    by_cases h : entry.1 = key
    · have hcons : Entries.erase key (entry :: rest) = Entries.erase key rest := by
        simp [Entries.erase, h]
      rw [hcons, ih]
      by_cases ho : other = key
      · simp [ho]
      · have : ¬ entry.1 = other := fun e => ho (e.symm.trans h)
        simp [ho, Entries.get?, this]
    · have hcons : Entries.erase key (entry :: rest) = entry :: Entries.erase key rest := by
        simp [Entries.erase, h]
      rw [hcons, Entries.get?, ih, Entries.get?]
      by_cases ho : other = key
      · subst ho; simp [h]
      · simp [ho]

/-- A value under a key is that of an entry. -/
theorem Entries.mem_of_get? {α : Type} {key : String} {v : α} {entries : List (String × α)}
    (h : Entries.get? key entries = some v) : (key, v) ∈ entries := by
  induction entries with
  | nil => cases h
  | cons entry rest ih =>
    rw [Entries.get?] at h
    split at h
    · next hkey =>
      cases h
      rw [← hkey]
      exact List.mem_cons_self
    · exact List.mem_cons_of_mem _ (ih h)

/-- Where no key is there twice, a value under a key is exactly that of an entry. -/
theorem Entries.get?_eq_some_iff {α : Type} {key : String} {v : α} {entries : List (String × α)}
    (h : (Entries.keys entries).Nodup) : Entries.get? key entries = some v ↔ (key, v) ∈ entries := by
  refine ⟨Entries.mem_of_get?, fun hmem => ?_⟩
  induction entries with
  | nil => cases hmem
  | cons entry rest ih =>
    rw [Entries.keys, List.map_cons, List.nodup_cons] at h
    rw [Entries.get?]
    rcases List.mem_cons.mp hmem with rfl | hrest
    · exact if_pos rfl
    · have hne : ¬ entry.1 = key := fun e => h.1 (e ▸ List.mem_map_of_mem hrest)
      rw [if_neg hne]
      exact ih h.2 hrest

/-- There is a value under exactly the keys. -/
theorem Entries.mem_keys_iff {α : Type} {key : String} {entries : List (String × α)} :
    key ∈ Entries.keys entries ↔ (Entries.get? key entries).isSome = true := by
  induction entries with
  | nil => simp [Entries.keys, Entries.get?]
  | cons entry rest ih =>
    rw [Entries.keys] at ih
    rw [Entries.keys, List.map_cons, List.mem_cons, Entries.get?, ih]
    by_cases h : entry.1 = key
    · simp [h]
    · have h' : ¬ key = entry.1 := fun e => h e.symm
      simp [h, h']

/-- Entries under keys, no key twice. -/
structure Keyed (α : Type) where
  entries : List (String × α)
  nodup : (Entries.keys entries).Nodup

namespace Keyed

variable {α : Type}

/-- No entries. -/
def empty : Keyed α := ⟨[], by simp [Entries.keys]⟩

instance : Inhabited (Keyed α) := ⟨empty⟩

/-- The keys in their order. -/
def keys (m : Keyed α) : List String := Entries.keys m.entries

/-- The value under a key. -/
def get? (m : Keyed α) (key : String) : Option α := Entries.get? key m.entries

/-- Whether there is an entry under a key. -/
def contains (m : Keyed α) (key : String) : Bool := (m.get? key).isSome

/-- Writes a value under a key. -/
def insert (m : Keyed α) (key : String) (value : α) : Keyed α where
  entries := Entries.insert key value m.entries
  nodup := by
    rw [Entries.keys_insert]
    split
    · exact m.nodup
    · next h =>
      rw [List.nodup_append]
      refine ⟨m.nodup, by simp, ?_⟩
      intro a ha b hb e
      simp only [List.mem_singleton] at hb
      exact h (hb ▸ e ▸ ha)

/-- Removes a key. -/
def erase (m : Keyed α) (key : String) : Keyed α where
  entries := Entries.erase key m.entries
  nodup := by
    rw [Entries.keys_erase]
    exact m.nodup.filter _

/-- The entries of a list, a later one under the same key replacing an earlier one in its place. -/
def ofList (entries : List (String × α)) : Keyed α :=
  entries.foldl (fun m entry => m.insert entry.1 entry.2) empty

/-- Writes all entries of another collection. -/
def insertAll (m : Keyed α) (entries : List (String × α)) : Keyed α :=
  entries.foldl (fun m entry => m.insert entry.1 entry.2) m

@[simp] theorem get?_insert (m : Keyed α) (key other : String) (value : α) :
    (m.insert key value).get? other = if other = key then some value else m.get? other :=
  Entries.get?_insert key other value m.entries

@[simp] theorem get?_erase (m : Keyed α) (key other : String) :
    (m.erase key).get? other = if other = key then none else m.get? other :=
  Entries.get?_erase key other m.entries

theorem keys_insert (m : Keyed α) (key : String) (value : α) :
    (m.insert key value).keys = if key ∈ m.keys then m.keys else m.keys ++ [key] :=
  Entries.keys_insert key value m.entries

theorem nodup_keys (m : Keyed α) : m.keys.Nodup := m.nodup

theorem mem_keys_iff {m : Keyed α} {key : String} : key ∈ m.keys ↔ (m.get? key).isSome = true :=
  Entries.mem_keys_iff

theorem keys_erase (m : Keyed α) (key : String) :
    (m.erase key).keys = m.keys.filter (· ≠ key) :=
  Entries.keys_erase key m.entries

end Keyed

end SqlDialect
