import SqlDialect.ColumnType.Create

/-!
# Created types

A type is created from what a call gives: values by position for the first parameters, and values by
name. A parameter that cannot be given by position is therefore what is given under its name, and
nothing if that is not given. The classes of this database have names of their own, so that each of
them is found under its name among all classes.

Main statements: `get_of_bind`, `create_eq_ok_iff` and `lookup_classes`.
-/

namespace SqlDialect

namespace Arguments

open ColumnType (Parameters)

/-- Parameters that may all be left out are what is given under their names. -/
theorem bindNamed_optional (named : List (String × Value)) (names : List String) :
    bindNamed named (names.map fun name => optional name .null) =
      .ok (names.map (Parameters.get named)) := by
  induction names with
  | nil => rfl
  | cons name rest ih =>
    rw [List.map_cons, bindNamed, ih, optional]
    cases hget : Entries.get? name named <;> simp [Parameters.get, hget]

/-- No more values are given by position than may be; they come first, and then those that are given
under the names of the parameters behind. -/
theorem eq_of_bind_optional {names onlyNamed : List String} {given : Arguments} {values : List Value}
    (h : bind (names.map fun name => optional name .null)
      (onlyNamed.map fun name => optional name .null) given = .ok values) :
    given.positional.length ≤ names.length ∧
      values = given.positional ++
        (names.drop given.positional.length ++ onlyNamed).map (Parameters.get given.named) := by
  rw [bind] at h
  simp only [← List.map_drop, ← List.map_append, bindNamed_optional, List.length_map] at h
  split at h
  · cases h
  · split at h
    · cases h
    · next hfew =>
      cases h
      exact ⟨Nat.le_of_not_lt hfew, rfl⟩

end Arguments

namespace ColumnType

variable {s : Signature} {given : Arguments} {p : Parameters}

/-- The parameters given by position come first, and the others are what is given by name. -/
theorem eq_of_bind (h : s.bind given = .ok p) :
    p = (s.positional.take given.positional.length).zip given.positional ++
      (s.positional.drop given.positional.length ++ s.keyword).map fun name =>
        (name, Parameters.get given.named name) := by
  rw [Signature.bind] at h
  cases hvalues : Arguments.bind (s.positional.map fun name => Arguments.optional name .null)
      (s.keyword.map fun name => Arguments.optional name .null) given with
  | error e =>
    rw [hvalues] at h
    cases h
  | ok values =>
    obtain ⟨hlength, rfl⟩ := Arguments.eq_of_bind_optional hvalues
    rw [hvalues] at h
    cases h
    have hnames : s.positional ++ s.keyword = s.positional.take given.positional.length ++
        (s.positional.drop given.positional.length ++ s.keyword) := by
      rw [← List.append_assoc, List.take_append_drop]
    rw [List.map_prod_left_eq_zip, ← List.zip_append (List.length_take_of_le hlength), ← hnames]

/-- A parameter that cannot be given by position is what is given under its name, unless there is no
such parameter. -/
theorem get_of_bind (h : s.bind given = .ok p) {name : String} (hname : name ∉ s.positional) :
    p.get name = .null ∨ p.get name = Parameters.get given.named name := by
  cases hget : Entries.get? name p with
  | none => exact .inl (by rw [Parameters.get, hget]; rfl)
  | some v =>
    have hmem := Entries.mem_of_get? hget
    rw [eq_of_bind h] at hmem
    rcases List.mem_append.mp hmem with hfront | hbehind
    · exact absurd (List.mem_of_mem_take (List.of_mem_zip hfront).1) hname
    · obtain ⟨other, -, heq⟩ := List.mem_map.mp hbehind
      cases heq
      exact .inr (by rw [Parameters.get, hget]; rfl)

/-! ## Classes -/

theorem create_eq_ok_iff {fullName : String} {maker : Maker} {t : ColumnType}
    (hclass : classes.lookup fullName = some maker) :
    create fullName given = .ok t ↔
      ∃ p, maker.signature.bind given = .ok p ∧ maker.make p = .ok t := by
  simp only [create, hclass]
  cases maker.signature.bind given with
  | error e => simp
  | ok p => simp

/-- A class of this database is found under its name. -/
theorem lookup_classes : ∀ entry ∈ dorisClasses, classes.lookup entry.1 = some entry.2 := by
  intro entry hentry
  simp only [dorisClasses, List.mem_cons, List.not_mem_nil, or_false] at hentry
  rcases hentry with rfl | rfl | rfl | rfl | rfl | rfl | rfl | rfl | rfl | rfl | rfl | rfl | rfl |
    rfl | rfl | rfl | rfl <;> rfl

end ColumnType

end SqlDialect
