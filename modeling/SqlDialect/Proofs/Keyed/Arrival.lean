import Mathlib.Data.List.Induction
import Mathlib.Order.Bounds.Basic
import SqlDialect.Keyed

/-!
# When keys came in

The keys of a collection under a sequence of steps, each of which writes a key, erases one, or leaves
the keys alone. A key that is written is put at the end unless it is there; so the order of the keys
tells when they came in. A key that has been there from the start and was never erased is still in
its place, before all others, and every other key stands where the latest step that brought it in
has put it. It may have come in before that and been erased again, and it may have been written
since then, which does not move it.

`arrives_concat` says which arrivals one more step adds, and the run follows by induction on the
steps, the last one first, since a step looks at the keys that all earlier ones have left.

Main statement: `keysAfter_eq`, the order of the keys after a sequence of steps.
-/

namespace SqlDialect.Keyed

/-- What is done to the keys of a collection. -/
inductive Step where
  | keep
  | write (key : String)
  | erase (key : String)
  deriving DecidableEq

/-- The keys after a step. -/
def Step.apply (keys : List String) : Step → List String
  | .keep => keys
  | .write key => if key ∈ keys then keys else keys ++ [key]
  | .erase key => keys.filter (· ≠ key)

/-- The keys after a sequence of steps. -/
def keysAfter (keys : List String) (steps : List Step) : List String :=
  steps.foldl Step.apply keys

/-- The step at a position brings a key in: it writes the key, which was not there then. -/
def Arrives (keys : List String) (steps : List Step) (key : String) (i : Nat) : Prop :=
  steps[i]? = some (.write key) ∧ key ∉ keysAfter keys (steps.take i)

/-- Every key of a list has a position, and the positions increase along the list. -/
structure InOrderOf (position : String → Nat → Prop) (keys : List String) : Prop where
  placed : ∀ key ∈ keys, ∃ i, position key i
  increasing : keys.Pairwise fun a b => ∀ i j, position a i → position b j → i < j

/-! ## Lists in order -/

namespace InOrderOf

variable {position position' : String → Nat → Prop} {l : List String}

theorem nil : InOrderOf position [] := ⟨by simp, List.Pairwise.nil⟩

/-- Only the positions of the keys in the list matter. -/
theorem congr (h : InOrderOf position l)
    (hsame : ∀ key ∈ l, ∀ i, position' key i ↔ position key i) : InOrderOf position' l where
  placed := by
    intro key hkey
    obtain ⟨i, hi⟩ := h.placed key hkey
    exact ⟨i, (hsame key hkey i).mpr hi⟩
  increasing := by
    refine h.increasing.imp_of_mem ?_
    intro a b ha hb hab i j hi hj
    exact hab i j ((hsame a ha i).mp hi) ((hsame b hb j).mp hj)

/-- What is left of a list in order is in order. -/
theorem sublist {l' : List String} (h : InOrderOf position l) (hsub : l'.Sublist l) :
    InOrderOf position l' :=
  ⟨fun key hkey => h.placed key (hsub.subset hkey), h.increasing.sublist hsub⟩

/-- A key whose only position is behind all others goes to the end. -/
theorem concat {key : String} {n : Nat} (h : InOrderOf position l)
    (hbefore : ∀ a ∈ l, ∀ i, position a i → i < n) (hkey : ∀ i, position key i ↔ i = n) :
    InOrderOf position (l ++ [key]) where
  placed := by
    intro a ha
    rcases List.mem_append.mp ha with ha | ha
    · exact h.placed a ha
    · rw [List.mem_singleton.mp ha]
      exact ⟨n, (hkey n).mpr rfl⟩
  increasing := by
    rw [List.pairwise_append]
    refine ⟨h.increasing, List.pairwise_singleton _ _, ?_⟩
    intro a ha b hb i j hi hj
    rw [List.mem_singleton.mp hb] at hj
    rw [(hkey j).mp hj]
    exact hbefore a ha i hi

end InOrderOf

/-! ## One more step -/

variable {keys : List String} {steps : List Step} {step : Step} {key : String}

theorem keysAfter_concat (keys : List String) (steps : List Step) (step : Step) :
    keysAfter keys (steps ++ [step]) = step.apply (keysAfter keys steps) := by
  rw [keysAfter, List.foldl_append, List.foldl_cons, List.foldl_nil, keysAfter]

/-- **A step for arrivals.** One more step adds an arrival of the key that it brings in. -/
theorem arrives_concat (i : Nat) :
    Arrives keys (steps ++ [step]) key i ↔
      Arrives keys steps key i ∨
        (i = steps.length ∧ step = .write key ∧ key ∉ keysAfter keys steps) := by
  rcases Nat.lt_trichotomy i steps.length with hlt | rfl | hgt
  · have hne : ¬ i = steps.length := Nat.ne_of_lt hlt
    rw [Arrives, List.getElem?_append_left hlt, List.take_append_of_le_length hlt.le]
    simp [Arrives, hne]
  · rw [Arrives, List.getElem?_concat_length, List.take_left]
    simp [Arrives]
  · have hne : ¬ i = steps.length := Nat.ne_of_gt hgt
    have hbeyond : steps[i]? = none := List.getElem?_eq_none hgt.le
    have hbeyond' : (steps ++ [step])[i]? = none := by
      rw [List.getElem?_eq_none_iff, List.length_append, List.length_singleton]
      exact hgt
    simp [Arrives, hne, hbeyond, hbeyond']

/-- An arrival is one of the steps. -/
theorem Arrives.lt_length {i : Nat} (h : Arrives keys steps key i) : i < steps.length := by
  by_contra hge
  have hnone : steps[i]? = none := List.getElem?_eq_none (Nat.le_of_not_lt hge)
  rw [h.1] at hnone
  cases hnone

/-- Where a step brings a key in, that is the latest arrival of the key. -/
theorem isGreatest_arrival_concat (habsent : key ∉ keysAfter keys steps) (i : Nat) :
    IsGreatest {j | Arrives keys (steps ++ [.write key]) key j} i ↔ i = steps.length := by
  have hlast : IsGreatest {j | Arrives keys (steps ++ [.write key]) key j} steps.length := by
    refine ⟨(arrives_concat _).mpr (Or.inr ⟨rfl, rfl, habsent⟩), ?_⟩
    intro j hj
    rcases (arrives_concat j).mp hj with hj | ⟨rfl, -⟩
    · exact hj.lt_length.le
    · exact Nat.le_refl _
  exact ⟨fun h => h.unique hlast, fun h => h ▸ hlast⟩

/-- Where a step does not bring a key in, the arrivals of the key are the same. -/
theorem setOf_arrives_concat (h : step = .write key → key ∈ keysAfter keys steps) :
    {j | Arrives keys (steps ++ [step]) key j} = {j | Arrives keys steps key j} := by
  ext j
  rw [Set.mem_ofPred_eq, Set.mem_ofPred_eq, arrives_concat]
  constructor
  · rintro (hj | ⟨-, hwrite, habsent⟩)
    · exact hj
    · exact absurd (h hwrite) habsent
  · exact Or.inl

/-! ## Sequences of steps -/

/-- **The order of the keys.** After a sequence of steps there are first the keys that were there
from the start and were never erased, in their order, and then others, in the order of their latest
arrivals. -/
theorem keysAfter_eq (keys : List String) (steps : List Step) :
    ∃ added, keysAfter keys steps = (keys.filter fun key => Step.erase key ∉ steps) ++ added ∧
      InOrderOf (fun key i => IsGreatest {j | Arrives keys steps key j} i) added := by
  induction steps using List.reverseRecOn with
  | nil =>
    refine ⟨[], ?_, .nil⟩
    have hall : (keys.filter fun key => Step.erase key ∉ []) = keys :=
      List.filter_eq_self.mpr fun key _ => by simp
    rw [hall, List.append_nil]
    rfl
  | append_singleton steps step ih =>
    obtain ⟨added, hrun, horder⟩ := ih
    rw [keysAfter_concat]
    cases step with
    | keep =>
      refine ⟨added, by simp [Step.apply, hrun], horder.congr ?_⟩
      intro key _ i
      rw [setOf_arrives_concat]
      exact nofun
    | write key =>
      have hkept : (keys.filter fun k => Step.erase k ∉ steps ++ [.write key]) =
          keys.filter fun k => Step.erase k ∉ steps := by simp
      rw [hkept, Step.apply]
      by_cases hpresent : key ∈ keysAfter keys steps
      · refine ⟨added, by rw [if_pos hpresent, hrun], horder.congr ?_⟩
        intro other _ i
        rw [setOf_arrives_concat]
        rintro ⟨⟩
        exact hpresent
      -- The key goes to the end, and all others have come in before.
      · have hsame : ∀ other ∈ added, ∀ i,
            IsGreatest {j | Arrives keys (steps ++ [.write key]) other j} i ↔
              IsGreatest {j | Arrives keys steps other j} i := by
          intro other hother i
          rw [setOf_arrives_concat]
          rintro ⟨⟩
          rw [hrun]
          exact List.mem_append_right _ hother
        refine ⟨added ++ [key], by rw [if_neg hpresent, hrun, List.append_assoc], ?_⟩
        refine (horder.congr hsame).concat ?_ (isGreatest_arrival_concat hpresent)
        intro other hother i hi
        exact ((hsame other hother i).mp hi).1.lt_length
    | erase key =>
      refine ⟨added.filter (· ≠ key), ?_, (horder.congr ?_).sublist List.filter_sublist⟩
      · rw [Step.apply, hrun, List.filter_append, List.filter_filter]
        congr 1
        refine List.filter_congr fun k _ => ?_
        simp [and_comm]
      · intro other _ i
        rw [setOf_arrives_concat]
        exact nofun

/-- A key that is written again keeps its place unless it was erased. -/
example : keysAfter ["a", "b"] [.write "c", .erase "a", .write "a", .write "b"] =
    ["b", "c", "a"] := by decide

end SqlDialect.Keyed
