import Mathlib.Algebra.BigOperators.Group.Finset.Basic
import Mathlib.Algebra.BigOperators.Fin
import Principals.Proofs.Store.NewRecords

/-!
# What is written along with given records

Writing records also writes the new ones that they lead to. The search for them takes enough steps:
each record is passed once, after which the records that it leads to are among those still to be
looked at. So the new records that are asked for are written, and with each record that is written the
new ones that it leads to.

* `Store.covers_reach`: the search leaves nothing out;
* `Store.mem_closure_of_root`, `Store.mem_closure_of_near`: what is written.
-/

namespace Principals.Store

variable {s : Store} {roots todo met : List RecordId} {fuel : Nat} {id j : RecordId} {r : Record}

/-- Whether a record that is looked at is passed: one that the table does not have, or that is asked
for. -/
def Passes (s : Store) (roots : List RecordId) (id : RecordId) : Prop :=
  ∃ r, s.record? id = some r ∧ (r.isStored = true → id ∈ roots)

/-- The records to which those not met yet lead, with repetitions. -/
def unmet (s : Store) (met : List RecordId) : Nat :=
  ∑ j ∈ (Finset.range s.records.length).filter (· ∉ met), (s.neighboursOf j).length

/-- A record that is met takes those to which it leads out of the count. -/
theorem unmet_append (found : s.record? id = some r) (new : id ∉ met) :
    s.unmet (met ++ [id]) + (s.neighboursOf id).length = s.unmet met := by
  have among : id ∈ (Finset.range s.records.length).filter (· ∉ met) :=
    Finset.mem_filter.mpr ⟨Finset.mem_range.mpr (lt_length_of_record? found), new⟩
  have others : (Finset.range s.records.length).filter (· ∉ met ++ [id]) =
      ((Finset.range s.records.length).filter (· ∉ met)).erase id := by
    ext j
    simp only [Finset.mem_filter, Finset.mem_erase, List.mem_append, List.mem_singleton, not_or]
    tauto
  rw [unmet, others, Finset.sum_erase_add _ _ among, unmet]

theorem unmet_nil (s : Store) :
    s.unmet [] = (s.records.flatMap Record.neighbours).length := by
  have each : ∀ i : Fin s.records.length,
      (s.neighboursOf i).length = (s.records[i].neighbours).length := fun i => by
    simp [neighboursOf, record?]
  simp only [unmet, List.not_mem_nil, not_false_eq_true, Finset.filter_true]
  rw [Finset.sum_range, Finset.sum_congr rfl fun i _ => each i, List.length_flatMap,
    ← List.sum_ofFn]
  congr 1
  exact List.ext_getElem (by simp) (by simp)

/-! ## The search -/

/-- A search that leaves nothing out: it gives what was met, what was to be looked at, and what the
records that it adds lead to. -/
structure Covers (s : Store) (roots todo met found : List RecordId) : Prop where
  old : ∀ j ∈ met, j ∈ found
  asked : ∀ j ∈ todo, s.Passes roots j → j ∈ found
  led : ∀ i ∈ found, i ∉ met → ∀ j ∈ s.neighboursOf i, s.Passes roots j → j ∈ found

/-- A search leaves nothing out if it takes as many steps as records can come up. -/
theorem covers_reach (enough : todo.length + s.unmet met ≤ fuel) :
    s.Covers roots todo met (s.reach roots fuel todo met) := by
  induction fuel generalizing todo met with
  | zero =>
    have none_left : todo = [] := List.eq_nil_of_length_eq_zero (by omega)
    subst none_left
    exact ⟨fun _ isMet => isMet, nofun, fun i among new => absurd among new⟩
  | succ fuel ih =>
    cases todo with
    | nil => exact ⟨fun _ isMet => isMet, nofun, fun i among new => absurd among new⟩
    | cons id rest =>
      rw [List.length_cons] at enough
      -- a record that is not passed changes nothing but what is left to look at
      have skip (isMet : s.Passes roots id → id ∈ met) :
          s.Covers roots (id :: rest) met (s.reach roots fuel rest met) := by
        have covers : s.Covers roots rest met _ := ih (by omega)
        refine ⟨covers.old, fun j among passes => ?_, covers.led⟩
        rcases List.mem_cons.mp among with rfl | later
        · exact covers.old j (isMet passes)
        · exact covers.asked j later passes
      rw [reach]
      cases found : s.record? id with
      | none =>
        refine skip fun passes => ?_
        obtain ⟨r, there, -⟩ := passes
        rw [found] at there
        cases there
      | some r =>
        dsimp only
        split
        · next done =>
          simp only [Bool.or_eq_true, Bool.and_eq_true, Bool.not_eq_true', List.contains_eq_mem,
            decide_eq_true_eq, decide_eq_false_iff_not] at done
          refine skip fun passes => ?_
          obtain ⟨q, there, asked⟩ := passes
          rw [found] at there
          cases there
          exact done.resolve_right fun stored => stored.2 (asked stored.1)
        · next passed =>
          simp only [Bool.or_eq_true, List.contains_iff_mem, not_or] at passed
          have near : s.neighboursOf id = r.neighbours := by simp [neighboursOf, found]
          have count := unmet_append found passed.1
          rw [near] at count
          have covers : s.Covers roots (r.neighbours ++ rest) (met ++ [id]) _ :=
            ih (by rw [List.length_append]; omega)
          have isMet := covers.old id (List.mem_append_right _ (List.mem_singleton.mpr rfl))
          refine ⟨fun j among => covers.old j (List.mem_append_left _ among),
            fun j among passes => ?_, fun i among new j leads passes => ?_⟩
          · rcases List.mem_cons.mp among with rfl | later
            · exact isMet
            · exact covers.asked j (List.mem_append_right _ later) passes
          · by_cases own : i = id
            · subst own
              rw [near] at leads
              exact covers.asked j (List.mem_append_left _ leads) passes
            · refine covers.led i among ?_ j leads passes
              rw [List.mem_append, List.mem_singleton, not_or]
              exact ⟨new, own⟩

/-! ## What is written -/

theorem covers_closure (s : Store) (roots : List RecordId) :
    s.Covers roots roots [] (s.reach roots (s.reachSteps roots) roots []) := by
  refine covers_reach ?_
  rw [unmet_nil, reachSteps]
  exact Nat.le_succ _

/-- A record that was never written. -/
theorem passes_of_isTransient (found : s.record? id = some r) (transient : r.isTransient = true) :
    s.Passes roots id := by
  refine ⟨r, found, fun stored => ?_⟩
  rw [Record.isTransient, Bool.and_eq_true, Option.isNone_iff_eq_none] at transient
  rw [Record.isStored, transient.1] at stored
  cases stored

theorem mem_closure (found : s.record? id = some r) (transient : r.isTransient = true)
    (reached : id ∈ s.reach roots (s.reachSteps roots) roots []) : id ∈ s.closure roots :=
  List.mem_filter.mpr ⟨reached, by rw [test, found, Option.any_some, transient]⟩

/-- New records that are asked for are written. -/
theorem mem_closure_of_root (among : id ∈ roots) (found : s.record? id = some r)
    (transient : r.isTransient = true) : id ∈ s.closure roots :=
  mem_closure found transient
    ((s.covers_closure roots).asked id among (passes_of_isTransient found transient))

/-- With a record that is written the new ones that it leads to are written. -/
theorem mem_closure_of_near (written : id ∈ s.closure roots) (near : j ∈ s.neighboursOf id)
    (found : s.record? j = some r) (transient : r.isTransient = true) : j ∈ s.closure roots :=
  mem_closure found transient ((s.covers_closure roots).led id (List.mem_filter.mp written).1
    nofun j near (passes_of_isTransient found transient))

end Principals.Store
