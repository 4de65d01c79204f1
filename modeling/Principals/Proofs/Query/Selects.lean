import Principals.Proofs.Outcome
import Principals.Proofs.Store.Tables
import Principals.Query.Predicate

/-!
# Which records are selected

A selection first sends the values of all predicates, which can fail, and then gives the stored
records of the class whose rows satisfy every predicate.

* `checkSent_eq_ok_iff`: when every value can be sent;
* `mem_matching_iff`, `select_eq_ok_iff`: the records that a selection gives.
-/

namespace Principals.Store

variable {s : Store} {cls : RecordClass} {ps : List Predicate} {id : RecordId}

/-- Whether a selection gives a record. -/
def Selects (s : Store) (cls : RecordClass) (ps : List Predicate) (id : RecordId) : Prop :=
  ∃ ids, s.select cls ps = .ok ids ∧ id ∈ ids

/-- Whether every value of some predicates can be sent. -/
def Sendable (ps : List Predicate) : Prop := ∀ p ∈ ps, ∀ o ∈ p.sent, ∃ c, o = .ok c

/-- The failures of sending the values of some predicates. -/
def sentFailures (ps : List Predicate) : List Failure :=
  ps.flatMap Predicate.sent |>.filterMap fun
    | .error e => some e
    | .ok _ => none

theorem sentFailures_eq_nil_iff : sentFailures ps = [] ↔ Sendable ps := by
  rw [sentFailures, List.filterMap_eq_nil_iff]
  constructor
  · intro none_fails p among o o_mem
    have none_here := none_fails o (List.mem_flatMap.mpr ⟨p, among, o_mem⟩)
    cases o with
    | error e => cases none_here
    | ok c => exact ⟨c, rfl⟩
  · intro sendable o o_mem
    obtain ⟨p, among, of_p⟩ := List.mem_flatMap.mp o_mem
    obtain ⟨c, rfl⟩ := sendable p among o of_p
    rfl

theorem checkSent_eq (possible : ∀ p ∈ ps, p ≠ .never) :
    checkSent ps = match (sentFailures ps).find? (· = .badCell), sentFailures ps with
      | some e, _ => .error e
      | none, e :: _ => .error e
      | none, [] => .ok () := by
  unfold checkSent
  split
  · next never =>
    obtain ⟨p, among, isNever⟩ := List.any_eq_true.mp never
    have ne := possible p among
    cases p <;> simp at isNever ne
  · rfl

/-- The values of predicates none of which never holds are sent if each can be. -/
theorem checkSent_eq_ok_iff (possible : ∀ p ∈ ps, p ≠ .never) :
    checkSent ps = .ok () ↔ Sendable ps := by
  rw [checkSent_eq possible, ← sentFailures_eq_nil_iff]
  cases sentFailures ps with
  | nil => simp
  | cons e rest =>
    cases first : (e :: rest).find? (· = Failure.badCell) <;> simp

/-- Where some predicate never holds nothing is sent. -/
theorem checkSent_of_never (among : .never ∈ ps) : checkSent ps = .ok () := by
  unfold checkSent
  exact if_pos (List.any_eq_true.mpr ⟨.never, among, rfl⟩)

/-- Sending fails only if every predicate may hold. -/
theorem checkSent_eq_ok_iff_of_any : checkSent ps = .ok () ↔ .never ∈ ps ∨ Sendable ps := by
  by_cases never : .never ∈ ps
  · exact ⟨fun _ => .inl never, fun _ => checkSent_of_never never⟩
  · have possible : ∀ p ∈ ps, p ≠ .never := fun p among same => never (same ▸ among)
    rw [checkSent_eq_ok_iff possible, or_iff_right never]

/-- A predicate that can be sent and may hold changes nothing about sending the others. -/
theorem checkSent_cons {p : Predicate} (possible : p ≠ .never)
    (sendable : ∀ o ∈ p.sent, ∃ c, o = .ok c) : checkSent (p :: ps) = checkSent ps := by
  by_cases never : .never ∈ ps
  · rw [checkSent_of_never never, checkSent_of_never (List.mem_cons_of_mem p never)]
  · have allPossible : ∀ q ∈ ps, q ≠ .never := fun q among same => never (same ▸ among)
    have silent : sentFailures [p] = [] :=
      sentFailures_eq_nil_iff.mpr (List.forall_mem_singleton.mpr sendable)
    have failures : sentFailures (p :: ps) = sentFailures ps := by
      rw [sentFailures, List.flatMap_singleton] at silent
      rw [sentFailures, List.flatMap_cons, List.filterMap_append, silent]
      rfl
    rw [checkSent_eq (List.forall_mem_cons.mpr ⟨possible, allPossible⟩), checkSent_eq allPossible,
      failures]

theorem matching_eq (s : Store) (cls : RecordClass) (ps : List Predicate) :
    s.matching cls ps = (s.storedOf cls.name).filter fun id =>
      s.test id fun r => r.row.any fun row => ps.all fun p => p.holds s.rowsOf row := by
  unfold matching
  congr
  funext id
  congr
  funext r
  cases r.row <;> rfl

/-- Predicates that hold of the same rows match the same records. -/
theorem matching_congr (s : Store) (cls : RecordClass) {p q : Predicate}
    (same : ∀ row, p.holds s.rowsOf row = true ↔ q.holds s.rowsOf row = true) :
    s.matching cls [p] = s.matching cls [q] := by
  have equal : ∀ row, p.holds s.rowsOf row = q.holds s.rowsOf row := fun row =>
    Bool.eq_iff_iff.mpr (same row)
  simp only [matching_eq, List.all_cons, equal]

theorem mem_matching_iff : id ∈ s.matching cls ps ↔
    ∃ cls' row, s.stored? id = some (cls', row) ∧ cls'.name = cls.name ∧
      ∀ p ∈ ps, p.holds s.rowsOf row = true := by
  have tested : s.test id (fun r => r.row.any fun row => ps.all fun p => p.holds s.rowsOf row) =
      (s.stored? id).any fun e => ps.all fun p => p.holds s.rowsOf e.2 :=
    test_of_row (fun _ row => ps.all fun p => p.holds s.rowsOf row) fun _ => rfl
  rw [matching_eq, List.mem_filter, mem_storedOf]
  constructor
  · intro h
    rcases h with ⟨⟨cls', row, stored, named⟩, passes⟩
    have holds := tested.symm.trans passes
    rw [stored] at holds
    exact ⟨cls', row, stored, named, List.all_eq_true.mp holds⟩
  · intro h
    rcases h with ⟨cls', row, stored, named, holds⟩
    refine ⟨⟨cls', row, stored, named⟩, tested.trans ?_⟩
    rw [stored]
    exact List.all_eq_true.mpr holds

/-- A stored record of the class matches if every predicate holds of its row. -/
theorem mem_matching_iff_of_stored {cls' : RecordClass} {row : Row}
    (stored : s.stored? id = some (cls', row)) (named : cls'.name = cls.name) :
    id ∈ s.matching cls ps ↔ ∀ p ∈ ps, p.holds s.rowsOf row = true := by
  rw [mem_matching_iff]
  constructor
  · intro h
    rcases h with ⟨_, row', stored', -, holds⟩
    rw [stored] at stored'
    cases stored'
    exact holds
  · exact fun holds => ⟨cls', row, stored, named, holds⟩

/-- Predicates match the same records in any order and number. -/
theorem matching_of_mem_iff {qs : List Predicate} (same : ∀ p, p ∈ ps ↔ p ∈ qs) :
    s.matching cls ps = s.matching cls qs := by
  have all (row : Row) : (ps.all fun p => p.holds s.rowsOf row) =
      qs.all fun p => p.holds s.rowsOf row := by
    rw [Bool.eq_iff_iff, List.all_eq_true, List.all_eq_true]
    simp only [same]
  simp only [matching_eq, all]

theorem matching_of_never (among : .never ∈ ps) : s.matching cls ps = [] := by
  rw [List.eq_nil_iff_forall_not_mem]
  intro id among_found
  obtain ⟨_, _, -, -, holds⟩ := mem_matching_iff.mp among_found
  exact Bool.false_ne_true (holds .never among)

/-- A selection gives the matching records unless there are values that cannot be sent. -/
theorem select_eq_ok_iff_of_any {ids : List RecordId} :
    s.select cls ps = .ok ids ↔ (.never ∈ ps ∨ Sendable ps) ∧ ids = s.matching cls ps := by
  rw [← checkSent_eq_ok_iff_of_any, select, bind_eq_ok]
  simp only [Except.ok.injEq]
  constructor
  · rintro ⟨_, sent, rfl⟩
    exact ⟨sent, rfl⟩
  · rintro ⟨sent, rfl⟩
    exact ⟨(), sent, rfl⟩

/-- A selection whose values can be sent gives the matching records. -/
theorem select_eq_ok_iff (possible : ∀ p ∈ ps, p ≠ .never) {ids : List RecordId} :
    s.select cls ps = .ok ids ↔ Sendable ps ∧ ids = s.matching cls ps := by
  rw [select_eq_ok_iff_of_any, or_iff_right fun never => possible _ never rfl]

/-- A record is selected if every value can be sent and every predicate holds of its row. -/
theorem selects_iff (possible : ∀ p ∈ ps, p ≠ .never) {cls' : RecordClass} {row : Row}
    (stored : s.stored? id = some (cls', row)) (named : cls'.name = cls.name) :
    s.Selects cls ps id ↔ Sendable ps ∧ ∀ p ∈ ps, p.holds s.rowsOf row = true := by
  constructor
  · intro h
    rcases h with ⟨ids, selected, among⟩
    obtain ⟨sendable, rfl⟩ := (select_eq_ok_iff possible).mp selected
    exact ⟨sendable, (mem_matching_iff_of_stored stored named).mp among⟩
  · intro h
    rcases h with ⟨sendable, holds⟩
    exact ⟨_, (select_eq_ok_iff possible).mpr ⟨sendable, rfl⟩,
      (mem_matching_iff_of_stored stored named).mpr holds⟩

/-- A comparison whose value can be sent selects the records whose cells compare so. -/
theorem selects_compare_iff {c : Column} {op : Comparison} {v : Value} {o : Cell}
    (operand : c.operand v = .ok o) :
    s.Selects cls [.column c (.compare op v)] id ↔ ∃ cls' row,
      s.stored? id = some (cls', row) ∧ cls'.name = cls.name ∧
        op.holds (c.cellIn row) o = true := by
  have possible : ∀ p ∈ [Predicate.column c (.compare op v)], p ≠ .never :=
    List.forall_mem_singleton.mpr nofun
  have sendable : Sendable [.column c (.compare op v)] :=
    List.forall_mem_singleton.mpr (List.forall_mem_singleton.mpr ⟨o, operand⟩)
  have selected : s.select cls [.column c (.compare op v)] =
      .ok (s.matching cls [.column c (.compare op v)]) :=
    (select_eq_ok_iff possible).mpr ⟨sendable, rfl⟩
  rw [Selects, selected]
  simp only [Except.ok.injEq, exists_eq_left', mem_matching_iff, List.forall_mem_singleton,
    Predicate.holds, Test.holds, operand]

end Principals.Store
