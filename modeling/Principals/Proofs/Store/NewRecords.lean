import Mathlib.Data.List.Nodup
import Principals.Proofs.Store.Settled

/-!
# New records at the end of a store

Records are made one after the other and stand at the end of the store under consecutive numbers.
If they link to stored records only, writing them writes nothing else that is new.

* `addAll`, `newIds`: a store with more records, and their numbers;
* `modify_addAll_head`, `modify_addAll_last`: a change of the first or the last of them;
* `closure_newIds`: what writing them also writes.
-/

namespace Principals.Store

variable {s : Store} {id : RecordId} {r : Record} {rs : List Record}

/-- The store with more records. -/
def addAll (s : Store) (rs : List Record) : Store := { s with records := s.records ++ rs }

/-- The numbers of the records that are added. -/
def newIds (s : Store) (rs : List Record) : List RecordId :=
  List.range' s.records.length rs.length

theorem addAll_nil (s : Store) : s.addAll [] = s := by
  rw [addAll, List.append_nil]

theorem addAll_cons (s : Store) (r : Record) (rs : List Record) :
    s.addAll (r :: rs) = (s.add r).2.addAll rs := by
  simp only [addAll, add, List.append_assoc, List.singleton_append]

theorem addAll_addAll (s : Store) (rs qs : List Record) :
    (s.addAll rs).addAll qs = s.addAll (rs ++ qs) := by
  simp only [addAll, List.append_assoc]

theorem newIds_cons (s : Store) (r : Record) (rs : List Record) :
    s.newIds (r :: rs) = s.records.length :: (s.add r).2.newIds rs := by
  simp only [newIds, add, List.length_cons, List.length_append, List.length_nil]
  rfl

theorem newIds_of_length {qs : List Record} (same : qs.length = rs.length) :
    s.newIds qs = s.newIds rs := by
  rw [newIds, newIds, same]

theorem newIds_add (s : Store) (r q : Record) (rs : List Record) :
    (s.add r).2.newIds rs = (s.add q).2.newIds rs := by
  simp only [newIds, add, List.length_append, List.length_singleton]

theorem mem_newIds : id ∈ s.newIds rs ↔
    s.records.length ≤ id ∧ id < s.records.length + rs.length := by
  rw [newIds, List.mem_range'_1]

theorem newIds_nodup (s : Store) (rs : List Record) : (s.newIds rs).Nodup := List.nodup_range'

theorem record?_addAll_of_some (rs : List Record) (found : s.record? id = some r) :
    (s.addAll rs).record? id = some r := by
  have lt := lt_length_of_record? found
  change (s.records ++ rs)[id]? = some r
  rw [List.getElem?_append_left lt]
  exact found

theorem record?_addAll_new (s : Store) {i : Nat} (rs : List Record) :
    (s.addAll rs).record? (s.records.length + i) = rs[i]? := by
  change (s.records ++ rs)[s.records.length + i]? = rs[i]?
  rw [List.getElem?_append_right (Nat.le_add_right ..), Nat.add_sub_cancel_left]

theorem record?_addAll_head (s : Store) (r : Record) (rs : List Record) :
    (s.addAll (r :: rs)).record? s.records.length = some r := record?_addAll_new s (i := 0) _

theorem exists_mem_of_newIds (new : id ∈ s.newIds rs) :
    ∃ r ∈ rs, (s.addAll rs).record? id = some r := by
  obtain ⟨start, stop⟩ := mem_newIds.mp new
  have lt : id - s.records.length < rs.length := Nat.sub_lt_left_of_lt_add start stop
  refine ⟨rs[id - s.records.length], List.getElem_mem lt, ?_⟩
  have at_end := record?_addAll_new s (i := id - s.records.length) rs
  rw [Nat.add_sub_cancel' start] at at_end
  rw [at_end, List.getElem?_eq_getElem lt]

theorem modify_addAll_head (s : Store) (r : Record) (rs : List Record) (f : Record → Record) :
    (s.addAll (r :: rs)).modify s.records.length f = (s.add (f r)).2.addAll rs := by
  have records : (s.records ++ r :: rs).modify s.records.length f =
      s.records ++ [f r] ++ rs := by
    rw [List.modify_eq_take_drop, List.take_left, List.drop_left, List.append_assoc]
    rfl
  simp only [addAll, modify, add, records]

theorem modify_add (s : Store) (r : Record) (f : Record → Record) :
    (s.add r).2.modify s.records.length f = (s.add (f r)).2 := by
  have head := modify_addAll_head s r [] f
  rwa [addAll_cons, addAll_nil, addAll_nil] at head

theorem length_addAll (s : Store) (rs : List Record) :
    (s.addAll rs).records.length = s.records.length + rs.length := List.length_append

theorem addAll_concat (s : Store) (rs : List Record) (q : Record) :
    s.addAll (rs ++ [q]) = ((s.addAll rs).add q).2 := (addAll_addAll s rs [q]).symm

theorem record?_addAll_last (s : Store) (rs : List Record) (q : Record) :
    (s.addAll (rs ++ [q])).record? (s.addAll rs).records.length = some q := by
  rw [addAll_concat]
  exact record?_add_self ..

theorem modify_addAll_last (s : Store) (rs : List Record) (q : Record) (f : Record → Record) :
    (s.addAll (rs ++ [q])).modify (s.addAll rs).records.length f = s.addAll (rs ++ [f q]) := by
  rw [addAll_concat, modify_add, addAll_concat]

/-! ## What writing them also writes -/

variable {roots met skipped rest todo : List RecordId} {fuel : Nat}

/-- Stored records that are not asked for are passed over. -/
theorem reach_skip (stored : ∀ j ∈ skipped, ∃ q, s.record? j = some q ∧ q.isStored = true)
    (notRoots : ∀ j ∈ skipped, j ∉ roots) :
    s.reach roots (fuel + skipped.length) (skipped ++ rest) met =
      s.reach roots fuel rest met := by
  induction skipped with
  | nil => rfl
  | cons j more ih =>
    obtain ⟨q, found, isStored⟩ := stored j List.mem_cons_self
    have notRoot := notRoots j List.mem_cons_self
    have later := ih (fun i among => stored i (List.mem_cons_of_mem _ among))
      fun i among => notRoots i (List.mem_cons_of_mem _ among)
    rw [List.length_cons, ← Nat.add_assoc, List.cons_append, reach]
    simp only [found, isStored, List.contains_eq_mem, notRoot, decide_false, Bool.not_false,
      Bool.and_self, Bool.or_true, if_true]
    exact later

/-- The records that a numbered record leads to. -/
def neighboursOf (s : Store) (id : RecordId) : List RecordId :=
  ((s.record? id).map Record.neighbours).getD []

/-- New records that lead to stored ones only are met in turn, and nothing else is. -/
theorem reach_new (nodup : todo.Nodup) (fresh : ∀ id ∈ todo, id ∉ met)
    (leads : ∀ id ∈ todo, ∃ r, s.record? id = some r ∧ r.isStored = false ∧
      ∀ j ∈ r.neighbours, (∃ q, s.record? j = some q ∧ q.isStored = true) ∧ j ∉ roots)
    (enough : todo.length + (todo.flatMap s.neighboursOf).length ≤ fuel) :
    s.reach roots fuel todo met = met ++ todo := by
  induction todo generalizing met fuel with
  | nil => cases fuel <;> simp [reach]
  | cons id rest ih =>
    obtain ⟨notLater, nodupRest⟩ := List.nodup_cons.mp nodup
    obtain ⟨r, found, unstored, nearby⟩ := leads id List.mem_cons_self
    have nearest : s.neighboursOf id = r.neighbours := by simp [neighboursOf, found]
    rw [List.length_cons, List.flatMap_cons, List.length_append, nearest] at enough
    obtain ⟨spare, rfl⟩ : ∃ spare, fuel = spare + r.neighbours.length + 1 :=
      ⟨fuel - r.neighbours.length - 1, by omega⟩
    have notMet : id ∉ met := fresh id List.mem_cons_self
    rw [reach]
    simp only [found, unstored, List.contains_eq_mem, notMet, decide_false, Bool.false_and,
      Bool.or_false, Bool.false_eq_true, if_false]
    rw [reach_skip (fun j among => (nearby j among).1) fun j among => (nearby j among).2,
      ih nodupRest ?_ (fun j among => leads j (List.mem_cons_of_mem _ among)) (by omega),
      List.append_assoc, List.singleton_append]
    intro j among
    rw [List.mem_append, List.mem_singleton, not_or]
    refine ⟨fresh j (List.mem_cons_of_mem _ among), ?_⟩
    rintro rfl
    exact notLater among

/-- Writing new records that lead to stored ones only writes no other new record. -/
theorem closure_newIds (transient : ∀ r ∈ rs, r.isTransient = true)
    (leads : ∀ r ∈ rs, ∀ j ∈ r.neighbours, ∃ q, s.record? j = some q ∧ q.isStored = true) :
    (s.addAll rs).closure (s.newIds rs) = s.newIds rs := by
  have near : (s.newIds rs).map (s.addAll rs).neighboursOf = rs.map Record.neighbours := by
    refine List.ext_getElem (by simp [newIds]) fun i _ lt => ?_
    rw [List.length_map] at lt
    have at_end : (s.addAll rs).record? (s.records.length + i) = some rs[i] := by
      rw [record?_addAll_new, List.getElem?_eq_getElem lt]
    simp [newIds, neighboursOf, at_end]
  have enough : (s.newIds rs).length + ((s.newIds rs).flatMap (s.addAll rs).neighboursOf).length ≤
      (s.addAll rs).reachSteps (s.newIds rs) := by
    rw [List.flatMap_def, near, ← List.flatMap_def, reachSteps, addAll, List.flatMap_append,
      List.length_append]
    omega
  have met : (s.addAll rs).reach (s.newIds rs) ((s.addAll rs).reachSteps (s.newIds rs))
      (s.newIds rs) [] = s.newIds rs := by
    refine reach_new (newIds_nodup s rs) (fun _ _ => nofun) (fun id new => ?_) enough
    obtain ⟨r, among, found⟩ := exists_mem_of_newIds new
    have isTransient := transient r among
    refine ⟨r, found, ?_, fun j near => ?_⟩
    · rw [Record.isTransient, Bool.and_eq_true, Option.isNone_iff_eq_none] at isTransient
      simp [Record.isStored, isTransient.1]
    · obtain ⟨q, foundNear, isStored⟩ := leads r among j near
      refine ⟨⟨q, record?_addAll_of_some rs foundNear, isStored⟩, fun new => ?_⟩
      exact absurd (lt_length_of_record? foundNear) (Nat.not_lt.mpr (mem_newIds.mp new).1)
  rw [closure, met, List.filter_eq_self]
  intro id new
  obtain ⟨r, among, found⟩ := exists_mem_of_newIds new
  simp only [test, found, Option.any_some, transient r among]

end Principals.Store
