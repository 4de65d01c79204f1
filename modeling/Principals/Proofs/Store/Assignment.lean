import Mathlib.Data.List.Basic
import Principals.Proofs.Store.Action

/-!
# What assignments leave alone

An assignment changes one record, and a link also the collections on its other side. Neither a link
nor a collection touches what is plain about any record: its class, its values, its row.
`Store.KeepsPlain` says so of two stores, and the primitives that this module goes through all keep
it.

* `setLink_induction`: a link, and what becomes of collections;
* `setLink_keepsPlain`: assigning a link;
* `setLink_eq_modify`: the one record that a link changes when no collection gathers it.
-/

namespace Principals

/-- Two records that differ at most in what links and collections hold. -/
structure Record.SamePlain (r q : Record) : Prop where
  cls : q.cls = r.cls
  values : q.values = r.values
  row : q.row = r.row
  removed : q.removed = r.removed

namespace Record.SamePlain

variable {r q t : Record}

theorem refl (r : Record) : r.SamePlain r := ⟨rfl, rfl, rfl, rfl⟩

theorem trans (first : r.SamePlain q) (second : q.SamePlain t) : r.SamePlain t :=
  ⟨second.cls.trans first.cls, second.values.trans first.values, second.row.trans first.row,
    second.removed.trans first.removed⟩

theorem value (same : r.SamePlain q) (attr : String) : q.value attr = r.value attr := by
  rw [Record.value, Record.value, same.values]

end Record.SamePlain

namespace Store

variable {s s' s'' : Store} {id : RecordId}

theorem lt_length_of_record? {r : Record} (found : s.record? id = some r) :
    id < s.records.length := (List.getElem?_eq_some_iff.mp found).1

theorem mem_of_record? {r : Record} (found : s.record? id = some r) : r ∈ s.records :=
  List.mem_of_getElem? found

theorem get_of_plain {r : Record} {attr : String} (found : s.record? id = some r)
    (plain : r.cls.isPlain attr = true) : s.get id attr = r.value attr := by
  simp only [RecordClass.isPlain, Bool.and_eq_true, Option.isNone_iff_eq_none, Bool.not_eq_true',
    List.contains_eq_mem, decide_eq_false_iff_not] at plain
  simp [get, found, valueOf, plain.1, plain.2]

theorem set_link {r : Record} {attr : String} {rel : Relationship} (target : RecordId)
    (found : s.record? id = some r) (isLink : r.cls.relationship? attr = some rel) :
    s.set id attr (.record target) = .ok (s.setLink id rel (some target)) := by
  simp only [set, found, isLink]

/-! ## One record changed -/

theorem modify_modify (s : Store) (id : RecordId) (f g : Record → Record) :
    (s.modify id f).modify id g = s.modify id (g ∘ f) := by
  simp only [modify, List.modify_modify_eq]

theorem modify_congr {r : Record} {f g : Record → Record} (found : s.record? id = some r)
    (same : f r = g r) : s.modify id f = s.modify id g := by
  have records : s.records.modify id f = s.records.modify id g := by
    apply List.ext_getElem?
    intro j
    by_cases at_id : id = j
    · subst at_id
      have given : s.records[id]? = some r := found
      simp [given, same]
    · rw [List.getElem?_modify_ne _ _ at_id, List.getElem?_modify_ne _ _ at_id]
  rw [modify, modify, records]

theorem modify_eq_self {r : Record} {f : Record → Record} (found : s.record? id = some r)
    (same : f r = r) : s.modify id f = s := by
  have idle : s.modify id f = s.modify id fun r => r := modify_congr found same
  have records : s.records.modify id (fun r => r) = s.records := List.modify_id id s.records
  rw [idle, modify, records]

/-- A changed store has the changed record under its number and every other record as it was. -/
theorem record?_of_modify {j : RecordId} {r q : Record} {f : Record → Record}
    (found : s.record? id = some r) (there : (s.modify id f).record? j = some q) :
    j = id ∧ q = f r ∨ j ≠ id ∧ s.record? j = some q := by
  by_cases own : id = j
  · subst own
    rw [record?_modify_self f found] at there
    cases there
    exact .inl ⟨rfl, rfl⟩
  · rw [record?_modify_of_ne f own] at there
    exact .inr ⟨Ne.symm own, there⟩

/-! ## A record added -/

theorem record?_add_self (s : Store) (r : Record) :
    (s.add r).2.record? s.records.length = some r := by
  simp [add, record?]

theorem record?_add_of_some {r : Record} (q : Record) (found : s.record? id = some r) :
    (s.add q).2.record? id = some r := by
  have lt := lt_length_of_record? found
  change (s.records ++ [q])[id]? = some r
  rw [List.getElem?_append_left lt]
  exact found

theorem record?_of_add {j : RecordId} {r q : Record} (there : (s.add r).2.record? j = some q) :
    q = r ∧ s.record? j = none ∨ s.record? j = some q := by
  cases before : s.record? j with
  | some p =>
    rw [record?_add_of_some r before] at there
    exact .inr there
  | none =>
    have beyond : s.records.length ≤ j := List.getElem?_eq_none_iff.mp before
    change (s.records ++ [r])[j]? = some q at there
    rw [List.getElem?_append_right beyond, List.getElem?_singleton] at there
    split at there
    · cases there
      exact .inl ⟨rfl, rfl⟩
    · cases there

/-! ## Stores that agree on what is plain -/

/-- Every record keeps its number and what is plain about it; records may be added. -/
def KeepsPlain (s s' : Store) : Prop :=
  ∀ id r, s.record? id = some r → ∃ q, s'.record? id = some q ∧ r.SamePlain q

theorem KeepsPlain.refl (s : Store) : s.KeepsPlain s := fun _ r found => ⟨r, found, .refl r⟩

theorem KeepsPlain.trans (first : s.KeepsPlain s') (second : s'.KeepsPlain s'') :
    s.KeepsPlain s'' := by
  intro id r found
  obtain ⟨q, foundMiddle, same⟩ := first id r found
  obtain ⟨t, foundLast, same'⟩ := second id q foundMiddle
  exact ⟨t, foundLast, same.trans same'⟩

theorem KeepsPlain.add (s : Store) (r : Record) : s.KeepsPlain (s.add r).2 :=
  fun _ q found => ⟨q, record?_add_of_some r found, .refl q⟩

theorem KeepsPlain.modify (s : Store) (id : RecordId) {f : Record → Record}
    (keeps : ∀ r : Record, r.SamePlain (f r)) : s.KeepsPlain (s.modify id f) := by
  intro j r found
  by_cases at_id : id = j
  · subst at_id
    exact ⟨f r, record?_modify_self f found, keeps r⟩
  · exact ⟨r, by rw [record?_modify_of_ne f at_id, found], .refl r⟩

/-- The record with a link assigned, to be written at the next flush. -/
def linkTo (rel : Relationship) (target : Option RecordId) (r : Record) : Record :=
  { r with
    links := r.links.insert rel.attr target
    unwritten :=
      if r.unwritten.contains rel.attr then r.unwritten else r.unwritten ++ [rel.attr] }

/-- Where no collection gathers what a relationship links, a link changes its own record only. -/
theorem setLink_eq_modify {rel : Relationship} (s : Store) (id : RecordId)
    (target : Option RecordId) (noBackref : rel.backref = none) :
    s.setLink id rel target = s.modify id (linkTo rel target) := by
  simp only [setLink, noBackref]
  rfl

/-- What holds once a record is linked, and outlives changes of collections, holds after a link. Only
the collection that gathers what the relationship links is changed. -/
theorem setLink_induction {P : Store → Prop} {rel : Relationship} {target : Option RecordId}
    (linked : P (s.modify id (linkTo rel target)))
    (regather : ∀ u owner (f : Record → Record),
      (∀ r, ∃ gathered, f r = { r with gathered } ∧
        ∀ attr, rel.backref ≠ some attr → gathered.find? attr = r.gathered.find? attr) →
      P u → P (u.modify owner f)) :
    P (s.setLink id rel target) := by
  have kept : ∀ (r : Record) name ids, rel.backref = some name → ∀ attr, rel.backref ≠ some attr →
      (r.gathered.insert name ids).find? attr = r.gathered.find? attr := by
    refine fun r name ids isBackref attr other => OrderedMap.find?_insert_of_ne _ ?_ _
    rintro rfl
    exact other isBackref
  have ungather : ∀ u owner name, rel.backref = some name → P u → P (u.ungather owner name id) := by
    refine fun u owner name isBackref holds => regather u owner _ (fun r => ?_) holds
    split
    · exact ⟨_, rfl, kept r name _ isBackref⟩
    · exact ⟨_, rfl, fun _ _ => rfl⟩
  have gather : ∀ u owner name, rel.backref = some name → P u → P (u.gather owner name id) := by
    refine fun u owner name isBackref holds => regather u owner _ (fun r => ?_) holds
    split
    · exact ⟨_, rfl, kept r name _ isBackref⟩
    · exact ⟨_, rfl, fun _ _ => rfl⟩
  unfold setLink
  split
  · exact linked
  · next name isBackref =>
    dsimp only
    split
    · exact linked
    · cases (s.record? id).bind fun r => s.linked? r rel with
      | none =>
        cases target with
        | none => exact linked
        | some owner => exact gather _ owner name isBackref linked
      | some before =>
        cases target with
        | none => exact ungather _ before name isBackref linked
        | some owner =>
          exact gather _ owner name isBackref (ungather _ before name isBackref linked)

/-- A link leaves what is plain about every record. -/
theorem setLink_keepsPlain (s : Store) (id : RecordId) (rel : Relationship)
    (target : Option RecordId) : s.KeepsPlain (s.setLink id rel target) := by
  refine setLink_induction (.modify s id fun _ => ⟨rfl, rfl, rfl, rfl⟩) fun u owner f gathers kept =>
    kept.trans (.modify u owner fun r => ?_)
  obtain ⟨gathered, regathered, -⟩ := gathers r
  rw [regathered]
  exact ⟨rfl, rfl, rfl, rfl⟩

end Store

end Principals
