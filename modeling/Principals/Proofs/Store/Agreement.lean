import Principals.Proofs.Store.Tables

/-!
# What assignments leave at an attribute

An assignment concerns one attribute of one record. Whatever it does besides, for instance to the
collections on the other side of a link, any other attribute of that record and every attribute of
any other keeps its value, its link, and whether the link is still to be written.

* `Record.AgreeAt`, `Store.AgreesAt`: what it is to agree at an attribute;
* `set_cases`: the three ways in which an assignment goes;
* `AgreesAt.set`: an assignment elsewhere;
* `Assigned.set`, `Assigned.sameTables`: what no assignment changes;
* `exists_value_of_set`, `exists_link_of_set`: what an assignment leaves at its own attribute.
-/

namespace Principals

/-- Two records with one class and one row that agree on everything about an attribute. -/
structure Record.AgreeAt (attr : String) (r q : Record) : Prop where
  cls : q.cls = r.cls
  row : q.row = r.row
  removed : q.removed = r.removed
  value : q.value attr = r.value attr
  link : q.links.find? attr = r.links.find? attr
  waiting : attr ∈ q.unwritten ↔ attr ∈ r.unwritten

namespace Record.AgreeAt

variable {attr other : String} {r q t : Record}

theorem refl (attr : String) (r : Record) : AgreeAt attr r r := ⟨rfl, rfl, rfl, rfl, rfl, .rfl⟩

theorem trans (first : AgreeAt attr r q) (second : AgreeAt attr q t) : AgreeAt attr r t :=
  ⟨second.cls.trans first.cls, second.row.trans first.row, second.removed.trans first.removed,
    second.value.trans first.value, second.link.trans first.link,
    second.waiting.trans first.waiting⟩

theorem setValue (ne : other ≠ attr) (r : Record) (v : Value) :
    AgreeAt attr r (r.setValue other v) :=
  ⟨rfl, rfl, rfl, value_setValue_of_ne r (Ne.symm ne) v, rfl, .rfl⟩

theorem gathered (attr : String) (r : Record) (g : OrderedMap String (List RecordId)) :
    AgreeAt attr r { r with gathered := g } := ⟨rfl, rfl, rfl, rfl, rfl, .rfl⟩

end Record.AgreeAt

/-- A link waits to be written once it was assigned, beside those that waited before. -/
theorem Store.mem_unwritten_linkTo {rel : Relationship} {target : Option RecordId} {r : Record}
    {attr : String} :
    attr ∈ (linkTo rel target r).unwritten ↔ attr = rel.attr ∨ attr ∈ r.unwritten := by
  change attr ∈ (if r.unwritten.contains rel.attr then r.unwritten
    else r.unwritten ++ [rel.attr]) ↔ _
  split
  · next already =>
    constructor
    · exact .inr
    · rintro (rfl | waiting)
      · exact List.contains_iff_mem.mp already
      · exact waiting
  · rw [List.mem_append, List.mem_singleton, or_comm]

theorem Record.AgreeAt.linkTo {rel : Relationship} {attr : String} (ne : rel.attr ≠ attr)
    (r : Record) (target : Option RecordId) : AgreeAt attr r (Store.linkTo rel target r) := by
  refine ⟨rfl, rfl, rfl, rfl, OrderedMap.find?_insert_of_ne _ (Ne.symm ne) _, ?_⟩
  rw [Store.mem_unwritten_linkTo]
  exact ⟨fun waiting => waiting.resolve_left (Ne.symm ne), .inr⟩

namespace Store

variable {s s' s'' : Store} {id j : RecordId} {attr a : String} {v : Value} {r : Record}

/-- A record that keeps everything about an attribute. -/
def AgreesAt (id : RecordId) (attr : String) (s s' : Store) : Prop :=
  ∀ r, s.record? id = some r → ∃ q, s'.record? id = some q ∧ r.AgreeAt attr q

namespace AgreesAt

theorem refl (id : RecordId) (attr : String) (s : Store) : AgreesAt id attr s s :=
  fun r found => ⟨r, found, .refl attr r⟩

theorem trans (first : AgreesAt id attr s s') (second : AgreesAt id attr s' s'') :
    AgreesAt id attr s s'' := by
  intro r found
  obtain ⟨q, foundMiddle, same⟩ := first r found
  obtain ⟨t, foundLast, same'⟩ := second q foundMiddle
  exact ⟨t, foundLast, same.trans same'⟩

theorem add (id : RecordId) (attr : String) (s : Store) (q : Record) :
    AgreesAt id attr s (s.add q).2 :=
  fun r found => ⟨r, record?_add_of_some q found, .refl attr r⟩

/-- A change of a record that, if it is this one, keeps everything about the attribute. -/
theorem modify (s : Store) (j : RecordId) {f : Record → Record}
    (keeps : j = id → ∀ r, Record.AgreeAt attr r (f r)) : AgreesAt id attr s (s.modify j f) := by
  intro r found
  by_cases own : j = id
  · subst own
    exact ⟨f r, record?_modify_self f found, keeps rfl r⟩
  · exact ⟨r, by rw [record?_modify_of_ne f own, found], .refl attr r⟩

end AgreesAt

/-! ## Links -/

/-- Besides the record that is linked, a link changes collections only. -/
theorem agreesAt_setLink_of_linkTo (s : Store) (j : RecordId) (rel : Relationship)
    (target : Option RecordId) (id : RecordId) (attr : String) :
    AgreesAt id attr (s.modify j (linkTo rel target)) (s.setLink j rel target) := by
  refine setLink_induction (.refl id attr _) fun u owner f gathers agrees =>
    agrees.trans (.modify u owner fun _ r => ?_)
  obtain ⟨gathered, regathered, -⟩ := gathers r
  rw [regathered]
  exact .gathered attr r gathered

theorem AgreesAt.setLink {rel : Relationship} (s : Store) (j : RecordId)
    (target : Option RecordId) (elsewhere : j = id → rel.attr ≠ attr) :
    AgreesAt id attr s (s.setLink j rel target) := by
  have linked : AgreesAt id attr s (s.modify j (linkTo rel target)) :=
    .modify s j fun own r => .linkTo (elsewhere own) r target
  exact linked.trans (agreesAt_setLink_of_linkTo s j rel target id attr)

/-! ## Assignments -/

theorem attr_of_relationship? {cls : RecordClass} {rel : Relationship}
    (isLink : cls.relationship? attr = some rel) : rel.attr = attr := by
  have found := List.find?_some isLink
  simpa using found

/-- An assignment that succeeds assigns a link, a collection or a plain attribute. -/
theorem set_cases (done : s.set id a v = .ok s') : ∃ r, s.record? id = some r ∧
    ((∃ rel target, r.cls.relationship? a = some rel ∧ s' = s.setLink id rel target ∧
        v = (target.map Value.record).getD .null) ∨
      (∃ ids items, v = .list items ∧
        s' = s.modify id fun r => { r with gathered := r.gathered.insert a ids }) ∨
      r.cls.isPlain a = true ∧ s' = s.modify id fun r => r.setValue a v) := by
  unfold set at done
  split at done
  · cases done
  · next r found =>
    refine ⟨r, found, ?_⟩
    split at done
    · next rel isLink =>
      left
      split at done
      · cases done
        exact ⟨rel, none, isLink, rfl, rfl⟩
      · next target =>
        cases done
        exact ⟨rel, some target, isLink, rfl, rfl⟩
      · cases done
    · next noLink =>
      split at done
      · right; left
        split at done
        · next items =>
          split at done
          · next ids _ =>
            cases done
            exact ⟨ids, items, rfl, rfl⟩
          · cases done
        · cases done
      · next noCollection =>
        right; right
        cases done
        refine ⟨?_, rfl⟩
        simp only [RecordClass.isPlain, noLink, Option.isNone_none, Bool.true_and,
          Bool.not_eq_true'] at noCollection ⊢
        exact Bool.eq_false_iff.mpr noCollection

/-- An assignment to another attribute, or of another record, keeps everything about this one. -/
theorem AgreesAt.set (elsewhere : j = id → a ≠ attr) (done : s.set j a v = .ok s') :
    AgreesAt id attr s s' := by
  obtain ⟨r, found, ⟨rel, target, isLink, rfl, -⟩ | ⟨ids, items, -, rfl⟩ | ⟨-, rfl⟩⟩ :=
    set_cases done
  · exact .setLink s j target fun own => attr_of_relationship? isLink ▸ elsewhere own
  · exact .modify s j fun _ r => .gathered attr r _
  · exact .modify s j fun own r => .setValue (elsewhere own) r v

/-! ## What no assignment changes -/

/-- Stores over one catalog with the same records, as far as no assignment goes: each keeps its
class and its row. -/
structure Assigned (s s' : Store) : Prop where
  catalog : s'.catalog = s.catalog
  size : s'.records.length = s.records.length
  kept : ∀ id r, s.record? id = some r →
    ∃ q, s'.record? id = some q ∧ q.cls = r.cls ∧ q.row = r.row ∧ q.removed = r.removed

namespace Assigned

theorem refl (s : Store) : s.Assigned s := ⟨rfl, rfl, fun _ r found => ⟨r, found, rfl, rfl, rfl⟩⟩

theorem trans (first : s.Assigned s') (second : s'.Assigned s'') : s.Assigned s'' := by
  refine ⟨second.catalog.trans first.catalog, second.size.trans first.size, fun id r found => ?_⟩
  obtain ⟨q, foundMiddle, cls, row, removed⟩ := first.kept id r found
  obtain ⟨t, foundLast, cls', row', removed'⟩ := second.kept id q foundMiddle
  exact ⟨t, foundLast, cls'.trans cls, row'.trans row, removed'.trans removed⟩

theorem modify (s : Store) (id : RecordId) {f : Record → Record}
    (keeps : ∀ r : Record, (f r).cls = r.cls ∧ (f r).row = r.row ∧ (f r).removed = r.removed) :
    s.Assigned (s.modify id f) := by
  refine ⟨rfl, List.length_modify f _ _, fun j r found => ?_⟩
  by_cases own : id = j
  · subst own
    exact ⟨f r, record?_modify_self f found, keeps r⟩
  · exact ⟨r, by rw [record?_modify_of_ne f own, found], rfl, rfl, rfl⟩

theorem setLink (s : Store) (id : RecordId) (rel : Relationship) (target : Option RecordId) :
    s.Assigned (s.setLink id rel target) := by
  refine setLink_induction (.modify s id fun _ => ⟨rfl, rfl, rfl⟩)
    fun u owner f gathers assigned => assigned.trans (.modify u owner fun r => ?_)
  obtain ⟨gathered, regathered, -⟩ := gathers r
  rw [regathered]
  exact ⟨rfl, rfl, rfl⟩

theorem set (done : s.set id a v = .ok s') : s.Assigned s' := by
  obtain ⟨r, found, ⟨rel, target, -, rfl, -⟩ | ⟨ids, items, -, rfl⟩ | ⟨-, rfl⟩⟩ := set_cases done
  · exact .setLink s id rel target
  · exact .modify s id fun _ => ⟨rfl, rfl, rfl⟩
  · exact .modify s id fun _ => ⟨rfl, rfl, rfl⟩

/-- Every record was there before. -/
theorem exists_record? (assigned : s.Assigned s') {q : Record} (found : s'.record? id = some q) :
    ∃ r, s.record? id = some r ∧ q.cls = r.cls ∧ q.row = r.row ∧ q.removed = r.removed := by
  have lt : id < s.records.length := assigned.size ▸ lt_length_of_record? found
  obtain ⟨r, before⟩ : ∃ r, s.record? id = some r := ⟨_, List.getElem?_eq_getElem lt⟩
  obtain ⟨q', found', same⟩ := assigned.kept id r before
  rw [found] at found'
  cases found'
  exact ⟨r, before, same⟩

/-- The tables stay as they are. -/
theorem sameTables (assigned : s.Assigned s') : s.SameTables s' := by
  intro id
  cases before : s.record? id with
  | some r =>
    obtain ⟨q, found, cls, row, -⟩ := assigned.kept id r before
    rw [stored?, stored?, before, found, Option.bind_some, Option.bind_some, cls, row]
  | none =>
    cases found : s'.record? id with
    | none => rw [stored?, stored?, before, found]
    | some q =>
      obtain ⟨r, before', -⟩ := assigned.exists_record? found
      rw [before] at before'
      cases before'

end Assigned

/-- A text can only be assigned to a plain attribute, which then has it. -/
theorem exists_value_of_set {text : String} (done : s.set id attr (.text text) = .ok s') :
    ∃ r, s'.record? id = some r ∧ r.cls.isPlain attr = true ∧ r.value attr = .text text := by
  obtain ⟨r, found, ⟨rel, target, -, -, isTarget⟩ | ⟨ids, items, isList, -⟩ | ⟨plain, rfl⟩⟩ :=
    set_cases done
  · cases target <;> cases isTarget
  · cases isList
  · exact ⟨_, record?_modify_self _ found, plain, Record.value_setValue_self r attr _⟩

/-- A record that is assigned to a relationship is linked, and the link waits to be written. -/
theorem exists_link_of_set {rel : Relationship} {target : RecordId}
    (found : s.record? id = some r) (isLink : r.cls.relationship? attr = some rel)
    (done : s.set id attr (.record target) = .ok s') :
    ∃ q, s'.record? id = some q ∧ q.cls = r.cls ∧ q.links.find? attr = some (some target) ∧
      attr ∈ q.unwritten := by
  rw [set_link target found isLink] at done
  cases done
  have name := attr_of_relationship? isLink
  obtain ⟨q, there, same⟩ := agreesAt_setLink_of_linkTo s id rel (some target) id attr _
    (record?_modify_self _ found)
  refine ⟨q, there, same.cls, ?_, ?_⟩
  · rw [same.link, ← name]
    exact OrderedMap.find?_insert_self _ _ _
  · rw [same.waiting, mem_unwritten_linkTo]
    exact .inl name.symm

end Store

end Principals
