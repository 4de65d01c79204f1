import Principals.Proofs.Store.Settled

/-!
# What a flush leaves

A flush that succeeds is a run of rows written one after the other. Each of them touches one record
only, which then has nothing left to write; and every record that the tables hold before or after is
among those written. So a flush leaves a store that is settled, and whatever holds before it and
survives the writing of a row holds after it.

* `writeRow_eq_ok`: what writing a row changes;
* `flush_induction`, `flush_reaches`: what survives the writing of a row survives a flush, and so
  does what the writing of a class reaches;
* `settledIn_of_flush`, `settled_of_flush`: what a flush leaves is settled;
* `flush_of_persist`: persisting records is a flush.
-/

namespace Principals.Store

variable {s t u u' : Store} {id : RecordId} {r q : Record} {row : Row} {new ids : List RecordId}

/-! ## One row -/

/-- The record as it is written: with its references set and, if it is new, with a number. -/
def prepared (u : Store) (r : Record) : Record :=
  if (u.syncLinks r).isStored then u.syncLinks r else u.number (u.syncLinks r)

/-- The record with the reference of one relationship set to what the link leads to. -/
def syncLink (u : Store) (r acc : Record) (attr : String) : Record :=
  match r.cls.relationship? attr with
  | some rel => acc.setValue rel.localAttr (match (r.links.find? attr).join with
    | some target => u.get target rel.remote
    | none => .null)
  | none => acc

theorem syncLinks_eq (u : Store) (r : Record) :
    u.syncLinks r = { r.unwritten.foldl (u.syncLink r) r with unwritten := [] } := rfl

theorem exists_syncLinks_eq (u : Store) (r : Record) :
    ∃ values, u.syncLinks r = { r with values, unwritten := [] } := by
  have folded : ∀ (attrs : List String) (acc : Record),
      ∃ values, attrs.foldl (u.syncLink r) acc = { acc with values } := by
    intro attrs
    induction attrs with
    | nil => exact fun acc => ⟨acc.values, rfl⟩
    | cons attr rest ih =>
      intro acc
      obtain ⟨values, eq⟩ := ih (u.syncLink r acc attr)
      refine ⟨values, eq.trans ?_⟩
      unfold syncLink
      split <;> rfl
  obtain ⟨values, eq⟩ := folded r.unwritten r
  exact ⟨values, by rw [syncLinks_eq, eq]⟩

theorem exists_number_eq (u : Store) (r : Record) :
    ∃ values, u.number r = { r with values } := by
  unfold number
  split
  · split
    · exact ⟨_, rfl⟩
    · exact ⟨r.values, rfl⟩
  · exact ⟨r.values, rfl⟩

/-- Preparing a record changes nothing but values, and leaves no link to be written. -/
theorem exists_prepared_eq (u : Store) (r : Record) :
    ∃ values, u.prepared r = { r with values, unwritten := [] } := by
  obtain ⟨values, synced⟩ := exists_syncLinks_eq u r
  unfold prepared
  split
  · exact ⟨values, synced⟩
  · obtain ⟨values', numbered⟩ := exists_number_eq u (u.syncLinks r)
    exact ⟨values', by rw [numbered, synced]⟩

theorem cls_prepared (u : Store) (r : Record) : (u.prepared r).cls = r.cls := by
  obtain ⟨values, prepared_eq⟩ := exists_prepared_eq u r
  rw [prepared_eq]

/-- The row that is written is that of the prepared record, if it is new. -/
theorem writeRow_eq (found : u.record? id = some r) :
    u.writeRow id = (do
      let row ← (u.prepared r).storeRow r.cls.columns
      if (u.prepared r).row = some row then .ok (u.modify id fun _ => u.prepared r)
      else if admits r.cls (u.otherRows id r.cls) row then
        .ok (u.modify id fun _ => { u.prepared r with row := some row })
      else .error .constraint) := by
  rw [← cls_prepared u r]
  simp only [writeRow, found]
  rfl

/-- Writing a row that succeeds leaves the prepared record with its row, and changes no other. -/
theorem writeRow_eq_ok (found : u.record? id = some r) (written : u.writeRow id = .ok u') :
    ∃ row, (u.prepared r).storeRow r.cls.columns = .ok row ∧
      u' = u.modify id fun _ => { u.prepared r with row := some row } := by
  rw [writeRow_eq found] at written
  obtain ⟨row, stored, written⟩ := bind_eq_ok.mp written
  refine ⟨row, stored, ?_⟩
  split at written
  · next has =>
    cases written
    rw [← has]
  · split at written
    · cases written
      rfl
    · cases written

/-- The row of a new record is written only if it satisfies the constraints of its table. -/
theorem admits_of_writeRow (found : u.record? id = some r) (new : r.row = none)
    (written : u.writeRow id = .ok u') :
    ∃ row, (u.prepared r).storeRow r.cls.columns = .ok row ∧
      admits r.cls (u.otherRows id r.cls) row = true := by
  rw [writeRow_eq found] at written
  obtain ⟨row, stored, written⟩ := bind_eq_ok.mp written
  refine ⟨row, stored, ?_⟩
  obtain ⟨values, prepared_eq⟩ := exists_prepared_eq u r
  have unwritten : (u.prepared r).row = none := by
    rw [prepared_eq]
    exact new
  rw [unwritten, if_neg nofun] at written
  split at written
  · assumption
  · cases written

/-- A record that was written has nothing left to write. -/
theorem settled_of_storeRow (stored : (u.prepared r).storeRow r.cls.columns = .ok row) :
    Record.Settled { u.prepared r with row := some row } := by
  obtain ⟨values, prepared_eq⟩ := exists_prepared_eq u r
  intro row' has
  cases has
  refine ⟨?_, by rw [prepared_eq]⟩
  have sameValues : Record.storeRow { u.prepared r with row := some row } =
      (u.prepared r).storeRow := funext (Record.storeRow_congr fun _ => rfl)
  change Record.storeRow { u.prepared r with row := some row } (u.prepared r).cls.columns = _
  rw [sameValues, cls_prepared, stored]

/-- After a row was written, each record is as it was, or it is the one that was written and settled
under its class. -/
theorem record?_of_writeRow {j : RecordId} (written : u.writeRow id = .ok u')
    (found : u'.record? j = some q) :
    u.record? j = some q ∨ q.Settled ∧ ∃ r, u.record? j = some r ∧ q.cls = r.cls := by
  cases there : u.record? id with
  | none =>
    simp only [writeRow, there] at written
    cases written
    exact .inl found
  | some r =>
    obtain ⟨row, stored, rfl⟩ := writeRow_eq_ok there written
    rcases record?_of_modify there found with ⟨rfl, rfl⟩ | ⟨-, same⟩
    · obtain ⟨values, prepared_eq⟩ := exists_prepared_eq u r
      exact .inr ⟨settled_of_storeRow stored, r, there, by rw [prepared_eq]⟩
    · exact .inl same

/-- The record that was written is settled. -/
theorem settled_of_writeRow (written : u.writeRow id = .ok u')
    (found : u'.record? id = some q) : q.Settled := by
  cases there : u.record? id with
  | none =>
    simp only [writeRow, there] at written
    cases written
    rw [there] at found
    cases found
  | some r =>
    obtain ⟨row, stored, rfl⟩ := writeRow_eq_ok there written
    rw [record?_modify_self _ there] at found
    cases found
    exact settled_of_storeRow stored

theorem catalog_of_writeRow (written : u.writeRow id = .ok u') : u'.catalog = u.catalog := by
  cases found : u.record? id with
  | none =>
    simp only [writeRow, found] at written
    cases written
    rfl
  | some r =>
    obtain ⟨row, -, rfl⟩ := writeRow_eq_ok found written
    rfl

/-! ## Many rows -/

theorem foldlM_induction {α : Type} {P : Store → Prop} {f : Store → α → Except Failure Store}
    (step : ∀ u a u', P u → f u a = .ok u' → P u') {as : List α} (start : P s)
    (done : as.foldlM f s = .ok t) : P t := by
  induction as generalizing s with
  | nil =>
    cases done
    exact start
  | cons a rest ih =>
    rw [List.foldlM_cons] at done
    obtain ⟨u, first, later⟩ := bind_eq_ok.mp done
    exact ih (step s a u start first) later

theorem foldlM_of_writeRows (done : s.writeRows ids = .ok t) :
    ids.foldlM (fun s id => s.writeRow id) s = .ok t := by
  unfold writeRows at done
  split at done
  · exact done
  · cases done

section
variable {P : Store → Prop} (step : ∀ u id u', P u → u.writeRow id = .ok u' → P u')
include step

theorem writeClass_induction {cls : RecordClass} (start : P s)
    (done : s.writeClass new cls = .ok t) : P t := by
  obtain ⟨u, changed, added⟩ := bind_eq_ok.mp done
  exact foldlM_induction step (foldlM_induction step start (foldlM_of_writeRows changed))
    (foldlM_of_writeRows added)

/-- What survives the writing of a row survives a flush. -/
theorem flush_induction (start : P s) (done : s.flush new = .ok t) : P t :=
  foldlM_induction (fun _ _ _ holds done => writeClass_induction step holds done) start done

/-- What a class reaches when it is written, from what survives the rows before it, and what
survives the rows after it, holds after a flush. -/
theorem flush_reaches {Q : Store → Prop} (stepAfter : ∀ u id u', Q u → u.writeRow id = .ok u' → Q u')
    {cls : RecordClass} (known : cls ∈ s.catalog.classes) (start : P s)
    (here : ∀ u u' added, (∀ id ∈ new, id ∈ added) → P u → u.writeClass added cls = .ok u' → Q u')
    (done : s.flush new = .ok t) : Q t := by
  have through : ∀ added, (∀ id ∈ new, id ∈ added) → ∀ (classes : List RecordClass) (u : Store),
      cls ∈ classes → P u → classes.foldlM (fun u cls => u.writeClass added cls) u = .ok t →
      Q t := by
    intro added all classes
    induction classes with
    | nil => exact fun _ => nofun
    | cons first rest ih =>
      intro u among before done
      rw [List.foldlM_cons] at done
      obtain ⟨v, now, later⟩ := bind_eq_ok.mp done
      rcases List.mem_cons.mp among with rfl | inRest
      · exact foldlM_induction (fun _ _ _ holds done => writeClass_induction stepAfter holds done)
          (here u v added all before now) later
      · exact ih v inRest (writeClass_induction step before now) later
  exact through _ (fun id among => List.mem_append_left _ among) s.catalog.classes s known start done

end

/-- Persisting that succeeds is a flush that succeeds. -/
theorem flush_of_persist (done : (StoreM.persist ids).outcome s = (.ok (), t)) :
    s.flush (s.closure ids) = .ok t := by
  have required : ∀ (p : Record → Bool) (ids : List RecordId),
      StoreM.Keeps (· = s) (ids.forM fun id => StoreM.require id p) := by
    intro p ids
    induction ids with
    | nil => exact .pure _
    | cons id rest ih => exact .bind (.ask _) fun _ => ih
  obtain ⟨_, u, passed, flushed⟩ := StoreM.outcome_bind_eq_ok.mp done
  have same : u = s := (required _ ids).of_outcome passed rfl
  subst same
  exact StoreM.eq_ok_of_outcome_transact flushed

/-! ## Settled records -/

/-- A record, if there is one of that number, with nothing left to write. -/
def SettledAt (s : Store) (id : RecordId) : Prop := ∀ r, s.record? id = some r → r.Settled

theorem SettledAt.writeRow {j : RecordId} (settled : u.SettledAt j)
    (written : u.writeRow id = .ok u') : u'.SettledAt j := by
  intro q found
  rcases record?_of_writeRow written found with same | ⟨isSettled, -⟩
  · exact settled q same
  · exact isSettled

/-- Records that are written are settled afterwards. -/
theorem settledAt_of_foldlM {j : RecordId} (among : s.SettledAt j ∨ j ∈ ids)
    (done : ids.foldlM (fun s id => s.writeRow id) s = .ok t) : t.SettledAt j := by
  induction ids generalizing s with
  | nil =>
    cases done
    exact among.resolve_right nofun
  | cons id rest ih =>
    rw [List.foldlM_cons] at done
    obtain ⟨u, first, later⟩ := bind_eq_ok.mp done
    refine ih ?_ later
    rcases among with settled | among
    · exact .inl (settled.writeRow first)
    · rcases List.mem_cons.mp among with rfl | inRest
      · exact .inl fun q found => settled_of_writeRow first found
      · exact .inr inRest

/-- The records of a store under the classes that they have in another. -/
def HasClasses (s u : Store) : Prop :=
  ∀ id q, u.record? id = some q → ∃ r, s.record? id = some r ∧ q.cls = r.cls

theorem HasClasses.refl (s : Store) : s.HasClasses s := fun _ q found => ⟨q, found, rfl⟩

theorem HasClasses.writeRow (kept : s.HasClasses u) (written : u.writeRow id = .ok u') :
    s.HasClasses u' := by
  intro j q found
  rcases record?_of_writeRow written found with same | ⟨-, p, before, sameClass⟩
  · exact kept j q same
  · obtain ⟨r, there, sameClass'⟩ := kept j p before
    exact ⟨r, there, sameClass.trans sameClass'⟩

/-- Whether the records of a class have nothing left to write. -/
def SettledIn (s : Store) (className : String) : Prop :=
  ∀ id r, s.record? id = some r → r.cls.name = className → r.Settled

theorem SettledIn.writeRow {className : String} (settled : u.SettledIn className)
    (written : u.writeRow id = .ok u') : u'.SettledIn className := by
  intro j q found named
  rcases record?_of_writeRow written found with same | ⟨isSettled, -⟩
  · exact settled j q same named
  · exact isSettled

/-- Writing a class settles its records: those that have no row have nothing to write. -/
theorem settledIn_of_writeClass {cls : RecordClass} (done : s.writeClass new cls = .ok t) :
    t.SettledIn cls.name := by
  obtain ⟨u, changed, added⟩ := bind_eq_ok.mp done
  have settledFirst : u.SettledIn cls.name := by
    intro j q found named
    obtain ⟨r, there, sameClass⟩ := foldlM_induction (P := s.HasClasses)
      (fun _ _ _ kept written => kept.writeRow written) (.refl s) (foldlM_of_writeRows changed) j q
      found
    refine settledAt_of_foldlM ?_ (foldlM_of_writeRows changed) q found
    cases has : r.row with
    | none =>
      left
      intro p again
      rw [there] at again
      cases again
      intro row has'
      rw [has] at has'
      cases has'
    | some row =>
      right
      exact mem_storedOf.mpr ⟨r.cls, row, stored?_eq_some_iff.mpr ⟨r, there, rfl, has⟩,
        by rw [← sameClass, named]⟩
  exact foldlM_induction (fun _ _ _ settled written => SettledIn.writeRow settled written)
    settledFirst (foldlM_of_writeRows added)

/-- A flush settles the records of each class of the catalog. -/
theorem settledIn_of_flush {cls : RecordClass} (known : cls ∈ s.catalog.classes)
    (done : s.flush new = .ok t) : t.SettledIn cls.name :=
  flush_reaches (P := fun _ => True) (fun _ _ _ _ _ => trivial)
    (fun _ _ _ settled written => SettledIn.writeRow settled written) known trivial
    (fun _ _ _ _ _ done => settledIn_of_writeClass done) done

/-- A flush leaves every record under its class. -/
theorem hasClasses_of_flush (done : s.flush new = .ok t) : s.HasClasses t :=
  flush_induction (fun _ _ _ kept written => HasClasses.writeRow kept written) (.refl s) done

/-- A flush leaves the catalog as it is. -/
theorem catalog_of_flush (done : s.flush new = .ok t) : t.catalog = s.catalog :=
  flush_induction (P := fun u => u.catalog = s.catalog)
    (fun _ _ _ same written => (catalog_of_writeRow written).trans same) rfl done

/-- What a flush leaves is settled, if the catalog has the classes of all records. -/
theorem settled_of_flush (classes : ∀ r ∈ s.records, r.cls ∈ s.catalog.classes)
    (done : s.flush new = .ok t) : t.Settled := by
  intro q among
  obtain ⟨j, found⟩ := List.mem_iff_getElem?.mp among
  obtain ⟨r, there, cls⟩ := hasClasses_of_flush done j q found
  have known : q.cls ∈ s.catalog.classes := by
    rw [cls]
    exact classes r (mem_of_record? there)
  exact settledIn_of_flush known done j q found rfl

end Principals.Store
