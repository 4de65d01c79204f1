import Mathlib.Algebra.Group.Nat.Defs
import Principals.Proofs.Schema.Creating
import Principals.Proofs.Schema.Persisting

/-!
# Storing principals

Principals are stored in batches: the records of a batch are made, each in a realm or in none, and
then written together. The realms are there before. What is left is one record for each principal,
in the order in which they were stored, with a row that shows the principal and the id of its realm.

* `Shows`, `Kept`: a row that shows a principal, and a store that has one for each;
* `storeBatch_kept`, `storeAll_kept`: what a batch preserves, and with it a run;
* `exists_storeAll`: a run succeeds as long as there are numbers left.
-/

namespace Principals

/-! ## Runs -/

namespace Registry

/-- Makes the records of some principals, each in its realm. -/
def createAll (reg : Registry) : List (Option Realm × Principal) → StoreM (List RecordId)
  | [] => pure []
  | e :: rest => do
    let id ← reg.create e.1 e.2
    let ids ← createAll reg rest
    return id :: ids

/-- Makes the records of a batch and writes them. -/
def storeBatch (reg : Registry) (batch : List (Option Realm × Principal)) :
    StoreM (List RecordId) := do
  let ids ← reg.createAll batch
  StoreM.persist ids
  return ids

/-- Stores one batch after the other. -/
def storeAll (reg : Registry) : List (List (Option Realm × Principal)) → StoreM (List RecordId)
  | [] => pure []
  | batch :: rest => do
    let ids ← reg.storeBatch batch
    let more ← storeAll reg rest
    return ids ++ more

end Registry

/-! ## Principals of the built-in kinds -/

namespace Principal

/-- A principal that the constructor of an agent, a user, a group or a role gave. -/
def Built (d : Principal) : Prop :=
  ∃ now kind fields, (kind = .agent ∨ kind = .user ∨ kind = .group ∨ kind = .role) ∧
    Principal.create now kind fields = .ok d

/-- The variant of a built-in kind. -/
def variant (d : Principal) : Variant :=
  match d.kind with
  | .user => .user
  | .group => .group
  | .role => .role
  | _ => .agent

variable {d : Principal}

theorem variant_mem (d : Principal) : d.variant ∈ Variant.builtins := by
  unfold variant
  split <;> decide

theorem Built.constructed (built : d.Built) : d.Constructed d.variant.kind := by
  obtain ⟨now, kind, fields, among, made⟩ := built
  have constructed := Constructed.of_create made
  have ofKind : d.variant.kind = kind := by
    rw [variant, constructed.kind]
    rcases among with rfl | rfl | rfl | rfl <;> rfl
  rwa [ofKind]

theorem Built.variant_kind (built : d.Built) : d.variant.kind = d.kind :=
  built.constructed.kind.symm

end Principal

namespace Standard

variable {reg : Registry} {realms : List Realm} {s t : Store} {r : Realm}
  {es done : List (Option Realm × Principal)} {ids : List RecordId}

/-! ## What is kept -/

/-- A row that shows a principal in a realm or in none: its properties in their columns, and the id
of the realm as reference. -/
structure Shows (row : Row) (e : Option Realm × Principal) : Prop where
  entry : ∀ p x, (p, x) ∈ e.2.entries e.2.variant → ∀ attr,
    bindings.properties.find? p = some attr →
      ∃ cell, (columnType p).store x = .ok cell ∧ row.find? attr = some cell
  realm : row.find? "partition_id" = some (match e.1 with
    | some r => .text r.id
    | none => .null)

/-- A store that has realms and, after them, a written record for each of some principals. -/
structure Kept (realms : List Realm) (kept : List (Option Realm × Principal)) (s : Store) :
    Prop where
  settled : Settled s
  numbers : s.nextNumber identityClass "id" = kept.length + 1
  records : ∃ qs, s = (ofRealms realms).addAll qs ∧ List.Forall₂ (fun e q =>
    q.cls = identityClass ∧ ∃ row, q.row = some row ∧ Shows row e) kept qs

/-- Before anything is stored there are the realms only. -/
theorem kept_ofRealms (realms : List Realm) : Kept realms [] (ofRealms realms) where
  settled := settled_ofRealms realms
  numbers := by
    rw [Store.nextNumber, rowsOf_ofRealms]
    rfl
  records := ⟨[], (Store.addAll_nil _).symm, .nil⟩

theorem Kept.length_records (kept : Kept realms done s) :
    s.records.length = realms.length + done.length := by
  obtain ⟨qs, rfl, rows⟩ := kept.records
  rw [Store.addAll, List.length_append, rows.length_eq, ofRealms, List.length_map]

/-! ## Records and principals -/

/-- What is paired with a number in a list that is numbered through. -/
theorem mem_zip_range'_iff {α : Type} {xs : List α} {start id : Nat} {x : α} :
    (id, x) ∈ (List.range' start xs.length).zip xs ↔
      ∃ i, id = start + i ∧ xs[i]? = some x := by
  rw [List.mem_iff_getElem?]
  constructor
  · intro h
    rcases h with ⟨i, paired⟩
    obtain ⟨number, found⟩ := List.getElem?_zip_eq_some.mp paired
    have lt := (List.getElem?_eq_some_iff.mp found).1
    rw [List.getElem?_range' lt, Nat.one_mul] at number
    exact ⟨i, (Option.some.inj number).symm, found⟩
  · intro h
    rcases h with ⟨i, rfl, found⟩
    have lt := (List.getElem?_eq_some_iff.mp found).1
    refine ⟨i, List.getElem?_zip_eq_some.mpr ⟨?_, found⟩⟩
    rw [List.getElem?_range' lt, Nat.one_mul]

theorem record?_ofRealms_addAll (realms : List Realm) (qs : List Record) (i : Nat) :
    ((ofRealms realms).addAll qs).record? (realms.length + i) = qs[i]? := by
  have length : (ofRealms realms).records.length = realms.length := List.length_map _
  rw [← length]
  exact Store.record?_addAll_new (ofRealms realms) qs

/-- Every principal that is kept has a stored record. -/
theorem Kept.stored_of_mem {id : RecordId} {e : Option Realm × Principal}
    (kept : Kept realms done s)
    (among : (id, e) ∈ (List.range' realms.length done.length).zip done) :
    ∃ row, s.stored? id = some (identityClass, row) ∧ Shows row e := by
  obtain ⟨i, rfl, at_i⟩ := mem_zip_range'_iff.mp among
  obtain ⟨qs, rfl, rows⟩ := kept.records
  obtain ⟨lt, rfl⟩ := List.getElem?_eq_some_iff.mp at_i
  have ltNew : i < qs.length := rows.length_eq ▸ lt
  obtain ⟨cls, row, has, shows⟩ := rows.get lt ltNew
  refine ⟨row, Store.stored?_eq_some_iff.mpr ⟨qs[i], ?_, cls, has⟩, shows⟩
  rw [record?_ofRealms_addAll, List.getElem?_eq_getElem ltNew]

/-- Every stored identity record is that of a principal that is kept. -/
theorem Kept.exists_mem_of_stored {id : RecordId} {cls : RecordClass} {row : Row}
    (kept : Kept realms done s) (stored : s.stored? id = some (cls, row))
    (named : cls.name = identityClass.name) :
    ∃ e, (id, e) ∈ (List.range' realms.length done.length).zip done ∧ Shows row e := by
  obtain ⟨qs, rfl, rows⟩ := kept.records
  obtain ⟨r, found, rfl, has⟩ := Store.stored?_eq_some_iff.mp stored
  by_cases realm : id < realms.length
  · have isRealm : (ofRealms realms).record? id =
        some (.ofRow realmClass (realmRow realms[id])) := by
      rw [Store.record?, ofRealms, List.getElem?_map, List.getElem?_eq_getElem realm]
      rfl
    rw [Store.record?_addAll_of_some qs isRealm] at found
    cases found
    have other : realmClass.name ≠ identityClass.name := by decide
    exact absurd named other
  · obtain ⟨i, rfl⟩ := Nat.exists_eq_add_of_le (Nat.le_of_not_lt realm)
    rw [record?_ofRealms_addAll] at found
    obtain ⟨ltNew, rfl⟩ := List.getElem?_eq_some_iff.mp found
    have lt : i < done.length := rows.length_eq.symm ▸ ltNew
    obtain ⟨-, row', has', shows⟩ := rows.get lt ltNew
    have same : row' = row := Option.some.inj (has'.symm.trans has)
    rw [← same]
    exact ⟨done[i], mem_zip_range'_iff.mpr ⟨i, rfl, List.getElem?_eq_getElem lt⟩, shows⟩

/-! ## Realms -/

/-- A stored realm is found by its id. -/
theorem Kept.findRealm_isSome (kept : Kept realms done s) (stored : r.id ∈ realms.map Realm.id) :
    (RealmResolver.findRealm s r).isSome = true := by
  obtain ⟨qs, rfl, -⟩ := kept.records
  obtain ⟨q, among, same⟩ := List.mem_map.mp stored
  obtain ⟨i, lt, at_i⟩ := List.mem_iff_getElem.mp among
  have record : ((ofRealms realms).addAll qs).record? i =
      some (.ofRow realmClass (realmRow q)) := by
    refine Store.record?_addAll_of_some qs ?_
    rw [Store.record?, ofRealms, List.getElem?_map, List.getElem?_eq_getElem lt, at_i]
    rfl
  have inTable : i ∈ ((ofRealms realms).addAll qs).storedOf realmClass.name :=
    Store.mem_storedOf.mpr ⟨realmClass, realmRow q,
      Store.stored?_eq_some_iff.mpr ⟨_, record, rfl, rfl⟩, rfl⟩
  have matching : (Record.cell (.ofRow realmClass (realmRow q)) "id").same (.text r.id) = true := by
    rw [← same]
    exact Cell.same_text_iff.mpr rfl
  rw [RealmResolver.findRealm_eq, Store.findStored, List.find?_isSome]
  exact ⟨i, inTable, by rw [Store.test, record, Option.any_some]; exact matching⟩

/-- What is found for a realm has its id. -/
theorem Kept.get_of_findRealm {target : RecordId} (kept : Kept realms done s)
    (found : RealmResolver.findRealm s r = some target) : s.get target "id" = .text r.id := by
  obtain ⟨p, row, isRecord, cls, has, matching⟩ := stored_of_findRealm kept.settled.classes found
  obtain ⟨qs, rfl, rows⟩ := kept.records
  obtain ⟨q, -, rfl⟩ : ∃ q ∈ realms, Record.ofRow realmClass (realmRow q) = p := by
    rcases List.mem_append.mp (Store.mem_of_record? isRecord) with isRealm | isIdentity
    · exact List.mem_map.mp isRealm
    · obtain ⟨e, -, identity, -⟩ := exists_mem_of_forall₂ rows isIdentity
      rw [cls] at identity
      exact absurd (congrArg RecordClass.name identity) (by decide)
  cases has
  have same : q.id = r.id := Option.some.inj (Cell.same_text_iff.mp matching)
  rw [Store.get_of_plain isRecord (by rw [cls]; decide), ← same]
  rfl

/-! ## One batch -/

/-- What a run may store: principals that were constructed, each in a stored realm or in none. -/
def Storable (realms : List Realm) (e : Option Realm × Principal) : Prop :=
  e.2.Built ∧ ∀ r ∈ e.1, r.id ∈ realms.map Realm.id

theorem Kept.reaches (kept : Kept realms done s) {e : Option Realm × Principal}
    (storable : Storable realms e) : Reaches s e.1 := fun r given =>
  kept.findRealm_isSome (storable.2 r given)

/-- What is made of a principal before it is written, with the realm that it is linked to. -/
def newOf (s : Store) (e : Option Realm × Principal) : Option RecordId × Record :=
  (targetOf s e.1, newRecord e.2.variant (targetOf s e.1) e.2)

theorem newOf_new (settled : Settled s) {e : Option Realm × Principal} (built : e.2.Built) :
    NewIdentity s (newOf s e).1 (newOf s e).2 :=
  newRecord_new settled built.constructed e.1

/-- Making the records of a batch adds them. -/
theorem outcome_createAll (serves : reg.ServesBuiltins bindings (some .stored))
    (each : ∀ e ∈ es, e.2.Built ∧ Reaches s e.1)
    (same : ∀ q, RealmResolver.findRealm t q = RealmResolver.findRealm s q) :
    (reg.createAll es).outcome t = (.ok (t.newIds ((es.map (newOf s)).map Prod.snd)),
      t.addAll ((es.map (newOf s)).map Prod.snd)) := by
  induction es generalizing t with
  | nil =>
    rw [List.map_nil, List.map_nil, Store.addAll_nil]
    rfl
  | cons e rest ih =>
    obtain ⟨built, reaches⟩ := each e List.mem_cons_self
    have target : targetOf t e.1 = targetOf s e.1 := by
      cases e.1 with
      | none => rfl
      | some q => exact same q
    have first : (reg.create e.1 e.2).outcome t =
        (.ok t.records.length, (t.add (newOf s e).2).2) := by
      have made := outcome_create_registry (s := t) serves e.2.variant_mem built.constructed
        fun q given => (same q).symm ▸ reaches q given
      rwa [target] at made
    have unwritten : (newOf s e).2.row = none := newRecord_row ..
    have later := ih (t := (t.add (newOf s e).2).2)
      (fun e' inRest => each e' (List.mem_cons_of_mem _ inRest))
      fun q => (findRealm_add t unwritten q).trans (same q)
    rw [Registry.createAll, StoreM.outcome_bind_ok first, StoreM.outcome_bind_ok later,
      List.map_cons, List.map_cons, Store.newIds_cons, Store.addAll_cons]
    rfl

/-- The row that a principal gets shows it. -/
theorem Kept.shows (kept : Kept realms done s) {e : Option Realm × Principal}
    (storable : Storable realms e) {n : Int} {q : Record} {row : Row}
    (landed : Landed s (newOf s e).1 n (newOf s e).2 q row) : Shows row e where
  entry := by
    intro p x among attr bound
    obtain ⟨c, -, cell, isBound, -, stores, found⟩ := landed.cell_of_entry _ among
    rw [bound] at isBound
    cases isBound
    exact ⟨cell, stores, found⟩
  realm := by
    obtain ⟨cell, stores, found⟩ := landed.realm
    obtain ⟨realm, d⟩ := e
    cases realm with
    | none =>
      cases stores
      exact found
    | some r =>
      obtain ⟨target, isTarget⟩ := Option.isSome_iff_exists.mp (kept.reaches storable r rfl)
      have linked : (newOf s (some r, d)).1 = some target := isTarget
      rw [linked, reference, kept.get_of_findRealm isTarget] at stores
      cases stores
      exact found

/-- A batch that is stored adds a record for each of its principals. -/
theorem storeBatch_kept (serves : reg.ServesBuiltins bindings (some .stored))
    (kept : Kept realms done s) (each : ∀ e ∈ es, Storable realms e)
    (stored : (reg.storeBatch es).outcome s = (.ok ids, t)) :
    ids = List.range' (realms.length + done.length) es.length ∧
      Kept realms (done ++ es) t := by
  have made := outcome_createAll (t := s) serves
    (fun e among => ⟨(each e among).1, kept.reaches (each e among)⟩) fun _ => rfl
  have new : ∀ e ∈ es.map (newOf s), NewIdentity s e.1 e.2 :=
    List.forall_mem_map.mpr fun e among => newOf_new kept.settled (each e among).1
  rw [Registry.storeBatch, StoreM.outcome_bind_ok made] at stored
  obtain ⟨_, t', written, given⟩ := StoreM.outcome_bind_eq_ok.mp stored
  cases given
  obtain ⟨qs, rfl, settled, next, rows⟩ := writes_of_persist kept.settled new written
  obtain ⟨ps, rfl, before⟩ := kept.records
  refine ⟨?_, settled, ?_, ps ++ qs, Store.addAll_addAll .., List.rel_append before ?_⟩
  · rw [Store.newIds, kept.length_records, List.length_map, List.length_map]
  · rw [next, kept.numbers, List.length_map, List.length_append]
    push_cast
    omega
  · rw [List.forall₂_map_left_iff] at rows
    have storable := (List.forall₂_and_left (p := Storable realms) es qs).mpr ⟨each, rows⟩
    refine storable.imp ?_
    intro e q h
    rcases h with ⟨isStorable, n, row, landed⟩
    exact ⟨landed.cls, row, landed.stored, kept.shows isStorable landed⟩

/-- A batch can be stored as long as there are numbers left. -/
theorem exists_storeBatch (serves : reg.ServesBuiltins bindings (some .stored))
    (kept : Kept realms done s) (each : ∀ e ∈ es, Storable realms e)
    (fits : (done ++ es).length < 2 ^ 63) :
    ∃ ids t, (reg.storeBatch es).outcome s = (.ok ids, t) := by
  have made := outcome_createAll (t := s) serves
    (fun e among => ⟨(each e among).1, kept.reaches (each e among)⟩) fun _ => rfl
  have new : ∀ e ∈ es.map (newOf s), NewIdentity s e.1 e.2 :=
    List.forall_mem_map.mpr fun e among => newOf_new kept.settled (each e among).1
  have fit : ∀ i < (es.map (newOf s)).length,
      Reader.fitsWord (s.nextNumber identityClass "id" + i) = true := by
    intro i lt
    rw [List.length_map] at lt
    rw [List.length_append] at fits
    have word : Int.pow 2 63 = 2 ^ 63 := rfl
    rw [kept.numbers, Reader.fitsWord, Bool.and_eq_true, decide_eq_true_eq, decide_eq_true_eq, word]
    omega
  obtain ⟨t, written⟩ := exists_foldlM_writeRow kept.settled new fit
  have persisted := outcome_persist kept.settled new written
  refine ⟨s.newIds ((es.map (newOf s)).map Prod.snd), t, ?_⟩
  rw [Registry.storeBatch, StoreM.outcome_bind_ok made, StoreM.outcome_bind_ok persisted]
  rfl

/-! ## A run -/

variable {batches : List (List (Option Realm × Principal))}

/-- A run leaves a record for each principal that was stored, in order. -/
theorem storeAll_kept (serves : reg.ServesBuiltins bindings (some .stored))
    (kept : Kept realms done s) (each : ∀ e ∈ batches.flatten, Storable realms e)
    (stored : (reg.storeAll batches).outcome s = (.ok ids, t)) :
    ids = List.range' (realms.length + done.length) batches.flatten.length ∧
      Kept realms (done ++ batches.flatten) t := by
  induction batches generalizing s done ids with
  | nil =>
    cases stored
    rw [List.flatten_nil, List.append_nil]
    exact ⟨rfl, kept⟩
  | cons batch rest ih =>
    rw [List.flatten_cons, List.forall_mem_append] at each
    rw [Registry.storeAll] at stored
    obtain ⟨first, s', now, stored⟩ := StoreM.outcome_bind_eq_ok.mp stored
    obtain ⟨more, t', later, given⟩ := StoreM.outcome_bind_eq_ok.mp stored
    cases given
    obtain ⟨rfl, keptNow⟩ := storeBatch_kept serves kept each.1 now
    obtain ⟨rfl, keptLater⟩ := ih keptNow each.2 later
    rw [List.flatten_cons, List.length_append, List.length_append, ← Nat.add_assoc,
      List.range'_append_1, ← List.append_assoc]
    exact ⟨rfl, keptLater⟩

/-- A run succeeds as long as there are numbers left. -/
theorem exists_storeAll (serves : reg.ServesBuiltins bindings (some .stored))
    (kept : Kept realms done s) (each : ∀ e ∈ batches.flatten, Storable realms e)
    (fits : (done ++ batches.flatten).length < 2 ^ 63) :
    ∃ ids t, (reg.storeAll batches).outcome s = (.ok ids, t) := by
  induction batches generalizing s done with
  | nil => exact ⟨[], s, rfl⟩
  | cons batch rest ih =>
    rw [List.flatten_cons] at each fits
    rw [List.forall_mem_append] at each
    rw [← List.append_assoc] at fits
    have fitsNow : (done ++ batch).length < 2 ^ 63 := by
      rw [List.length_append] at fits
      omega
    obtain ⟨first, s', now⟩ := exists_storeBatch serves kept each.1 fitsNow
    obtain ⟨-, keptNow⟩ := storeBatch_kept serves kept each.1 now
    obtain ⟨more, t, later⟩ := ih keptNow each.2 fits
    refine ⟨first ++ more, t, ?_⟩
    rw [Registry.storeAll, StoreM.outcome_bind_ok now, StoreM.outcome_bind_ok later]
    rfl

end Standard

end Principals
