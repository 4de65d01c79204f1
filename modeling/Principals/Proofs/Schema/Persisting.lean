import Mathlib.Data.List.Forall2
import Principals.Proofs.Schema.Identities

/-!
# Persisting new identity records

New identity records that are persisted together get their rows one after the other. Everything else
in the store stays, nothing is left to write afterwards, and the only thing that can go wrong is
that the numbers run out.

* `Settled.add_landed`: a store in which nothing is left to write stays so;
* `foldlM_writeRow_new`, `exists_foldlM_writeRow`: the rows of several new records;
* `writes_of_persist`, `outcome_persist`: what persisting them leaves, and when it succeeds.
-/

namespace Principals.Standard

variable {s t : Store} {r q : Record} {row : Row} {realm : Option RecordId} {n : Int}
  {news : List (Option RecordId × Record)}

/-! ## One more row -/

theorem Landed.rowsOf (landed : Landed s realm n r q row) :
    (s.add q).2.rowsOf identityClass.name = s.rowsOf identityClass.name ++ [row] := by
  have added := Store.rowsOf_add (s := s) landed.stored
  rwa [landed.cls] at added

/-- Nothing is left to write after a new identity record has landed. -/
theorem Settled.add_landed (settled : Settled s) (landed : Landed s realm n r q row) :
    Settled (s.add q).2 where
  schema := settled.schema
  classes := by
    intro p among
    rcases List.mem_append.mp among with old | new
    · exact settled.classes p old
    · rw [List.mem_singleton.mp new, landed.cls]
      simp [catalog]
  settled := by
    intro p among
    rcases List.mem_append.mp among with old | new
    · exact settled.settled p old
    · rw [List.mem_singleton.mp new]
      exact landed.settled
  numbered := by
    intro other among
    rw [landed.rowsOf] at among
    rcases List.mem_append.mp among with old | new
    · exact settled.numbered other old
    · rw [List.mem_singleton.mp new]
      exact ⟨n, landed.id⟩

/-- The next number is one more after a record has landed under the last one. -/
theorem Landed.nextNumber
    (landed : Landed s realm (s.nextNumber identityClass "id") r q row) :
    (s.add q).2.nextNumber identityClass "id" = s.nextNumber identityClass "id" + 1 := by
  have numbers : (s.add q).2.numbers identityClass "id" =
      s.numbers identityClass "id" ++ [s.nextNumber identityClass "id"] := by
    rw [Store.numbers, landed.rowsOf, List.filterMap_append]
    congr 1
    simp [landed.id]
  cases given : s.numbers identityClass "id" with
  | nil =>
    rw [given, List.nil_append] at numbers
    rw [Store.nextNumber_of_cons numbers]
    rfl
  | cons k rest =>
    have last := Store.nextNumber_of_cons given
    rw [given, List.cons_append] at numbers
    rw [Store.nextNumber_of_cons numbers, List.foldl_append, List.foldl_cons, List.foldl_nil, last]
    have above : rest.foldl max k ≤ rest.foldl max k + 1 := by omega
    rw [max_eq_right above]

theorem reference_add (stored : ∀ target ∈ realm, ∃ q row, s.record? target = some q ∧
    q.cls = realmClass ∧ q.row = some row) (p : Record) :
    reference (s.add p).2 realm = reference s realm := by
  cases realm with
  | none => rfl
  | some target =>
    obtain ⟨q, row, found, cls, -⟩ := stored target rfl
    have plain : q.cls.isPlain "id" = true := by
      rw [cls]
      decide
    rw [reference, reference, Store.get_of_plain found plain,
      Store.get_of_plain (Store.record?_add_of_some p found) plain]

/-- A new record stays one when others are added. -/
theorem NewIdentity.add (new : NewIdentity s realm r) (p : Record) :
    NewIdentity (s.add p).2 realm r :=
  { new with
    realm := by
      intro target given
      obtain ⟨q, row, found, cls, has⟩ := new.realm target given
      exact ⟨q, row, Store.record?_add_of_some p found, cls, has⟩ }

/-- A row that was written after another record is a row of the earlier store too. -/
theorem Landed.of_add {n : Int} {p : Record}
    (stored : ∀ target ∈ realm, ∃ q row, s.record? target = some q ∧ q.cls = realmClass ∧
      q.row = some row) (landed : Landed (s.add p).2 realm n r q row) :
    Landed s realm n r q row :=
  { landed with
    realm := by
      rw [← reference_add stored p]
      exact landed.realm }

/-! ## Several new rows -/

theorem row_of_new (each : ∀ e ∈ news, NewIdentity s e.1 e.2) :
    ∀ r ∈ news.map Prod.snd, r.row = none :=
  List.forall_mem_map.mpr fun e among => (each e among).row

/-- The number of an added record is that of one of the new identity records. -/
theorem exists_new_of_newIds {id : RecordId} (new : id ∈ s.newIds (news.map Prod.snd)) :
    ∃ e ∈ news, (s.addAll (news.map Prod.snd)).record? id = some e.2 := by
  obtain ⟨r, among, found⟩ := Store.exists_mem_of_newIds new
  obtain ⟨e, e_mem, rfl⟩ := List.mem_map.mp among
  exact ⟨e, e_mem, found⟩

/-- Writing new identity records one after the other, if it succeeds, gives each its row. -/
theorem foldlM_writeRow_new (settled : Settled s)
    (each : ∀ e ∈ news, NewIdentity s e.1 e.2)
    (written : (s.newIds (news.map Prod.snd)).foldlM (fun s id => s.writeRow id)
      (s.addAll (news.map Prod.snd)) = .ok t) :
    ∃ qs, t = s.addAll qs ∧ Settled t ∧
      t.nextNumber identityClass "id" = s.nextNumber identityClass "id" + news.length ∧
      List.Forall₂ (fun e q => ∃ n row, Landed s e.1 n e.2 q row) news qs := by
  induction news generalizing s with
  | nil =>
    cases written
    rw [List.map_nil, Store.addAll_nil]
    exact ⟨[], (Store.addAll_nil s).symm, settled, (Int.add_zero _).symm, .nil⟩
  | cons e rest ih =>
    have new := each e List.mem_cons_self
    have unwritten := row_of_new (List.forall_mem_cons.mp each).2
    obtain ⟨fits, misses⟩ := writeRow_new settled new unwritten
    rw [List.map_cons, Store.newIds_cons, List.foldlM_cons] at written
    obtain ⟨next, first, remaining⟩ := bind_eq_ok.mp written
    cases word : Reader.fitsWord (s.nextNumber identityClass "id") with
    | false =>
      rw [misses word] at first
      cases first
    | true =>
      obtain ⟨q, row, wrote, landed⟩ := fits word
      rw [wrote] at first
      cases first
      rw [Store.newIds_add s e.2 q] at remaining
      obtain ⟨qs, rfl, settledNow, next, rows⟩ := ih (settled.add_landed landed)
        (fun e' later => (each e' (List.mem_cons_of_mem _ later)).add q) remaining
      rw [landed.nextNumber, Int.add_assoc, Int.add_comm 1] at next
      refine ⟨q :: qs, (Store.addAll_cons s q qs).symm, settledNow, next,
        .cons ⟨_, row, landed⟩ ?_⟩
      have news_rows := (List.forall₂_and_left (p := fun e : Option RecordId × Record =>
        NewIdentity s e.1 e.2) rest qs).mpr
          ⟨fun e' later => each e' (List.mem_cons_of_mem _ later), rows⟩
      refine news_rows.imp ?_
      intro e' q' h
      rcases h with ⟨new', n, row', landed'⟩
      exact ⟨n, row', landed'.of_add new'.realm⟩

/-- Writing new identity records succeeds as long as there are numbers left. -/
theorem exists_foldlM_writeRow (settled : Settled s)
    (each : ∀ e ∈ news, NewIdentity s e.1 e.2)
    (fit : ∀ i < news.length, Reader.fitsWord (s.nextNumber identityClass "id" + i) = true) :
    ∃ t, (s.newIds (news.map Prod.snd)).foldlM (fun s id => s.writeRow id)
      (s.addAll (news.map Prod.snd)) = .ok t := by
  induction news generalizing s with
  | nil => exact ⟨_, rfl⟩
  | cons e rest ih =>
    have unwritten := row_of_new (List.forall_mem_cons.mp each).2
    have word := fit 0 (Nat.zero_lt_succ _)
    rw [Int.natCast_zero, Int.add_zero] at word
    obtain ⟨q, row, wrote, landed⟩ :=
      (writeRow_new settled (each e List.mem_cons_self) unwritten).1 word
    have fitLater : ∀ i < rest.length, Reader.fitsWord
        ((s.add q).2.nextNumber identityClass "id" + i) = true := by
      intro i lt
      have next := fit (i + 1) (Nat.succ_lt_succ lt)
      rw [landed.nextNumber, Int.add_assoc, Int.add_comm 1]
      exact next
    obtain ⟨t, remaining⟩ := ih (settled.add_landed landed)
      (fun e' later => (each e' (List.mem_cons_of_mem _ later)).add q) fitLater
    refine ⟨t, ?_⟩
    rw [List.map_cons, Store.newIds_cons, List.foldlM_cons, Store.newIds_add s e.2 q]
    exact bind_eq_ok.mpr ⟨_, wrote, remaining⟩

/-- What is paired with something is paired with a member of the other list. -/
theorem exists_mem_of_forall₂ {α β : Type} {R : α → β → Prop} {xs : List α} {ys : List β}
    (related : List.Forall₂ R xs ys) {y : β} (among : y ∈ ys) : ∃ x ∈ xs, R x y := by
  induction related with
  | nil => cases among
  | @cons x y' xs ys first rest ih =>
    rcases List.mem_cons.mp among with rfl | later
    · exact ⟨x, List.mem_cons_self, first⟩
    · obtain ⟨x', x_mem, holds⟩ := ih later
      exact ⟨x', List.mem_cons_of_mem _ x_mem, holds⟩

/-! ## A flush with new identity records -/

/-- A class to which none of the new records belongs is passed over. -/
theorem writeClass_of_settled {ids : List RecordId} {cls : RecordClass} (settled : s.Settled)
    (foreign : ∀ id ∈ ids, ∃ q, s.record? id = some q ∧ q.cls.name ≠ cls.name) :
    s.writeClass ids cls = .ok s := by
  have none_new : s.ofClass cls ids = [] := by
    refine List.filter_eq_nil_iff.mpr fun id among => ?_
    obtain ⟨q, found, other⟩ := foreign id among
    simp [Store.test, found, other]
  refine bind_eq_ok.mpr ⟨s, Store.writeRows_storedOf settled cls.name, ?_⟩
  rw [none_new]
  rfl

/-- New identity records leave nothing else to write. -/
theorem settled_addAll (settled : s.Settled) (each : ∀ e ∈ news, NewIdentity s e.1 e.2) :
    (s.addAll (news.map Prod.snd)).Settled := by
  intro p among
  rcases List.mem_append.mp among with old | new
  · exact settled p old
  · intro row has
    rw [row_of_new each p new] at has
    cases has

theorem takesValues_new (settled : Settled s) (new : NewIdentity s realm r) (rs : List Record) :
    ((s.addAll rs).syncLinks r).takesValues = true := by
  obtain ⟨cls, -, -, -, referred, same⟩ :=
    syncLinks_new (t := s.addAll rs) new (get_addAll new rs)
  refine Record.takesValues_of_forall fun c among => ?_
  rw [cls] at among
  rcases column_cases among with ⟨isId, type⟩ | ⟨isReference, type, -⟩ | ⟨-, notReference⟩
  · rw [isId, type, same "id" (by decide), new.unnumbered]
    exact ⟨.null, rfl⟩
  · rw [isReference, type, referred]
    exact store_reference settled.settled new.realm
  · obtain ⟨cell, stores, -⟩ := new.stores c among
    rw [same c.attr notReference]
    exact ⟨cell, stores⟩

/-- The identity class writes the new records, one after the other. -/
theorem writeClass_new (settled : Settled s) (each : ∀ e ∈ news, NewIdentity s e.1 e.2) :
    (s.addAll (news.map Prod.snd)).writeClass (s.newIds (news.map Prod.snd)) identityClass =
      (s.newIds (news.map Prod.snd)).foldlM (fun s id => s.writeRow id)
        (s.addAll (news.map Prod.snd)) := by
  have all_new : (s.addAll (news.map Prod.snd)).ofClass identityClass
      (s.newIds (news.map Prod.snd)) = s.newIds (news.map Prod.snd) := by
    refine List.filter_eq_self.mpr fun id new => ?_
    obtain ⟨e, e_mem, found⟩ := exists_new_of_newIds new
    simp [Store.test, found, (each e e_mem).cls]
  have takes : (s.newIds (news.map Prod.snd)).all (fun id =>
      (s.addAll (news.map Prod.snd)).test id fun r =>
        ((s.addAll (news.map Prod.snd)).syncLinks r).takesValues) = true := by
    refine List.all_eq_true.mpr fun id new => ?_
    obtain ⟨e, e_mem, found⟩ := exists_new_of_newIds new
    rw [Store.test, found]
    exact takesValues_new settled (each e e_mem) _
  rw [Store.writeClass, Store.writeRows_storedOf (settled_addAll settled.settled each)]
  change (s.addAll (news.map Prod.snd)).writeRows _ = _
  rw [all_new, Store.writeRows, if_pos takes]

/-- A flush with new identity records writes these and nothing else. -/
theorem flush_new (settled : Settled s) (each : ∀ e ∈ news, NewIdentity s e.1 e.2) :
    (s.addAll (news.map Prod.snd)).flush (s.newIds (news.map Prod.snd)) =
      (s.newIds (news.map Prod.snd)).foldlM (fun s id => s.writeRow id)
        (s.addAll (news.map Prod.snd)) := by
  have waiting := settled_addAll settled.settled each
  have none_linked : (s.addAll (news.map Prod.snd)).closure
      (s.addAll (news.map Prod.snd)).linkedNew = [] := by
    rw [Store.linkedNew_of_settled waiting]
    rfl
  have realms : (s.addAll (news.map Prod.snd)).writeClass (s.newIds (news.map Prod.snd))
      realmClass = .ok (s.addAll (news.map Prod.snd)) := by
    refine writeClass_of_settled waiting fun id new => ?_
    obtain ⟨e, e_mem, found⟩ := exists_new_of_newIds new
    exact ⟨e.2, found, by rw [(each e e_mem).cls]; decide⟩
  have classes : (s.addAll (news.map Prod.snd)).catalog.classes =
      [realmClass, identityClass, attributeClass] := by
    rw [show (s.addAll (news.map Prod.snd)).catalog = catalog from settled.schema]
    rfl
  rw [Store.flush, none_linked, List.filter_nil, List.append_nil, classes, List.foldlM_cons,
    realms, ok_bind, List.foldlM_cons, writeClass_new settled each]
  cases written : (s.newIds (news.map Prod.snd)).foldlM (fun s id => s.writeRow id)
      (s.addAll (news.map Prod.snd)) with
  | error e => rfl
  | ok t =>
    obtain ⟨qs, rfl, settledNow, -, rows⟩ := foldlM_writeRow_new settled each written
    have length : qs.length = (news.map Prod.snd).length := by
      rw [List.length_map]
      exact rows.length_eq.symm
    have attributes : (s.addAll qs).writeClass (s.newIds qs) attributeClass =
        .ok (s.addAll qs) := by
      refine writeClass_of_settled settledNow.settled fun id new => ?_
      obtain ⟨q, among, found⟩ := Store.exists_mem_of_newIds new
      obtain ⟨e, -, n, row, landed⟩ := exists_mem_of_forall₂ rows among
      exact ⟨q, found, by rw [landed.cls]; decide⟩
    rw [Store.newIds_of_length length] at attributes
    rw [ok_bind, List.foldlM_cons, attributes, ok_bind]
    rfl

/-! ## Persisting -/

/-- New identity records lead to stored realms only. -/
theorem closure_new (each : ∀ e ∈ news, NewIdentity s e.1 e.2) :
    (s.addAll (news.map Prod.snd)).closure (s.newIds (news.map Prod.snd)) =
      s.newIds (news.map Prod.snd) := by
  refine Store.closure_newIds (fun r among => ?_) fun r among j near => ?_
  · obtain ⟨e, e_mem, rfl⟩ := List.mem_map.mp among
    simp [Record.isTransient, (each e e_mem).row, (each e e_mem).removed]
  · obtain ⟨⟨realm, r⟩, e_mem, rfl⟩ := List.mem_map.mp among
    have new := each _ e_mem
    rw [Record.neighbours, new.links, new.gathered] at near
    cases realm with
    | none => cases near
    | some target =>
      obtain ⟨q, row, found, -, has⟩ := new.realm target rfl
      change j ∈ [target] ++ [] at near
      rw [List.append_nil, List.mem_singleton] at near
      subst near
      exact ⟨q, found, by simp [Record.isStored, has]⟩

theorem outcome_require_new (each : ∀ e ∈ news, NewIdentity s e.1 e.2) :
    ∀ ids : List RecordId, (∀ id ∈ ids, id ∈ s.newIds (news.map Prod.snd)) →
      (ids.forM fun id => StoreM.require id fun r => ! r.removed && r.cls.isMapped).outcome
        (s.addAll (news.map Prod.snd)) = (.ok (), s.addAll (news.map Prod.snd)) := by
  intro ids new
  induction ids with
  | nil => rfl
  | cons id rest ih =>
    obtain ⟨e, e_mem, found⟩ := exists_new_of_newIds (new id List.mem_cons_self)
    have first : (StoreM.require id fun r => ! r.removed && r.cls.isMapped).outcome
        (s.addAll (news.map Prod.snd)) = (.ok (), s.addAll (news.map Prod.snd)) := by
      have mapped : identityClass.isMapped = true := rfl
      rw [StoreM.require, StoreM.outcome_ask]
      simp [Store.test, found, (each e e_mem).removed, (each e e_mem).cls, mapped]
    have split : ∀ f : RecordId → StoreM Unit, (id :: rest).forM f = (do f id; rest.forM f) :=
      fun _ => rfl
    rw [split, StoreM.outcome_bind_ok first]
    exact ih fun id' later => new id' (List.mem_cons_of_mem _ later)

/-- Persisting new identity records succeeds if writing them does, and leaves what that leaves. -/
theorem outcome_persist (settled : Settled s) (each : ∀ e ∈ news, NewIdentity s e.1 e.2)
    (written : (s.newIds (news.map Prod.snd)).foldlM (fun s id => s.writeRow id)
      (s.addAll (news.map Prod.snd)) = .ok t) :
    (StoreM.persist (s.newIds (news.map Prod.snd))).outcome (s.addAll (news.map Prod.snd)) =
      (.ok (), t) := by
  rw [StoreM.persist, StoreM.outcome_bind_ok (outcome_require_new each _ fun _ new => new)]
  refine StoreM.outcome_transact_ok ?_
  rw [closure_new each, flush_new settled each, written]

/-- What persisting new identity records leaves, if it succeeds. -/
theorem writes_of_persist (settled : Settled s) (each : ∀ e ∈ news, NewIdentity s e.1 e.2)
    (done : (StoreM.persist (s.newIds (news.map Prod.snd))).outcome
      (s.addAll (news.map Prod.snd)) = (.ok (), t)) :
    ∃ qs, t = s.addAll qs ∧ Settled t ∧
      t.nextNumber identityClass "id" = s.nextNumber identityClass "id" + news.length ∧
      List.Forall₂ (fun e q => ∃ n row, Landed s e.1 n e.2 q row) news qs := by
  rw [StoreM.persist, StoreM.outcome_bind_ok (outcome_require_new each _ fun _ new => new)]
    at done
  have flushed := StoreM.eq_ok_of_outcome_transact done
  rw [closure_new each, flush_new settled each] at flushed
  exact foldlM_writeRow_new settled each flushed

/-! ## One record -/

theorem persist_new (s : Store) (e : Option RecordId × Record) :
    (StoreM.persist (s.newIds ([e].map Prod.snd))).outcome (s.addAll ([e].map Prod.snd)) =
      (StoreM.persist [s.records.length]).outcome (s.add e.2).2 := by
  rw [List.map_cons, List.map_nil, Store.addAll_cons, Store.addAll_nil, Store.newIds_cons]
  rfl

/-- Persisting one new identity record succeeds if there is a number left. -/
theorem exists_outcome_persist (settled : Settled s) (new : NewIdentity s realm r)
    (fits : Reader.fitsWord (s.nextNumber identityClass "id") = true) :
    ∃ t, (StoreM.persist [s.records.length]).outcome (s.add r).2 = (.ok (), t) := by
  have each : ∀ e ∈ [(realm, r)], NewIdentity s e.1 e.2 := List.forall_mem_singleton.mpr new
  have fit : ∀ i < [(realm, r)].length,
      Reader.fitsWord (s.nextNumber identityClass "id" + i) = true := by
    intro i lt
    have zero : i = 0 := Nat.lt_one_iff.mp lt
    rw [zero, Int.natCast_zero, Int.add_zero]
    exact fits
  obtain ⟨t, written⟩ := exists_foldlM_writeRow settled each fit
  have done := outcome_persist settled each written
  rw [persist_new] at done
  exact ⟨t, done⟩

/-- What persisting one new identity record leaves, if it succeeds. -/
theorem landed_of_persist (settled : Settled s) (new : NewIdentity s realm r)
    (done : (StoreM.persist [s.records.length]).outcome (s.add r).2 = (.ok (), t)) :
    ∃ q n row, t = (s.add q).2 ∧ Landed s realm n r q row := by
  have each : ∀ e ∈ [(realm, r)], NewIdentity s e.1 e.2 := List.forall_mem_singleton.mpr new
  rw [← persist_new s (realm, r)] at done
  obtain ⟨qs, rfl, -, -, rows⟩ := writes_of_persist settled each done
  cases rows with
  | @cons _ q _ qs first rest =>
    cases rest
    obtain ⟨n, row, landed⟩ := first
    exact ⟨q, n, row, rfl, landed⟩

end Principals.Standard
