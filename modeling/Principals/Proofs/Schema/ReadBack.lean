import Principals.Proofs.Schema.Unfinished

/-!
# Attributes that are read back

The attributes of a principal are flattened into records, one for each name with each of its values,
and grouped again as the records are read. Where no name and no value is missing, all records are
made, and a principal without attributes to which they are read has then the same values under every
name, in the same order and as often; a name without values leaves no record, and has none either way.

* `exists_outcome_createAttributes`: all records are made;
* `Carries.attributeOf`, `exists_readAttributes`: what reading them adds;
* `attributes_read_back`: both together.
-/

namespace Principals.Standard

variable {s t : Store} {owner j : RecordId} {r : Record} {m : Mapper} {d e : Principal}
  {p : Value × Value} {ps : List (Value × Value)} {ids : List RecordId}

/-! ## Making the records -/

/-- The making stops only where a name or a value is missing. -/
theorem StopsAt.exists_missing (stops : StopsAt owner s t ps) :
    ∃ p ∈ ps, ¬ (p.1.isNull = false ∧ p.2.isNull = false) := by
  obtain ⟨told, pair, after, -, -, rfl, missing, -, -⟩ := stops
  refine ⟨pair, List.mem_append_right _ List.mem_cons_self, fun complete => ?_⟩
  rcases missing with name | value
  · exact Bool.false_ne_true (complete.1.symm.trans name)
  · exact Bool.false_ne_true (complete.2.symm.trans value)

/-- Where no name and no value is missing, the records of all names are made. -/
theorem exists_outcome_createEntries {entries : List (Value × Value)}
    (overStandard : m.bindings = bindings) (found : s.record? owner = some r)
    (cls : r.cls = identityClass) (items : ∀ e ∈ entries, ∃ vs, Principal.itemsOf e.2 = .ok vs)
    (complete : ∀ p ∈ Principal.pairsMet entries, p.1.isNull = false ∧ p.2.isNull = false) :
    ∃ ids t, (m.createEntries owner entries).outcome s = (.ok ids, t) ∧
      Appends owner s t ids (Principal.pairsMet entries) [] := by
  induction entries generalizing s r with
  | nil => exact ⟨[], s, rfl, .refl owner s⟩
  | cons entry rest ih =>
    obtain ⟨name, values⟩ := entry
    obtain ⟨⟨vs, read⟩, restItems⟩ := List.forall_mem_cons.mp items
    simp only at read
    have pairs : Principal.pairsMet ((name, values) :: rest) =
        vs.map (name, ·) ++ Principal.pairsMet rest := by
      rw [Principal.pairsMet, read]
    rw [pairs, List.forall_mem_append] at complete
    have taken : (StoreM.lift (Principal.itemsOf values)).outcome s = (.ok vs, s) := by
      rw [read]
      rfl
    rw [pairs]
    rcases named : (m.createNamed owner name vs).outcome s with ⟨result, u⟩
    rcases createNamed_cases overStandard found cls named with ⟨ids, rfl, appends⟩ | ⟨-, stops⟩
    · obtain ⟨q, there, cls'⟩ := appends.exists_record? found cls
      obtain ⟨more, t, later, further⟩ := ih there cls' restItems complete.2
      refine ⟨ids ++ more, t, ?_, appends.trans further⟩
      rw [Mapper.createEntries, StoreM.outcome_bind_ok taken, StoreM.outcome_bind_ok named,
        StoreM.outcome_bind_ok later]
      rfl
    · obtain ⟨p, among, missing⟩ := stops.exists_missing
      exact absurd (complete.1 p among) missing

/-- Where no name and no value is missing, all attribute records of a principal are made. -/
theorem exists_outcome_createAttributes (overStandard : m.bindings = bindings)
    (found : s.record? owner = some r) (cls : r.cls = identityClass) (attributed : d.Attributed)
    (complete : ∀ p ∈ d.pairs, p.1.isNull = false ∧ p.2.isNull = false) :
    ∃ ids t, (m.createAttributes owner d).outcome s = (.ok ids, t) ∧
      Appends owner s t ids d.pairs [] := by
  obtain ⟨entries, attributes, listed⟩ := attributed
  have pairs : d.pairs = Principal.pairsMet entries := by rw [Principal.pairs, attributes]
  rw [pairs] at complete ⊢
  rw [Mapper.createAttributes, attributes]
  exact exists_outcome_createEntries overStandard found cls listed.items complete

/-! ## Reading them -/

/-- An attribute record is read as the name and the value that it was made of. -/
theorem Carries.attributeOf (overStandard : m.bindings = bindings) (carries : Carries t owner j p) :
    m.attributeOf t j = .ok p := by
  have name : bindings.read t j Property.attributeName true = .ok p.1 := by
    change (if true && (t.get j "name").isNull then _ else Except.ok (t.get j "name")) = _
    rw [carries.name, carries.complete.1]
    rfl
  have value : bindings.read t j Property.attributeValue true = .ok p.2 := by
    change (if true && (t.get j "value").isNull then _ else Except.ok (t.get j "value")) = _
    rw [carries.value, carries.complete.2]
    rfl
  rw [Mapper.attributeOf, overStandard, name, value]
  rfl

/-- Reading attribute records gathers the pairs that they were made of. -/
theorem exists_readAttributes (overStandard : m.bindings = bindings)
    (carried : List.Forall₂ (Carries t owner) ids ps) (keyed : ∀ p ∈ ps, p.1.key? ≠ none)
    {before : List (Value × Value)} (gathers : e.Gathers before) :
    ∃ e', m.readAttributes t e ids = (e', .ok ()) ∧ e'.Gathers (before ++ ps) := by
  induction carried generalizing e before with
  | nil => exact ⟨e, rfl, by rwa [List.append_nil]⟩
  | @cons j p ids ps carries later ih =>
    obtain ⟨hasKey, restKeyed⟩ := List.forall_mem_cons.mp keyed
    obtain ⟨next, added, gathersNext⟩ := gathers.append hasKey p.2
    obtain ⟨e', read, gathersAll⟩ := ih restKeyed gathersNext
    refine ⟨e', ?_, ?_⟩
    · simp only [Mapper.readAttributes, carries.attributeOf overStandard, Except.bind, added]
      exact read
    · rwa [List.append_assoc, List.singleton_append] at gathersAll

/-- **Attributes come back as they were.** Where no name and no value is missing, the attribute records
of a principal are made in the order of its names and of the values of each, one for each pair and
each owned by the record of the principal, and they stand at the end of its collection. A principal
without attributes to which they are then read has the same values under every name. -/
theorem attributes_read_back (overStandard : m.bindings = bindings)
    (found : s.record? owner = some r) (cls : r.cls = identityClass) (attributed : d.Attributed)
    (complete : ∀ p ∈ d.pairs, p.1.isNull = false ∧ p.2.isNull = false)
    (empty : e.attributes = .mapping []) :
    ∃ ids t, (m.createAttributes owner d).outcome s = (.ok ids, t) ∧
      ids = List.range' s.records.length d.pairs.length ∧
      t.records.length = s.records.length + d.pairs.length ∧
      List.Forall₂ (Carries t owner) ids d.pairs ∧
      t.collection owner "attributes" = s.collection owner "attributes" ++ ids ∧
      ∃ e', m.readAttributes t e ids = (e', .ok ()) ∧
        ∀ n, e'.getAttribute n = d.getAttribute n := by
  obtain ⟨ids, t, made, appends⟩ :=
    exists_outcome_createAttributes overStandard found cls attributed complete
  have carried : List.Forall₂ (Carries t owner) ids d.pairs :=
    appends.complete.imp fun _ _ madeFor => madeFor.carries
  have length : ids.length = d.pairs.length := carried.length_eq
  have numbers := appends.numbers
  have size := appends.size
  have collection := appends.collection
  rw [List.append_nil] at numbers size collection
  rw [length] at numbers size
  obtain ⟨e', read, gathers⟩ := exists_readAttributes overStandard carried
    (Principal.keyed_of_attributed attributed) (Principal.gathers_nil empty)
  refine ⟨ids, t, made, numbers, size, carried, collection, e', read, fun n => ?_⟩
  rw [gathers.getAttribute, Principal.getAttribute_of_attributed attributed]
  rfl

/-- Repeated values, a number as a value and a name without values, which was set last, come back. -/
theorem attributes_read_back_zoe : ∃ (m : Mapper) (d₀ d : Principal) (s : Store),
    (∃ reg, Registry.withBuiltins bindings none = .ok reg ∧ reg.forKind .user = .ok m) ∧
    Principal.create ⟨.epoch, none⟩ .user [("login_name", .text "zoe"), ("attributes",
      .mapping [(.text "role", .list [.text "clerk", .int 7, .text "clerk"])])] = .ok d₀ ∧
    d₀.setAttribute (.text "desk") [] = .ok d ∧
    (m.create none d).outcome ⟨catalog, [], []⟩ = (.ok 0, s) ∧
    ∃ ids t, (m.createAttributes 0 d).outcome s = (.ok ids, t) ∧ ids = [1, 2, 3] ∧
      ∃ e', m.readAttributes t { d with attributes := .mapping [] } ids = (e', .ok ()) ∧
        e'.getAttribute (.text "role") = .ok [.text "clerk", .int 7, .text "clerk"] ∧
        e'.getAttribute (.text "desk") = .ok [] := by
  obtain ⟨m, d₀, d, s, r, chosen, built, set, made, overStandard, found, cls, size, pairs, role,
      desk⟩ : ∃ (m : Mapper) (d₀ d : Principal) (s : Store) (r : Record),
      (∃ reg, Registry.withBuiltins bindings none = .ok reg ∧ reg.forKind .user = .ok m) ∧
      Principal.create ⟨.epoch, none⟩ .user [("login_name", .text "zoe"), ("attributes",
        .mapping [(.text "role", .list [.text "clerk", .int 7, .text "clerk"])])] = .ok d₀ ∧
      d₀.setAttribute (.text "desk") [] = .ok d ∧
      (m.create none d).outcome ⟨catalog, [], []⟩ = (.ok 0, s) ∧
      m.bindings = bindings ∧ s.record? 0 = some r ∧ r.cls = identityClass ∧
      s.records.length = 1 ∧
      d.pairs = [(.text "role", .text "clerk"), (.text "role", .int 7),
        (.text "role", .text "clerk")] ∧
      d.getAttribute (.text "role") = .ok [.text "clerk", .int 7, .text "clerk"] ∧
      d.getAttribute (.text "desk") = .ok [] :=
    ⟨_, _, _, _, _, ⟨_, rfl, rfl⟩, rfl, rfl, rfl, rfl, rfl, rfl, rfl, rfl, rfl, rfl⟩
  have attributed := Principal.attributed_of_changes built (.single (.set _ _ set))
  have complete : ∀ p ∈ d.pairs, p.1.isNull = false ∧ p.2.isNull = false := by
    rw [pairs]
    decide
  have empty : Principal.attributes { d with attributes := .mapping [] } = .mapping [] := rfl
  obtain ⟨ids, t, stored, numbers, -, -, -, e', read, same⟩ :=
    attributes_read_back overStandard found cls attributed complete empty
  refine ⟨m, d₀, d, s, chosen, built, set, made, ids, t, stored, ?_, e', read, ?_, ?_⟩
  · rw [numbers, size, pairs]
    rfl
  · exact (same _).trans role
  · exact (same _).trans desk

end Principals.Standard
