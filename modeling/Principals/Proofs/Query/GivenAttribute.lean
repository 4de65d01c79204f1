import Principals.Proofs.Principal.GivenAttribute
import Principals.Proofs.Query.HeldValues
import Principals.Proofs.Query.OwnAttributes
import Principals.Proofs.Schema.Unfinished

/-!
# What a query finds of an attribute given or set

An attribute that is set keeps its name as it is, while the constructors and the parameters of queries
trim it. So an attribute that was set under a name with blanks around it is stored under that name, and
no query asks for it.

* `Sound`, `Owns`: stores in which attribute rows belong to identities, and what belongs to one;
* `Sound.persist`, `Owns.persist`: what storing one more identity leaves;
* `createAttributes_withAttribute_iff`: when two names lead to the same records;
* `given_and_set_agree_iff`: when an attribute given to the constructor and one set agree.
-/

namespace Principals

/-- Stores an identity record together with the attribute records of a principal. -/
def Mapper.storeWith (m : Mapper) (r : Record) (d : Principal) : StoreM RecordId := do
  let id ← StoreM.create r
  let _ ← m.createAttributes id d
  StoreM.persist [id]
  return id

namespace Standard

variable {s t u w : Store} {r : Record} {m : Mapper} {d : Principal} {id owner : RecordId}
  {own : List RecordId} {n : Int} {name : String} {values : List String}
  {pairs told : List (String × String)} {entries : List (String × List String)}

/-! ## Stores in which attribute rows belong to identities -/

/-- A store of the standard schema in which every attribute record is written and refers to a stored
identity. -/
structure Sound (s : Store) : Prop where
  schema : s.catalog = catalog
  classes : ∀ r ∈ s.records, r.cls ∈ catalog.classes
  intact : Intact s

/-- An identity record that was never written, has no number and has gathered nothing. -/
structure FreshIdentity (r : Record) : Prop where
  cls : r.cls = identityClass
  new : r.isTransient = true
  unnumbered : r.value "id" = .null
  ungathered : r.gathered = ∅

/-- An identity that is stored under a number, with attribute rows that tell pairs, while no other row
refers to the number. -/
structure Owns (w : Store) (id : RecordId) (own : List RecordId) (n : Int)
    (pairs : List (String × String)) : Prop where
  written : ∃ row, w.Written id identityClass row ∧ row.find? "id" = some (.integer n)
  distinct : own.Nodup
  tell : TellAll w n own pairs
  alone : ∀ name values, ¬ GivenBeside w own n name values

/-- Its pairs decide which queries select it. -/
theorem Owns.mem_matching_iff (owns : Owns w id own n pairs) (someValue : values ≠ []) :
    id ∈ w.matching identityClass [.hasAttributes (Store.standardTest name (values.map .text))] ↔
      pairs.countP (fun e => e.1 == name && values.contains e.2) = values.length := by
  obtain ⟨row, written, isNumber⟩ := owns.written
  have identity : (Store.standardTest name (values.map .text)).identity.cellIn row = .integer n :=
    cellIn_of_find? isNumber
  have length : (Store.standardTest name (values.map .text)).values.length = values.length :=
    List.length_map _
  have cls : (Store.standardTest name (values.map .text)).cls.name = attributeClass.name := rfl
  rw [Store.mem_matching_iff_of_stored written.stored rfl, List.forall_mem_singleton,
    Predicate.holds, AttributeTest.holds_iff (AttributeTest.oneGroup_of_affinity rfl _ _), identity,
    length, cls, countP_counts_own owns.distinct owns.tell,
    countP_beside_eq_zero_iff.mpr (owns.alone name values), Nat.add_zero]
  exact and_iff_right fun none => someValue (List.eq_nil_of_length_eq_zero none)

/-! ## Storing one more -/

/-- An attribute row of the store before is the same afterwards, for it has nothing left to write. -/
theorem Sound.stored?_attribute {i : RecordId} {cls : RecordClass} {row : Row} (sound : Sound s)
    (done : (StoreM.persist [s.records.length]).outcome (withAttributes s r pairs) = (.ok (), u))
    (stored : s.stored? i = some (cls, row)) (named : cls.name = attributeClass.name) :
    u.stored? i = some (cls, row) := by
  obtain ⟨p, there, rfl, -⟩ := Store.stored?_eq_some_iff.mp stored
  obtain ⟨row', n, before, -, -⟩ := sound.intact i p there named
  cases stored.symm.trans before.stored
  exact ((before.addAll _).flush (Store.flush_of_persist done)).stored

/-- When an identity was stored with its attributes, every attribute record refers to a stored
identity again. -/
theorem Sound.intact_of_persist (sound : Sound s) (fresh : FreshIdentity r)
    (done : (StoreM.persist [s.records.length]).outcome (withAttributes s r pairs) = (.ok (), u))
    (owns : Owns u s.records.length (attributeIds s pairs) n pairs) : Intact u := by
  have among : s.records.length ∈ [s.records.length] := List.mem_singleton_self _
  have flushed := Store.flush_of_persist done
  have schema : (withAttributes s r pairs).catalog = catalog := sound.schema
  have known : attributeClass ∈ (withAttributes s r pairs).catalog.classes := by
    rw [schema]
    decide
  -- An attribute record was there before, and is as it was, or it is one of the new ones.
  intro i q found named
  rcases attribute_cases_of_flush fresh.cls flushed found named with ⟨p, there, sameClass⟩ | own
  · obtain ⟨row, m, before, refers, j, rowOf, writtenOf, isHeld⟩ :=
      sound.intact i p there (sameClass ▸ named)
    rw [sameClass] at before
    exact ⟨row, m, (before.addAll _).flush flushed, refers, j, rowOf,
      (writtenOf.addAll _).flush flushed, isHeld⟩
  · obtain ⟨row, written, isNumber⟩ := owns.written
    obtain ⟨e, told, isTold, tells⟩ := owns.tell.exists_of_mem own
    obtain ⟨j, e', at_j, rfl⟩ := exists_pair_of_mem own
    obtain ⟨rowOf, writtenOf⟩ := Store.written_of_flush ⟨_, record?_attribute s r at_j, rfl⟩
      known (mem_closure_attribute fresh.new among at_j) flushed
    cases isTold.symm.trans writtenOf.stored
    have cls : q.cls = attributeClass := by
      obtain ⟨q', found', cls, -⟩ := writtenOf
      cases found.symm.trans found'
      exact cls
    exact ⟨told, n, cls ▸ writtenOf, tells.owner, _, row, written, isNumber⟩

/-- When an identity was stored with its attributes, it owns them, its number is above all others, and
the store is sound again. -/
theorem Sound.persist (sound : Sound s) (fresh : FreshIdentity r)
    (done : (StoreM.persist [s.records.length]).outcome (withAttributes s r pairs) = (.ok (), u)) :
    Sound u ∧ ∃ n, Owns u s.records.length (attributeIds s pairs) n pairs ∧
      ∀ m, s.Holds identityClass "id" m → m < n := by
  have among : s.records.length ∈ [s.records.length] := List.mem_singleton_self _
  have flushed := Store.flush_of_persist done
  have schema : (withAttributes s r pairs).catalog = catalog := sound.schema
  have known : identityClass ∈ (withAttributes s r pairs).catalog.classes := by
    rw [schema]
    decide
  obtain ⟨n, row, stored, isNumber, tell, above⟩ :=
    rows_of_persist sound.schema fresh.cls fresh.new fresh.unnumbered among done
  obtain ⟨row', written⟩ := Store.written_of_flush ⟨_, record?_owner s r pairs, fresh.cls⟩ known
    (Store.mem_closure_of_root among (record?_owner s r pairs) fresh.new) flushed
  cases stored.symm.trans written.stored
  have owns : Owns u s.records.length (attributeIds s pairs) n pairs :=
    ⟨⟨row, written, isNumber⟩, List.nodup_range', tell, fun _ _ =>
      not_givenBeside_of_intact sound.intact fresh.cls above flushed⟩
  have classes : ∀ q ∈ u.records, q.cls ∈ catalog.classes := by
    intro q inStore
    obtain ⟨i, found⟩ := List.mem_iff_getElem?.mp inStore
    obtain ⟨p, before, sameClass⟩ := Store.hasClasses_of_flush flushed i q found
    rw [sameClass]
    exact classes_withAttributes sound.classes fresh.cls pairs p (List.mem_of_getElem? before)
  have unchanged := (Store.catalog_of_flush flushed).trans schema
  exact ⟨⟨unchanged, classes, sound.intact_of_persist fresh done owns⟩, n, owns, above⟩

/-- What an identity owns is still its own after another one was stored. -/
theorem Owns.persist (owns : Owns s id own n told) (sound : Sound s) (fresh : FreshIdentity r)
    (done : (StoreM.persist [s.records.length]).outcome (withAttributes s r pairs) = (.ok (), u)) :
    Owns u id own n told := by
  have flushed := Store.flush_of_persist done
  obtain ⟨-, n', later, above⟩ := sound.persist fresh done
  obtain ⟨row, written, isNumber⟩ := owns.written
  refine ⟨⟨row, (written.addAll _).flush flushed, isNumber⟩, owns.distinct,
    owns.tell.imp fun i e tells => ?_, fun name values => ?_⟩
  · obtain ⟨row, stored, tells⟩ := tells
    exact ⟨row, sound.stored?_attribute done stored rfl, tells⟩
  · rintro ⟨i, cls, other, notOwn, stored, named, gives⟩
    obtain ⟨q, found, rfl, -⟩ := Store.stored?_eq_some_iff.mp stored
    rcases attribute_cases_of_flush fresh.cls flushed found named with ⟨p, there, sameClass⟩ | new
    · obtain ⟨row', m, before, -, -⟩ := sound.intact i p there (sameClass ▸ named)
      have kept := sound.stored?_attribute done before.stored (sameClass ▸ named)
      obtain ⟨-, rfl⟩ := Prod.mk.inj (Option.some.inj (kept.symm.trans stored))
      exact owns.alone name values ⟨i, _, _, notOwn, before.stored, sameClass ▸ named, gives⟩
    · obtain ⟨e, row', isRow, tells⟩ := later.tell.exists_of_mem new
      obtain ⟨-, rfl⟩ := Prod.mk.inj (Option.some.inj (isRow.symm.trans stored))
      have number : n' = n := by
        have owner := gives.owner
        rw [tells.owner] at owner
        exact Cell.same_integer_iff.mp owner
      exact Int.lt_irrefl n (number ▸ above n ⟨id, row, written, isNumber⟩)

/-- Storing an identity with the attributes of a principal writes it with their records. -/
theorem persist_of_storeWith (overStandard : m.bindings = bindings) (fresh : FreshIdentity r)
    (texts : d.attributes = .mapping (entries.map fun e => (.text e.1, .list (e.2.map .text))))
    (done : (m.storeWith r d).outcome s = (.ok id, u)) :
    id = s.records.length ∧ (StoreM.persist [s.records.length]).outcome
      (withAttributes s r (pairsOf entries)) = (.ok (), u) := by
  have created : (StoreM.create r).outcome s = (.ok s.records.length, (s.add r).2) := rfl
  have attributes := outcome_createEntries (s := s) overStandard fresh.new entries []
  rw [withAttributes_nil s fresh.ungathered, List.nil_append] at attributes
  rw [Mapper.storeWith, StoreM.outcome_bind_ok created, Mapper.createAttributes, texts,
    StoreM.outcome_bind_ok attributes] at done
  obtain ⟨_, t, persisted, last⟩ := StoreM.outcome_bind_eq_ok.mp done
  cases last
  exact ⟨rfl, persisted⟩

/-! ## Records under two names -/

/-- The attribute records of a name and of another one are the same only if the names are, or if there
are no values. -/
theorem createAttributes_withAttribute_iff {n n' : String} {vs : List Value}
    (overStandard : m.bindings = bindings) (found : s.record? owner = some r)
    (cls : r.cls = identityClass) :
    (m.createAttributes owner (d.withAttribute n vs)).outcome s =
        (m.createAttributes owner (d.withAttribute n' vs)).outcome s ↔ n = n' ∨ vs = [] := by
  have single : ∀ name, (m.createAttributes owner (d.withAttribute name vs)).outcome s =
      (m.createNamed owner (.text name) vs >>= fun ids => pure (ids ++ [])).outcome s := by
    intro name
    have items : (StoreM.lift (Principal.itemsOf (.list vs))).outcome s = (.ok vs, s) := rfl
    change (m.createEntries owner [(.text name, .list vs)]).outcome s = _
    rw [Mapper.createEntries, StoreM.outcome_bind_ok items]
    rfl
  constructor
  · intro same
    cases vs with
    | nil => exact .inr rfl
    | cons v rest =>
      have named : ∀ name, NamedAs
          ((m.createAttributes owner (d.withAttribute name (v :: rest))).outcome s).2
          s.records.length (.text name) := by
        intro name
        rcases run : (m.createNamed owner (.text name) (v :: rest)).outcome s with ⟨result, t⟩
        have first := namedAs_of_createNamed overStandard found cls rfl run
        rw [single]
        cases result with
        | error f => rwa [StoreM.outcome_bind_error run]
        | ok ids => rwa [StoreM.outcome_bind_ok run]
      have sameName := (named n).unique (same ▸ named n')
      exact .inl (Value.text.inj sameName)
  · intro h
    rcases h with rfl | rfl
    · rfl
    · rw [single, single]
      rfl

/-! ## The two ways compared -/

/-- Of the pairs of one name all are counted, or none if another name is asked for. -/
theorem countP_pairsOf_single {n n' : String} {texts : List String} (someText : texts ≠ []) :
    (pairsOf [(n, texts)]).countP (fun e => e.1 == n' && texts.contains e.2) = texts.length ↔
      n = n' := by
  rw [pairsOf, List.flatMap_singleton, List.countP_map]
  by_cases same : n = n'
  · refine iff_of_true (List.countP_eq_length.mpr fun v among => ?_) same
    simpa [same] using among
  · have none_counted : texts.countP ((fun e : String × String => e.1 == n' && texts.contains e.2) ∘
        fun v => (n, v)) = 0 := List.countP_eq_zero.mpr fun v _ => by simp [same]
    rw [none_counted]
    exact iff_of_false (fun none => someText (List.eq_nil_of_length_eq_zero none.symm)) same

/-- **An attribute given and one that is set.** A principal is constructed with an attribute, or
constructed without and the attribute set afterwards. The attributes are equal exactly if trimming
leaves the name alone; the values under the name, and the records that are made, are the same also if
there are no values. When both are stored in a sound store, a query for the values under the name
selects the first, and it selects the second exactly if trimming leaves the name alone. -/
theorem given_and_set_agree_iff {now : Time.DateTime} {kind : Kind} {fields : List (String × Value)}
    (without : "attributes" ∉ fields.map Prod.fst)
    (made : Principal.create now kind fields = .ok d) (n : String) (vs : List Value) :
    ∃ given changed,
      Principal.create now kind (fields ++ [("attributes", .mapping [(.text n, .list vs)])]) =
        .ok given ∧
      d.setAttribute (.text n) vs = .ok changed ∧
      (given.attributes = changed.attributes ↔ Text.trim n = n) ∧
      (given.getAttribute (.text n) = changed.getAttribute (.text n) ↔
        Text.trim n = n ∨ vs = []) ∧
      (∀ (m : Mapper) (s : Store) owner r, m.bindings = bindings → s.record? owner = some r →
        r.cls = identityClass →
          ((m.createAttributes owner given).outcome s =
              (m.createAttributes owner changed).outcome s ↔ Text.trim n = n ∨ vs = [])) ∧
      ∀ texts : List String, vs = texts.map .text → texts ≠ [] →
        ∃ p, Parameter.ofName (.text n) = .ok p ∧
          ∀ (k : Compiler) (m : Mapper) (s u w : Store) r r' id id' form, k.bindings = bindings →
            k.distinct = false → m.bindings = bindings → Sound s → FreshIdentity r →
            FreshIdentity r' → (m.storeWith r given).outcome s = (.ok id, u) →
            (m.storeWith r' changed).outcome u = (.ok id', w) →
              ∃ q found, k.compile w p vs form = .ok [q] ∧
                w.select identityClass [q] = .ok found ∧ id ∈ found ∧
                (id' ∈ found ↔ Text.trim n = n) := by
  have none_yet := Principal.attributes_of_create_without without made
  have constructed := Principal.create_with_attribute now kind without n vs
  rw [made] at constructed
  refine ⟨_, _, constructed, Principal.setAttribute_of_none none_yet n vs,
    Principal.withAttribute_inj, Principal.getAttribute_given_iff d n vs,
    fun m s owner r overStandard found cls =>
      createAttributes_withAttribute_iff overStandard found cls,
    fun texts isTexts someText => ⟨.named (Text.trim n), rfl, ?_⟩⟩
  intro k m s u w r r' id id' form compilerOver repeated overStandard sound fresh fresh' first second
  subst isTexts
  have single : ∀ name, (d.withAttribute name (texts.map .text)).attributes =
      .mapping ([(name, texts)].map fun e => (.text e.1, .list (e.2.map .text))) := fun _ => rfl
  obtain ⟨rfl, persisted⟩ := persist_of_storeWith overStandard fresh (single (Text.trim n)) first
  obtain ⟨rfl, persisted'⟩ := persist_of_storeWith overStandard fresh' (single n) second
  obtain ⟨sound', _, owns, -⟩ := sound.persist fresh persisted
  obtain ⟨-, _, owns', -⟩ := sound'.persist fresh' persisted'
  have stillOwns := owns.persist sound' fresh' persisted'
  have predicate : k.attributePredicate (.text (Text.trim n)) (texts.map .text) =
      .ok (.hasAttributes (Store.standardTest (Text.trim n) (texts.map .text))) :=
    attributePredicate_texts compilerOver repeated someText
  have possible : ∀ q ∈ [Predicate.hasAttributes
      (Store.standardTest (Text.trim n) (texts.map .text))], q ≠ .never := by simp
  refine ⟨_, _, ?_, (Store.select_eq_ok_iff possible).mpr ⟨sendable_standardTest _ texts, rfl⟩,
    ?_, ?_⟩
  · rw [Compiler.compile, predicate]
    rfl
  · exact (stillOwns.mem_matching_iff someText).mpr ((countP_pairsOf_single someText).mpr rfl)
  · rw [owns'.mem_matching_iff someText, countP_pairsOf_single someText, eq_comm]

/-- Records that are made of principals are such records. -/
theorem fresh_newRecord (v : Variant) (target : Option RecordId) (d : Principal) :
    FreshIdentity (newRecord v target d) where
  cls := cls_newRecord v target d
  new := isTransient_newRecord v target d
  unnumbered := value_newRecord_of_reserved (.inl rfl)
  ungathered := gathered_newRecord ..

/-- Two users, of which one was constructed with a role and the other was given it afterwards, are both
found by it. -/
theorem given_and_set_agree_role : ∃ (reg : Registry) (m : Mapper) (d given changed : Principal)
    (u w : Store) (id id' : RecordId),
    Registry.withBuiltins bindings none = .ok reg ∧ reg.forKind .user = .ok m ∧
    Principal.create ⟨.epoch, none⟩ .user [("login_name", .text "zoe")] = .ok d ∧
    Principal.create ⟨.epoch, none⟩ .user [("login_name", .text "zoe"),
      ("attributes", .mapping [(.text "role", .list [.text "a"])])] = .ok given ∧
    d.setAttribute (.text "role") [.text "a"] = .ok changed ∧
    given.attributes = changed.attributes ∧
    (m.storeWith (newRecord .user none given) given).outcome (ofRealms []) = (.ok id, u) ∧
    (m.storeWith (newRecord .user none changed) changed).outcome u = (.ok id', w) ∧
    ∃ q found, (Compiler.mk bindings false).compile w (.named "role") [.text "a"] none = .ok [q] ∧
      w.select identityClass [q] = .ok found ∧ id ∈ found ∧ id' ∈ found := by
  obtain ⟨reg, m, d, given, changed, u, w, id, id', registered, chosen, overStandard, built,
      constructed, set, first, second⟩ : ∃ (reg : Registry) (m : Mapper)
      (d given changed : Principal) (u w : Store) (id id' : RecordId),
      Registry.withBuiltins bindings none = .ok reg ∧ reg.forKind .user = .ok m ∧
      m.bindings = bindings ∧
      Principal.create ⟨.epoch, none⟩ .user [("login_name", .text "zoe")] = .ok d ∧
      Principal.create ⟨.epoch, none⟩ .user [("login_name", .text "zoe"),
        ("attributes", .mapping [(.text "role", .list [.text "a"])])] = .ok given ∧
      d.setAttribute (.text "role") [.text "a"] = .ok changed ∧
      (m.storeWith (newRecord .user none given) given).outcome (ofRealms []) = (.ok id, u) ∧
      (m.storeWith (newRecord .user none changed) changed).outcome u = (.ok id', w) :=
    ⟨_, _, _, _, _, _, _, _, _, rfl, rfl, rfl, rfl, rfl, rfl, rfl, rfl⟩
  have trimmed : Text.trim "role" = "role" := by decide
  have sound : Sound (ofRealms []) := by
    refine ⟨rfl, List.forall_mem_nil _, fun i r found => ?_⟩
    cases found
  obtain ⟨given', changed', constructed', set', attributes, -, -, finds⟩ :=
    given_and_set_agree_iff (by decide) built "role" [.text "a"]
  cases constructed.symm.trans constructed'
  cases set.symm.trans set'
  obtain ⟨p, isParameter, selects⟩ := finds ["a"] rfl (by decide)
  cases isParameter
  obtain ⟨q, found, compiled, selected, givenFound, changedFound⟩ :=
    selects ⟨bindings, false⟩ m _ _ _ _ _ _ _ none rfl rfl overStandard sound
      (fresh_newRecord .user none given) (fresh_newRecord .user none changed) first second
  rw [trimmed] at compiled
  exact ⟨reg, m, d, given, changed, u, w, id, id', registered, chosen, built, constructed, set,
    attributes.mpr trimmed, first, second, q, found, compiled, selected, givenFound,
    changedFound.mpr trimmed⟩

/-- Under a name with blanks around it, an attribute that is set is another one than the constructor
is given, and a query asks for the latter. -/
theorem given_ne_set_of_blanks : ∃ d given changed : Principal,
    Principal.create ⟨.epoch, none⟩ .user [("login_name", .text "zoe")] = .ok d ∧
    Principal.create ⟨.epoch, none⟩ .user [("login_name", .text "zoe"),
      ("attributes", .mapping [(.text " role ", .list [.text "a"])])] = .ok given ∧
    d.setAttribute (.text " role ") [.text "a"] = .ok changed ∧
    given.attributes ≠ changed.attributes ∧
    given.getAttribute (.text " role ") = .ok [] ∧
    changed.getAttribute (.text " role ") = .ok [.text "a"] ∧
    Parameter.ofName (.text " role ") = .ok (.named "role") := by
  refine ⟨_, _, _, rfl, rfl, rfl, ?_, rfl, rfl, rfl⟩
  decide

end Standard

end Principals
