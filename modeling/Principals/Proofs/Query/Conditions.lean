import Principals.Proofs.Query.Selects
import Principals.Proofs.Schema.Storing
import Principals.Query.Builder

/-!
# What the predicates of a query decide

Over the standard schema each predicate of a query tests one column of identity records. Of a row
that shows a principal it decides what the query asks of the principal: its kind, its realm, whether
it is enabled, or a field of its profile.

* `Query.Matches`: what a query asks of a principal;
* `Standard.Decides`: predicates that decide a property of the principal that a row shows;
* `decides_tokens`, `decides_realm`, `exists_decides_parameter`: the predicates of a query.
-/

namespace Principals

/-! ## What is asked -/

/-- The field of a profile for which a parameter stands. -/
def VariantParameter.field : VariantParameter → Profile.Field
  | loginName => .loginName
  | firstName => .firstName
  | lastName => .lastName
  | email => .email
  | name => .name
  | groupPath => .path

theorem VariantParameter.mem_all (p : VariantParameter) : p ∈ VariantParameter.all := by
  cases p <;> decide

namespace Query

/-- Parameters that ask whether a principal is enabled, or for the text or the absence of one of its
fields. -/
inductive Plain : Parameter × List Value → Prop
  | enabled (b : Bool) : Plain (.identity .enabled, [.bool b])
  | field (p : VariantParameter) (t : Option String) : Plain (.variant p, [.ofText? t])

/-- Whether a principal has what a plain parameter asks for. A field that the form does not declare
is not asked for. -/
def Meets (form : Variant.Form) (d : Principal) : Parameter × List Value → Prop
  | (.identity .enabled, [v]) => d.enabled = v
  | (.variant p, [v]) =>
    (form.queryProperty? p).isSome = true → d.profile.get? p.field = some v
  | _ => True

/-- Whether a principal is of the kind that is asked for, or of one derived from it. -/
def OfKind (kind : Kind) (includeSubkinds : Bool) (d : Principal) : Prop :=
  d.kind = kind ∨ includeSubkinds = true ∧ d.kind.isSubkindOf kind = true

theorem OfKind.isSubkindOf {kind : Kind} {includeSubkinds : Bool} {d : Principal}
    (ofKind : OfKind kind includeSubkinds d) : d.kind.isSubkindOf kind = true := by
  rcases ofKind with same | ⟨-, derived⟩
  · rw [same]
    exact Kind.isSubkindOf_refl kind
  · exact derived

/-- Whether a principal that is kept in a realm or in none is what a query of a form asks for. -/
structure Matches (query : Query) (form : Variant.Form) (includeSubkinds : Bool)
    (scope : Option Realm) (e : Option Realm × Principal) : Prop where
  kind : OfKind query.kind includeSubkinds e.2
  realm : ∀ r ∈ scope, e.1.map Realm.id = some r.id
  parameters : ∀ p ∈ query.parameters.values, Meets form e.2 p

end Query

namespace Standard

variable {row : Row} {e : Option Realm × Principal} {c : Column} {cell : Cell}
  {P Q : Option Realm × Principal → Prop} {A : Principal → Prop} {ps qs : List Predicate}

/-! ## Predicates that decide something -/

/-- Predicates that can be sent and, of a row that shows one of some principals, hold exactly if the
principal has a property. -/
structure Decides (A : Principal → Prop) (ps : List Predicate)
    (P : Option Realm × Principal → Prop) : Prop where
  possible : ∀ p ∈ ps, p ≠ .never
  sendable : Store.Sendable ps
  holds_iff : ∀ tables row e, e.2.Built → A e.2 → Shows row e →
    ((∀ p ∈ ps, p.holds tables row = true) ↔ P e)

theorem Decides.nil (A : Principal → Prop) : Decides A [] fun _ => True where
  possible := List.forall_mem_nil _
  sendable := List.forall_mem_nil _
  holds_iff := by
    intro tables row e _ _ _
    exact ⟨fun _ => trivial, fun _ => List.forall_mem_nil _⟩

theorem Decides.congr (decides : Decides A ps P) (same : ∀ e, P e ↔ Q e) : Decides A ps Q where
  possible := decides.possible
  sendable := decides.sendable
  holds_iff := fun tables row e built among shows =>
    (decides.holds_iff tables row e built among shows).trans (same e)

theorem Decides.restrict {A' : Principal → Prop} (decides : Decides A ps P)
    (fewer : ∀ d, A' d → A d) : Decides A' ps P where
  possible := decides.possible
  sendable := decides.sendable
  holds_iff := fun tables row e built among shows =>
    decides.holds_iff tables row e built (fewer e.2 among) shows

/-- One predicate that decides something. -/
theorem Decides.single {p : Predicate} (possible : p ≠ .never)
    (sendable : ∀ o ∈ p.sent, ∃ c, o = .ok c)
    (holds_iff : ∀ tables row e, e.2.Built → A e.2 → Shows row e →
      (p.holds tables row = true ↔ P e)) : Decides A [p] P where
  possible := List.forall_mem_singleton.mpr possible
  sendable := List.forall_mem_singleton.mpr sendable
  holds_iff := by
    intro tables row e built among shows
    rw [List.forall_mem_singleton]
    exact holds_iff tables row e built among shows

/-- The later of two lists of predicates may rely on what the first one decides. -/
theorem Decides.append {A' : Principal → Prop} (first : Decides A ps P) (second : Decides A' qs Q)
    (relies : ∀ e, A e.2 → P e → A' e.2) : Decides A (ps ++ qs) fun e => P e ∧ Q e where
  possible := List.forall_mem_append.mpr ⟨first.possible, second.possible⟩
  sendable := List.forall_mem_append.mpr ⟨first.sendable, second.sendable⟩
  holds_iff := by
    intro tables row e built among shows
    have firstIff := first.holds_iff tables row e built among shows
    rw [List.forall_mem_append]
    constructor
    · intro h
      rcases h with ⟨holdsFirst, holdsSecond⟩
      have has := firstIff.mp holdsFirst
      exact ⟨has, (second.holds_iff tables row e built (relies e among has) shows).mp
        holdsSecond⟩
    · intro h
      rcases h with ⟨has, more⟩
      exact ⟨firstIff.mpr has, (second.holds_iff tables row e built (relies e among has) shows).mpr
        more⟩

/-! ## Tests of texts -/

theorem operand_text (type : c.type = .text) (s : String) :
    c.operand (.text s) = .ok (.text s) := by
  rw [Column.operand, type]
  rfl

theorem cellIn_of_find? (found : row.find? c.attr = some cell) : c.cellIn row = cell := by
  rw [Column.cellIn, found, Option.getD_some]

/-- A comparison of a text column with a text is sent as that text. -/
theorem compare_text_iff (type : c.type = .text) (found : row.find? c.attr = some cell)
    (s : String) : (Test.compare .equal (.text s)).holds c row = true ↔ cell.text? = some s := by
  rw [Test.holds, operand_text type, cellIn_of_find? found]
  exact Cell.same_text_iff

/-- A text column that holds a text or nothing is equal to a text if it holds that one. -/
theorem refersTo_iff (type : c.type = .text) {there : Option String}
    (stores : ColumnType.text.store (.ofText? there) = .ok cell)
    (found : row.find? c.attr = some cell) (tables : String → List Row) (s : String) :
    (Predicate.refersTo c (.text s)).holds tables row = true ↔ there = some s := by
  rw [Predicate.holds, compare_text_iff type found]
  cases there with
  | none =>
    cases stores
    constructor
    · intro h
      cases h
    · intro h
      cases h
  | some t =>
    cases stores
    exact Iff.rfl

/-- The test for a text or for absence decides whether a text column holds that. -/
theorem exists_test_of_text (type : c.type = .text) (wanted : Option String) :
    ∃ test, Test.ofComparison .equal (.ofText? wanted) = .ok test ∧
      (∀ o ∈ (Predicate.column c test).sent, ∃ cell, o = .ok cell) ∧
      ∀ row cell there, ColumnType.text.store (.ofText? there) = .ok cell →
        row.find? c.attr = some cell → (test.holds c row = true ↔ there = wanted) := by
  cases wanted with
  | none =>
    refine ⟨.isNull, rfl, List.forall_mem_nil _, fun row cell there stores found => ?_⟩
    rw [Test.holds, cellIn_of_find? found, beq_iff_eq]
    cases there with
    | none =>
      cases stores
      exact ⟨fun _ => rfl, fun _ => rfl⟩
    | some t =>
      cases stores
      constructor
      · intro h
        cases h
      · intro h
        cases h
  | some s =>
    refine ⟨.compare .equal (.text s), rfl, ?_, fun row cell there stores found => ?_⟩
    · exact List.forall_mem_singleton.mpr ⟨.text s, operand_text type s⟩
    · exact refersTo_iff type stores found (fun _ => []) s

/-! ## The kind -/

/-- The column of the discriminator. -/
def discriminatorColumn : Column where
  attr := "discriminator"
  column := "discriminator"
  type := .text
  nullable := false
  label := some Property.discriminator

/-- Texts are sent to a column as the cells that it makes of them. -/
theorem operands_of_texts (c : Column) (ts : List String) :
    c.operands (ts.map .text) = ts.map fun t => .ok (c.type.affinity.apply (.text t)) := by
  cases ts with
  | nil => rfl
  | cons first rest =>
    have sent : ∀ t, (c.type.sender (.text first) (.text t)).map c.type.affinity.apply =
        .ok (c.type.affinity.apply (.text t)) := fun _ => rfl
    simp only [Column.operands, List.map_cons, List.map_map, Function.comp_def, sent]

theorem operands_texts (type : c.type = .text) (ts : List String) :
    c.operands (ts.map .text) = ts.map fun t => .ok (.text t) := by
  rw [operands_of_texts, type]
  rfl

/-- A list of texts is compared with a text column as these texts. -/
theorem within_texts_iff (type : c.type = .text) (row : Row) (ts : List String) :
    (Test.within (ts.map .text)).holds c row = true ↔
      ∃ t ∈ ts, (c.cellIn row).text? = some t := by
  rw [Test.holds, operands_texts type, anySame, List.any_map, List.any_eq_true]
  simp only [Function.comp_apply, Cell.same_text_iff]

/-- The tokens decide the kind. -/
theorem decides_tokens {v : Variant} (builtin : v ∈ Variant.builtins) (includeSubkinds : Bool) :
    Decides (fun _ => True)
      [.column discriminatorColumn (.within ((v.tokens includeSubkinds).map .text))]
      fun e => Query.OfKind v.kind includeSubkinds e.2 := by
  refine .single nofun ?_ fun tables row e built _ shows => ?_
  · rw [Predicate.sent, operands_texts rfl]
    exact List.forall_mem_map.mpr fun t _ => ⟨.text t, rfl⟩
  · obtain ⟨cell, stores, found⟩ := shows.entry Property.discriminator
      (.text e.2.variant.discriminator) (by simp [Principal.entries, Principal.sharedEntries])
      "discriminator" rfl
    cases stores
    have ofKind := Variant.mem_tokens_iff v builtin e.2.variant e.2.variant_mem includeSubkinds
    rw [built.variant_kind] at ofKind
    rw [Predicate.holds, within_texts_iff rfl, cellIn_of_find? found, Query.OfKind, ← ofKind]
    constructor
    · intro h
      rcases h with ⟨t, among, text⟩
      cases text
      exact among
    · exact fun among => ⟨_, among, rfl⟩

/-! ## The realm -/

/-- The column of the reference to a realm. -/
def referenceColumn : Column where
  attr := "partition_id"
  column := "partition_id"
  type := .text

/-- The reference decides the realm. -/
theorem decides_realm (r : Realm) :
    Decides (fun _ => True) [.refersTo referenceColumn (.text r.id)]
      fun e => e.1.map Realm.id = some r.id := by
  refine .single nofun ?_ fun tables row e _ _ shows => ?_
  · exact List.forall_mem_singleton.mpr ⟨.text r.id, rfl⟩
  · rw [Predicate.holds, compare_text_iff rfl shows.realm]
    cases e.1 <;> exact Iff.rfl

/-! ## Parameters -/

/-- The column of the truth value. -/
def enabledColumn : Column where
  attr := "enabled"
  column := "enabled"
  type := .boolean
  nullable := false
  label := some Property.enabled

theorem decides_enabled (A : Principal → Prop) (b : Bool) :
    Decides A [.column enabledColumn (.is b)] fun e => e.2.enabled = .bool b := by
  refine .single nofun (List.forall_mem_nil _) fun tables row e built _ shows => ?_
  obtain ⟨enabled, isEnabled⟩ := built.constructed.enabled
  obtain ⟨cell, stores, found⟩ := shows.entry Property.enabled e.2.enabled
    (by simp [Principal.entries, Principal.sharedEntries]) "enabled" rfl
  have bits : ColumnType.boolean.store (.bool enabled) =
      .ok (.integer (if enabled then 1 else 0)) := by
    cases enabled <;> rfl
  have stored : cell = .integer (if enabled then 1 else 0) := by
    rw [isEnabled] at stores
    exact Except.ok.inj (stores.symm.trans bits)
  have asked : ColumnType.boolean.affinity.apply (.integer (if b then 1 else 0)) =
      .integer (if b then 1 else 0) := rfl
  rw [Predicate.holds, Test.holds, cellIn_of_find? found, stored, isEnabled]
  change (Cell.integer _).same (ColumnType.boolean.affinity.apply _) = true ↔ _
  rw [asked, Cell.same_integer_iff]
  cases enabled <;> cases b <;> decide

/-- The properties that query parameters stand for have text columns. -/
theorem column_of_queryProperty : ∀ v ∈ Variant.builtins, ∀ p ∈ VariantParameter.all,
    ∀ property ∈ v.form.queryProperty? p, ∃ c ∈ identityClass.columns,
      bindings.properties.find? property = some c.attr ∧ c.type = .text ∧
        identityClass.relationship? c.attr = none ∧ identityClass.column? c.attr = some c := by
  decide

/-- A property that a variant is asked for is written for all principals of its kind and of those
derived from it, as the field for which the parameter stands. -/
theorem written_of_queryProperty : ∀ v ∈ Variant.builtins, ∀ w ∈ Variant.builtins,
    w.kind.isSubkindOf v.kind = true → ∀ p ∈ VariantParameter.all,
      ∀ property ∈ v.form.queryProperty? p, (property, p.field) ∈ w.form.written := by
  decide

/-- The column of a declared field decides the field. -/
theorem decides_field {v : Variant} (builtin : v ∈ Variant.builtins) {p : VariantParameter}
    {property : Property} (declared : v.form.queryProperty? p = some property)
    (bound : bindings.properties.find? property = some c.attr)
    {test : Test} {wanted : Option String}
    (sendable : ∀ o ∈ (Predicate.column c test).sent, ∃ cell, o = .ok cell)
    (tests : ∀ row cell there, ColumnType.text.store (.ofText? there) = .ok cell →
      row.find? c.attr = some cell → (test.holds c row = true ↔ there = wanted)) :
    Decides (fun d => d.kind.isSubkindOf v.kind = true) [.column c test] fun e =>
      e.2.profile.get? p.field = some (.ofText? wanted) := by
  refine .single nofun sendable fun tables row e built derived shows => ?_
  have written : (property, p.field) ∈ e.2.variant.form.written :=
    written_of_queryProperty v builtin e.2.variant e.2.variant_mem
      (by rw [built.variant_kind]; exact derived) p (VariantParameter.mem_all p) property declared
  obtain ⟨x, has⟩ := Variant.get?_of_written (Variant.fits_of_builtin _ e.2.variant_mem)
    built.constructed (property, p.field) written
  obtain ⟨there, text⟩ := exists_text_of_constructed built.constructed.profile p.field
  have among : (property, Value.ofText? there) ∈ e.2.entries e.2.variant := by
    refine List.mem_append_right _ (List.mem_map.mpr ⟨_, written, ?_⟩)
    rw [text]
  obtain ⟨cell, stores, found⟩ := shows.entry property (.ofText? there) among c.attr bound
  rw [columnType_of_written _ _ written] at stores
  rw [has, Option.getD_some] at text
  rw [Predicate.holds, tests row cell there stores found, has, text, Option.some.injEq]
  exact ⟨fun same => by rw [same], Value.ofText?_injective⟩

/-- A property that is bound to a column is compared by a test of that column. -/
theorem comparePredicate_of_column {k : Compiler} (overStandard : k.bindings = bindings)
    {property : Property} (bound : bindings.properties.find? property = some c.attr)
    (notLink : identityClass.relationship? c.attr = none)
    (isColumn : identityClass.column? c.attr = some c) {op : Comparison} {v : Value} {test : Test}
    (made : Test.ofComparison op v = .ok test) (s : Store) :
    k.comparePredicate s property op [v] = .ok (.column c test) := by
  have attr : k.bindings.attrOf property = .ok c.attr := by
    rw [overStandard]
    exact Bindings.attrOf_eq_ok_iff.mpr bound
  have cls : k.bindings.identityClass = identityClass := by
    rw [overStandard]
    rfl
  simp only [Compiler.comparePredicate, attr, bind, Except.bind, Predicate.ofComparison, cls,
    notLink, isColumn, made]
  rfl

/-- A plain parameter becomes predicates that decide what it asks for, of the principals of the kind
that the query is for. -/
theorem exists_decides_parameter {k : Compiler} (overStandard : k.bindings = bindings)
    {v : Variant} (builtin : v ∈ Variant.builtins) (s : Store) {p : Parameter × List Value}
    (plain : Query.Plain p) :
    ∃ ps, k.compile s p.1 p.2 (some v.form) = .ok ps ∧
      Decides (fun d => d.kind.isSubkindOf v.kind = true) ps fun e =>
        Query.Meets v.form e.2 p := by
  cases plain with
  | enabled b =>
    have compared : k.comparePredicate s Property.enabled .equal [.bool b] =
        .ok (.column enabledColumn (.is b)) :=
      comparePredicate_of_column overStandard rfl rfl rfl rfl s
    refine ⟨[.column enabledColumn (.is b)], ?_, decides_enabled _ b⟩
    change (k.comparePredicate s Property.enabled .equal [.bool b]).map _ = _
    rw [compared]
    rfl
  | field p wanted =>
    cases declared : v.form.queryProperty? p with
    | none =>
      refine ⟨[], ?_, (Decides.nil _).congr fun e => ?_⟩
      · simp only [Compiler.compile, Option.bind_some, declared]
      · rw [Query.Meets, declared]
        exact ⟨fun _ => nofun, fun _ => trivial⟩
    | some property =>
      obtain ⟨c, -, bound, type, notLink, isColumn⟩ :=
        column_of_queryProperty v builtin p (VariantParameter.mem_all p) property declared
      obtain ⟨test, made, sendable, tests⟩ := exists_test_of_text type wanted
      have compared := comparePredicate_of_column overStandard bound notLink isColumn made s
      have decides := decides_field builtin declared bound sendable tests
      refine ⟨[.column c test], ?_, decides.congr fun e => ?_⟩
      · simp only [Compiler.compile, Option.bind_some, declared, compared]
        rfl
      · rw [Query.Meets, declared]
        exact ⟨fun has _ => has, fun has => has rfl⟩

/-- Plain parameters become predicates that decide what they ask for. -/
theorem exists_decides_parameters {q : QueryBuilder} (overStandard : q.compiler.bindings = bindings)
    {v : Variant} (builtin : v ∈ Variant.builtins) (s : Store)
    {params : List (Parameter × List Value)} (plain : ∀ p ∈ params, Query.Plain p) :
    ∃ ps, q.parameterPredicates s v.form params = .ok ps ∧
      Decides (fun d => d.kind.isSubkindOf v.kind = true) ps fun e =>
        ∀ p ∈ params, Query.Meets v.form e.2 p := by
  induction params with
  | nil => exact ⟨[], rfl, (Decides.nil _).congr fun _ => ⟨fun _ => List.forall_mem_nil _,
      fun _ => trivial⟩⟩
  | cons p rest ih =>
    obtain ⟨plainFirst, plainRest⟩ := List.forall_mem_cons.mp plain
    obtain ⟨ps, compiled, first⟩ := exists_decides_parameter overStandard builtin s plainFirst
    obtain ⟨more, compiledRest, later⟩ := ih plainRest
    refine ⟨ps ++ more, ?_, ?_⟩
    · simp only [QueryBuilder.parameterPredicates, compiled, compiledRest, bind, Except.bind]
    · exact (first.append later fun _ derived _ => derived).congr fun _ =>
        List.forall_mem_cons.symm

end Standard

end Principals
