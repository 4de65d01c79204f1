import Principals.Proofs.Mapping.Rewriting
import Principals.Proofs.Mapping.StoredTimes
import Principals.Proofs.Query.Conditions
import Principals.Proofs.Query.Selects
import Principals.Proofs.Time.Order

/-!
# Date parameters

A parameter on a date compares the wall clock that a row holds with the wall clock of the value that
it is given; the zone of that value goes unnoticed. What is restored of the row reads its wall clock
as UTC. So a date parameter compares instants exactly if the value is given in UTC, or if the restored
date lies on the same side of the value as of the value's wall clock.

* `DateField`: the two dates of a principal and the parameters on them;
* `Comparison.holds_moment_iff`: cells compare as wall clocks;
* `Standard.restored_date`: the restored date is the wall clock of the row;
* `Standard.selected_by_date_iff`: what date parameters select, and when that is what the instants
  say.
-/

namespace Principals

/-- The dates of a principal that parameters compare. -/
inductive DateField
  | created
  | expiration
deriving DecidableEq, Repr

namespace DateField

/-- The date of a principal. -/
def get : DateField → Principal → Value
  | created, d => d.createdDate
  | expiration, d => d.expirationDate

/-- The parameter that asks for a date that compares so. -/
def parameter : DateField → Comparison → IdentityParameter
  | created, .equal => .createdDate
  | created, .above => .createdAfter
  | created, .below => .createdBefore
  | expiration, .equal => .expiryDate
  | expiration, .above => .expiryAfter
  | expiration, .below => .expiryBefore

/-- The property that holds a date. -/
def property : DateField → Property
  | created => Property.created
  | expiration => Property.expires

/-- The column that holds a date in the standard schema. -/
def column : DateField → Column
  | created => { attr := "created", column := "created", type := .timestamp, nullable := false,
                 label := some Property.created }
  | expiration => { attr := "expires", column := "expires", type := .timestamp,
                    label := some Property.expires }

theorem rule_parameter (f : DateField) (op : Comparison) :
    (f.parameter op).rule = (f.property, op) := by
  cases f <;> cases op <;> rfl

end DateField

/-! ## Comparing -/

/-- Whether two numbers compare so. -/
def Comparison.Orders : Comparison → Int → Int → Prop
  | equal, i, j => i = j
  | above, i, j => j < i
  | below, i, j => i < j

/-- Whether two values are date-times whose instants compare so. -/
def Value.Compares (op : Comparison) (v w : Value) : Prop :=
  ∃ t u i j, v = .moment t ∧ w = .moment u ∧ t.instant? = some i ∧ u.instant? = some j ∧
    op.Orders i j

namespace Comparison

variable {op : Comparison} {c c' : Time.Civil}

theorem order_moment (c c' : Time.Civil) : (Cell.moment c).order (.moment c') =
    some (Cell.textOrder c.storedText c'.storedText) := by
  simp [Cell.order, Cell.rank?, Cell.text?]

/-- Cells of date-times compare as their wall clocks. -/
theorem holds_moment_iff : op.holds (.moment c) (.moment c') = true ↔
    op.Orders c.micros c'.micros := by
  have same : c.storedText = c'.storedText ↔ c.micros = c'.micros := Time.Civil.storedText_inj
  have before : c.storedText < c'.storedText ↔ c.micros < c'.micros :=
    Time.Civil.storedText_lt_iff
  cases op with
  | equal =>
    rw [holds, order_moment, beq_iff_eq, Option.some.injEq, Cell.textOrder_eq_iff, same]
    rfl
  | above =>
    rw [holds, order_moment, beq_iff_eq, Option.some.injEq, Cell.textOrder]
    change _ ↔ c'.micros < c.micros
    split
    · next lt =>
      have := before.mp lt
      simp only [reduceCtorEq, false_iff]
      omega
    · next notLt =>
      have := mt before.mpr notLt
      split
      · next eq =>
        have := same.mp eq
        simp only [reduceCtorEq, false_iff]
        omega
      · next ne =>
        have := mt same.mpr ne
        simp only [true_iff]
        omega
  | below =>
    rw [holds, order_moment, beq_iff_eq, Option.some.injEq, Cell.textOrder]
    change _ ↔ c.micros < c'.micros
    rw [← before]
    split
    · next lt => simp [lt]
    · next notLt => split <;> simp [notLt]

/-- All comparisons with one number agree with those with another exactly if the two are equal or
on the same side. -/
theorem orders_agree_iff {i j k : Int} : (∀ op : Comparison, op.Orders i k ↔ op.Orders i j) ↔
    k = j ∨ i < min j k ∨ max j k < i := by
  constructor
  · intro agree
    have same : i = k ↔ i = j := agree .equal
    have after : k < i ↔ j < i := agree .above
    have before : i < k ↔ i < j := agree .below
    omega
  · intro sides op
    cases op
    · change i = k ↔ i = j
      omega
    · change k < i ↔ j < i
      omega
    · change i < k ↔ i < j
      omega

end Comparison

namespace Standard

variable {s : Store} {id : RecordId} {row : Row} {reg : Registry} {k : Compiler} {e : Principal}
  {resolver : Option RealmResolver} {scope : Option Realm} {f : DateField}

/-! ## What is restored -/

theorem property_bound (f : DateField) :
    bindings.properties.find? f.property = some f.column.attr := by
  cases f <;> rfl

theorem column_mem (f : DateField) : f.column ∈ identityClass.columns := by
  cases f <;> decide

/-- A date that was read of a reloaded record is the wall clock that its row holds. -/
theorem cell_of_read {v w : Value} {isRequired : Bool}
    (stored : s.stored? id = some (identityClass, row))
    (read : bindings.read s.reload id f.property isRequired = .ok v)
    (utc : Mapper.asUtc v = .ok w) (given : w ≠ .null) :
    ∃ c, f.column.cellIn row = .moment c ∧ w = .moment ⟨c, some 0⟩ := by
  obtain ⟨q, found, cls, has⟩ := Store.stored?_eq_some_iff.mp stored
  have reloaded : s.reload.record? id = some q.reload := by
    have there : s.records[id]? = some q := found
    rw [Store.record?, Store.reload, List.getElem?_map, there]
    rfl
  have ofClass : q.reload.cls = identityClass := by
    rw [Record.reload, has]
    exact cls
  have plain : q.reload.cls.isPlain f.column.attr = true := by
    rw [ofClass]
    cases f <;> decide
  have value : s.reload.get id f.column.attr = f.column.type.load (f.column.cellIn row) := by
    rw [Store.get_of_plain reloaded plain,
      Record.value_reload (by rw [cls]; exact columns_nodup) has (by rw [cls]; exact column_mem f)]
    rfl
  have loaded : v = ColumnType.timestamp.load (f.column.cellIn row) := by
    have type : f.column.type = .timestamp := by cases f <;> rfl
    rw [Bindings.read, property_bound] at read
    dsimp only at read
    rw [value, type] at read
    split at read
    · cases read
    · cases read
      rfl
  rcases Mapper.asUtc_eq_ok utc with ⟨-, rfl⟩ | ⟨t, rfl, rfl⟩
  · exact absurd rfl given
  · cases cell : f.column.cellIn row with
    | moment c =>
      rw [cell] at loaded
      cases loaded
      exact ⟨c, rfl, rfl⟩
    | _ =>
      rw [cell] at loaded
      cases loaded

/-- The date of a principal that was restored of a reloaded record is the wall clock that its row
holds, read as UTC. -/
theorem restored_date (registered : Registry.withBuiltins bindings resolver = .ok reg)
    (stored : s.stored? id = some (identityClass, row))
    (restored : reg.restore scope s.reload id = .ok e) (given : f.get e ≠ .null) :
    ∃ c, f.column.cellIn row = .moment c ∧ f.get e = .moment ⟨c, some 0⟩ := by
  obtain ⟨m, chosen, byMapper⟩ := bind_eq_ok.mp restored
  obtain ⟨token, -, chosen⟩ := bind_eq_ok.mp chosen
  obtain ⟨kind, -, chosen⟩ := bind_eq_ok.mp chosen
  obtain ⟨v, builtin, -, rfl⟩ := Registry.exists_of_forKind registered chosen
  obtain ⟨kind, bare, enabled, created, expires, d, -, profile, -, ⟨x, readCreated, createdUtc⟩,
    ⟨y, readExpires, expiresUtc⟩, completed, rfl⟩ := Mapper.restore_eq_ok byMapper
  obtain ⟨-, -, eq⟩ := Variant.recoverable_of_complete builtin profile rfl completed
  cases f with
  | created =>
    have isCreated : d.createdDate = created := by rw [eq]
    change d.createdDate ≠ .null at given
    rw [isCreated] at given
    change ∃ c, _ ∧ d.createdDate = _
    rw [isCreated]
    exact cell_of_read (f := .created) stored readCreated createdUtc given
  | expiration =>
    have isExpires : d.expirationDate = expires := by rw [eq]
    change d.expirationDate ≠ .null at given
    rw [isExpires] at given
    change ∃ c, _ ∧ d.expirationDate = _
    rw [isExpires]
    exact cell_of_read (f := .expiration) stored readExpires expiresUtc given

/-! ## What is selected -/

/-- A date parameter becomes a comparison of the column that holds the date. -/
theorem compile_date (overStandard : k.bindings = bindings) (s : Store) (op : Comparison)
    (τ : Time.DateTime) (form : Option Variant.Form) :
    k.compile s (.identity (f.parameter op)) [.moment τ] form =
      .ok [.column f.column (.compare op (.moment τ))] := by
  have made : Test.ofComparison op (.moment τ) = .ok (.compare op (.moment τ)) := by
    cases op <;> rfl
  have compared : k.comparePredicate s f.property op [.moment τ] =
      .ok (.column f.column (.compare op (.moment τ))) :=
    comparePredicate_of_column overStandard (property_bound f) (by cases f <;> rfl)
      (by cases f <;> rfl) made s
  rw [Compiler.compile, DateField.rule_parameter, compared]
  rfl

/-- A date is compared with the wall clock of a value. -/
theorem operand_moment (f : DateField) (τ : Time.DateTime) :
    f.column.operand (.moment τ) = .ok (.moment τ.civil) := by
  cases f <;> rfl

/-- A date parameter selects a record by the wall clocks of its row and of the value. -/
theorem selects_date_iff {op : Comparison} {τ : Time.DateTime} {c : Time.Civil}
    (stored : s.stored? id = some (identityClass, row))
    (held : f.column.cellIn row = .moment c) :
    s.Selects identityClass [.column f.column (.compare op (.moment τ))] id ↔
      op.Orders c.micros τ.civil.micros := by
  rw [Store.selects_compare_iff (operand_moment f τ)]
  constructor
  · rintro ⟨_, row', stored', -, holds⟩
    rw [stored] at stored'
    cases stored'
    rw [held] at holds
    exact Comparison.holds_moment_iff.mp holds
  · intro orders
    refine ⟨_, row, stored, rfl, ?_⟩
    rw [held]
    exact Comparison.holds_moment_iff.mpr orders

/-- Of the records whose reloaded form can be restored, a date parameter selects those whose wall
clock in UTC compares with that of the value as asked for. All parameters on a date compare the
instants exactly if the value is given in UTC, or if the date that is restored lies on the same side
of it as of its wall clock. -/
theorem selected_by_date_iff (registered : Registry.withBuiltins bindings resolver = .ok reg)
    (overStandard : k.bindings = bindings) (stored : s.stored? id = some (identityClass, row))
    (restored : reg.restore scope s.reload id = .ok e) (given : f.get e ≠ .null)
    {τ : Time.DateTime} {offset j : Int} (zone : τ.offset = some offset)
    (instant : τ.instant? = some j) (form : Option Variant.Form) :
    ∃ t i, f.get e = .moment t ∧ t.instant? = some i ∧
      (∀ op : Comparison, ∃ ps,
        k.compile s (.identity (f.parameter op)) [.moment τ] form = .ok ps ∧
          (s.Selects identityClass ps id ↔ op.Orders i (j + offset))) ∧
      ((∀ op : Comparison, ∃ ps,
          k.compile s (.identity (f.parameter op)) [.moment τ] form = .ok ps ∧
            (s.Selects identityClass ps id ↔ (f.get e).Compares op (.moment τ))) ↔
        offset = 0 ∨ i < min j (j + offset) ∨ max j (j + offset) < i) := by
  obtain ⟨c, held, isMoment⟩ := restored_date registered stored restored given
  have utc : (Time.DateTime.mk c (some 0)).instant? = some c.micros := by
    simp [Time.DateTime.instant?]
  have clock : τ.civil.micros = j + offset := by
    rw [Time.DateTime.instant?, zone, Option.map_some, Option.some.injEq] at instant
    omega
  have selects (op : Comparison) :
      s.Selects identityClass [.column f.column (.compare op (.moment τ))] id ↔
        op.Orders c.micros τ.civil.micros := selects_date_iff stored held
  rw [clock] at selects
  have compares (op : Comparison) :
      (f.get e).Compares op (.moment τ) ↔ op.Orders c.micros j := by
    rw [isMoment]
    constructor
    · rintro ⟨t, u, i, j', there, here, tInstant, uInstant, orders⟩
      cases there
      cases here
      rw [utc] at tInstant
      rw [instant] at uInstant
      cases tInstant
      cases uInstant
      exact orders
    · exact fun orders => ⟨_, _, _, _, rfl, rfl, utc, instant, orders⟩
  have zeroOffset : offset = 0 ↔ j + offset = j := by omega
  refine ⟨_, c.micros, isMoment, utc,
    fun op => ⟨_, compile_date overStandard s op τ form, selects op⟩, ?_⟩
  rw [zeroOffset, ← Comparison.orders_agree_iff]
  refine forall_congr' fun op => ?_
  rw [← selects op, ← compares op]
  constructor
  · rintro ⟨ps, compiled, agrees⟩
    rw [compile_date overStandard s op τ form] at compiled
    cases compiled
    exact agrees
  · exact fun agrees => ⟨_, compile_date overStandard s op τ form, agrees⟩

/-- A user created at noon in UTC, stored and restored. -/
theorem exists_stored_at_noon : ∃ reg d id made kept row e,
    Registry.withBuiltins bindings (some .stored) = .ok reg ∧
    Principal.create ⟨.epoch, some 0⟩ .user [("login_name", .text "zoe"),
      ("created_date", .moment ⟨noon, some 0⟩)] = .ok d ∧
    (reg.create none d).outcome (ofRealms []) = (.ok id, made) ∧
    (StoreM.persist [id]).outcome made = (.ok (), kept) ∧
    kept.stored? id = some (identityClass, row) ∧ reg.restore none kept.reload id = .ok e ∧
    e.createdDate = .moment ⟨noon, some 0⟩ :=
  ⟨_, _, _, _, _, _, _, rfl, rfl, rfl, rfl, rfl, rfl, rfl⟩

/-- What is asked of it is noon of a zone three hours ahead. -/
theorem selected_by_date_ahead_of_utc : ∃ reg d id made kept row e,
    Registry.withBuiltins bindings (some .stored) = .ok reg ∧
    Principal.create ⟨.epoch, some 0⟩ .user [("login_name", .text "zoe"),
      ("created_date", .moment ⟨noon, some 0⟩)] = .ok d ∧
    (reg.create none d).outcome (ofRealms []) = (.ok id, made) ∧
    (StoreM.persist [id]).outcome made = (.ok (), kept) ∧
    kept.stored? id = some (identityClass, row) ∧ reg.restore none kept.reload id = .ok e ∧
    ∃ t i, DateField.created.get e = .moment t ∧ t.instant? = some i ∧
      (∀ op : Comparison, ∃ ps,
        Compiler.compile ⟨bindings, false⟩ kept (.identity (DateField.created.parameter op))
          [.moment ⟨noon, some ahead⟩] none = .ok ps ∧
        (kept.Selects identityClass ps id ↔
          op.Orders i (noon.micros - ahead + ahead))) ∧
      ((∀ op : Comparison, ∃ ps,
        Compiler.compile ⟨bindings, false⟩ kept (.identity (DateField.created.parameter op))
          [.moment ⟨noon, some ahead⟩] none = .ok ps ∧
        (kept.Selects identityClass ps id ↔
          (DateField.created.get e).Compares op (.moment ⟨noon, some ahead⟩))) ↔
        ahead = 0 ∨
        i < min (noon.micros - ahead)
          (noon.micros - ahead + ahead) ∨
        max (noon.micros - ahead)
          (noon.micros - ahead + ahead) < i) := by
  obtain ⟨reg, d, id, made, kept, row, e, registered, built, run, done, stored, restored, date⟩ :=
    exists_stored_at_noon
  refine ⟨reg, d, id, made, kept, row, e, registered, built, run, done, stored, restored, ?_⟩
  exact selected_by_date_iff (f := .created) (k := ⟨bindings, false⟩) registered rfl stored restored
    (by rw [DateField.get, date]; exact nofun) rfl rfl none

/-- The user was created three hours after that, but is not found by asking for those created
later. -/
theorem not_selected_ahead_of_utc : ∃ reg d id made kept e ps,
    Registry.withBuiltins bindings (some .stored) = .ok reg ∧
    Principal.create ⟨.epoch, some 0⟩ .user [("login_name", .text "zoe"),
      ("created_date", .moment ⟨noon, some 0⟩)] = .ok d ∧
    (reg.create none d).outcome (ofRealms []) = (.ok id, made) ∧
    (StoreM.persist [id]).outcome made = (.ok (), kept) ∧
    reg.restore none kept.reload id = .ok e ∧
    e.createdDate.Compares .above (.moment ⟨noon, some ahead⟩) ∧
    Compiler.compile ⟨bindings, false⟩ kept (.identity .createdAfter)
      [.moment ⟨noon, some ahead⟩] none = .ok ps ∧
    ¬ kept.Selects identityClass ps id := by
  obtain ⟨reg, d, id, made, kept, row, e, registered, built, run, done, stored, restored, date⟩ :=
    exists_stored_at_noon
  obtain ⟨c, held, isMoment⟩ := restored_date (f := .created) registered stored restored
    (by rw [DateField.get, date]; exact nofun)
  have later : e.createdDate.Compares .above (.moment ⟨noon, some ahead⟩) :=
    ⟨_, _, _, _, date, rfl, rfl, rfl, by change _ < _; decide⟩
  have compiled := compile_date (f := .created) (k := ⟨bindings, false⟩) rfl kept .above
    ⟨noon, some ahead⟩ none
  refine ⟨reg, d, id, made, kept, e, _, registered, built, run, done, restored, later, compiled, ?_⟩
  rw [selects_date_iff stored held]
  cases date.symm.trans isMoment
  exact Int.lt_irrefl _

end Standard

end Principals
