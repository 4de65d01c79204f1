import Principals.Proofs.Query.Dates

/-!
# The sides of a date

A date-time parts the rows that hold a date: each is equal to it, above it or below it, and so is
found by exactly one of the three parameters on that date. A row without the date is found by none.
The later a date-time is stored, the fewer rows lie above it and the more lie below.

Nothing is asked of what a row holds. A cell of another sort lies on one side of all date-times, and
a text is compared with their stored form.

* `Comparison.existsUnique_holds_iff`: cells that have an order compare in exactly one way;
* `Cell.order_moment_cases`: how cells stand to date-times;
* `Standard.sides_of_date`: what the three parameters on a date find.
-/

namespace Principals

/-! ## Comparing -/

namespace Cell

variable {s t : String}

theorem textOrder_lt_iff : textOrder s t = .lt ↔ s < t := by
  unfold textOrder
  by_cases lt : s < t
  · simp [lt]
  · by_cases same : s = t <;> simp [lt, same]

theorem textOrder_gt_iff : textOrder s t = .gt ↔ t < s := by
  unfold textOrder
  by_cases lt : s < t
  · simp [lt, lt.not_gt]
  · by_cases same : s = t
    · simp [same]
    · simp [lt, same, lt_of_le_of_ne (not_lt.mp lt) (Ne.symm same)]

/-- A cell is empty, or it comes before or after all date-times by its sort, or it is compared with
them as a text. -/
theorem order_moment_cases (a : Cell) :
    a = .null ∨ (∀ c, a.order (.moment c) = some .lt) ∨ (∀ c, a.order (.moment c) = some .gt) ∨
      ∃ t, ∀ c, a.order (.moment c) = some (textOrder t c.storedText) := by
  cases a with
  | null => exact .inl rfl
  | integer _ | real _ => exact .inr (.inl fun _ => rfl)
  | blob _ => exact .inr (.inr (.inl fun _ => rfl))
  | text t => exact .inr (.inr (.inr ⟨t, fun _ => rfl⟩))
  | moment c => exact .inr (.inr (.inr ⟨c.storedText, fun c' => Comparison.order_moment c c'⟩))

theorem order_moment_ne_none_iff {a : Cell} {c : Time.Civil} :
    a.order (.moment c) ≠ none ↔ a ≠ .null := by
  constructor
  · rintro ordered rfl
    exact ordered rfl
  · intro present
    rcases a.order_moment_cases with null | before | after | ⟨t, compared⟩
    · exact absurd null present
    · simp [before]
    · simp [after]
    · simp [compared]

end Cell

namespace Comparison

variable {op : Comparison} {a b : Cell} {c c' : Time.Civil}

/-- The comparison that an order passes. -/
def ofOrdering : Ordering → Comparison
  | .eq => equal
  | .gt => above
  | .lt => below

theorem holds_iff_order : op.holds a b = true ↔ ∃ o, a.order b = some o ∧ ofOrdering o = op := by
  cases op <;> cases ordered : a.order b with
  | none => simp [holds, ordered]
  | some o => cases o <;> simp [holds, ordered, ofOrdering]

/-- Two cells compare in exactly one way if they have an order, and in none otherwise. -/
theorem existsUnique_holds_iff : (∃! op : Comparison, op.holds a b = true) ↔ a.order b ≠ none := by
  simp only [holds_iff_order]
  cases ordered : a.order b with
  | none => simp
  | some o =>
    simp only [ne_eq, reduceCtorEq, not_false_eq_true, iff_true]
    exact ⟨ofOrdering o, ⟨o, rfl, rfl⟩, fun op ⟨o', same, is⟩ => by cases same; exact is.symm⟩

/-- A cell above a date-time is above all that are not stored after it. -/
theorem holds_above_of_le (le : c.storedText ≤ c'.storedText)
    (holds : above.holds a (.moment c') = true) : above.holds a (.moment c) = true := by
  simp only [Comparison.holds, beq_iff_eq] at holds ⊢
  rcases a.order_moment_cases with rfl | before | after | ⟨t, compared⟩
  · cases holds
  · rw [before] at holds
    cases holds
  · exact after c
  · rw [compared, Option.some.injEq, Cell.textOrder_gt_iff] at holds ⊢
    exact le.trans_lt holds

/-- A cell below a date-time is below all that are not stored before it. -/
theorem holds_below_of_le (le : c.storedText ≤ c'.storedText)
    (holds : below.holds a (.moment c) = true) : below.holds a (.moment c') = true := by
  simp only [Comparison.holds, beq_iff_eq] at holds ⊢
  rcases a.order_moment_cases with rfl | before | after | ⟨t, compared⟩
  · cases holds
  · exact before c'
  · rw [after] at holds
    cases holds
  · rw [compared, Option.some.injEq, Cell.textOrder_lt_iff] at holds ⊢
    exact holds.trans_le le

end Comparison

/-! ## Finding -/

/-- Whether the predicates of a parameter with some values can be made, and select a record. -/
def Compiler.Finds (k : Compiler) (s : Store) (form : Option Variant.Form) (p : Parameter)
    (values : List Value) (id : RecordId) : Prop :=
  ∃ ps, k.compile s p values form = .ok ps ∧ s.Selects k.bindings.identityClass ps id

/-- A row of a table has what its columns require. -/
theorem Store.cellIn_ne_null_of_admits {cls : RecordClass} {others : List Row} {row : Row}
    {c : Column} (admitted : admits cls others row = true) (among : c ∈ cls.columns)
    (required : c.nullable = false) : c.cellIn row ≠ .null := by
  rw [admits, Bool.and_eq_true, List.all_eq_true] at admitted
  have filled := admitted.1 c among
  rw [required, Bool.false_or, Bool.and_eq_true, bne_iff_ne] at filled
  exact filled.1

namespace Standard

variable {s : Store} {id : RecordId} {row : Row} {others : List Row} {k : Compiler} {f : DateField}
  {op : Comparison} {τ : Time.DateTime} {form : Option Variant.Form}

/-- A parameter on a date finds the records whose cells compare so with the wall clock of its
value. -/
theorem finds_date_iff (overStandard : k.bindings = bindings) :
    k.Finds s form (.identity (f.parameter op)) [.moment τ] id ↔ ∃ cls row,
      s.stored? id = some (cls, row) ∧ cls.name = identityClass.name ∧
        op.holds (f.column.cellIn row) (.moment τ.civil) = true := by
  have compiled := compile_date (f := f) overStandard s op τ form
  have cls : k.bindings.identityClass = identityClass := by
    rw [overStandard]
    rfl
  rw [Compiler.Finds, compiled, cls]
  simp only [Except.ok.injEq, exists_eq_left']
  exact Store.selects_compare_iff (operand_moment f τ)

theorem finds_date_iff_of_stored (overStandard : k.bindings = bindings)
    (stored : s.stored? id = some (identityClass, row)) :
    k.Finds s form (.identity (f.parameter op)) [.moment τ] id ↔
      op.holds (f.column.cellIn row) (.moment τ.civil) = true := by
  rw [finds_date_iff overStandard]
  constructor
  · intro h
    rcases h with ⟨_, row', stored', -, holds⟩
    rw [stored] at stored'
    cases stored'
    exact holds
  · exact fun holds => ⟨_, row, stored, rfl, holds⟩

/-- A record whose row has a date is found by exactly one parameter on that date. -/
theorem existsUnique_finds_date (overStandard : k.bindings = bindings)
    (stored : s.stored? id = some (identityClass, row)) (present : f.column.cellIn row ≠ .null)
    (τ : Time.DateTime) (form : Option Variant.Form) :
    ∃! op : Comparison, k.Finds s form (.identity (f.parameter op)) [.moment τ] id := by
  simp only [finds_date_iff_of_stored overStandard stored]
  exact Comparison.existsUnique_holds_iff.mpr (Cell.order_moment_ne_none_iff.mpr present)

/-- A record whose row has no date is found by no parameter on that date. -/
theorem not_finds_date (overStandard : k.bindings = bindings)
    (stored : s.stored? id = some (identityClass, row)) (absent : f.column.cellIn row = .null) :
    ¬ k.Finds s form (.identity (f.parameter op)) [.moment τ] id := by
  rw [finds_date_iff_of_stored overStandard stored, absent, Comparison.not_holds_of_null]
  exact Bool.false_ne_true

/-- **A date-time has three sides.** The parameters on a date can be asked with every date-time.
Exactly one of those on the creation date finds a row of the table, and so does exactly one of those
on the expiration date if the row has one; otherwise none does. What is found above a date-time is
found above all that are not stored after it, and what is found below it, below all that are not
stored before it. -/
theorem sides_of_date (overStandard : k.bindings = bindings)
    (stored : s.stored? id = some (identityClass, row))
    (admitted : Store.admits identityClass others row = true) (form : Option Variant.Form) :
    (∀ f op τ, ∃ ps, k.compile s (.identity (DateField.parameter f op)) [.moment τ] form = .ok ps) ∧
    (∀ τ, ∃! op, k.Finds s form (.identity (DateField.created.parameter op)) [.moment τ] id) ∧
    (DateField.expiration.column.cellIn row ≠ .null → ∀ τ, ∃! op,
      k.Finds s form (.identity (DateField.expiration.parameter op)) [.moment τ] id) ∧
    (DateField.expiration.column.cellIn row = .null → ∀ τ op,
      ¬ k.Finds s form (.identity (DateField.expiration.parameter op)) [.moment τ] id) ∧
    ∀ (f : DateField) (τ τ' : Time.DateTime), τ.civil.storedText ≤ τ'.civil.storedText → ∀ i,
      (k.Finds s form (.identity (f.parameter .above)) [.moment τ'] i →
        k.Finds s form (.identity (f.parameter .above)) [.moment τ] i) ∧
      (k.Finds s form (.identity (f.parameter .below)) [.moment τ] i →
        k.Finds s form (.identity (f.parameter .below)) [.moment τ'] i) := by
  have created : DateField.created.column.cellIn row ≠ .null :=
    Store.cellIn_ne_null_of_admits admitted (column_mem .created) rfl
  refine ⟨fun f op τ => ⟨_, compile_date overStandard s op τ form⟩, fun τ => ?_, fun given τ => ?_,
    fun absent τ op => not_finds_date overStandard stored absent, fun f τ τ' le i => ⟨?_, ?_⟩⟩
  · exact existsUnique_finds_date overStandard stored created τ form
  · exact existsUnique_finds_date overStandard stored given τ form
  · simp only [finds_date_iff overStandard]
    intro h
    rcases h with ⟨cls, row, stored, named, holds⟩
    exact ⟨cls, row, stored, named, Comparison.holds_above_of_le le holds⟩
  · simp only [finds_date_iff overStandard]
    intro h
    rcases h with ⟨cls, row, stored, named, holds⟩
    exact ⟨cls, row, stored, named, Comparison.holds_below_of_le le holds⟩

/-- A user who was created at noon and expires at noon, stored. -/
theorem exists_expiring_at_noon : ∃ reg d id made kept row,
    Registry.withBuiltins bindings (some .stored) = .ok reg ∧
    Principal.create ⟨.epoch, some 0⟩ .user [("login_name", .text "zoe"),
      ("created_date", .moment ⟨noon, some 0⟩), ("expiration_date", .moment ⟨noon, some 0⟩)] =
        .ok d ∧
    (reg.create none d).outcome (ofRealms []) = (.ok id, made) ∧
    (StoreM.persist [id]).outcome made = (.ok (), kept) ∧
    kept.stored? id = some (identityClass, row) ∧ Store.admits identityClass [] row = true ∧
    DateField.expiration.column.cellIn row = .moment noon :=
  ⟨_, _, _, _, _, _, rfl, rfl, rfl, rfl, rfl, rfl, rfl⟩

/-- It is asked for by noon of a zone three hours ahead. -/
theorem sides_of_noon : ∃ kept id row,
    kept.stored? id = some (identityClass, row) ∧ Store.admits identityClass [] row = true ∧
    DateField.expiration.column.cellIn row = .moment noon ∧
    (∃! op, Compiler.Finds ⟨bindings, false⟩ kept none
      (.identity (DateField.created.parameter op)) [.moment ⟨noon, some ahead⟩] id) ∧
    (∃! op, Compiler.Finds ⟨bindings, false⟩ kept none
      (.identity (DateField.expiration.parameter op)) [.moment ⟨noon, some ahead⟩] id) ∧
    (Compiler.Finds ⟨bindings, false⟩ kept none (.identity .createdBefore)
        [.moment ⟨.epoch, none⟩] id →
      Compiler.Finds ⟨bindings, false⟩ kept none (.identity .createdBefore)
        [.moment ⟨noon, some ahead⟩] id) := by
  obtain ⟨reg, d, id, made, kept, row, registered, built, run, done, stored, admitted, expires⟩ :=
    exists_expiring_at_noon
  obtain ⟨-, created, expiring, -, moved⟩ :=
    sides_of_date (k := ⟨bindings, false⟩) rfl stored admitted none
  have present : DateField.expiration.column.cellIn row ≠ .null := by
    rw [expires]
    exact nofun
  exact ⟨kept, id, row, stored, admitted, expires, created _, expiring present _,
    (moved .created ⟨.epoch, none⟩ ⟨noon, some ahead⟩ (by decide) id).2⟩

end Standard

end Principals
