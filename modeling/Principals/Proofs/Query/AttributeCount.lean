import Mathlib.Algebra.BigOperators.Group.List.Basic
import Mathlib.Algebra.Ring.Nat
import Principals.Proofs.Query.Selects
import Principals.Proofs.Store.Cell
import Principals.Proofs.Schema.Standard
import Principals.Proofs.Value.Distinct
import Principals.Query.Compiler

/-!
# Counting attribute rows

A query for attribute values groups the rows under the name whose value is among those asked for by
their owner, and gives the owners of as many rows as there are values. The rows that refer to an
identity are one such group wherever the columns of owner and identity have one affinity, and then
the identity is selected if it has as many rows as there are values. Repeated values may be made to
count once in the query, but repeated rows are counted each time: the count says whether all values
are there only as long as none of them is there twice.

* `AttributeTest.holds_iff_reaches`: an identity is found by one of the groups that refer to it;
* `AttributeTest.reaches_iff`, `holds_iff`: one group, and the count of an identity's own rows;
* `counted_eq_sum`: the count is the sum of how often each value is there, if the values differ;
* `attributePredicate_eq_ok`: the test that a query for attribute values becomes;
* `Store.selects_attributes_iff`: an identity is selected as the count decides;
* `Store.selects_iff_held`: exactly when that agrees with having all values.
-/

namespace Principals

/-! ## Operands -/

namespace Column

/-- The cell that a value is compared as among the values of a list. -/
def operandAmong (c : Column) (values : List Value) (v : Value) : Except Failure Cell :=
  (c.type.sender (values.headD v) v).map c.type.affinity.apply

theorem operands_eq_map (c : Column) (values : List Value) :
    c.operands values = values.map (c.operandAmong values) := by
  cases values <;> rfl

end Column

/-- A cell that equals what a value is compared as. -/
def Cell.equals (c : Cell) : Except Failure Cell → Bool
  | .ok v => c.same v
  | .error _ => false

theorem anySame_eq_any (c : Cell) (operands : List (Except Failure Cell)) :
    anySame c operands = operands.any c.equals := by
  unfold anySame
  congr 1

/-! ## Groups of rows -/

namespace AttributeTest

variable {t : AttributeTest} {rows : List Row} {row : Row} {identity : Cell}

/-- Whether an attribute row is kept by the subquery and refers to an identity. -/
def counts (t : AttributeTest) (identity : Cell) (row : Row) : Bool :=
  t.refers (t.owner.cellIn row) identity && t.keeps row

/-- The rows that refer to an identity are one group: a row of the same owner as one of them is
another, and they all have the same owner. -/
def OneGroup (t : AttributeTest) (rows : List Row) (identity : Cell) : Prop :=
  ∀ a ∈ rows, t.refers (t.owner.cellIn a) identity = true → ∀ b ∈ rows,
    ((t.owner.cellIn a).same (t.owner.cellIn b) = true ↔
      t.refers (t.owner.cellIn b) identity = true)

/-- Columns of one affinity compare as they group. -/
theorem oneGroup_of_affinity (alike : t.owner.type.affinity = t.identity.type.affinity)
    (rows : List Row) (identity : Cell) : t.OneGroup rows identity := by
  intro a _ refersTo b _
  rw [refers, Cell.sameAcross, if_pos alike] at refersTo ⊢
  rw [Cell.same_congr refersTo, Cell.same_comm]

/-- An owner that the subquery gives is that of a row which it keeps. -/
theorem mem_owners_iff {c : Cell} :
    c ∈ t.owners rows ↔ (∃ a ∈ rows, t.keeps a = true ∧ t.owner.cellIn a = c) ∧
      rows.countP (fun b => c.same (t.owner.cellIn b) && t.keeps b) = t.values.length := by
  rw [owners, List.mem_filter, List.mem_map, List.countP_map, List.countP_filter, beq_iff_eq]
  simp only [List.mem_filter, and_assoc]
  rfl

/-- Whether a row that counts for an identity is in a group of as many rows as there are values. -/
def Reaches (t : AttributeTest) (rows : List Row) (identity : Cell) : Prop :=
  ∃ a ∈ rows, t.counts identity a = true ∧
    rows.countP (fun b => (t.owner.cellIn a).same (t.owner.cellIn b) && t.keeps b) =
      t.values.length

/-- The subquery gives an identity exactly if one of the groups that refer to it is large enough. -/
theorem holds_iff_reaches : t.holds rows row = true ↔ t.Reaches rows (t.identity.cellIn row) := by
  rw [holds, List.any_eq_true]
  constructor
  · intro h
    obtain ⟨c, given, refersTo⟩ := h
    obtain ⟨⟨a, among, kept, rfl⟩, count⟩ := mem_owners_iff.mp given
    exact ⟨a, among, by rw [counts, refersTo, kept, Bool.and_true], count⟩
  · intro h
    obtain ⟨a, among, counted, count⟩ := h
    obtain ⟨refersTo, kept⟩ := Bool.and_eq_true_iff.mp counted
    exact ⟨_, mem_owners_iff.mpr ⟨⟨a, among, kept, rfl⟩, count⟩, refersTo⟩

/-- Where the rows that refer to an identity are one group, it is large enough exactly if as many of
them are kept as there are values. -/
theorem reaches_iff (grouped : t.OneGroup rows identity) :
    t.Reaches rows identity ↔
      t.values.length ≠ 0 ∧ rows.countP (t.counts identity) = t.values.length := by
  have group : ∀ a ∈ rows, t.refers (t.owner.cellIn a) identity = true →
      rows.countP (fun b => (t.owner.cellIn a).same (t.owner.cellIn b) && t.keeps b) =
        rows.countP (t.counts identity) := by
    intro a among refersTo
    refine List.countP_congr fun b isRow => ?_
    rw [counts, Bool.and_eq_true, Bool.and_eq_true, grouped a among refersTo b isRow]
  constructor
  · intro h
    obtain ⟨a, among, counted, count⟩ := h
    rw [group a among (Bool.and_eq_true_iff.mp counted).1] at count
    have some_rows : 0 < rows.countP (t.counts identity) :=
      List.countP_pos_iff.mpr ⟨a, among, counted⟩
    exact ⟨by omega, count⟩
  · intro h
    obtain ⟨some_values, count⟩ := h
    have some_rows : 0 < rows.countP (t.counts identity) := by omega
    obtain ⟨a, among, counted⟩ := List.countP_pos_iff.mp some_rows
    exact ⟨a, among, counted, (group a among (Bool.and_eq_true_iff.mp counted).1).trans count⟩

/-- Where the rows that refer to an identity are one group, the subquery gives the identity exactly
if as many of them are kept as there are values. -/
theorem holds_iff (grouped : t.OneGroup rows (t.identity.cellIn row)) :
    t.holds rows row = true ↔
      t.values.length ≠ 0 ∧
        rows.countP (t.counts (t.identity.cellIn row)) = t.values.length :=
  holds_iff_reaches.trans (reaches_iff grouped)

end AttributeTest

/-! ## Rows and values -/

namespace AttributeTest

variable {t : AttributeTest} {rows : List Row} {identity : Cell}

/-- The attribute rows of an identity under the name. -/
def ownRows (t : AttributeTest) (rows : List Row) (identity : Cell) : List Row :=
  rows.filter fun row => t.refers (t.owner.cellIn row) identity && t.nameTest.holds t.name row

/-- How many of some rows have a value. -/
def times (t : AttributeTest) (own : List Row) (v : Value) : Nat :=
  own.countP fun row => (t.value.cellIn row).equals (t.value.operandAmong t.values v)

/-- How many of some rows have a value among those asked for. -/
def counted (t : AttributeTest) (own : List Row) : Nat :=
  own.countP fun row => (Test.within t.values).holds t.value row

/-- No cell equals two of the values asked for. -/
def Differ (t : AttributeTest) (values : List Value) : Prop :=
  values.Pairwise fun v w => ∀ c : Cell, c.equals (t.value.operandAmong t.values v) = true →
    c.equals (t.value.operandAmong t.values w) = false

theorem countP_counts (t : AttributeTest) (rows : List Row) (identity : Cell) :
    rows.countP (t.counts identity) = t.counted (t.ownRows rows identity) := by
  rw [counted, ownRows, List.countP_filter]
  refine List.countP_congr fun row _ => ?_
  simp only [counts, keeps, Bool.and_eq_true]
  tauto

/-- Where the rows that refer to an identity are one group, its own rows are counted. -/
theorem reaches_iff_counted (asked : t.values ≠ []) (grouped : t.OneGroup rows identity) :
    t.Reaches rows identity ↔ t.counted (t.ownRows rows identity) = t.values.length := by
  rw [reaches_iff grouped, countP_counts]
  exact and_iff_right fun none_asked => asked (List.length_eq_zero_iff.mp none_asked)

/-- Rows that have one of two things, but never both, are counted one by one. -/
theorem countP_or_of_disjoint {α : Type} {p q : α → Bool} {xs : List α}
    (disjoint : ∀ x ∈ xs, p x = true → q x = false) :
    xs.countP (fun x => p x || q x) = xs.countP p + xs.countP q := by
  induction xs with
  | nil => rfl
  | cons x rest ih =>
    have later := ih fun y among => disjoint y (List.mem_cons_of_mem _ among)
    have here := disjoint x List.mem_cons_self
    rw [List.countP_cons, List.countP_cons, List.countP_cons, later]
    cases first : p x with
    | false => simp [Nat.add_assoc]
    | true =>
      rw [first] at here
      simp only [here rfl, Bool.or_false, if_true, Bool.false_eq_true, if_false]
      omega

theorem sum_times (own : List Row) {values : List Value} (differ : t.Differ values) :
    (own.countP fun row => values.any fun v =>
      (t.value.cellIn row).equals (t.value.operandAmong t.values v)) =
      (values.map (t.times own)).sum := by
  induction values with
  | nil => simp
  | cons v rest ih =>
    obtain ⟨first, later⟩ := List.pairwise_cons.mp differ
    simp only [List.any_cons, List.map_cons, List.sum_cons]
    rw [countP_or_of_disjoint, ih later, times]
    intro row _ isFirst
    rw [List.any_eq_false]
    intro w among
    rw [first w among _ isFirst]
    exact Bool.false_ne_true

/-- If the values asked for differ, the rows counted are those of each value taken together. -/
theorem counted_eq_sum (own : List Row) (differ : t.Differ t.values) :
    t.counted own = (t.values.map (t.times own)).sum := by
  rw [← sum_times own differ, counted]
  refine List.countP_congr fun row _ => ?_
  rw [Test.holds, anySame_eq_any, Column.operands_eq_map, List.any_map]
  rfl

/-- Positive numbers add up to how many there are exactly if each is one. -/
theorem sum_eq_length_iff {α : Type} {f : α → Nat} {xs : List α} (positive : ∀ x ∈ xs, f x ≠ 0) :
    (xs.map f).sum = xs.length ↔ ∀ x ∈ xs, f x = 1 := by
  induction xs with
  | nil => simp
  | cons x rest ih =>
    have restPositive : ∀ y ∈ rest, f y ≠ 0 := fun y among =>
      positive y (List.mem_cons_of_mem _ among)
    have enough : rest.length ≤ (rest.map f).sum := by
      have long := List.length_le_sum_of_one_le (rest.map f) fun n among => by
        obtain ⟨y, y_mem, rfl⟩ := List.mem_map.mp among
        exact Nat.one_le_iff_ne_zero.mpr (restPositive y y_mem)
      rwa [List.length_map] at long
    have here := positive x List.mem_cons_self
    rw [List.map_cons, List.sum_cons, List.length_cons, List.forall_mem_cons, ← ih restPositive]
    omega

/-- If the values asked for differ and each is there, as many rows are counted as there are values
exactly if each is there once. -/
theorem counted_eq_length_iff {own : List Row} (differ : t.Differ t.values)
    (held : ∀ v ∈ t.values, t.times own v ≠ 0) :
    t.counted own = t.values.length ↔ ∀ v ∈ t.values, t.times own v = 1 := by
  rw [counted_eq_sum own differ, sum_eq_length_iff held]

end AttributeTest

/-! ## The test that a query becomes -/

namespace Compiler

variable {k : Compiler} {name : Value} {values kept : List Value} {p : Predicate}

/-- A query for attribute values that count once, and of which there are some, becomes a test of the
attribute rows with these values. -/
theorem attributePredicate_eq_ok (distinct : k.distinct = true)
    (once : Value.distinct? values = some kept) (nonempty : kept ≠ [])
    (compiled : k.attributePredicate name values = .ok p) :
    ∃ t, p = .hasAttributes t ∧ t.values = kept ∧ t.cls = k.bindings.attributeClass ∧
      Test.ofComparison .equal name = .ok t.nameTest := by
  have effective : k.effective values = .ok kept := by
    simp only [Compiler.effective, distinct, once, if_true]
  unfold attributePredicate at compiled
  obtain ⟨given, taken, compiled⟩ := bind_eq_ok.mp compiled
  rw [effective] at taken
  cases taken
  have some_kept : kept.isEmpty = false := by simpa using nonempty
  simp only [some_kept, Bool.false_eq_true, if_false] at compiled
  obtain ⟨_, -, compiled⟩ := bind_eq_ok.mp compiled
  obtain ⟨ownerAttr, -, compiled⟩ := bind_eq_ok.mp compiled
  obtain ⟨owner, -, compiled⟩ := bind_eq_ok.mp compiled
  obtain ⟨nameAttr, -, compiled⟩ := bind_eq_ok.mp compiled
  obtain ⟨nameColumn, -, compiled⟩ := bind_eq_ok.mp compiled
  obtain ⟨valueAttr, -, compiled⟩ := bind_eq_ok.mp compiled
  obtain ⟨valueColumn, -, compiled⟩ := bind_eq_ok.mp compiled
  obtain ⟨nameTest, named, compiled⟩ := bind_eq_ok.mp compiled
  obtain ⟨_, -, compiled⟩ := bind_eq_ok.mp compiled
  obtain ⟨identityAttr, -, compiled⟩ := bind_eq_ok.mp compiled
  obtain ⟨identity, -, compiled⟩ := bind_eq_ok.mp compiled
  cases compiled
  exact ⟨_, rfl, rfl, rfl, named⟩

/-- Over the standard schema, every query for attribute values becomes such a test, unless a record
is among the values, and the rows that refer to an identity are always one group. -/
theorem exists_attributePredicate (distinct : k.distinct = true)
    (overStandard : k.bindings = Standard.bindings)
    (once : Value.distinct? values = some kept) (nonempty : kept ≠ [])
    (noRecord : ∀ id, .record id ∉ values) (n : String) :
    ∃ t, k.attributePredicate (.text n) values = .ok (.hasAttributes t) ∧
      ∀ rows identity, t.OneGroup rows identity := by
  have effective : k.effective values = .ok kept := by
    simp only [Compiler.effective, distinct, once, if_true]
  have among := (Value.distinct?_spec once).sublist.subset
  have askable : Test.needValues kept = .ok () := by
    cases kept with
    | nil => rfl
    | cons v rest =>
      cases v with
      | record id => exact absurd (among List.mem_cons_self) (noRecord id)
      | _ => rfl
  have some_kept : kept.isEmpty = false := by simpa using nonempty
  unfold attributePredicate
  rw [effective, ok_bind, some_kept, askable, overStandard]
  exact ⟨_, rfl, AttributeTest.oneGroup_of_affinity rfl⟩

end Compiler

/-! ## The identities that are selected -/

namespace AttributeTest

variable {t : AttributeTest} {n : String} {values : List Value}

/-- Texts are compared as themselves in a text column. -/
theorem operandAmong_text (column : t.value.type = .text)
    (texts : ∀ v ∈ values, ∃ s, v = .text s) (s : String) :
    t.value.operandAmong values (.text s) = .ok (.text s) := by
  obtain ⟨first, isText⟩ : ∃ first, values.headD (.text s) = .text first := by
    cases values with
    | nil => exact ⟨s, rfl⟩
    | cons v rest => exact texts v List.mem_cons_self
  rw [Column.operandAmong, isText, column]
  rfl

/-- Different texts differ as compared in a text column. -/
theorem differ_of_texts (column : t.value.type = .text)
    (texts : ∀ v ∈ t.values, ∃ s, v = .text s)
    (apart : t.values.Pairwise fun v w => v.key? ≠ w.key?) : t.Differ t.values := by
  refine apart.imp_of_mem fun {v w} v_mem w_mem ne c same => ?_
  obtain ⟨x, rfl⟩ := texts v v_mem
  obtain ⟨y, rfl⟩ := texts w w_mem
  rw [operandAmong_text column texts] at same ⊢
  have isFirst : c.text? = some x := Cell.same_text_iff.mp same
  have notSecond : ¬ c.same (.text y) = true := by
    rw [Cell.same_text_iff, isFirst]
    rintro ⟨⟩
    exact ne rfl
  exact Bool.eq_false_of_not_eq_true notSecond

/-- Of different texts in a text column, as many rows are counted as there are texts exactly if each
text that was asked for is there once. -/
theorem counted_eq_length_iff_of_texts {kept : List Value} {own : List Row}
    (column : t.value.type = .text) (once : Value.distinct? values = some kept)
    (given : t.values = kept) (texts : ∀ v ∈ values, ∃ s, v = .text s)
    (held : ∀ v ∈ values, t.times own v ≠ 0) :
    t.counted own = kept.length ↔ ∀ v ∈ values, t.times own v = 1 := by
  have same_values : ∀ v, v ∈ t.values ↔ v ∈ values := by
    intro v
    rw [given]
    exact Value.mem_distinct?_texts texts once
  have differ : t.Differ t.values :=
    differ_of_texts column (fun v among => texts v ((same_values v).mp among))
      (given ▸ (Value.distinct?_spec once).apart)
  rw [← given, counted_eq_length_iff differ fun v among => held v ((same_values v).mp among)]
  exact forall_congr' fun v => by rw [same_values v]

/-- Of texts in a text column, the count tells whether all of them are there exactly if each is there
once, or one is missing and repeated rows do not make up for it. -/
theorem count_agrees_iff_of_texts {kept : List Value} {own : List Row}
    (column : t.value.type = .text) (once : Value.distinct? values = some kept)
    (given : t.values = kept) (texts : ∀ v ∈ values, ∃ s, v = .text s) :
    (t.counted own = kept.length ↔ ∀ v ∈ values, t.times own v ≠ 0) ↔
      (∀ v ∈ values, t.times own v = 1) ∨
        (¬ ∀ v ∈ values, t.times own v ≠ 0) ∧ t.counted own ≠ kept.length := by
  have exact_count (held : ∀ v ∈ values, t.times own v ≠ 0) :=
    counted_eq_length_iff_of_texts column once given texts held
  constructor
  · intro agrees
    by_cases held : ∀ v ∈ values, t.times own v ≠ 0
    · exact .inl ((exact_count held).mp (agrees.mpr held))
    · exact .inr ⟨held, fun count => held (agrees.mp count)⟩
  · intro h
    rcases h with each | ⟨lacking, count⟩
    · have held : ∀ v ∈ values, t.times own v ≠ 0 := by
        intro v among
        rw [each v among]
        exact Nat.one_ne_zero
      exact ⟨fun _ => held, fun _ => (exact_count held).mpr each⟩
    · exact ⟨fun enough => absurd enough count, fun held => absurd held lacking⟩

/-- The values of a test can be sent if those asked for can. -/
theorem sendable_iff (named : t.nameTest = .compare .equal (.text n)) :
    Store.Sendable [.hasAttributes t] ↔
      ∀ v ∈ t.values, ∃ c, t.value.operandAmong t.values v = .ok c := by
  have name : ∃ c, t.name.operand (.text n) = .ok c := by
    rw [Column.operand]
    exact ⟨_, rfl⟩
  simp only [Store.Sendable, List.mem_singleton, forall_eq, Predicate.sent, named,
    List.cons_append, List.nil_append, List.forall_mem_cons, name, true_and,
    Column.operands_eq_map, List.forall_mem_map]

/-- A value that some row has can be sent. -/
theorem sendable_of_held {own : List Row} (named : t.nameTest = .compare .equal (.text n))
    (held : ∀ v ∈ t.values, t.times own v ≠ 0) : Store.Sendable [.hasAttributes t] := by
  rw [sendable_iff named]
  intro v among
  obtain ⟨row, -, same⟩ := List.countP_pos_iff.mp (Nat.pos_of_ne_zero (held v among))
  cases operand : t.value.operandAmong t.values v with
  | error e =>
    rw [operand] at same
    cases same
  | ok c => exact ⟨c, rfl⟩

/-- Texts can be sent to a text column. -/
theorem sendable_of_texts (named : t.nameTest = .compare .equal (.text n))
    (column : t.value.type = .text) (texts : ∀ v ∈ t.values, ∃ s, v = .text s) :
    Store.Sendable [.hasAttributes t] := by
  rw [sendable_iff named]
  intro v among
  obtain ⟨s, rfl⟩ := texts v among
  exact ⟨_, operandAmong_text column texts s⟩

end AttributeTest

namespace Store

variable {s : Store} {id : RecordId} {cls : RecordClass} {row : Row} {t : AttributeTest}
  {n : String} {k : Compiler} {values kept : List Value}

/-- An identity is selected if the values can be sent and a group that refers to it is as large. -/
theorem selects_attributes_iff (stored : s.stored? id = some (cls, row))
    (ofIdentities : cls.name = k.bindings.identityClass.name) :
    s.Selects k.bindings.identityClass [.hasAttributes t] id ↔
      Sendable [.hasAttributes t] ∧
        t.Reaches (s.rowsOf t.cls.name) (t.identity.cellIn row) := by
  have possible : ∀ p ∈ [Predicate.hasAttributes t], p ≠ .never := by simp
  rw [selects_iff possible stored ofIdentities]
  simp only [List.mem_singleton, forall_eq, Predicate.holds, AttributeTest.holds_iff_reaches]

/-- **When counting finds what it should.** With repeated values counted once, a query for some
values under a name becomes a test of the attribute rows, over the standard schema always. An
identity is then selected exactly if it has every value asked for, provided that the groups agree:
where all values are there, one that refers to it must be as large as there are values, and where one
is missing none must be. The rows that refer to an identity may be one group, as they always are over
the standard schema. Then it is their own count that must agree; of texts this says that each is
there exactly once, or that one is missing and repeated rows do not make up for it. -/
theorem selects_iff_held (distinct : k.distinct = true)
    (once : Value.distinct? values = some kept) (nonempty : kept ≠ [])
    (stored : s.stored? id = some (cls, row))
    (ofIdentities : cls.name = k.bindings.identityClass.name) :
    (k.bindings = Standard.bindings → (∀ id, .record id ∉ values) →
      ∃ t, k.attributePredicate (.text n) values = .ok (.hasAttributes t) ∧
        ∀ rows identity, t.OneGroup rows identity) ∧
    ∀ t, k.attributePredicate (.text n) values = .ok (.hasAttributes t) →
      let rows := s.rowsOf t.cls.name
      let own := t.ownRows rows (t.identity.cellIn row)
      let reached := t.Reaches rows (t.identity.cellIn row)
      let selected := s.Selects k.bindings.identityClass [.hasAttributes t] id
      ((selected ↔ ∀ v ∈ values, t.times own v ≠ 0) ↔
        ((∀ v ∈ values, t.times own v ≠ 0) → reached) ∧
        ((∃ v ∈ values, t.times own v = 0) →
          ¬ (Sendable [.hasAttributes t] ∧ reached))) ∧
      (t.OneGroup rows (t.identity.cellIn row) →
        (reached ↔ t.counted own = kept.length) ∧
        (t.value.type = .text → (∀ v ∈ values, ∃ s, v = .text s) →
          ((selected ↔ ∀ v ∈ values, t.times own v ≠ 0) ↔
            (∀ v ∈ values, t.times own v = 1) ∨
              (∃ v ∈ values, t.times own v = 0) ∧ t.counted own ≠ kept.length))) := by
  refine ⟨fun overStandard noRecord =>
    Compiler.exists_attributePredicate distinct overStandard once nonempty noRecord n, ?_⟩
  intro t compiled rows own reached selected
  obtain ⟨t', isTest, given, -, named⟩ :=
    Compiler.attributePredicate_eq_ok distinct once nonempty compiled
  cases isTest
  have named : t.nameTest = .compare .equal (.text n) := (Except.ok.inj named).symm
  have asked : t.values ≠ [] := given ▸ nonempty
  have decided : selected ↔ Sendable [.hasAttributes t] ∧ reached :=
    selects_attributes_iff stored ofIdentities
  have missing : (∃ v ∈ values, t.times own v = 0) ↔ ¬ ∀ v ∈ values, t.times own v ≠ 0 := by
    simp
  have counts (grouped : t.OneGroup rows (t.identity.cellIn row)) :
      reached ↔ t.counted own = kept.length := by
    rw [← given]
    exact AttributeTest.reaches_iff_counted asked grouped
  rw [decided, missing]
  refine ⟨?_, fun grouped => ⟨counts grouped, fun column texts => ?_⟩⟩
  · constructor
    · intro agrees
      exact ⟨fun held => (agrees.mpr held).2, fun lacking both => lacking (agrees.mp both)⟩
    · intro h
      rcases h with ⟨enough, excess⟩
      have sendable : (∀ v ∈ values, t.times own v ≠ 0) → Sendable [.hasAttributes t] :=
        fun held => AttributeTest.sendable_of_held named fun v among =>
          held v ((Value.distinct?_spec once).sublist.subset (given ▸ among))
      exact ⟨fun both => by_contra fun lacking => excess lacking both,
        fun held => ⟨sendable held, enough held⟩⟩
  · have sent : Sendable [.hasAttributes t] :=
      AttributeTest.sendable_of_texts named column fun v among =>
        texts v ((Value.distinct?_spec once).sublist.subset (given ▸ among))
    rw [counts grouped, and_iff_right sent]
    exact AttributeTest.count_agrees_iff_of_texts column once given texts

/-- A standard store with one identity, whose attribute rows have one name and the given values. -/
def withAttributes (name : String) (values : List String) : Store where
  catalog := Standard.catalog
  records := .ofRow Standard.identityClass ⟨[("id", .integer 1)]⟩ ::
    values.zipIdx.map fun (v, i) => .ofRow Standard.attributeClass
      ⟨[("id", .integer i), ("identity_id", .integer 1), ("name", .text name), ("value", .text v)]⟩

/-- The compiler over the standard schema, with repeated values counted once. -/
def standardCompiler : Compiler := ⟨Standard.bindings, true⟩

/-- The test that a query for some different values becomes over the standard schema. -/
def standardTest (name : String) (values : List Value) : AttributeTest where
  identity := (Standard.identityClass.column? "id").getD default
  cls := Standard.attributeClass
  owner := (Standard.attributeClass.column? "identity_id").getD default
  name := (Standard.attributeClass.column? "name").getD default
  value := (Standard.attributeClass.column? "value").getD default
  nameTest := .compare .equal (.text name)
  values

/-- An identity that has both values once is found. -/
theorem selects_iff_held_once :
    (withAttributes "role" ["b", "a", "c"]).Selects Standard.identityClass
        [.hasAttributes (standardTest "role" [.text "a", .text "b"])] 0 ↔
      ∀ v ∈ [Value.text "a", .text "b", .text "a"],
        (standardTest "role" [.text "a", .text "b"]).times
          ((standardTest "role" [.text "a", .text "b"]).ownRows
            ((withAttributes "role" ["b", "a", "c"]).rowsOf Standard.attributeClass.name)
            (.integer 1)) v ≠ 0 := by
  have compiled : standardCompiler.attributePredicate (.text "role")
      [.text "a", .text "b", .text "a"] =
      .ok (.hasAttributes (standardTest "role" [.text "a", .text "b"])) := rfl
  have stored : (withAttributes "role" ["b", "a", "c"]).stored? 0 =
      some (Standard.identityClass, ⟨[("id", .integer 1)]⟩) := rfl
  have exactly := (((selects_iff_held rfl rfl (by decide) stored rfl).2 _ compiled).2
    (AttributeTest.oneGroup_of_affinity rfl _ _)).2 rfl (by simp)
  exact exactly.mpr (.inl (by decide))

/-- Repeated rows upset the count: an identity that has the one value asked for twice is not found,
and it is found when another value is asked for with it that it does not have. -/
theorem selects_ne_held_of_repeated :
    (standardCompiler.attributePredicate (.text "role") [.text "a"] =
        .ok (.hasAttributes (standardTest "role" [.text "a"])) ∧
      ¬ ((withAttributes "role" ["a", "a"]).Selects Standard.identityClass
          [.hasAttributes (standardTest "role" [.text "a"])] 0 ↔
        ∀ v ∈ [Value.text "a"], (standardTest "role" [.text "a"]).times
          ((standardTest "role" [.text "a"]).ownRows
            ((withAttributes "role" ["a", "a"]).rowsOf Standard.attributeClass.name)
            (.integer 1)) v ≠ 0)) ∧
    standardCompiler.attributePredicate (.text "role") [.text "a", .text "b"] =
        .ok (.hasAttributes (standardTest "role" [.text "a", .text "b"])) ∧
      ¬ ((withAttributes "role" ["a", "a"]).Selects Standard.identityClass
          [.hasAttributes (standardTest "role" [.text "a", .text "b"])] 0 ↔
        ∀ v ∈ [Value.text "a", .text "b"], (standardTest "role" [.text "a", .text "b"]).times
          ((standardTest "role" [.text "a", .text "b"]).ownRows
            ((withAttributes "role" ["a", "a"]).rowsOf Standard.attributeClass.name)
            (.integer 1)) v ≠ 0) := by
  refine ⟨⟨rfl, fun agrees => ?_⟩, rfl, fun agrees => ?_⟩
  · obtain ⟨ids, selected, among⟩ := agrees.mpr (by decide)
    cases selected
    cases among
  · exact absurd (agrees.mp ⟨[0], rfl, List.mem_singleton_self 0⟩) (by decide)

end Store

end Principals
