import Mathlib.Algebra.Order.Ring.Rat
import Mathlib.Tactic.FieldSimp
import Principals.Store.Cell

/-!
# What columns keep

Equality of cells is equality of what they stand for, number with number and text with text. A
column that takes a text, a truth value or a date-time gives it back, but a date-time without its
zone.

* `Cell.same_iff_content`: cells are equal as what they stand for is, so that equality of cells is
  symmetric and transitive (`Cell.same_comm`, `Cell.same_congr`);
* `Cell.same_integer_iff`, `Cell.same_text_iff`: equal cells;
* `ColumnType.text?_of_store_text`: what a text column holds;
* `ColumnType.Keeps`: what a column gives back.
-/

namespace Principals

/-! ## What cells stand for -/

namespace Decimal

/-- A number that a double may stand for. -/
inductive Number
  | finite (q : ℚ)
  | infinite (negative : Bool)

namespace Double

variable {x y : Double} {n : Int}

/-- The number that a double stands for; none if it is undefined. -/
def number? (x : Double) : Option Number :=
  match x.reading with
  | .undefined => none
  | .infinite negative => some (.infinite negative)
  | .finite .. => x.fraction?.map fun (num, den) => .finite (num / den)

theorem ratio_pos (m : Nat) (e : Int) : 0 < (ratio m e).2 := by
  unfold ratio
  split
  · exact Nat.one_pos
  · exact Nat.pow_pos Nat.two_pos

/-- A finite double is a fraction with a positive denominator. -/
theorem exists_fraction {negative : Bool} {m : Nat} {e : Int}
    (finite : x.reading = .finite negative m e) : ∃ a b, x.fraction? = some (a, b) ∧ 0 < b := by
  unfold fraction?
  rw [finite]
  exact ⟨_, _, rfl, ratio_pos m e⟩

/-- Two fractions are equal across exactly if they are one number. -/
theorem cross_eq_iff {a c : Int} {b d : Nat} (hb : 0 < b) (hd : 0 < d) :
    a * d = c * b ↔ (a / b : ℚ) = c / d := by
  have nonzero : (b : ℚ) ≠ 0 := Nat.cast_ne_zero.mpr hb.ne'
  have nonzero' : (d : ℚ) ≠ 0 := Nat.cast_ne_zero.mpr hd.ne'
  rw [div_eq_div_iff nonzero nonzero']
  exact_mod_cast Iff.rfl

/-- Doubles compare as equal exactly if they stand for the same number. -/
theorem compare?_eq_some_eq_iff :
    compare? x y = some .eq ↔ ∃ q, x.number? = some q ∧ y.number? = some q := by
  unfold compare? number?
  cases first : x.reading with
  | undefined => simp
  | infinite a =>
    cases second : y.reading with
    | undefined => simp
    | infinite b => cases a <;> cases b <;> simp
    | finite =>
      obtain ⟨c, d, fraction, -⟩ := exists_fraction second
      cases a <;> simp [fraction]
  | finite =>
    obtain ⟨a, b, fraction, hb⟩ := exists_fraction first
    cases second : y.reading with
    | undefined => simp
    | infinite c => cases c <;> simp [fraction]
    | finite =>
      obtain ⟨c, d, fraction', hd⟩ := exists_fraction second
      simp only [fraction, fraction', Option.map_some, Option.some.injEq, compare_eq_iff_eq,
        cross_eq_iff hb hd, exists_eq_left', Number.finite.injEq]
      exact eq_comm

/-- An integer compares as equal to a double exactly if the double stands for it. -/
theorem compareInt?_eq_some_eq_iff :
    compareInt? n x = some .eq ↔ x.number? = some (.finite n) := by
  unfold compareInt? number?
  cases reads : x.reading with
  | undefined => simp
  | infinite a => cases a <;> simp
  | finite =>
    obtain ⟨a, b, fraction, hb⟩ := exists_fraction reads
    have across := cross_eq_iff (a := n) (c := a) Nat.one_pos hb
    rw [Nat.cast_one, Nat.cast_one, mul_one, div_one] at across
    simp only [fraction, Option.map_some, Option.some.injEq, compare_eq_iff_eq,
      Number.finite.injEq, across]
    exact eq_comm

end Double

end Decimal

namespace Cell

variable {a b : Cell}

/-- What a cell that is not empty stands for: a number, a text or bytes. -/
inductive Content
  | number (n : Decimal.Number)
  | text (s : String)
  | blob (b : List UInt8)

/-- What a cell stands for; none if it is empty or undefined. -/
def content? : Cell → Option Content
  | .null => none
  | .integer n => some (.number (.finite n))
  | .real x => x.number?.map .number
  | .text s => some (.text s)
  | .moment c => some (.text c.storedText)
  | .blob b => some (.blob b)

theorem blobOrder_eq_iff {x y : List UInt8} : blobOrder x y = .eq ↔ x = y := by
  induction x generalizing y with
  | nil => cases y <;> simp [blobOrder]
  | cons a x ih =>
    cases y with
    | nil => simp [blobOrder]
    | cons b y =>
      rw [blobOrder, List.cons.injEq]
      split
      · next less => simp [UInt8.ne_of_lt less]
      · next notLess =>
        split
        · next more => simp [(UInt8.ne_of_lt more).symm]
        · next notMore =>
          have equal : a = b := UInt8.le_antisymm (UInt8.not_lt.mp notMore) (UInt8.not_lt.mp notLess)
          rw [ih, and_iff_right equal]

/-- Cells are equal exactly if they stand for the same. -/
theorem same_iff_content : a.same b = true ↔ ∃ x, a.content? = some x ∧ b.content? = some x := by
  cases a <;> cases b <;>
    simp [same, order, rank?, text?, numberOrder?, content?, textOrder_eq_iff, blobOrder_eq_iff,
      Decimal.Double.compareInt?_eq_some_eq_iff, Decimal.Double.compare?_eq_some_eq_iff]
  all_goals exact eq_comm

theorem same_comm (a b : Cell) : a.same b = b.same a := by
  rw [Bool.eq_iff_iff, same_iff_content, same_iff_content]
  exact exists_congr fun x => and_comm

/-- Equal cells are equal to the same cells. -/
theorem same_congr (equal : a.same b = true) (c : Cell) : a.same c = b.same c := by
  obtain ⟨x, first, second⟩ := same_iff_content.mp equal
  rw [Bool.eq_iff_iff, same_iff_content, same_iff_content, first, second]

end Cell

/-! ## Equal cells -/

namespace Cell

theorem same_integer_iff {m n : Int} : (Cell.integer m).same (.integer n) = true ↔ m = n := by
  simp [same, order, rank?, text?, numberOrder?]

theorem same_text_iff {c : Cell} {s : String} : c.same (.text s) = true ↔ c.text? = some s := by
  cases c <;> simp [same, order, rank?, text?, textOrder_eq_iff]

/-- A value is never sent as the date-time that it may be. -/
theorem ofPlain_ne_moment (v : Value) (c : Time.Civil) : ofPlain v ≠ .ok (.moment c) := by
  cases v with
  | int n =>
    rw [ofPlain]
    split <;> nofun
  | float x =>
    rw [ofPlain]
    split <;> nofun
  | _ => nofun

end Cell

/-- What a text column holds compares as a text only if it is that text. -/
theorem ColumnType.text?_of_store_text {v : Value} {cell : Cell} (stores : text.store v = .ok cell)
    (s : String) : cell.text? = some s ↔ cell = .text s := by
  cases cell with
  | moment c =>
    have sent : (Cell.ofPlain v).map (Affinity.apply .text) = .ok (.moment c) := stores
    cases plain : Cell.ofPlain v with
    | error e =>
      rw [plain] at sent
      cases sent
    | ok c' =>
      rw [plain] at sent
      cases c' with
      | moment c' => exact absurd plain (Cell.ofPlain_ne_moment v c')
      | _ => cases sent
  | _ => simp [Cell.text?]

/-! ## Values that come back -/

/-- A value without the zone that a date-time may have. -/
def Value.unzoned : Value → Value
  | .moment t => .moment ⟨t.civil, none⟩
  | v => v

theorem Value.unzoned_ofText? (t : Option String) :
    (Value.ofText? t).unzoned = .ofText? t := by
  cases t <;> rfl

theorem Value.ofText?_injective {s t : Option String}
    (same : Value.ofText? s = .ofText? t) : s = t := by
  cases s <;> cases t <;> cases same <;> rfl

namespace ColumnType

/-- A column of the type takes the value and gives it back, but for a zone; an empty cell stands for
no value only. -/
def Keeps (t : ColumnType) (v : Value) : Prop :=
  ∃ cell, t.store v = .ok cell ∧ t.load cell = v.unzoned ∧ (cell = .null → v = .null)

theorem store_null (t : ColumnType) : t.store .null = .ok .null := by cases t <;> rfl

theorem keeps_null (t : ColumnType) : t.Keeps .null :=
  ⟨.null, store_null t, by cases t <;> rfl, fun _ => rfl⟩

theorem keeps_text (s : String) : text.Keeps (.text s) := ⟨.text s, rfl, rfl, nofun⟩

theorem keeps_ofText? (t : Option String) : text.Keeps (.ofText? t) := by
  cases t with
  | none => exact keeps_null text
  | some s => exact keeps_text s

theorem keeps_bool (b : Bool) : boolean.Keeps (.bool b) := by
  cases b <;> exact ⟨_, rfl, rfl, nofun⟩

theorem keeps_moment (d : Time.DateTime) : timestamp.Keeps (.moment d) :=
  ⟨.moment d.civil, rfl, rfl, nofun⟩

end ColumnType

end Principals
