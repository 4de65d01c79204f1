import Mathlib.Data.String.Basic
import Principals.Time.Civil

/-!
# The order of stored date-times

A column compares date-times as the texts that it holds. Those have the parts of a date-time from the
greatest to the smallest, each with zeros in front up to a fixed width, so that two of them stand in
the order in which their parts do, one after the other; and that is the order of the wall clocks.

* `Civil.padded_append_lt_iff`: numbers of one width in front of texts;
* `Civil.micros_lt_of_parts_lt`: an earlier part outweighs all that follow;
* `Civil.storedText_lt_iff`, `Civil.storedText_inj`: texts in the order of wall clocks.
-/

namespace Principals.Time.Civil

/-! ## Digits -/

theorem digitChar_lt_iff {m n : Nat} (m_lt : m < 10) (n_lt : n < 10) :
    Nat.digitChar m < Nat.digitChar n ↔ m < n := by
  have digits : ∀ m < 10, ∀ n < 10, (Nat.digitChar m < Nat.digitChar n ↔ m < n) := by decide
  exact digits m m_lt n n_lt

theorem digitChar_inj {m n : Nat} (m_lt : m < 10) (n_lt : n < 10) :
    Nat.digitChar m = Nat.digitChar n ↔ m = n := by
  have digits : ∀ m < 10, ∀ n < 10, (Nat.digitChar m = Nat.digitChar n ↔ m = n) := by decide
  exact digits m m_lt n n_lt

theorem padded_one {n : Nat} (fits : n < 10) : padded 1 n = [Nat.digitChar n] := by
  simp [padded, Nat.toDigits_of_lt_base fits]

/-- One more digit goes to the end. -/
theorem padded_succ (width n : Nat) : padded (width + 2) n =
    padded (width + 1) (n / 10) ++ [Nat.digitChar (n % 10)] := by
  by_cases small : n < 10
  · have none_left : n / 10 = 0 := by omega
    have digit : n % 10 = n := by omega
    rw [none_left, digit, padded, padded, Nat.toDigits_of_lt_base small]
    simp [List.replicate_succ']
  · have digits := Nat.toDigits_of_base_le (b := 10) (n := n) (by decide) (by omega)
    have shorter : width + 2 - ((Nat.toDigits 10 (n / 10)).length + 1) =
        width + 1 - (Nat.toDigits 10 (n / 10)).length := by omega
    simp only [padded, digits, List.length_append, List.length_singleton, shorter,
      List.append_assoc]

/-- Numbers of one width, with texts after them, stand in the order of the numbers, and where they
are equal in that of the texts. -/
theorem padded_append_lt_iff {width m n : Nat} {cs ds : List Char} (m_fits : m < 10 ^ (width + 1))
    (n_fits : n < 10 ^ (width + 1)) :
    padded (width + 1) m ++ cs < padded (width + 1) n ++ ds ↔ m < n ∨ m = n ∧ cs < ds := by
  induction width generalizing m n cs ds with
  | zero =>
    rw [Nat.zero_add, Nat.pow_one] at m_fits n_fits
    rw [padded_one m_fits, padded_one n_fits, List.singleton_append, List.singleton_append,
      List.cons_lt_cons_iff, digitChar_lt_iff m_fits n_fits, digitChar_inj m_fits n_fits]
  | succ width ih =>
    have m_front : m / 10 < 10 ^ (width + 1) := by
      rw [Nat.pow_succ] at m_fits
      omega
    have n_front : n / 10 < 10 ^ (width + 1) := by
      rw [Nat.pow_succ] at n_fits
      omega
    rw [padded_succ, padded_succ, List.append_assoc, List.append_assoc, ih m_front n_front,
      List.singleton_append, List.singleton_append, List.cons_lt_cons_iff,
      digitChar_lt_iff (Nat.mod_lt m (by decide)) (Nat.mod_lt n (by decide)),
      digitChar_inj (Nat.mod_lt m (by decide)) (Nat.mod_lt n (by decide))]
    have before : m < n ↔ m / 10 < n / 10 ∨ m / 10 = n / 10 ∧ m % 10 < n % 10 := by omega
    have same : m = n ↔ m / 10 = n / 10 ∧ m % 10 = n % 10 := by omega
    rw [before, same]
    tauto

/-- Then the numbers can be taken as the first of a list of parts that the texts spell. -/
theorem padded_append_lt_cons_iff {width m n : Nat} {cs ds : List Char} {ms ns : List Nat}
    (separator : Char) (m_fits : m < 10 ^ (width + 1)) (n_fits : n < 10 ^ (width + 1))
    (rest : cs < ds ↔ ms < ns) :
    padded (width + 1) m ++ separator :: cs < padded (width + 1) n ++ separator :: ds ↔
      m :: ms < n :: ns := by
  rw [padded_append_lt_iff m_fits n_fits, List.cons_lt_cons_iff, List.cons_lt_cons_iff, ← rest]
  simp only [Char.lt_irrefl, false_or, true_and]

/-! ## Parts -/

variable {c c' : Civil}

/-- The parts of a civil time from the greatest to the smallest. -/
def parts (c : Civil) : List Nat :=
  [c.year, c.month, c.day, c.hour, c.minute, c.second, c.micro]

theorem day_le_31 (c : Civil) : c.day ≤ 31 := by
  have most : daysInMonth c.year c.month ≤ 31 := by
    unfold daysInMonth
    split <;> try omega
    split <;> omega
  exact c.day_le.trans most

theorem storedChars_eq (c : Civil) : c.storedChars =
    padded 4 c.year ++ '-' :: (padded 2 c.month ++ '-' :: (padded 2 c.day ++ ' ' ::
      (padded 2 c.hour ++ ':' :: (padded 2 c.minute ++ ':' :: (padded 2 c.second ++ '.' ::
        padded 6 c.micro))))) := by
  simp only [storedChars, dateChars, clockChars, List.append_assoc, List.cons_append]

/-- Stored date-times stand in the order of their parts. -/
theorem storedChars_lt_iff (c c' : Civil) : c.storedChars < c'.storedChars ↔ c.parts < c'.parts := by
  have two_digits : ∀ n ≤ 99, n < 10 ^ (1 + 1) := by omega
  have year (c : Civil) : c.year < 10 ^ (3 + 1) := by
    have := c.year_le
    omega
  have month (c : Civil) := two_digits c.month (c.month_le.trans (by decide))
  have day (c : Civil) := two_digits c.day (c.day_le_31.trans (by decide))
  have hour (c : Civil) := two_digits c.hour (c.hour_lt.le.trans (by decide))
  have minute (c : Civil) := two_digits c.minute (c.minute_lt.le.trans (by decide))
  have second (c : Civil) := two_digits c.second (c.second_lt.le.trans (by decide))
  have micro : padded 6 c.micro < padded 6 c'.micro ↔ [c.micro] < [c'.micro] := by
    rw [← List.append_nil (padded 6 c.micro), ← List.append_nil (padded 6 c'.micro),
      padded_append_lt_iff c.micro_lt c'.micro_lt, List.cons_lt_cons_iff]
    simp
  rw [storedChars_eq, storedChars_eq]
  exact padded_append_lt_cons_iff '-' (year c) (year c') <|
    padded_append_lt_cons_iff '-' (month c) (month c') <|
    padded_append_lt_cons_iff ' ' (day c) (day c') <|
    padded_append_lt_cons_iff ':' (hour c) (hour c') <|
    padded_append_lt_cons_iff ':' (minute c) (minute c') <|
    padded_append_lt_cons_iff '.' (second c) (second c') micro

/-! ## Wall clocks -/

/-- The days of a year. -/
def daysInYear (year : Nat) : Nat := 365 + if isLeap year then 1 else 0

theorem daysBeforeYear_succ {year : Nat} (year_pos : 1 ≤ year) :
    daysBeforeYear (year + 1) = daysBeforeYear year + daysInYear year := by
  obtain ⟨y, rfl⟩ : ∃ y, year = y + 1 := ⟨year - 1, by omega⟩
  have by4 : (y + 1) / 4 = y / 4 + if (y + 1) % 4 = 0 then 1 else 0 := by split <;> omega
  have by100 : (y + 1) / 100 = y / 100 + if (y + 1) % 100 = 0 then 1 else 0 := by split <;> omega
  have by400 : (y + 1) / 400 = y / 400 + if (y + 1) % 400 = 0 then 1 else 0 := by split <;> omega
  have centuries : (y + 1) % 100 = 0 → (y + 1) % 4 = 0 := by omega
  have fourths : (y + 1) % 400 = 0 → (y + 1) % 100 = 0 := by omega
  have fewer : y / 100 ≤ y / 4 := by omega
  simp only [daysBeforeYear, daysInYear, isLeap, Nat.add_sub_cancel, by4, by100, by400]
  clear by4 by100 by400
  by_cases four : (y + 1) % 4 = 0
  · by_cases hundred : (y + 1) % 100 = 0
    · by_cases fourHundred : (y + 1) % 400 = 0 <;> simp [four, hundred, fourHundred] <;> omega
    · simp [four, hundred, mt fourths hundred]
      omega
  · simp [four, mt centuries four, mt fourths (mt centuries four)]
    omega

/-- A year ends before each later one begins. -/
theorem daysBeforeYear_add_le {y y' : Nat} (y_pos : 1 ≤ y) (earlier : y < y') :
    daysBeforeYear y + daysInYear y ≤ daysBeforeYear y' := by
  rw [← daysBeforeYear_succ y_pos]
  induction y', earlier using Nat.le_induction with
  | base => exact Nat.le_refl _
  | succ later le ih =>
    have next := daysBeforeYear_succ (show 1 ≤ later by omega)
    omega

theorem daysBeforeMonth_succ (year : Nat) {month : Nat} (month_pos : 1 ≤ month) :
    daysBeforeMonth year (month + 1) = daysBeforeMonth year month + daysInMonth year month := by
  obtain ⟨m, rfl⟩ : ∃ m, month = m + 1 := ⟨month - 1, by omega⟩
  simp only [daysBeforeMonth, Nat.add_sub_cancel, List.range_succ, List.foldl_append,
    List.foldl_cons, List.foldl_nil]

/-- A month ends before each later one begins. -/
theorem daysBeforeMonth_add_le (year : Nat) {m m' : Nat} (m_pos : 1 ≤ m) (earlier : m < m') :
    daysBeforeMonth year m + daysInMonth year m ≤ daysBeforeMonth year m' := by
  rw [← daysBeforeMonth_succ year m_pos]
  induction m', earlier using Nat.le_induction with
  | base => exact Nat.le_refl _
  | succ later le ih =>
    have next := daysBeforeMonth_succ year (show 1 ≤ later by omega)
    omega

theorem daysBeforeMonth_13 (year : Nat) : daysBeforeMonth year 13 = daysInYear year := by
  unfold daysInYear
  simp only [daysBeforeMonth, daysInMonth, List.range, List.range.loop, List.foldl_cons,
    List.foldl_nil]
  cases isLeap year <;> rfl

/-- A day belongs to its year. -/
theorem dayOfYear_lt (c : Civil) :
    daysBeforeMonth c.year c.month + (c.day - 1) < daysInYear c.year := by
  have beforeEnd : c.month < 13 := by
    have := c.month_le
    omega
  have months := daysBeforeMonth_add_le c.year c.month_pos beforeEnd
  rw [daysBeforeMonth_13] at months
  have := c.day_le
  have := c.day_pos
  omega

theorem dayMicros_lt (c : Civil) : c.dayMicros < 86400000000 := by
  have := c.hour_lt
  have := c.minute_lt
  have := c.second_lt
  have := c.micro_lt
  unfold dayMicros
  omega

/-- A day ends before each later one begins. -/
theorem micros_lt_of_days_lt (earlier : c.days < c'.days) : c.micros < c'.micros := by
  have := c.dayMicros_lt
  unfold micros
  omega

/-- An earlier part outweighs all that follow. -/
theorem micros_lt_of_parts_lt (earlier : c.parts < c'.parts) : c.micros < c'.micros := by
  simp only [parts, List.cons_lt_cons_iff, List.lt_irrefl, and_false, or_false] at earlier
  rcases earlier with year | ⟨sameYear, earlier⟩
  · apply micros_lt_of_days_lt
    have years := daysBeforeYear_add_le c.year_pos year
    have := c.dayOfYear_lt
    unfold days
    omega
  rcases earlier with month | ⟨sameMonth, earlier⟩
  · apply micros_lt_of_days_lt
    have months := daysBeforeMonth_add_le c.year c.month_pos month
    have := c.day_le
    have := c.day_pos
    rw [days, days, ← sameYear]
    omega
  rcases earlier with day | ⟨sameDay, earlier⟩
  · apply micros_lt_of_days_lt
    have := c.day_pos
    rw [days, days, ← sameYear, ← sameMonth]
    omega
  have sameDays : c'.days = c.days := by
    rw [days, days, sameYear, sameMonth, sameDay]
  have := c.minute_lt
  have := c.second_lt
  have := c.micro_lt
  unfold micros dayMicros
  omega

theorem parts_inj : c.parts = c'.parts ↔ c = c' := by
  constructor
  · intro same
    obtain ⟨year, month, day, hour, minute, second, micro, _⟩ := c
    simp only [parts, List.cons.injEq, and_true] at same
    obtain ⟨rfl, rfl, rfl, rfl, rfl, rfl, rfl⟩ := same
    rfl
  · rintro rfl
    rfl

theorem parts_lt_iff : c.parts < c'.parts ↔ c.micros < c'.micros := by
  refine ⟨micros_lt_of_parts_lt, fun earlier => ?_⟩
  rcases lt_trichotomy c.parts c'.parts with before | same | after
  · exact before
  · rw [parts_inj.mp same] at earlier
    exact absurd earlier (Int.lt_irrefl _)
  · exact absurd earlier (micros_lt_of_parts_lt after).le.not_gt

/-- Texts of date-times stand in the order of the wall clocks. -/
theorem storedText_lt_iff : c.storedText < c'.storedText ↔ c.micros < c'.micros := by
  rw [String.lt_iff_toList_lt, storedText, storedText, String.toList_ofList, String.toList_ofList,
    storedChars_lt_iff, parts_lt_iff]

/-- Only one wall clock has a text. -/
theorem storedText_inj : c.storedText = c'.storedText ↔ c.micros = c'.micros := by
  rw [eq_iff_le_not_lt, eq_iff_le_not_lt, ← not_lt, ← not_lt, storedText_lt_iff,
    storedText_lt_iff]

end Principals.Time.Civil
