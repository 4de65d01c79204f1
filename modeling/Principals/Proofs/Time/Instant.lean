import Principals.Time.Civil

/-!
# Instants and wall clocks

A date-time column keeps the wall clock and forgets the offset; what comes back counts as UTC. The
instant has then moved by the offset, so it is the one that went in exactly if the offset was zero
(`instant?_forgotten_iff`).
-/

namespace Principals.Time

/-- 1970-01-01T00:00:00 on the wall clock. -/
def Civil.epoch : Civil where
  year := 1970
  month := 1
  day := 1
  hour := 0
  minute := 0
  second := 0
  micro := 0
  year_pos := by decide
  year_le := by decide
  month_pos := by decide
  month_le := by decide
  day_pos := by decide
  day_le := by decide
  hour_lt := by decide
  minute_lt := by decide
  second_lt := by decide
  micro_lt := by decide

namespace DateTime

/-- A zone that was given once stays. -/
theorem orUtc_orUtc (d : DateTime) : d.orUtc.orUtc = d.orUtc := by
  obtain ⟨c, o⟩ := d
  cases o <;> rfl

/-- The wall clock of a date-time, read as UTC. -/
def forgotten (d : DateTime) : DateTime := ⟨d.civil, some 0⟩

/-- Reading the wall clock as UTC keeps the instant exactly if the offset is zero. -/
theorem instant?_forgotten_iff {d : DateTime} {offset : Int} (zone : d.offset = some offset) :
    d.forgotten.instant? = d.instant? ↔ offset = 0 := by
  simp only [instant?, forgotten, zone, Option.map_some, Option.some.injEq]
  omega

end DateTime

end Principals.Time
