import Mathlib

/-!
# Montreal local time

Both workers name things by the local time in `America/Toronto`, through
`toLocaleString('en-CA', { timeZone: 'America/Toronto', ... })`: `fmtYMD_Montreal` gives the
calendar date, `fmtISO_Montreal` the date and the time to the second, with no UTC offset.
The zone is five hours behind UTC, four while daylight saving time is on: since 2007, from
2:00 local time on the second Sunday of March to 2:00 local time on the first Sunday of
November.  So one local day of the year has 23 hours, one has 25, and in the autumn the hour
from 1:00 to 2:00 is lived twice, giving two instants an hour apart the same local time.

A `Date` is its time value, milliseconds since the epoch; dates are computed with the
proleptic Gregorian calendar.

## Main definitions

* `Instant` — a time value.
* `daysFromCivil`, `civilFromDays` — days since the epoch and calendar dates.
* `torontoOffset`, `localTime` — the zone's offset at an instant, and the local time there.
* `fmtYMDMontreal`, `fmtISOMontreal` — the two formatters.
* `getHoursAgo` — the API worker's window start.
-/

namespace Transit

/-- A `Date`'s time value: milliseconds since the epoch. -/
abbrev Instant := ℤ

/-- A calendar date, as `fmtYMD_Montreal` writes it: `YYYY-MM-DD`. -/
structure LocalDate where
  year : ℤ
  month : ℕ
  day : ℕ
  deriving DecidableEq, Repr

/-- A local date and time to the second, as `fmtISO_Montreal` writes it:
`YYYY-MM-DDTHH-MM-SS`. -/
structure LocalDateTime where
  date : LocalDate
  hour : ℕ
  minute : ℕ
  second : ℕ
  deriving DecidableEq, Repr

/-! ### The calendar -/

/-- Days from the epoch to a date. -/
def daysFromCivil (y : ℤ) (m d : ℕ) : ℤ :=
  let y := if m ≤ 2 then y - 1 else y
  let era := y / 400
  let yoe := y - era * 400
  let doy : ℤ := (153 * (if 2 < m then m - 3 else m + 9) + 2) / 5 + d - 1
  let doe := yoe * 365 + yoe / 4 - yoe / 100 + doy
  era * 146097 + doe - 719468

/-- The date of a day counted from the epoch. -/
def civilFromDays (z : ℤ) : LocalDate :=
  let z := z + 719468
  let era := z / 146097
  let doe := z - era * 146097
  let yoe := (doe - doe / 1460 + doe / 36524 - doe / 146096) / 365
  let doy := doe - (365 * yoe + yoe / 4 - yoe / 100)
  let mp := (5 * doy + 2) / 153
  let d := doy - (153 * mp + 2) / 5 + 1
  let m := if mp < 10 then mp + 3 else mp - 9
  ⟨yoe + era * 400 + (if m ≤ 2 then 1 else 0), m.toNat, d.toNat⟩

/-- The first Sunday on or after a day; the epoch was a Thursday. -/
def sundayOnOrAfter (z : ℤ) : ℤ := z + (7 - (z + 4) % 7) % 7

/-! ### The zone -/

/-- Daylight saving time starts at 2:00 local standard time, 7:00 UTC, on the second Sunday
of March. -/
def dstStart (y : ℤ) : Instant :=
  ((sundayOnOrAfter (daysFromCivil y 3 1) + 7) * 86400 + 7 * 3600) * 1000

/-- It ends at 2:00 local daylight time, 6:00 UTC, on the first Sunday of November. -/
def dstEnd (y : ℤ) : Instant :=
  (sundayOnOrAfter (daysFromCivil y 11 1) * 86400 + 6 * 3600) * 1000

/-- The offset of `America/Toronto` from UTC at an instant, in milliseconds, by the rule in force
since 2007, applied to every year. -/
def torontoOffset (t : Instant) : ℤ :=
  let y := (civilFromDays (t / 86400000)).year
  if dstStart y ≤ t ∧ t < dstEnd y then -4 * 3600000 else -5 * 3600000

/-- The local date and time at an instant. -/
def localTime (t : Instant) : LocalDateTime :=
  let lt := t + torontoOffset t
  let ms := lt % 86400000
  ⟨civilFromDays (lt / 86400000), (ms / 3600000).toNat, (ms / 60000 % 60).toNat,
    (ms / 1000 % 60).toNat⟩

/-! ### The formatters -/

/-- The largest time value a `Date` holds; past it a `Date` is invalid. -/
def maxTimeValue : ℤ := 8640000000000000

/-- What `fmtISO_Montreal` writes: the local date and time, or, for an invalid date, whose
`toLocaleString` is `"Invalid Date"`, the text that becomes after its replacements. -/
inductive IsoText where
  | stamp (t : LocalDateTime)
  | invalidDate
  deriving DecidableEq, Repr

/-- `fmtYMD_Montreal(d)`, for the valid dates it is given: `new Date()` and the window start. -/
def fmtYMDMontreal (t : Instant) : LocalDate := (localTime t).date

/-- `fmtISO_Montreal(d)` of `d = new Date(t)`. -/
def fmtISOMontreal (t : Instant) : IsoText :=
  if |t| ≤ maxTimeValue then .stamp (localTime t) else .invalidDate

/-- `getHoursAgo(hours)`: `setHours(getHours() - hours)` on the worker's clock, which runs in
UTC, so the instant `hours` hours before. -/
def getHoursAgo (now : Instant) (hours : ℕ) : Instant := now - hours * 3600000

/-- 5:30 and 6:30 UTC on 2 November 2025 are both 1:30 in Montreal. -/
example : fmtISOMontreal 1762061400000 = fmtISOMontreal 1762065000000 := by decide

end Transit
