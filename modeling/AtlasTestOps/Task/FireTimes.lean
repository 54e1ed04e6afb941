import AtlasTestOps.Lib.Gregorian
import AtlasTestOps.Task.Schedules

/-! `next_task_schedule_fire_times` and the calendar spec that is installed in Temporal. Instants
are whole seconds after 0001-01-01T00:00Z, and a local reading is counted the same way from
0001-01-01T00:00 of the zone. The microseconds of `after` decide nothing, since every candidate
is a whole second. What does not fit into the years of a `datetime` raises. -/

namespace Atlas.Task

open Atlas

/-! ### Datetimes -/

/-- The days of the years 1 to 9999. -/
def maximumOrdinal : ℤ := 3652059

/-- A `datetime` lies in these years. -/
def inRange (seconds : ℤ) : Bool := 0 ≤ seconds ∧ seconds < maximumOrdinal * 86400

/-- The text of the `OverflowError`. -/
def dateOverflow : String := "date value out of range"

/-- The `datetime` that an addition answers with. -/
def datetimeOf (seconds : ℤ) : Except String ℤ :=
  if inRange seconds then .ok seconds else .error dateOverflow

/-! ### Time zones -/

/-- The offsets of a zone: the one before the first transition, and at every transition the new
one. -/
structure ZoneRules where
  initial : ℤ
  transitions : List (ℤ × ℤ)
deriving DecidableEq, Repr

namespace ZoneRules

variable (zone : ZoneRules)

/-- The UTC offset in force at `utc`. -/
def offset (utc : ℤ) : ℤ :=
  zone.transitions.foldl (fun offset t => if t.1 ≤ utc then t.2 else offset) zone.initial

def reading (utc : ℤ) : ℤ := utc + zone.offset utc

def offsets : List ℤ := zone.initial :: zone.transitions.map Prod.snd

/-- The instants that read as `naive`, the earlier one first. -/
def instantsAt (naive : ℤ) : List ℤ :=
  (((zone.offsets.map (naive - ·)).filter fun utc => zone.reading utc = naive).dedup).insertionSort
    (· ≤ ·)

/-- The offsets before and after the gap that skips `naive`. -/
def gapOffsets (naive : ℤ) : ℤ → List (ℤ × ℤ) → ℤ × ℤ
  | offset, [] => (offset, offset)
  | offset, t :: rest =>
    if t.1 + offset ≤ naive ∧ naive < t.1 + t.2 then (offset, t.2)
    else gapOffsets naive t.2 rest

/-- `astimezone(UTC)` of a naive reading with a fold. In a gap, fold 0 takes the offset before it
and fold 1 the one after it. -/
def toUtc (naive : ℤ) (fold : ℕ) : ℤ :=
  match zone.instantsAt naive with
  | [] =>
    let gap := gapOffsets naive zone.initial zone.transitions
    naive - if fold = 0 then gap.1 else gap.2
  | first :: rest => if fold = 0 then first else rest.getLast?.getD first

/-- The fold of the local time at `utc`: 1 when an earlier instant reads the same. -/
def foldAt (utc : ℤ) : ℕ :=
  if (zone.instantsAt (zone.reading utc)).head? = some utc then 0 else 1

def localDate (utc : ℤ) : ℤ := zone.reading utc / 86400

end ZoneRules

/-- A fold tells two instants of one reading apart, so no reading occurs three times. -/
structure TimeZone extends ZoneRules where
  atMostTwice : ∀ u v w, u < v → v < w → toZoneRules.reading u = toZoneRules.reading v →
    toZoneRules.reading v ≠ toZoneRules.reading w

/-! ### Calendars -/

/-- What the validators of `TaskScheduleCalendar` let through. -/
structure ValidCalendar extends TaskScheduleCalendar where
  minutes_le : ∀ m ∈ minutes, m ≤ 59
  hours_le : ∀ h ∈ hours, h ≤ 23
  days_bounds : ∀ d ∈ daysOfMonth, 1 ≤ d ∧ d ≤ 31
  months_bounds : ∀ m ∈ months, 1 ≤ m ∧ m ≤ 12
  isoDays_bounds : ∀ d ∈ isoDaysOfWeek, 1 ≤ d ∧ d ≤ 7

namespace TaskScheduleCalendar

variable (calendar : TaskScheduleCalendar)

def allowsDate (date : ℤ) : Bool :=
  (calendar.months = [] ∨ (Gregorian.civil date).month ∈ calendar.months) ∧
    (calendar.daysOfMonth = [] ∨ (Gregorian.civil date).day ∈ calendar.daysOfMonth) ∧
    (calendar.isoDaysOfWeek = [] ∨ Gregorian.isoWeekday date ∈ calendar.isoDaysOfWeek)

/-- The naive readings that the search tries on a date. -/
def readingsOn (date : ℤ) : List ℤ :=
  calendar.hours.flatMap fun (hour : ℕ) => calendar.minutes.map fun (minute : ℕ) =>
    date * 86400 + (hour : ℤ) * 3600 + (minute : ℤ) * 60

end TaskScheduleCalendar

def hourOf (reading : ℤ) : ℕ := (reading % 86400 / 3600).toNat

def minuteOf (reading : ℤ) : ℕ := (reading % 3600 / 60).toNat

def secondOf (reading : ℤ) : ℕ := (reading % 60).toNat

/-! ### The search -/

/-- One round trip of `_valid_utc_folds`. -/
def tryFold (zone : ZoneRules) (naive : ℤ) (values : List ℤ) (fold : ℕ) :
    Except String (List ℤ) := do
  let utcValue ← datetimeOf (zone.toUtc naive fold)
  let roundTrip ← datetimeOf (zone.reading utcValue)
  pure (if roundTrip = naive ∧ zone.foldAt utcValue = fold ∧ utcValue ∉ values then
    values ++ [utcValue] else values)

/-- `_valid_utc_folds` -/
def validUtcFolds (zone : ZoneRules) (naive : ℤ) : Except String (List ℤ) := do
  let values ← [0, 1].foldlM (tryFold zone naive) []
  pure (values.insertionSort (· ≤ ·))

def addCandidate (after : ℤ) (results : List ℤ) (candidate : ℤ) : List ℤ :=
  if after < candidate ∧ candidate ∉ results then results ++ [candidate] else results

def collectReading (zone : ZoneRules) (after : ℤ) (results : List ℤ) (naive : ℤ) :
    Except String (List ℤ) := do
  let candidates ← validUtcFolds zone naive
  pure (candidates.foldl (addCandidate after) results)

/-- The results with the candidates of one date, sorted. -/
def collectDate (zone : ZoneRules) (calendar : TaskScheduleCalendar) (after date : ℤ)
    (results : List ℤ) : Except String (List ℤ) :=
  if calendar.allowsDate date then do
    let collected ← (calendar.readingsOn date).foldlM (collectReading zone after) results
    pure (collected.insertionSort (· ≤ ·))
  else pure results

/-- The loop over the local dates; the first argument is the number of dates left. The day behind
9999-12-31 overflows. -/
def searchFires (zone : ZoneRules) (calendar : TaskScheduleCalendar) (after : ℤ) (count : ℕ) :
    ℕ → ℤ → List ℤ → Except String (List ℤ)
  | 0, _, results => .ok results
  | left + 1, date, results =>
    if count ≤ results.length then .ok results
    else do
      let collected ← collectDate zone calendar after date results
      if count ≤ collected.length then .ok collected
      else if date + 1 = maximumOrdinal then .error dateOverflow
      else searchFires zone calendar after count left (date + 1) collected

/-- The date so many years later; for 29 February, the 28th of a year that has no 29th. -/
def yearsLater (date years : ℤ) : ℤ :=
  let c := Gregorian.civil date
  if c.month = 2 ∧ c.day = 29 ∧ Gregorian.isLeap (c.year + years) = false then
    Gregorian.ofCivil ⟨c.year + years, 2, 28⟩
  else Gregorian.ofCivil { c with year := c.year + years }

/-- `_add_years`; `replace` raises for a year after 9999. -/
def addYears (date years : ℤ) : Except String ℤ :=
  let year := (Gregorian.civil date).year + years
  if 9999 < year then .error s!"year {year} is out of range" else .ok (yearsLater date years)

/-- `next_task_schedule_fire_times`; `zoneInfo` are the zones of the installed database. -/
def nextTaskScheduleFireTimes (zoneInfo : String → Option TimeZone)
    (calendar : TaskScheduleCalendar) (timeZoneName : String) (after : ℤ) (count : ℕ) :
    Except String (List ℤ) :=
  if ¬ (1 ≤ count ∧ count ≤ 10) then .error "count must be between 1 and 10"
  else match zoneInfo timeZoneName with
  | none => .error "time zone is unavailable"
  | some zone => do
    let selectedAfter ← datetimeOf after
    let localAfter ← datetimeOf (zone.reading selectedAfter)
    let localStart := localAfter / 86400
    let maximumDate ← addYears localStart 25
    let results ← searchFires zone.toZoneRules calendar selectedAfter count
      (maximumDate - localStart + 1).toNat localStart []
    if results.length < count then
      .error "calendar does not produce enough fires within 25 years"
    else .ok (results.take count)

/-! ### `ScheduleCalendarSpec` -/

structure ScheduleRange where
  start : ℕ
  stop : ℕ
deriving DecidableEq, Repr

def ScheduleRange.covers (range : ScheduleRange) (value : ℕ) : Bool :=
  range.start ≤ value ∧ value ≤ range.stop

/-- Each field lists the ranges of the values it accepts; no range of years is every year. -/
structure ScheduleCalendarSpec where
  second : List ScheduleRange
  minute : List ScheduleRange
  hour : List ScheduleRange
  dayOfMonth : List ScheduleRange
  month : List ScheduleRange
  year : List ScheduleRange
  dayOfWeek : List ScheduleRange
deriving DecidableEq, Repr

/-- `_range` -/
def singleRange (value : ℕ) : ScheduleRange := ⟨value, value⟩

/-- `_calendar_spec` -/
def calendarSpec (calendar : TaskScheduleCalendar) : ScheduleCalendarSpec where
  second := [singleRange 0]
  minute := calendar.minutes.map singleRange
  hour := calendar.hours.map singleRange
  dayOfMonth :=
    if calendar.daysOfMonth = [] then [⟨1, 31⟩] else calendar.daysOfMonth.map singleRange
  month := if calendar.months = [] then [⟨1, 12⟩] else calendar.months.map singleRange
  year := []
  dayOfWeek :=
    if calendar.isoDaysOfWeek = [] then [⟨0, 6⟩]
    else ((calendar.isoDaysOfWeek.map fun selected => if selected = 7 then 0 else selected).insertionSort
      (· ≤ ·)).map singleRange

/-- The local readings that Temporal fires at; its week begins with Sunday as 0. -/
def ScheduleCalendarSpec.accepts (spec : ScheduleCalendarSpec) (reading : ℤ) : Bool :=
  let date := reading / 86400
  let among (ranges : List ScheduleRange) (value : ℕ) := ranges.any fun r => r.covers value
  among spec.second (secondOf reading) && among spec.minute (minuteOf reading) &&
    among spec.hour (hourOf reading) && among spec.dayOfMonth (Gregorian.civil date).day &&
    among spec.month (Gregorian.civil date).month &&
    (spec.year.isEmpty || among spec.year (Gregorian.civil date).year.toNat) &&
    among spec.dayOfWeek (Gregorian.isoWeekday date % 7)

end Atlas.Task
