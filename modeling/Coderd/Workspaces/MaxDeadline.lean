import Coderd.Foundation.Calendar
import Coderd.Foundation.Integers
import Coderd.Workspaces.Builders

namespace Coderd.Builds.MaxDeadline

open Coderd.Foundation
open Coderd.CryptoKeys (OffsetDateTime)

/-! ## Instants -/

/-- What the crate `chrono` panics of. -/
inductive Panic where
  | durationOutOfBounds
  | dateTimeOverflowed
  deriving DecidableEq

/-- A `chrono::DateTime<Utc>` without a fraction of a second. -/
structure DateTime where
  timestamp : ℤ
  ge_min : -8334601228800 ≤ timestamp
  le_max : timestamp ≤ 8210266876799

def DateTime.fromTimestamp (timestamp : ℤ) : Option DateTime :=
  if h : -8334601228800 ≤ timestamp ∧ timestamp ≤ 8210266876799 then some ⟨timestamp, h.1, h.2⟩
  else none

def DateTime.add (t : DateTime) (seconds : ℤ) : Except Panic DateTime :=
  match DateTime.fromTimestamp (t.timestamp + seconds) with
  | some t => .ok t
  | none => .error .dateTimeOverflowed

/-- `chrono::Duration::days`, in seconds. -/
def durationDays (days : ℤ) : Except Panic ℤ :=
  if |days * secondsPerDay| ≤ 9223372036854775 then .ok (days * secondsPerDay)
  else .error .durationOutOfBounds

def DateTime.day (t : DateTime) : ℤ := t.timestamp / secondsPerDay

theorem DateTime.atHour_ge (t : DateTime) (hour : Fin 24) :
    -8334601228800 ≤ t.day * secondsPerDay + 3600 * hour := by
  have hge := t.ge_min
  unfold day secondsPerDay
  omega

theorem DateTime.atHour_le (t : DateTime) (hour : Fin 24) :
    t.day * secondsPerDay + 3600 * hour ≤ 8210266876799 := by
  have hle := t.le_max
  have hhour := hour.isLt
  unfold day secondsPerDay
  omega

/-- `date_naive().and_hms_opt(hour, 0, 0)`, in UTC. -/
def DateTime.atHour (t : DateTime) (hour : Fin 24) : DateTime :=
  ⟨t.day * secondsPerDay + 3600 * hour, t.atHour_ge hour, t.atHour_le hour⟩

theorem ofUnixTimestamp_ge {timestamp : ℤ}
    (h : -377705116800 ≤ timestamp ∧ timestamp ≤ 253402300799) :
    -377705116800 * 10 ^ 9 ≤ timestamp * 10 ^ 9 := by
  omega

theorem ofUnixTimestamp_lt {timestamp : ℤ}
    (h : -377705116800 ≤ timestamp ∧ timestamp ≤ 253402300799) :
    timestamp * 10 ^ 9 < 253402300800 * 10 ^ 9 := by
  omega

def fromUnixTimestamp (timestamp : ℤ) : Option OffsetDateTime :=
  if h : -377705116800 ≤ timestamp ∧ timestamp ≤ 253402300799 then
    some ⟨timestamp * 10 ^ 9, ofUnixTimestamp_ge h, ofUnixTimestamp_lt h⟩
  else none

def unixTimestamp (t : OffsetDateTime) : ℤ := t.unixNanos / 10 ^ 9

/-! ## The deadline -/

def autostopRequirementLeeway : ℤ := 2 * 3600

/-- Bit 0 is Monday. -/
def autostopRequirementDayIsSet (bitmap : BitVec 16) (weekday : ℕ) : Bool :=
  bitmap &&& (1#16 <<< weekday) ≠ 0#16

def truncateUtcMidnight (t : DateTime) : DateTime := t.atHour 0

def quietWindowOnDate (day : DateTime) (quietHours : QuietHoursWindow) : Option DateTime :=
  if h : quietHours.startHour < 24 then some (day.atHour ⟨quietHours.startHour, h⟩) else none

/-- 2023-01-02, a Monday. -/
def epoch : DateTime := ⟨1672617600, by decide, by decide⟩

/-- The products and sums of weeks are those of a release build; only the last can overflow. -/
def nextApplicableMondayOfNWeeks (now : DateTime) (n : ℤ) : Except Panic (Option DateTime) :=
  if now.timestamp < epoch.timestamp then .ok none
  else
    let daysSince := (now.timestamp - epoch.timestamp).tdiv secondsPerDay
    let weeksSince := daysSince.tdiv 7
    let remainder := weeksSince.tmod n
    if remainder = 0 then do
      -- The current week is aligned: the Monday of this week, which may lie before `now`.
      let monday ← epoch.add (← durationDays (weeksSince * 7))
      return some (truncateUtcMidnight monday)
    else do
      let targetWeek := wrap 64 (weeksSince + (n - remainder))
      let monday ← epoch.add (← durationDays (wrap 64 (targetWeek * 7)))
      return some (truncateUtcMidnight monday)

/-- The loop over the days of a week. -/
def matchingDay (daysOfWeek : BitVec 16) : ℕ → DateTime → Except Panic DateTime
  | 0, day => .ok day
  | n + 1, day =>
    if autostopRequirementDayIsSet daysOfWeek (weekday day.day) then .ok day
    else (day.add secondsPerDay).bind (matchingDay daysOfWeek n)

/-- What is done from the day on that is aligned. -/
def deadlineFrom (daysOfWeek : BitVec 16) (quietHours : QuietHoursWindow)
    (withLeeway day : DateTime) : Except Panic (Option OffsetDateTime) := do
  let elapsed := (quietWindowOnDate day quietHours).any fun todayWindowStart =>
    todayWindowStart.timestamp < withLeeway.timestamp
  let nextDay := if elapsed then day.add secondsPerDay else .ok day
  let day ← matchingDay daysOfWeek 8 (← nextDay)
  return (quietWindowOnDate day quietHours).bind fun start => fromUnixTimestamp start.timestamp

def computeMaxDeadline (autostopRequirementDaysOfWeek : BitVec 16)
    (autostopRequirementWeeks : Int64) (quietHours : Option QuietHoursWindow)
    (buildCompletedAt : OffsetDateTime) : Except Panic (Option OffsetDateTime) :=
  if autostopRequirementDaysOfWeek = 0 then .ok none
  else
    match quietHours with
    | none => .ok none
    | some quietHours =>
      match DateTime.fromTimestamp (unixTimestamp buildCompletedAt) with
      | none => .ok none
      | some completed => do
        let withLeeway ← completed.add autostopRequirementLeeway
        let day := truncateUtcMidnight withLeeway
        let weeks := max autostopRequirementWeeks.toInt 1
        let aligned :=
          if 1 < weeks then nextApplicableMondayOfNWeeks day weeks else .ok (some day)
        match ← aligned with
        | none => return none
        | some day => deadlineFrom autostopRequirementDaysOfWeek quietHours withLeeway day

end Coderd.Builds.MaxDeadline
