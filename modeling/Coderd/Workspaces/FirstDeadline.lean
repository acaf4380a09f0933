import Coderd.Foundation.Except
import Coderd.Workspaces.MaxDeadline

namespace Coderd.Builds.MaxDeadline

open Coderd.Foundation
open Coderd.CryptoKeys (OffsetDateTime)

/-! ## Admissible instants -/

/-- The days of the template, in every week. -/
def Selected (daysOfWeek : BitVec 16) (day : ℤ) : Prop := daysOfWeek.getLsbD (weekday day) = true

/-- Weeks from Monday, since 2023-01-02. -/
def weekOf (day : ℤ) : ℤ := (day - 19359) / 7

def windowStart (startHour : ℕ) (day : ℤ) : ℤ := day * secondsPerDay + 3600 * startHour

/-- The start of a quiet window, in seconds since 1970, at which the workspace may be stopped. -/
structure Admissible (daysOfWeek : BitVec 16) (weeks : ℤ) (startHour : ℕ) (earliest : ℤ)
    (t : ℤ) : Prop where
  atStart : t = windowStart startHour (t / secondsPerDay)
  notBefore : earliest ≤ t
  selected : Selected daysOfWeek (t / secondsPerDay)
  aligned : max weeks 1 ∣ weekOf (t / secondsPerDay)

/-- Where the code finds the first instant: there is one before the year 10000 and, in a week that
is one of several to be used, the windows of all selected days from Tuesday on are still to come,
and one window of the week is. -/
structure Ahead (daysOfWeek : BitVec 16) (weeks : ℤ) (startHour : ℕ) (earliest : ℤ) : Prop where
  representable : ∃ t ≤ 253402300799, Admissible daysOfWeek weeks startHour earliest t
  untouched : 1 < weeks → weeks ∣ weekOf (earliest / secondsPerDay) →
    (∀ day, Selected daysOfWeek day → weekOf day = weekOf (earliest / secondsPerDay) →
      weekday day ≠ 0 → earliest ≤ windowStart startHour day) ∧
    ∃ day, Selected daysOfWeek day ∧ weekOf day = weekOf (earliest / secondsPerDay) ∧
      earliest ≤ windowStart startHour day

/-! ## Selected days -/

section Days

variable {daysOfWeek : BitVec 16} {day : ℤ}

theorem dayIsSet_iff :
    autostopRequirementDayIsSet daysOfWeek (weekday day) = true ↔ Selected daysOfWeek day := by
  have hlt : weekday day < 16 := (weekday_lt day).trans (by decide)
  have hbit : BitVec.twoPow 16 (weekday day) ≠ 0#16 := fun hzero => by
    have hset := congrArg (·.getLsbD (weekday day)) hzero
    simp [hlt] at hset
  rw [autostopRequirementDayIsSet, Selected, ← BitVec.twoPow_eq, BitVec.and_twoPow]
  split
  · rename_i hset
    simp [hbit, hset]
  · rename_i hset
    simp [hset]

theorem selected_periodic (daysOfWeek : BitVec 16) :
    Function.Periodic (Selected daysOfWeek) 7 := fun day => by
  rw [Selected, Selected, weekday_add_seven]

theorem exists_selected (h : ∃ b < 7, daysOfWeek.getLsbD b = true) :
    ∃ day, Selected daysOfWeek day := by
  obtain ⟨b, hb, hset⟩ := h
  obtain ⟨day, rfl⟩ := exists_weekday hb
  exact ⟨day, hset⟩

/-- The first selected day is reached within a week. -/
theorem exists_first (h : ∃ b < 7, daysOfWeek.getLsbD b = true) (start : ℤ) :
    ∃ day, IsLeast {day | start ≤ day ∧ Selected daysOfWeek day} day ∧ day < start + 7 :=
  exists_isLeast_of_periodic (by decide) (selected_periodic daysOfWeek) (exists_selected h) start

end Days

/-! ## Dates in the range of the crate -/

section Dates

variable {daysOfWeek : BitVec 16} {quietHours : QuietHoursWindow} {t : DateTime} {day first : ℤ}

/-- The midnight of a day. -/
def AtMidnight (t : DateTime) (day : ℤ) : Prop := t.timestamp = day * secondsPerDay

theorem AtMidnight.day_eq (h : AtMidnight t day) : t.day = day := by
  rw [DateTime.day, h]
  exact Int.mul_ediv_cancel day (by decide)

theorem add_eq_ok {seconds : ℤ} (hge : -8334601228800 ≤ t.timestamp + seconds)
    (hle : t.timestamp + seconds ≤ 8210266876799) :
    t.add seconds = .ok ⟨t.timestamp + seconds, hge, hle⟩ := by
  rw [DateTime.add, DateTime.fromTimestamp, dif_pos ⟨hge, hle⟩]

theorem add_day_eq_ok (h : AtMidnight t day) (hle : (day + 1) * secondsPerDay ≤ 8210266876799) :
    ∃ t', t.add secondsPerDay = .ok t' ∧ AtMidnight t' (day + 1) := by
  have hsum : t.timestamp + secondsPerDay = (day + 1) * secondsPerDay := by
    rw [h, add_mul, one_mul]
  have hge := t.ge_min
  refine ⟨_, add_eq_ok ?_ (hsum ▸ hle), hsum⟩
  unfold secondsPerDay
  omega

theorem truncateUtcMidnight_atMidnight (t : DateTime) :
    AtMidnight (truncateUtcMidnight t) t.day := by
  show t.day * secondsPerDay + 3600 * ((0 : Fin 24) : ℕ) = t.day * secondsPerDay
  simp

theorem quietWindowOnDate_eq (hhour : quietHours.startHour < 24) (h : AtMidnight t day) :
    ∃ start, quietWindowOnDate t quietHours = some start ∧
      start.timestamp = windowStart quietHours.startHour day := by
  rw [quietWindowOnDate, dif_pos hhour]
  refine ⟨_, rfl, ?_⟩
  show t.day * secondsPerDay + 3600 * (quietHours.startHour : ℤ) = _
  rw [h.day_eq, windowStart]

/-- The loop ends at the first selected day, if it has steps enough. -/
theorem matchingDay_eq_ok {n : ℕ} (h : AtMidnight t day)
    (hfirst : IsLeast {day' | day ≤ day' ∧ Selected daysOfWeek day'} first)
    (hn : first ≤ day + n) (hle : first * secondsPerDay ≤ 8210266876799) :
    ∃ t', matchingDay daysOfWeek n t = .ok t' ∧ AtMidnight t' first := by
  induction n generalizing t day with
  | zero =>
    have heq : first = day := le_antisymm (by simpa using hn) hfirst.1.1
    exact ⟨t, rfl, heq ▸ h⟩
  | succ n ih =>
    rw [matchingDay, h.day_eq]
    by_cases hselected : Selected daysOfWeek day
    · have heq : first = day := le_antisymm (hfirst.2 ⟨le_rfl, hselected⟩) hfirst.1.1
      rw [if_pos (dayIsSet_iff.mpr hselected)]
      exact ⟨t, rfl, heq ▸ h⟩
    · have hlt : day + 1 ≤ first := by
        refine lt_of_le_of_ne hfirst.1.1 ?_
        rintro rfl
        exact hselected hfirst.1.2
      obtain ⟨next, hnext, hmidnight⟩ := add_day_eq_ok h
        ((Int.mul_le_mul_of_nonneg_right hlt (by decide)).trans hle)
      rw [if_neg fun hset => hselected (dayIsSet_iff.mp hset), hnext]
      refine ih hmidnight ⟨⟨hlt, hfirst.1.2⟩, fun day' hday' => hfirst.2 ⟨?_, hday'.2⟩⟩ ?_
      · exact (by omega : day ≤ day + 1).trans hday'.1
      · push_cast at hn
        omega

/-- The day whose window is the first that does not start before the leeway ends. -/
def startDay (startHour : ℕ) (earliest day : ℤ) : ℤ :=
  if windowStart startHour day < earliest then day + 1 else day

theorem deadlineFrom_eq {withLeeway : DateTime} (hhour : quietHours.startHour < 24)
    (h : AtMidnight t day)
    (hfirst : IsLeast {day' | startDay quietHours.startHour withLeeway.timestamp day ≤ day' ∧
      Selected daysOfWeek day'} first)
    (hnear : first < startDay quietHours.startHour withLeeway.timestamp day + 7)
    (hle : (day + 8) * secondsPerDay ≤ 8210266876799) :
    deadlineFrom daysOfWeek quietHours withLeeway t =
      .ok (fromUnixTimestamp (windowStart quietHours.startHour first)) := by
  obtain ⟨todayWindowStart, htoday, htimestamp⟩ := quietWindowOnDate_eq hhour h
  obtain ⟨started, hstarted, hmidnight⟩ : ∃ started,
      (if todayWindowStart.timestamp < withLeeway.timestamp then t.add secondsPerDay else .ok t) =
        .ok started ∧
      AtMidnight started (startDay quietHours.startHour withLeeway.timestamp day) := by
    rw [startDay, htimestamp]
    split
    · refine add_day_eq_ok h (le_trans ?_ hle)
      unfold secondsPerDay
      omega
    · exact ⟨t, rfl, h⟩
  have hstartDay : startDay quietHours.startHour withLeeway.timestamp day ≤ day + 1 := by
    unfold startDay
    split <;> omega
  obtain ⟨found, hfound, hfirstMidnight⟩ := matchingDay_eq_ok (n := 8) hmidnight hfirst
    (by push_cast; omega) (le_trans (Int.mul_le_mul_of_nonneg_right (by omega) (by decide)) hle)
  obtain ⟨start, hstart, hstartTimestamp⟩ := quietWindowOnDate_eq hhour hfirstMidnight
  rw [deadlineFrom, htoday, Option.any_some]
  simp only [decide_eq_true_eq]
  refine Except.bind_eq_ok_iff.mpr ⟨started, hstarted, ?_⟩
  refine Except.bind_eq_ok_iff.mpr ⟨found, hfound, ?_⟩
  rw [hstart, Option.bind_some, hstartTimestamp]
  rfl

theorem tdiv_tmod_weeks {now : DateTime} {n : ℤ} (hnow : AtMidnight now day) (hday : 19359 ≤ day) :
    ((now.timestamp - epoch.timestamp).tdiv secondsPerDay).tdiv 7 = weekOf day ∧
      (weekOf day).tmod n = weekOf day % n ∧ 0 ≤ weekOf day := by
  have hsub : now.timestamp - epoch.timestamp = (day - 19359) * secondsPerDay := by
    rw [hnow, sub_mul]
    rfl
  have hnonneg : 0 ≤ weekOf day := by
    unfold weekOf
    omega
  refine ⟨?_, Int.tmod_eq_emod_of_nonneg hnonneg, hnonneg⟩
  rw [hsub, Int.mul_tdiv_cancel _ (by decide), Int.tdiv_eq_ediv_of_nonneg (by omega), weekOf]

/-- The Monday of a week whose days are in the range of the crate. -/
theorem monday_eq_ok {week : ℤ} (hge : 0 ≤ week) (hle : week ≤ 1000000) :
    ∃ monday, (durationDays (week * 7) >>= epoch.add) = .ok monday ∧
      AtMidnight (truncateUtcMidnight monday) (19359 + week * 7) := by
  have hduration : durationDays (week * 7) = .ok (week * 7 * secondsPerDay) := by
    refine if_pos (abs_le.mpr ?_)
    unfold secondsPerDay
    omega
  have hepoch : epoch.timestamp + week * 7 * secondsPerDay =
      (19359 + week * 7) * secondsPerDay := by
    rw [add_mul]
    rfl
  have hrange : -8334601228800 ≤ epoch.timestamp + week * 7 * secondsPerDay ∧
      epoch.timestamp + week * 7 * secondsPerDay ≤ 8210266876799 := by
    rw [hepoch]
    unfold secondsPerDay
    omega
  refine ⟨_, by rw [hduration]; exact add_eq_ok hrange.1 hrange.2, ?_⟩
  have hmonday : AtMidnight ⟨epoch.timestamp + week * 7 * secondsPerDay, hrange.1, hrange.2⟩
      (19359 + week * 7) := hepoch
  have hmidnight := truncateUtcMidnight_atMidnight
    ⟨epoch.timestamp + week * 7 * secondsPerDay, hrange.1, hrange.2⟩
  rwa [hmonday.day_eq] at hmidnight

/-- The week that is used: this one, or the next whose number is a multiple. -/
def targetWeek (day n : ℤ) : ℤ :=
  if n ∣ weekOf day then weekOf day else weekOf day + (n - weekOf day % n)

theorem nextApplicableMonday_eq_ok {now : DateTime} {n : ℤ} (hnow : AtMidnight now day)
    (hday : 19359 ≤ day) (hn : 1 < n) (hle : targetWeek day n ≤ 1000000) :
    ∃ monday, nextApplicableMondayOfNWeeks now n = .ok (some monday) ∧
      AtMidnight monday (19359 + targetWeek day n * 7) := by
  obtain ⟨hweeks, hmod, hnonneg⟩ := tdiv_tmod_weeks (n := n) hnow hday
  have hepoch : ¬ now.timestamp < epoch.timestamp := by
    rw [hnow]
    show ¬ day * 86400 < 1672617600
    omega
  rw [nextApplicableMondayOfNWeeks, if_neg hepoch]
  simp only [hweeks, hmod]
  by_cases haligned : n ∣ weekOf day
  · rw [targetWeek, if_pos haligned] at hle ⊢
    obtain ⟨monday, hmonday, hmidnight⟩ := monday_eq_ok hnonneg hle
    rw [if_pos (Int.emod_eq_zero_of_dvd haligned)]
    obtain ⟨duration, hduration, hadd⟩ := Except.bind_eq_ok_iff.mp hmonday
    refine ⟨_, ?_, hmidnight⟩
    refine Except.bind_eq_ok_iff.mpr ⟨duration, hduration, ?_⟩
    exact Except.bind_eq_ok_iff.mpr ⟨monday, hadd, rfl⟩
  · rw [targetWeek, if_neg haligned] at hle ⊢
    have hmodlt := Int.emod_lt_of_pos (weekOf day) (lt_trans Int.one_pos hn)
    obtain ⟨monday, hmonday, hmidnight⟩ := monday_eq_ok (by omega) hle
    have hfits : ∀ k : ℤ, 0 ≤ k → k ≤ 7000000 → wrap 64 k = k := fun k hk hk' =>
      wrap_of_fits (by decide) ⟨by omega, by omega⟩
    rw [if_neg fun hzero => haligned (Int.dvd_of_emod_eq_zero hzero),
      hfits (weekOf day + (n - weekOf day % n)) (by omega) (by omega),
      hfits ((weekOf day + (n - weekOf day % n)) * 7) (by omega) (by omega)]
    obtain ⟨duration, hduration, hadd⟩ := Except.bind_eq_ok_iff.mp hmonday
    refine ⟨_, ?_, hmidnight⟩
    refine Except.bind_eq_ok_iff.mpr ⟨duration, hduration, ?_⟩
    exact Except.bind_eq_ok_iff.mpr ⟨monday, hadd, rfl⟩

end Dates

/-! ## The whole computation -/

section Computation

variable {daysOfWeek : BitVec 16} {weeks : Int64} {quietHours : QuietHoursWindow}
  {buildCompletedAt : OffsetDateTime} {first : ℤ}

/-- The time before which the workspace is not stopped. -/
def earliestStop (buildCompletedAt : OffsetDateTime) : ℤ :=
  unixTimestamp buildCompletedAt + autostopRequirementLeeway

/-- The day from which on a selected one is looked for. -/
def searchDay (weeks : ℤ) (startHour : ℕ) (earliest : ℤ) : ℤ :=
  let day := earliest / secondsPerDay
  startDay startHour earliest
    (if 1 < max weeks 1 then 19359 + targetWeek day (max weeks 1) * 7 else day)

theorem ne_zero_of_bit (h : ∃ b < 7, daysOfWeek.getLsbD b = true) : daysOfWeek ≠ 0 := by
  rintro rfl
  obtain ⟨b, -, hb⟩ := h
  simp at hb

theorem computeMaxDeadline_eq (hmask : ∃ b < 7, daysOfWeek.getLsbD b = true)
    (hhour : quietHours.startHour < 24)
    (hcompleted : 1672617600 ≤ unixTimestamp buildCompletedAt)
    (hfirst : IsLeast {day | searchDay weeks.toInt quietHours.startHour
      (earliestStop buildCompletedAt) ≤ day ∧ Selected daysOfWeek day} first)
    (htarget : targetWeek (earliestStop buildCompletedAt / secondsPerDay) (max weeks.toInt 1) ≤
      1000000) :
    computeMaxDeadline daysOfWeek weeks (some quietHours) buildCompletedAt =
      .ok (fromUnixTimestamp (windowStart quietHours.startHour first)) := by
  have hlt := buildCompletedAt.lt_max
  have hrange : -8334601228800 ≤ unixTimestamp buildCompletedAt ∧
      unixTimestamp buildCompletedAt ≤ 253402300799 := by
    unfold unixTimestamp at hcompleted ⊢
    omega
  have hcompletedAt : DateTime.fromTimestamp (unixTimestamp buildCompletedAt) =
      some ⟨_, hrange.1, hrange.2.trans (by decide)⟩ :=
    dif_pos ⟨hrange.1, hrange.2.trans (by decide)⟩
  obtain ⟨withLeeway, hwithLeeway, hearliest⟩ : ∃ withLeeway,
      DateTime.add ⟨_, hrange.1, hrange.2.trans (by decide)⟩ autostopRequirementLeeway =
        .ok withLeeway ∧ withLeeway.timestamp = earliestStop buildCompletedAt := by
    refine ⟨_, add_eq_ok ?_ ?_, rfl⟩
    · show -8334601228800 ≤ unixTimestamp buildCompletedAt + 2 * 3600
      omega
    · show unixTimestamp buildCompletedAt + 2 * 3600 ≤ 8210266876799
      omega
  have hmidnight := truncateUtcMidnight_atMidnight withLeeway
  rw [DateTime.day, hearliest] at hmidnight
  set day := earliestStop buildCompletedAt / secondsPerDay with hday
  have hdayRange : 19359 ≤ day ∧ day ≤ 2932897 := by
    unfold earliestStop autostopRequirementLeeway secondsPerDay at hday
    omega
  set n := max weeks.toInt 1 with hn
  obtain ⟨start, hstart, hstartMidnight⟩ : ∃ start,
      (if 1 < n then nextApplicableMondayOfNWeeks (truncateUtcMidnight withLeeway) n
        else .ok (some (truncateUtcMidnight withLeeway))) = .ok (some start) ∧
      AtMidnight start (if 1 < n then 19359 + targetWeek day n * 7 else day) := by
    by_cases hweeks : 1 < n
    · rw [if_pos hweeks, if_pos hweeks]
      exact nextApplicableMonday_eq_ok hmidnight hdayRange.1 hweeks htarget
    · rw [if_neg hweeks, if_neg hweeks]
      exact ⟨_, rfl, hmidnight⟩
  rw [searchDay, ← hearliest, hearliest, ← hday, ← hn, ← hearliest] at hfirst
  obtain ⟨other, hother, hnear⟩ := exists_first hmask (startDay quietHours.startHour
    withLeeway.timestamp (if 1 < n then 19359 + targetWeek day n * 7 else day))
  rw [computeMaxDeadline, if_neg (ne_zero_of_bit hmask)]
  simp only [hcompletedAt]
  refine Except.bind_eq_ok_iff.mpr ⟨withLeeway, hwithLeeway, ?_⟩
  refine Except.bind_eq_ok_iff.mpr ⟨some start, hstart, ?_⟩
  refine deadlineFrom_eq hhour hstartMidnight hfirst (hfirst.unique hother ▸ hnear) ?_
  split <;> unfold secondsPerDay <;> omega

end Computation

/-! ## Admissible days -/

section AdmissibleDays

variable {daysOfWeek : BitVec 16} {weeks n earliest day first : ℤ} {startHour : ℕ}
  (hhour : startHour < 24)

/-- A day on whose quiet window the workspace may be stopped. -/
def AdmissibleDay (daysOfWeek : BitVec 16) (n : ℤ) (startHour : ℕ) (earliest day : ℤ) : Prop :=
  earliest ≤ windowStart startHour day ∧ Selected daysOfWeek day ∧ n ∣ weekOf day

theorem windowStart_le_iff {other : ℤ} :
    windowStart startHour day ≤ windowStart startHour other ↔ day ≤ other := by
  unfold windowStart secondsPerDay
  omega

include hhour

theorem windowStart_ediv (day : ℤ) : windowStart startHour day / secondsPerDay = day := by
  unfold windowStart secondsPerDay
  omega

theorem admissible_windowStart_iff :
    Admissible daysOfWeek weeks startHour earliest (windowStart startHour day) ↔
      AdmissibleDay daysOfWeek (max weeks 1) startHour earliest day := by
  constructor
  · rintro ⟨-, hnotBefore, hselected, haligned⟩
    rw [windowStart_ediv hhour] at hselected haligned
    exact ⟨hnotBefore, hselected, haligned⟩
  · rintro ⟨hnotBefore, hselected, haligned⟩
    refine ⟨?_, hnotBefore, ?_, ?_⟩
    · rw [windowStart_ediv hhour]
    · rwa [windowStart_ediv hhour]
    · rwa [windowStart_ediv hhour]

theorem isLeast_admissible_iff :
    IsLeast {t | Admissible daysOfWeek weeks startHour earliest t} (windowStart startHour first) ↔
      IsLeast {day | AdmissibleDay daysOfWeek (max weeks 1) startHour earliest day} first := by
  constructor
  · rintro ⟨hmem, hleast⟩
    refine ⟨(admissible_windowStart_iff hhour).mp hmem, fun day hday => ?_⟩
    exact windowStart_le_iff.mp (hleast ((admissible_windowStart_iff hhour).mpr hday))
  · rintro ⟨hmem, hleast⟩
    refine ⟨(admissible_windowStart_iff hhour).mpr hmem, fun t ht => ?_⟩
    have hstart : t = windowStart startHour (t / secondsPerDay) := ht.atStart
    rw [hstart]
    rw [Set.mem_ofPred_eq, hstart] at ht
    exact windowStart_le_iff.mpr (hleast ((admissible_windowStart_iff hhour).mp ht))

/-- The window of a day starts before the leeway ends exactly before the day to start from. -/
theorem startDay_le_iff :
    startDay startHour earliest (earliest / secondsPerDay) ≤ day ↔
      earliest ≤ windowStart startHour day := by
  unfold startDay windowStart secondsPerDay
  split <;> omega

theorem weekOf_le_of_notBefore (h : earliest ≤ windowStart startHour day) :
    weekOf (earliest / secondsPerDay) ≤ weekOf day := by
  unfold windowStart secondsPerDay at h
  unfold weekOf secondsPerDay
  omega

/-- Every week counts. -/
theorem isLeast_of_weekly (hfirst : IsLeast {day | startDay startHour earliest
    (earliest / secondsPerDay) ≤ day ∧ Selected daysOfWeek day} first) :
    IsLeast {day | AdmissibleDay daysOfWeek 1 startHour earliest day} first := by
  have hset : {day | AdmissibleDay daysOfWeek 1 startHour earliest day} =
      {day | startDay startHour earliest (earliest / secondsPerDay) ≤ day ∧
        Selected daysOfWeek day} := by
    ext day
    rw [Set.mem_ofPred_eq, Set.mem_ofPred_eq, startDay_le_iff hhour]
    exact ⟨fun h => ⟨h.1, h.2.1⟩, fun h => ⟨h.1, h.2, one_dvd _⟩⟩
  rwa [hset]

omit hhour in
/-- The next multiple after a number that is none. -/
theorem next_multiple_le {k m : ℤ} (hn : 0 < n) (hk : ¬ n ∣ k) (hm : n ∣ m) (hle : k ≤ m) :
    k + (n - k % n) ≤ m := by
  obtain ⟨q, rfl⟩ := hm
  have hsplit := Int.emod_add_mul_ediv k n
  have hmod := Int.emod_nonneg k hn.ne'
  have hmodNe : k % n ≠ 0 := fun h => hk (Int.dvd_of_emod_eq_zero h)
  have hlt : n * (k / n) < n * q := by omega
  have hquotient : k / n + 1 ≤ q := lt_of_mul_lt_mul_left hlt hn.le
  have hmul : n * (k / n + 1) ≤ n * q := Int.mul_le_mul_of_nonneg_left hquotient hn.le
  rw [mul_add, mul_one] at hmul
  omega

omit hhour in
theorem dvd_next_multiple (k : ℤ) : n ∣ k + (n - k % n) := by
  have hdvd : n ∣ k - k % n := Int.dvd_self_sub_emod
  have hsum : k + (n - k % n) = k - k % n + n := by omega
  rw [hsum]
  exact dvd_add hdvd dvd_rfl

/-- Another week is used, of which all days are to come. -/
theorem isLeast_of_unaligned (hn : 0 < n) (hweek : ¬ n ∣ weekOf (earliest / secondsPerDay))
    (hfirst : IsLeast {day | startDay startHour earliest
      (19359 + targetWeek (earliest / secondsPerDay) n * 7) ≤ day ∧ Selected daysOfWeek day} first)
    (hnear : first < startDay startHour earliest
      (19359 + targetWeek (earliest / secondsPerDay) n * 7) + 7) :
    targetWeek (earliest / secondsPerDay) n ≤ weekOf first ∧
      IsLeast {day | AdmissibleDay daysOfWeek n startHour earliest day} first := by
  have hmodlt := Int.emod_lt_of_pos (weekOf (earliest / secondsPerDay)) hn
  rw [targetWeek, if_neg hweek] at hfirst hnear ⊢
  set target := weekOf (earliest / secondsPerDay) + (n - weekOf (earliest / secondsPerDay) % n)
    with htarget
  have hlater : earliest / secondsPerDay < 19359 + target * 7 := by
    unfold weekOf at htarget hmodlt
    omega
  have hwindow : ∀ day, 19359 + target * 7 ≤ day → earliest ≤ windowStart startHour day := by
    intro day hday
    unfold secondsPerDay at hlater
    unfold windowStart secondsPerDay
    omega
  have hstart : startDay startHour earliest (19359 + target * 7) = 19359 + target * 7 :=
    if_neg (not_lt.mpr (hwindow _ le_rfl))
  rw [hstart] at hfirst hnear
  have hfirstWeek : weekOf first = target := by
    have hge := hfirst.1.1
    unfold weekOf
    omega
  refine ⟨hfirstWeek.ge, ⟨hwindow first hfirst.1.1, hfirst.1.2, ?_⟩, fun day hday => ?_⟩
  · rw [hfirstWeek]
    exact dvd_next_multiple _
  · refine hfirst.2 ⟨?_, hday.2.1⟩
    have hle := next_multiple_le hn hweek hday.2.2 (weekOf_le_of_notBefore hhour hday.1)
    rw [← htarget] at hle
    unfold weekOf at hle
    omega

/-- The week itself is used: the day from which on the code looks is its Monday, or Tuesday. -/
theorem isLeast_iff_of_aligned (hn : 1 < n) (hweek : n ∣ weekOf (earliest / secondsPerDay))
    (hfirst : IsLeast {day | startDay startHour earliest
      (19359 + targetWeek (earliest / secondsPerDay) n * 7) ≤ day ∧ Selected daysOfWeek day} first)
    (hnear : first < startDay startHour earliest
      (19359 + targetWeek (earliest / secondsPerDay) n * 7) + 7) :
    IsLeast {day | AdmissibleDay daysOfWeek n startHour earliest day} first ↔
      (∀ day, Selected daysOfWeek day → weekOf day = weekOf (earliest / secondsPerDay) →
        weekday day ≠ 0 → earliest ≤ windowStart startHour day) ∧
      ∃ day, Selected daysOfWeek day ∧ weekOf day = weekOf (earliest / secondsPerDay) ∧
        earliest ≤ windowStart startHour day := by
  rw [targetWeek, if_pos hweek] at hfirst hnear
  set week := weekOf (earliest / secondsPerDay) with hweekEq
  set start := startDay startHour earliest (19359 + week * 7) with hstart
  have hstartLe : start ≤ 19359 + week * 7 + 1 := by
    rw [hstart, startDay]
    split <;> omega
  have hstartGe : 19359 + week * 7 ≤ start := by
    rw [hstart, startDay]
    split <;> omega
  -- The Monday is passed over exactly if its window starts before the leeway ends.
  have hmonday :
      start ≤ 19359 + week * 7 ↔ earliest ≤ windowStart startHour (19359 + week * 7) := by
    rw [hstart, startDay]
    split <;> omega
  have hlook : ∀ day, weekOf day = week → earliest ≤ windowStart startHour day → start ≤ day := by
    intro day hday hwindow
    by_cases heq : day = 19359 + week * 7
    · rw [heq] at hwindow ⊢
      exact hmonday.mpr hwindow
    · unfold weekOf at hday
      omega
  have hweekday : ∀ day, weekOf day = week → (weekday day ≠ 0 ↔ 19359 + week * 7 + 1 ≤ day) := by
    intro day hday
    unfold weekOf at hday
    unfold weekday
    omega
  constructor
  · rintro ⟨⟨hwindow, hselected, hdvd⟩, -⟩
    refine ⟨fun day hday hdayWeek hdayNe => ?_, first, hselected, ?_, hwindow⟩
    · have hle := hfirst.2 ⟨hstartLe.trans ((hweekday day hdayWeek).mp hdayNe), hday⟩
      exact hwindow.trans (windowStart_le_iff.mpr hle)
    · -- The next week is no multiple.
      have hge : week ≤ weekOf first := weekOf_le_of_notBefore hhour hwindow
      have hle : weekOf first ≤ week + 1 := by
        unfold weekOf
        omega
      by_contra hne
      have hone : weekOf first - week = 1 := by omega
      have hdvdOne := dvd_sub hdvd hweek
      rw [hone] at hdvdOne
      exact absurd (Int.le_of_dvd Int.one_pos hdvdOne) (not_le.mpr hn)
  · rintro ⟨hcome, day, hselected, hdayWeek, hwindow⟩
    have hle : first ≤ day := hfirst.2 ⟨hlook day hdayWeek hwindow, hselected⟩
    have hfirstWeek : weekOf first = week := by
      have hge := hfirst.1.1
      unfold weekOf at hdayWeek ⊢
      omega
    refine ⟨⟨?_, hfirst.1.2, hfirstWeek ▸ hweek⟩, fun other hother => hfirst.2 ⟨?_, hother.2.1⟩⟩
    · by_cases hfirstDay : weekday first = 0
      · have hfirstEq : first = 19359 + week * 7 := by
          have hnot := mt (hweekday first hfirstWeek).mpr (not_not.mpr hfirstDay)
          have hge := hfirst.1.1
          omega
        rw [hfirstEq] at hfirst ⊢
        exact hmonday.mp hfirst.1.1
      · exact hcome first hfirst.1.2 hfirstWeek hfirstDay
    · have hge : week ≤ weekOf other := weekOf_le_of_notBefore hhour hother.1
      by_cases hotherWeek : weekOf other = week
      · exact hlook other hotherWeek hother.1
      · unfold weekOf at hge hotherWeek
        omega

end AdmissibleDays

/-! ## The first admissible instant -/

section First

variable {daysOfWeek : BitVec 16} {weeks : Int64} {quietHours : QuietHoursWindow}
  {buildCompletedAt : OffsetDateTime}

theorem fromUnixTimestamp_eq_some_iff {timestamp : ℤ} {t : OffsetDateTime} :
    fromUnixTimestamp timestamp = some t ↔ t.unixNanos = timestamp * 10 ^ 9 := by
  unfold fromUnixTimestamp
  split
  · rename_i hrange
    constructor
    · intro h
      cases h
      rfl
    · intro h
      exact congrArg some (OffsetDateTime.unixNanos_injective h.symm)
  · rename_i hrange
    constructor
    · intro h
      cases h
    · intro h
      have hge := t.ge_min
      have hlt := t.lt_max
      exact absurd ⟨by omega, by omega⟩ hrange

theorem earliestStop_bounds (hcompleted : 1672617600 ≤ unixTimestamp buildCompletedAt) :
    1672617600 ≤ earliestStop buildCompletedAt ∧
      earliestStop buildCompletedAt ≤ 253402307999 := by
  have hlt := buildCompletedAt.lt_max
  unfold earliestStop autostopRequirementLeeway
  unfold unixTimestamp at hcompleted ⊢
  omega

theorem weekOf_le_of_le {t : ℤ} (h : t ≤ 253402307999) : weekOf (t / secondsPerDay) ≤ 1000000 := by
  unfold weekOf secondsPerDay
  omega

theorem searchDay_of_lt {n earliest : ℤ} {startHour : ℕ} (hn : 1 < n) :
    searchDay n startHour earliest =
      startDay startHour earliest (19359 + targetWeek (earliest / secondsPerDay) n * 7) := by
  rw [searchDay, max_eq_left hn.le, if_pos hn]

theorem searchDay_of_le {n earliest : ℤ} {startHour : ℕ} (hn : n ≤ 1) :
    searchDay n startHour earliest = startDay startHour earliest (earliest / secondsPerDay) := by
  rw [searchDay, max_eq_right hn, if_neg (lt_irrefl 1)]

/-- What the code finds is the first day, if the instant is still ahead. -/
theorem isLeast_of_ahead {n earliest first : ℤ} {startHour : ℕ} (hhour : startHour < 24)
    (hearliest : earliest ≤ 253402307999) (hahead : Ahead daysOfWeek n startHour earliest)
    (hfirst : IsLeast {day | searchDay n startHour earliest ≤ day ∧ Selected daysOfWeek day} first)
    (hnear : first < searchDay n startHour earliest + 7) :
    targetWeek (earliest / secondsPerDay) (max n 1) ≤ 1000000 ∧
      IsLeast {day | AdmissibleDay daysOfWeek (max n 1) startHour earliest day} first := by
  have hweek := weekOf_le_of_le hearliest
  by_cases hn : 1 < n
  · rw [max_eq_left hn.le]
    rw [searchDay_of_lt hn] at hfirst hnear
    by_cases haligned : n ∣ weekOf (earliest / secondsPerDay)
    · rw [targetWeek, if_pos haligned]
      exact ⟨hweek, (isLeast_iff_of_aligned hhour hn haligned hfirst hnear).mpr
        (hahead.untouched hn haligned)⟩
    · obtain ⟨hle, hleast⟩ := isLeast_of_unaligned hhour (by omega) haligned hfirst hnear
      -- An instant before the year 10000 bounds the first one.
      obtain ⟨t, ht, hadmissible⟩ := hahead.representable
      rw [hadmissible.atStart, admissible_windowStart_iff hhour, max_eq_left hn.le] at hadmissible
      have hlast : weekOf (t / secondsPerDay) ≤ 1000000 := weekOf_le_of_le (by omega)
      have hfirstLe := hleast.2 hadmissible
      refine ⟨hle.trans (le_trans ?_ hlast), hleast⟩
      unfold weekOf
      omega
  · rw [max_eq_right (not_lt.mp hn)]
    rw [searchDay_of_le (not_lt.mp hn)] at hfirst
    refine ⟨?_, isLeast_of_weekly hhour hfirst⟩
    rw [targetWeek, if_pos (one_dvd _)]
    exact hweek

/-- The function returns the first instant at which the workspace may be stopped, in whole seconds,
exactly if the instant is still ahead. -/
theorem computeMaxDeadline_first_iff (daysOfWeek : BitVec 16) (weeks : Int64)
    (quietHours : QuietHoursWindow) (buildCompletedAt : OffsetDateTime)
    (hmask : ∃ b < 7, daysOfWeek.getLsbD b = true) (hhour : quietHours.startHour < 24)
    (hcompleted : 1672617600 ≤ unixTimestamp buildCompletedAt) :
    (∃ deadline, computeMaxDeadline daysOfWeek weeks (some quietHours) buildCompletedAt =
        .ok (some deadline) ∧
      ∃ t, deadline.unixNanos = t * 10 ^ 9 ∧
        IsLeast {t | Admissible daysOfWeek weeks.toInt quietHours.startHour
          (earliestStop buildCompletedAt) t} t) ↔
    Ahead daysOfWeek weeks.toInt quietHours.startHour (earliestStop buildCompletedAt) := by
  have hearliest : 1672617600 ≤ earliestStop buildCompletedAt ∧
      earliestStop buildCompletedAt ≤ 253402307999 := earliestStop_bounds hcompleted
  obtain ⟨first, hfirst, hnear⟩ := exists_first hmask
    (searchDay weeks.toInt quietHours.startHour (earliestStop buildCompletedAt))
  constructor
  · rintro ⟨deadline, hcompute, t, hnanos, hleast⟩
    have hlt := deadline.lt_max
    refine ⟨⟨t, by omega, hleast.1⟩, fun hweeks haligned => ?_⟩
    have hmax : max weeks.toInt 1 = weeks.toInt := max_eq_left hweeks.le
    have hresult := computeMaxDeadline_eq hmask hhour hcompleted hfirst (by
      rw [hmax, targetWeek, if_pos haligned]
      exact weekOf_le_of_le hearliest.2)
    rw [hcompute] at hresult
    have hdeadline := fromUnixTimestamp_eq_some_iff.mp (Except.ok.inj hresult).symm
    have ht : t = windowStart quietHours.startHour first := by omega
    rw [ht, isLeast_admissible_iff hhour, hmax] at hleast
    rw [searchDay_of_lt hweeks] at hfirst hnear
    exact (isLeast_iff_of_aligned hhour hweeks haligned hfirst hnear).mp hleast
  · intro hahead
    obtain ⟨t, hle, ht⟩ := hahead.representable
    obtain ⟨htarget, hleast⟩ := isLeast_of_ahead hhour hearliest.2 hahead hfirst hnear
    rw [← isLeast_admissible_iff hhour] at hleast
    have hbefore := hleast.1.notBefore
    have hwithin := hleast.2 ht
    refine ⟨⟨windowStart quietHours.startHour first * 10 ^ 9, ?_, ?_⟩, ?_, _, rfl, hleast⟩
    · omega
    · omega
    · rw [computeMaxDeadline_eq hmask hhour hcompleted hfirst htarget]
      exact congrArg Except.ok (fromUnixTimestamp_eq_some_iff.mpr rfl)

/-- Noon of 2026-03-09, a Monday in a week that is not used. -/
def mondayNoon : OffsetDateTime :=
  ⟨1773057600 * 10 ^ 9, ofUnixTimestamp_ge (by decide), ofUnixTimestamp_lt (by decide)⟩

/-- Every third Saturday at three: the one of the week after the next. -/
theorem computeMaxDeadline_first_mondayNoon :
    ∃ deadline, computeMaxDeadline 0b100000#16 3 (some ⟨3, 9⟩) mondayNoon = .ok (some deadline) ∧
      ∃ t, deadline.unixNanos = t * 10 ^ 9 ∧
        IsLeast {t | Admissible 0b100000#16 (3 : Int64).toInt 3 (earliestStop mondayNoon) t} t :=
  (computeMaxDeadline_first_iff 0b100000#16 3 ⟨3, 9⟩ mondayNoon ⟨5, by decide, by decide⟩
    (by decide) (by decide)).mpr
    ⟨⟨1774666800, by decide, by decide, by decide, by unfold Selected; decide, by decide⟩,
      fun _ haligned => absurd haligned (by decide)⟩

/-- Noon of 2023-01-06, a Friday in a week that is used. -/
def fridayNoon : OffsetDateTime :=
  ⟨1673006400 * 10 ^ 9, ofUnixTimestamp_ge (by decide), ofUnixTimestamp_lt (by decide)⟩

/-- Every second Wednesday at two: the deadline is the Wednesday before the build. -/
theorem computeMaxDeadline_fridayNoon :
    (computeMaxDeadline 0b100#16 2 (some ⟨2, 8⟩) fridayNoon).map (Option.map unixTimestamp) =
        .ok (some 1672797600) ∧
      ¬ ∃ deadline, computeMaxDeadline 0b100#16 2 (some ⟨2, 8⟩) fridayNoon = .ok (some deadline) ∧
        ∃ t, deadline.unixNanos = t * 10 ^ 9 ∧
          IsLeast {t | Admissible 0b100#16 (2 : Int64).toInt 2 (earliestStop fridayNoon) t} t := by
  have hresult : (computeMaxDeadline 0b100#16 2 (some ⟨2, 8⟩) fridayNoon).map
      (Option.map unixTimestamp) = .ok (some 1672797600) := by
    decide
  refine ⟨hresult, ?_⟩
  rintro ⟨deadline, hcompute, t, hnanos, hleast⟩
  rw [hcompute] at hresult
  have htimestamp : unixTimestamp deadline = 1672797600 := Option.some.inj (Except.ok.inj hresult)
  have hbefore : 1673013600 ≤ t := hleast.1.notBefore
  unfold unixTimestamp at htimestamp
  omega

end First

end Coderd.Builds.MaxDeadline
