import Llfix.Timestamps

/-!
# The schedule of a session

`FixSessionSettings::validate` checks the schedule of the configuration, the session hands it to its
`SessionScheduleValidator`, and that looks at the clock. Together they make a schedule of the week:
a list of days and a part of the day.

Results:
1. `mem_allowedWeekdays`: the days that a list gives are those whose digits it has.
2. `isNowValidDatetime_iff`: an accepted schedule is met exactly on its days and in its part of the
   day.
3. `schedule_opens_every_week`: it opens at least once in any seven days.
4. `acceptedSchedule`: so an accepted schedule means what it says, and is never closed for good.
-/

namespace Llfix

/-! ## The settings -/

/-- The part of `FixSessionSettings` under `SCHEDULE`; -1 is what has not been configured. -/
structure ScheduleSettings where
  scheduleWeekDays : Bytes := []
  startHourUtc : Int := -1
  startMinuteUtc : Int := -1
  endHourUtc : Int := -1
  endMinuteUtc : Int := -1
deriving DecidableEq, Repr

/-- The loop over `schedule_week_days`. -/
def weekDaysWellFormed : Bool → Bytes → Bool
  | _, [] => true
  | false, ch :: rest => !(ch < '1'.toUInt8 || '7'.toUInt8 < ch) && weekDaysWellFormed true rest
  | true, ch :: rest => ch = '-'.toUInt8 && weekDaysWellFormed false rest

/-- The checks of one hour or minute. -/
def validateClockField (name limit : String) (value bound : Int) : Option String :=
  if value < -1 then some (name ++ " can't take negative values except -1")
  else if 0 ≤ value ∧ bound < value then some (name ++ " can't be greater than " ++ limit)
  else none

namespace ScheduleSettings

def startMinutes (s : ScheduleSettings) : Int := s.startHourUtc * 60 + s.startMinuteUtc

def endMinutes (s : ScheduleSettings) : Int := s.endHourUtc * 60 + s.endMinuteUtc

/-- The section `SCHEDULE` of `validate`, with the error it stores. -/
def validate (s : ScheduleSettings) : Option String :=
  if weekDaysWellFormed false s.scheduleWeekDays = false then
    some "schedule_week_days value should be dash ('-') separated digits from 1 to 7"
  else
    (validateClockField "start_hour_utc" "23" s.startHourUtc 23).or <|
    (validateClockField "end_hour_utc" "23" s.endHourUtc 23).or <|
    (validateClockField "start_minute_utc" "59" s.startMinuteUtc 59).or <|
    (validateClockField "end_minute_utc" "59" s.endMinuteUtc 59).or <|
    if s.startHourUtc ≠ -1 ∨ s.endHourUtc ≠ -1 ∨ s.startMinuteUtc ≠ -1 ∨ s.endMinuteUtc ≠ -1 then
      if s.startHourUtc = -1 ∨ s.endHourUtc = -1 ∨ s.startMinuteUtc = -1 ∨ s.endMinuteUtc = -1 then
        some ("You need to set all schedule time configs (start_hour_utc, end_hour_utc, " ++
          "start_minute_utc, end_minute_utc) at once ")
      else if s.endMinutes ≤ s.startMinutes then
        some "Schedule start time should be before schedule end time"
      else none
    else none

end ScheduleSettings

/-! ## The validator -/

/-- `SessionScheduleValidator`, with the keys of `m_allowed_weekdays`. -/
structure SessionScheduleValidator where
  startTimeInMinutesUtc : Int := 0
  endTimeInMinutesUtc : Int := 0
  sessionStartEndTimesSpecified : Bool := false
  allowedWeekdays : List Int := []
deriving DecidableEq, Repr

/-- `get_utc_current_weekday_number`. -/
def getUtcCurrentWeekdayNumber (t : Nat) : Int :=
  if (gmtime t).tmWday = 0 then 7 else (gmtime t).tmWday

namespace SessionScheduleValidator

def addAllowedWeekday (v : SessionScheduleValidator) (weekday : Int) : SessionScheduleValidator :=
  { v with allowedWeekdays := weekday :: v.allowedWeekdays }

/-- `add_allowed_weekdays_from_dash_separated_string`, from a character on. -/
def addAllowedWeekdays (v : SessionScheduleValidator) : Bool → Bytes → SessionScheduleValidator
  | _, [] => v
  | false, ch :: rest => (v.addAllowedWeekday ((ch.toNat : Int) - 48)).addAllowedWeekdays true rest
  | true, _ :: rest => v.addAllowedWeekdays false rest

def setStartAndEndTimes (v : SessionScheduleValidator)
    (startHour startMinute endHour endMinute : Int) : SessionScheduleValidator :=
  if 0 ≤ startHour ∧ 0 ≤ startMinute ∧ 0 ≤ endHour ∧ 0 ≤ endMinute then
    { v with
      sessionStartEndTimesSpecified := true
      startTimeInMinutesUtc := startHour * 60 + startMinute
      endTimeInMinutesUtc := endHour * 60 + endMinute }
  else { v with sessionStartEndTimesSpecified := false }

/-- What `FixSession::initialise` makes of the settings. -/
def ofSettings (s : ScheduleSettings) : SessionScheduleValidator :=
  let v : SessionScheduleValidator := {}
  let v :=
    if 0 < s.scheduleWeekDays.length then v.addAllowedWeekdays false s.scheduleWeekDays else v
  v.setStartAndEndTimes s.startHourUtc s.startMinuteUtc s.endHourUtc s.endMinuteUtc

/-- `is_now_valid_datetime`, which reads the clock for the date and again for the time. -/
def isNowValidDatetime (v : SessionScheduleValidator) (dateClock timeClock : Nat) : Bool :=
  if v.allowedWeekdays.isEmpty = false ∧
      v.allowedWeekdays.contains (getUtcCurrentWeekdayNumber dateClock) = false then false
  else if v.sessionStartEndTimesSpecified = false then true
  else
    let now : Int := (gmtime timeClock).tmHour * 60 + (gmtime timeClock).tmMin
    v.startTimeInMinutesUtc ≤ now && now < v.endTimeInMinutesUtc

end SessionScheduleValidator

/-! ## What a schedule means -/

/-- The weekdays, with Monday the first; 1970 began on a Thursday. -/
def weekday (t : Nat) : Nat := (t / 86400 + 3) % 7 + 1

def minuteOfDay (t : Nat) : Nat := t % 86400 / 60

namespace ScheduleSettings

/-- The schedule as its owner reads it. -/
def OpenAt (s : ScheduleSettings) (dateClock timeClock : Nat) : Prop :=
  (s.scheduleWeekDays = [] ∨ digitChar (weekday dateClock) ∈ s.scheduleWeekDays) ∧
    (s.startHourUtc = -1 ∨
      s.startMinutes ≤ minuteOfDay timeClock ∧ (minuteOfDay timeClock : Int) < s.endMinutes)

end ScheduleSettings

theorem getUtcCurrentWeekdayNumber_eq (t : Nat) : getUtcCurrentWeekdayNumber t = weekday t := by
  have hwday : (gmtime t).tmWday = (t / 86400 + 4) % 7 := rfl
  unfold getUtcCurrentWeekdayNumber weekday
  rw [hwday]
  split
  · omega
  · omega

theorem minuteOfDay_eq (t : Nat) :
    (gmtime t).tmHour * 60 + (gmtime t).tmMin = minuteOfDay t := by
  have hhour : (gmtime t).tmHour = t % 86400 / 3600 := rfl
  have hmin : (gmtime t).tmMin = t % 86400 / 60 % 60 := rfl
  rw [hhour, hmin, minuteOfDay]
  omega

/-! ## The days -/

/-- In a well-formed list the days are the digits, wherever they stand. -/
theorem mem_allowedWeekdays {looking : Bool} {weekdays : Bytes} {v : SessionScheduleValidator}
    (hformed : weekDaysWellFormed looking weekdays = true) {w : Nat} (hw : w < 10) :
    (w : Int) ∈ (v.addAllowedWeekdays looking weekdays).allowedWeekdays ↔
      (w : Int) ∈ v.allowedWeekdays ∨ digitChar w ∈ weekdays := by
  induction weekdays generalizing looking v with
  | nil =>
    cases looking with
    | false => simp [SessionScheduleValidator.addAllowedWeekdays]
    | true => simp [SessionScheduleValidator.addAllowedWeekdays]
  | cons ch rest ih =>
    cases looking with
    | false =>
      simp only [weekDaysWellFormed, Bool.and_eq_true] at hformed
      have hchar : (w : Int) = (ch.toNat : Int) - 48 ↔ digitChar w = ch := by
        rw [← UInt8.toNat_inj, toNat_digitChar hw]
        omega
      rw [SessionScheduleValidator.addAllowedWeekdays, ih hformed.2, List.mem_cons,
        SessionScheduleValidator.addAllowedWeekday, List.mem_cons, hchar]
      tauto
    | true =>
      simp only [weekDaysWellFormed, Bool.and_eq_true, decide_eq_true_eq] at hformed
      have hdash : digitChar w ≠ ch := by
        rw [hformed.1, ← UInt8.toNat_inj.ne, toNat_digitChar hw]
        exact Nat.ne_of_gt (Nat.lt_of_lt_of_le (by decide) (Nat.le_add_right 48 w))
      rw [SessionScheduleValidator.addAllowedWeekdays, ih hformed.2, List.mem_cons]
      tauto

/-! ## An accepted schedule -/

namespace ScheduleSettings

/-- What `validate` has established when it stores no error. -/
structure Accepted (s : ScheduleSettings) : Prop where
  formed : weekDaysWellFormed false s.scheduleWeekDays = true
  times : s.startHourUtc = -1 ∧ s.startMinuteUtc = -1 ∧ s.endHourUtc = -1 ∧ s.endMinuteUtc = -1 ∨
    (0 ≤ s.startHourUtc ∧ s.startHourUtc ≤ 23) ∧ (0 ≤ s.startMinuteUtc ∧ s.startMinuteUtc ≤ 59) ∧
      (0 ≤ s.endHourUtc ∧ s.endHourUtc ≤ 23) ∧ (0 ≤ s.endMinuteUtc ∧ s.endMinuteUtc ≤ 59) ∧
      s.startMinutes < s.endMinutes

theorem validateClockField_none {name limit : String} {value bound : Int}
    (h : validateClockField name limit value bound = none) :
    value = -1 ∨ 0 ≤ value ∧ value ≤ bound := by
  unfold validateClockField at h
  split at h
  · cases h
  · split at h
    · cases h
    · omega

theorem accepted_of_validate {s : ScheduleSettings} (h : s.validate = none) : s.Accepted := by
  unfold validate at h
  split at h
  · cases h
  · next hformed =>
    simp only [Option.or_eq_none_iff] at h
    obtain ⟨hstartHour, hendHour, hstartMinute, hendMinute, htimes⟩ := h
    have hstartHour' := validateClockField_none hstartHour
    have hendHour' := validateClockField_none hendHour
    have hstartMinute' := validateClockField_none hstartMinute
    have hendMinute' := validateClockField_none hendMinute
    refine ⟨by simpa using hformed, ?_⟩
    split at htimes
    · split at htimes
      · cases htimes
      · split at htimes
        · cases htimes
        · omega
    · omega

end ScheduleSettings

namespace SessionScheduleValidator

/-- The days of the validator that the session makes of its settings. -/
theorem ofSettings_allowedWeekdays (s : ScheduleSettings) :
    (ofSettings s).allowedWeekdays =
      (addAllowedWeekdays {} false s.scheduleWeekDays).allowedWeekdays := by
  have hkeeps : ∀ (v : SessionScheduleValidator) a b c d,
      (v.setStartAndEndTimes a b c d).allowedWeekdays = v.allowedWeekdays := by
    intro v a b c d
    unfold setStartAndEndTimes
    split
    · rfl
    · rfl
  unfold ofSettings
  dsimp only
  rw [hkeeps]
  cases hdays : s.scheduleWeekDays with
  | nil => rfl
  | cons ch rest => rw [if_pos (List.length_pos_of_ne_nil (List.cons_ne_nil ch rest))]

theorem isEmpty_allowedWeekdays (s : ScheduleSettings) :
    (ofSettings s).allowedWeekdays.isEmpty = s.scheduleWeekDays.isEmpty := by
  have hgrows : ∀ (rest : Bytes) (v : SessionScheduleValidator) looking,
      v.allowedWeekdays ≠ [] → (v.addAllowedWeekdays looking rest).allowedWeekdays ≠ [] := by
    intro rest
    induction rest with
    | nil =>
      intro v looking hv
      cases looking with
      | false => exact hv
      | true => exact hv
    | cons ch rest ih =>
      intro v looking hv
      cases looking with
      | false => exact ih _ true (List.cons_ne_nil _ _)
      | true => exact ih v false hv
  rw [ofSettings_allowedWeekdays]
  cases s.scheduleWeekDays with
  | nil => rfl
  | cons ch rest =>
    rw [List.isEmpty_cons, List.isEmpty_eq_false_iff]
    exact hgrows rest _ true (List.cons_ne_nil _ _)

theorem ofSettings_unspecified {s : ScheduleSettings} (h : s.startHourUtc = -1) :
    (ofSettings s).sessionStartEndTimesSpecified = false := by
  unfold ofSettings setStartAndEndTimes
  dsimp only
  rw [if_neg (by omega)]

theorem ofSettings_specified {s : ScheduleSettings} (h : 0 ≤ s.startHourUtc ∧
    0 ≤ s.startMinuteUtc ∧ 0 ≤ s.endHourUtc ∧ 0 ≤ s.endMinuteUtc) :
    (ofSettings s).sessionStartEndTimesSpecified = true ∧
      (ofSettings s).startTimeInMinutesUtc = s.startMinutes ∧
      (ofSettings s).endTimeInMinutesUtc = s.endMinutes := by
  unfold ofSettings setStartAndEndTimes
  dsimp only
  rw [if_pos h]
  exact ⟨rfl, rfl, rfl⟩

end SessionScheduleValidator

/-- A session with an accepted schedule may be connected exactly on the days of its list and within
its part of the day; the clock is read once for each. -/
theorem isNowValidDatetime_iff {s : ScheduleSettings} (h : s.validate = none)
    (dateClock timeClock : Nat) :
    (SessionScheduleValidator.ofSettings s).isNowValidDatetime dateClock timeClock = true ↔
      s.OpenAt dateClock timeClock := by
  obtain ⟨hformed, htimes⟩ := ScheduleSettings.accepted_of_validate h
  have hweekday : weekday dateClock < 10 := by
    unfold weekday
    omega
  have hdays := mem_allowedWeekdays (v := {}) hformed hweekday
  rw [← SessionScheduleValidator.ofSettings_allowedWeekdays] at hdays
  have hday : ((SessionScheduleValidator.ofSettings s).allowedWeekdays.isEmpty = false ∧
      (SessionScheduleValidator.ofSettings s).allowedWeekdays.contains
        (getUtcCurrentWeekdayNumber dateClock) = false) ↔
      ¬ (s.scheduleWeekDays = [] ∨ digitChar (weekday dateClock) ∈ s.scheduleWeekDays) := by
    rw [SessionScheduleValidator.isEmpty_allowedWeekdays, getUtcCurrentWeekdayNumber_eq,
      List.isEmpty_eq_false_iff, List.contains_eq_mem, decide_eq_false_iff_not, hdays, not_or]
    simp
  have hnow : ((gmtime timeClock).tmHour : Int) * 60 + (gmtime timeClock).tmMin =
      minuteOfDay timeClock := by
    have hminute := minuteOfDay_eq timeClock
    omega
  unfold SessionScheduleValidator.isNowValidDatetime ScheduleSettings.OpenAt
  dsimp only
  rw [hnow]
  by_cases hopen : s.scheduleWeekDays = [] ∨ digitChar (weekday dateClock) ∈ s.scheduleWeekDays
  · rw [if_neg (fun hc => hday.mp hc hopen)]
    rcases htimes with ⟨hstart, -⟩ | ⟨hsh, hsm, heh, hem, -⟩
    · rw [if_pos (SessionScheduleValidator.ofSettings_unspecified hstart)]
      exact iff_of_true rfl ⟨hopen, .inl hstart⟩
    · obtain ⟨hspecified, hstart, hend⟩ := SessionScheduleValidator.ofSettings_specified
        (s := s) ⟨hsh.1, hsm.1, heh.1, hem.1⟩
      have hunset : s.startHourUtc ≠ -1 := by omega
      rw [hspecified, if_neg Bool.true_eq_false.mp, hstart, hend, Bool.and_eq_true,
        decide_eq_true_iff, decide_eq_true_iff]
      exact ⟨fun hin => ⟨hopen, .inr hin⟩, fun hin => hin.2.resolve_left hunset⟩
  · rw [if_pos (hday.mpr hopen)]
    exact iff_of_false Bool.false_ne_true fun hin => hopen hin.1

/-- A day of the week and a minute of the day come around within seven days. -/
theorem exists_weekday_minute (now : Nat) {w minute : Nat} (hw : 1 ≤ w ∧ w ≤ 7)
    (hminute : minute < 1440) :
    ∃ t, now ≤ t ∧ t < now + 604800 ∧ weekday t = w ∧ minuteOfDay t = minute := by
  -- The week of the clock begins on a Thursday.
  obtain ⟨target, htarget⟩ : ∃ target, target = (w + 3) % 7 * 86400 + minute * 60 := ⟨_, rfl⟩
  have hlt : target < 604800 := by omega
  refine ⟨now + (target + 604800 - now % 604800) % 604800, by omega, by omega, ?_, ?_⟩
  · have hweek : (now + (target + 604800 - now % 604800) % 604800) % 604800 = target := by omega
    generalize now + (target + 604800 - now % 604800) % 604800 = t at hweek
    unfold weekday
    omega
  · have hweek : (now + (target + 604800 - now % 604800) % 604800) % 604800 = target := by omega
    generalize now + (target + 604800 - now % 604800) % 604800 = t at hweek
    unfold minuteOfDay
    omega

/-- No accepted schedule keeps its session out for good. -/
theorem schedule_opens_every_week {s : ScheduleSettings} (h : s.validate = none) (now : Nat) :
    ∃ t, now ≤ t ∧ t < now + 604800 ∧
      (SessionScheduleValidator.ofSettings s).isNowValidDatetime t t = true := by
  obtain ⟨hformed, htimes⟩ := ScheduleSettings.accepted_of_validate h
  obtain ⟨w, hw, hlisted⟩ : ∃ w, (1 ≤ w ∧ w ≤ 7) ∧
      (s.scheduleWeekDays = [] ∨ digitChar w ∈ s.scheduleWeekDays) := by
    cases hdays : s.scheduleWeekDays with
    | nil => exact ⟨1, by decide, .inl rfl⟩
    | cons ch rest =>
      rw [hdays] at hformed
      simp only [weekDaysWellFormed, Bool.and_eq_true, Bool.not_eq_true', Bool.or_eq_false_iff,
        decide_eq_false_iff_not, UInt8.lt_iff_toNat_lt] at hformed
      obtain ⟨⟨hlow, hhigh⟩, -⟩ := hformed
      have hone : '1'.toUInt8.toNat = 49 := rfl
      have hseven : '7'.toUInt8.toNat = 55 := rfl
      have hdigit : digitChar (ch.toNat - 48) = ch := by
        rw [← UInt8.toNat_inj, toNat_digitChar (by omega)]
        omega
      refine ⟨ch.toNat - 48, by omega, .inr ?_⟩
      rw [hdigit]
      exact List.mem_cons_self
  obtain ⟨minute, hminute, hin⟩ : ∃ minute : Nat, minute < 1440 ∧ (s.startHourUtc = -1 ∨
      s.startMinutes ≤ minute ∧ (minute : Int) < s.endMinutes) := by
    rcases htimes with ⟨hstart, -⟩ | ⟨hsh, hsm, heh, hem, hlt⟩
    · exact ⟨0, by decide, .inl hstart⟩
    · have hstart : s.startMinutes = s.startHourUtc * 60 + s.startMinuteUtc := rfl
      exact ⟨s.startMinutes.toNat, by omega, .inr (by omega)⟩
  obtain ⟨t, hle, hlt, hweekday, hminuteOfDay⟩ := exists_weekday_minute now hw hminute
  refine ⟨t, hle, hlt, (isNowValidDatetime_iff h t t).mpr ?_⟩
  rw [ScheduleSettings.OpenAt, hweekday, hminuteOfDay]
  exact ⟨hlisted, hin⟩

/-- A schedule that passes `validate` is met exactly on its days and in its part of the day, and is
met again and again. -/
theorem acceptedSchedule {s : ScheduleSettings} (h : s.validate = none) :
    (∀ dateClock timeClock,
      (SessionScheduleValidator.ofSettings s).isNowValidDatetime dateClock timeClock = true ↔
        s.OpenAt dateClock timeClock) ∧
      ∀ now, ∃ t, now ≤ t ∧ t < now + 604800 ∧
        (SessionScheduleValidator.ofSettings s).isNowValidDatetime t t = true :=
  ⟨isNowValidDatetime_iff h, schedule_opens_every_week h⟩

/-- From Monday to Friday, from half past eight to four. -/
def exampleSchedule : ScheduleSettings :=
  { scheduleWeekDays := text "1-2-3-4-5"
    startHourUtc := 8, startMinuteUtc := 30, endHourUtc := 16, endMinuteUtc := 0 }

theorem acceptedSchedule_weekdays :
    (∀ t, (SessionScheduleValidator.ofSettings exampleSchedule).isNowValidDatetime t t = true ↔
      exampleSchedule.OpenAt t t) ∧
    ∃ t, 951782400 ≤ t ∧ t < 951782400 + 604800 ∧
      (SessionScheduleValidator.ofSettings exampleSchedule).isNowValidDatetime t t = true := by
  have hvalid : exampleSchedule.validate = none := by decide
  exact ⟨fun t => (acceptedSchedule hvalid).1 t t, (acceptedSchedule hvalid).2 951782400⟩

end Llfix
