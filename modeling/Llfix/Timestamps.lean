import Mathlib.Algebra.GroupWithZero.Nat
import Llfix.FixUtilities

/-!
# The times in messages

A message carries the time of its sender in tag 52, as `VDSO::get_datetime_as_string` writes it. The
receiver reads it back with `is_timestamp` and `is_utc_timestamp_stale`. The calendar itself is that
of the C library: `gmtime` takes a time apart and `timegm`, which `utcSeconds` models, puts it
together again.

Results:
1. `daysToMonth_gmtime`: the two functions of the C library are inverse to each other.
2. `isTimestamp_getDatetimeAsString`, `utcSeconds_getDatetimeAsString`: what is written is read
   back.
3. `stale_getDatetimeAsString`: a message is stale exactly when it is older than allowed.
-/

namespace Llfix

/-! ## The calendar -/

/-- What `gmtime_r` fills in. -/
structure Tm where
  tmYear : Nat
  tmMon : Nat
  tmMday : Nat
  tmHour : Nat
  tmMin : Nat
  tmSec : Nat
  tmWday : Nat
deriving DecidableEq, Repr

/-- The days since 0000-03-01, taken apart into the 400 years, the century, the four years and the
year they lie in. Years start in March here, so that the leap day is the last day of a year. -/
structure DayCount where
  era : Nat
  century : Nat
  cycle : Nat
  year : Nat
  dayOfYear : Nat
deriving DecidableEq, Repr

def dayCount (days : Nat) : DayCount :=
  let dayOfEra := days % 146097
  -- the last century, and the last year of four, have a day more
  let century := min (dayOfEra / 36524) 3
  let dayOfCentury := dayOfEra - century * 36524
  let dayOfCycle := dayOfCentury % 1461
  let year := min (dayOfCycle / 365) 3
  { era := days / 146097
    century
    cycle := dayOfCentury / 1461
    year
    dayOfYear := dayOfCycle - year * 365 }

/-- `gmtime_r`, for the times from 1970 on. -/
def gmtime (t : Nat) : Tm :=
  let days := t / 86400
  let second := t % 86400
  let count := dayCount (days + 719468)
  let month := (5 * count.dayOfYear + 2) / 153
  let year := count.era * 400 + count.century * 100 + count.cycle * 4 + count.year
  { tmYear := (if 10 ≤ month then year + 1 else year) - 1900
    tmMon := if 10 ≤ month then month - 10 else month + 2
    tmMday := count.dayOfYear - (153 * month + 2) / 5 + 1
    tmHour := second / 3600
    tmMin := second / 60 % 60
    tmSec := second % 60
    tmWday := (days + 4) % 7 }

example : gmtime 951782400 =
    { tmYear := 100, tmMon := 1, tmMday := 29, tmHour := 0, tmMin := 0, tmSec := 0,
      tmWday := 2 } := by
  decide

/-- The days are put together again. -/
theorem dayCount_spec {days : Nat} {c : DayCount} (h : dayCount days = c) :
    days = c.era * 146097 + c.century * 36524 + c.cycle * 1461 + c.year * 365 + c.dayOfYear ∧
      c.century ≤ 3 ∧ c.cycle ≤ 24 ∧ c.year ≤ 3 ∧ c.dayOfYear ≤ 365 := by
  subst h
  simp only [dayCount]
  have hera := Nat.div_add_mod days 146097
  have hdayOfEra : days % 146097 < 146097 := Nat.mod_lt _ (by decide)
  generalize days % 146097 = dayOfEra at *
  generalize days / 146097 = era at *
  omega

/-- The months of a year that starts in March. -/
theorem monthOfDay_spec {dayOfYear : Nat} (h : dayOfYear ≤ 365) :
    (5 * dayOfYear + 2) / 153 ≤ 11 ∧
      (153 * ((5 * dayOfYear + 2) / 153) + 2) / 5 ≤ dayOfYear ∧
      dayOfYear - (153 * ((5 * dayOfYear + 2) / 153) + 2) / 5 ≤ 30 := by
  omega

/-- `timegm` reads a date in the count of years that starts in March. -/
theorem daysToMonth_march (era : Nat) {century cycle year month : Nat} (hcentury : century ≤ 3)
    (hcycle : cycle ≤ 24) (hyear : year ≤ 3) (hmonth : month ≤ 11) :
    let y := era * 400 + century * 100 + cycle * 4 + year
    daysToMonth (if 10 ≤ month then y + 1 else y) (if 10 ≤ month then month - 9 else month + 3) =
      ((era * 146097 + century * 36524 + cycle * 1461 + year * 365 + (153 * month + 2) / 5 : Nat) :
        Int) - 719468 := by
  intro y
  have hyears : y + 400 = (era + 1) * 400 + (century * 100 + cycle * 4 + year) := by
    simp only [y]
    omega
  have hera : (y + 400) / 400 = era + 1 := by omega
  have hyearOfEra : (y + 400) % 400 = century * 100 + cycle * 4 + year := by omega
  have hfours : (century * 100 + cycle * 4 + year) / 4 = century * 25 + cycle := by omega
  have hcenturies : (century * 100 + cycle * 4 + year) / 100 = century := by omega
  unfold daysToMonth
  by_cases hlate : 10 ≤ month
  · have hsum : y + 1 + 399 = y + 400 := by omega
    have hmonth' : month - 9 + 9 = month := by omega
    simp only [if_pos hlate, if_pos (show month - 9 ≤ 2 by omega), hsum, hmonth', hera, hyearOfEra,
      hfours, hcenturies]
    omega
  · simp only [if_neg hlate, if_neg (show ¬ month + 3 ≤ 2 by omega), Nat.add_sub_cancel, hera,
      hyearOfEra, hfours, hcenturies]
    omega

section Gmtime

variable (t : Nat)

/-- `timegm` finds the day that `gmtime_r` took apart. -/
theorem daysToMonth_gmtime :
    daysToMonth ((gmtime t).tmYear + 1900) ((gmtime t).tmMon + 1) + (gmtime t).tmMday - 1 =
      ((t / 86400 : Nat) : Int) := by
  dsimp only [gmtime]
  generalize hcount : dayCount (t / 86400 + 719468) = c
  obtain ⟨hdays, hcentury, hcycle, hyear, hdayOfYear⟩ := dayCount_spec hcount
  obtain ⟨hmonth, hfirst, -⟩ := monthOfDay_spec hdayOfYear
  have hmarch := daysToMonth_march c.era hcentury hcycle hyear hmonth
  generalize (5 * c.dayOfYear + 2) / 153 = month at *
  -- The year 1970 is late enough for the count from 1900.
  have hlate : 1900 ≤ c.era * 400 + c.century * 100 + c.cycle * 4 + c.year := by omega
  have hyears : (if 10 ≤ month then c.era * 400 + c.century * 100 + c.cycle * 4 + c.year + 1
      else c.era * 400 + c.century * 100 + c.cycle * 4 + c.year) - 1900 + 1900 =
      if 10 ≤ month then c.era * 400 + c.century * 100 + c.cycle * 4 + c.year + 1
      else c.era * 400 + c.century * 100 + c.cycle * 4 + c.year := by
    split
    · omega
    · omega
  have hmonths : (if 10 ≤ month then month - 10 else month + 2) + 1 =
      if 10 ≤ month then month - 9 else month + 3 := by
    split
    · omega
    · rfl
  rw [hyears, hmonths, hmarch]
  omega

theorem gmtime_month : (gmtime t).tmMon ≤ 11 := by
  dsimp only [gmtime]
  generalize hcount : dayCount (t / 86400 + 719468) = c
  obtain ⟨-, -, -, -, hdayOfYear⟩ := dayCount_spec hcount
  obtain ⟨hmonth, -, -⟩ := monthOfDay_spec hdayOfYear
  split
  · omega
  · omega

theorem gmtime_day : 1 ≤ (gmtime t).tmMday ∧ (gmtime t).tmMday ≤ 31 := by
  dsimp only [gmtime]
  generalize hcount : dayCount (t / 86400 + 719468) = c
  obtain ⟨-, -, -, -, hdayOfYear⟩ := dayCount_spec hcount
  obtain ⟨-, -, hday⟩ := monthOfDay_spec hdayOfYear
  omega

/-- Four digits are enough up to the end of the year 9999. -/
theorem gmtime_year {t : Nat} (h : t < 253402300800) : (gmtime t).tmYear + 1900 ≤ 9999 := by
  dsimp only [gmtime]
  generalize hcount : dayCount (t / 86400 + 719468) = c
  obtain ⟨hdays, hcentury, hcycle, hyear, hdayOfYear⟩ := dayCount_spec hcount
  obtain ⟨hmonth, hfirst, -⟩ := monthOfDay_spec hdayOfYear
  split
  · omega
  · omega

theorem gmtime_time : (gmtime t).tmHour ≤ 23 ∧ (gmtime t).tmMin ≤ 59 ∧ (gmtime t).tmSec ≤ 59 ∧
    (gmtime t).tmHour * 3600 + (gmtime t).tmMin * 60 + (gmtime t).tmSec = t % 86400 := by
  dsimp only [gmtime]
  omega

end Gmtime

/-! ## The text -/

inductive SubsecondPrecision
  | nanoseconds
  | microseconds
  | milliseconds
  | none
deriving DecidableEq, Repr

/-- `'0' + n`. -/
def digitChar (n : Nat) : UInt8 := UInt8.ofNat (48 + n)

def writeTwoDigits (val : Nat) : Bytes := [digitChar (val / 10), digitChar (val % 10)]

def writeFourDigits (val : Nat) : Bytes :=
  [digitChar (val / 1000 % 10), digitChar (val / 100 % 10), digitChar (val / 10 % 10),
    digitChar (val % 10)]

/-- The loop `for (int i = 10^(digits-1); i > 0; i /= 10)`. -/
def writeSubseconds (digits subseconds : Nat) : Bytes :=
  (List.range digits).reverse.map fun k => digitChar (subseconds / 10 ^ k % 10)

/-- The subseconds of a time in nanoseconds since the epoch, behind their point. -/
def subsecondsText (precision : SubsecondPrecision) (now : Nat) : Bytes :=
  match precision with
  | .nanoseconds => '.'.toUInt8 :: writeSubseconds 9 (now % 1000000000)
  | .microseconds => '.'.toUInt8 :: writeSubseconds 6 (now / 1000 % 1000000)
  | .milliseconds => '.'.toUInt8 :: writeSubseconds 3 (now / 1000000 % 1000)
  | .none => []

/-- `get_datetime_as_string<true, precision>`, at a time in nanoseconds since the epoch. -/
def getDatetimeAsString (precision : SubsecondPrecision) (now : Nat) : Bytes :=
  let tm := gmtime (now / 1000000000)
  writeFourDigits (tm.tmYear + 1900) ++ writeTwoDigits (tm.tmMon + 1) ++
    writeTwoDigits tm.tmMday ++ '-'.toUInt8 :: writeTwoDigits tm.tmHour ++
    ':'.toUInt8 :: writeTwoDigits tm.tmMin ++ ':'.toUInt8 :: writeTwoDigits tm.tmSec ++
    subsecondsText precision now

example : getDatetimeAsString .milliseconds 951782400012345678 = text "20000229-00:00:00.012" := by
  decide +kernel

/-! ## Reading it back -/

theorem toNat_digitChar {n : Nat} (h : n < 10) : (digitChar n).toNat = 48 + n := by
  have hdigits : ∀ n < 10, (digitChar n).toNat = 48 + n := by decide
  exact hdigits n h

theorem isDigit_digitChar {n : Nat} (h : n < 10) : isDigit (digitChar n) = true := by
  have hdigits : ∀ n < 10, isDigit (digitChar n) = true := by decide
  exact hdigits n h

theorem digitChar_sub {n : Nat} (h : n < 10) : (digitChar n - 48).toNat = n := by
  have hdigits : ∀ n < 10, (digitChar n - 48).toNat = n := by decide
  exact hdigits n h

/-- The value of two characters, as both readers compute it. -/
theorem twoDigits_value {n : Nat} (h : n < 100) :
    (digitChar (n / 10) - 48).toNat * 10 + (digitChar (n % 10) - 48).toNat = n := by
  rw [digitChar_sub (Nat.div_lt_of_lt_mul h), digitChar_sub (Nat.mod_lt _ (by decide))]
  exact Nat.div_add_mod' n 10

theorem subsecondsText_cases (precision : SubsecondPrecision) (now : Nat) :
    subsecondsText precision now = [] ∨
      ∃ digits, subsecondsText precision now = '.'.toUInt8 :: digits ∧
        digits.all isDigit = true := by
  have hdigits : ∀ n subseconds, (writeSubseconds n subseconds).all isDigit = true := by
    intro n subseconds
    rw [writeSubseconds, List.all_map, List.all_eq_true]
    exact fun k _ => isDigit_digitChar (Nat.mod_lt _ (by decide))
  cases precision with
  | nanoseconds => exact .inr ⟨_, rfl, hdigits _ _⟩
  | microseconds => exact .inr ⟨_, rfl, hdigits _ _⟩
  | milliseconds => exact .inr ⟨_, rfl, hdigits _ _⟩
  | none => exact .inl rfl

section Read

variable (year month day hour minute second : Nat) (rest : Bytes)

/-- A date and a time of day, with what follows them. -/
def datetimeText : Bytes :=
  writeFourDigits year ++ writeTwoDigits month ++ writeTwoDigits day ++ '-'.toUInt8 ::
    writeTwoDigits hour ++ ':'.toUInt8 :: writeTwoDigits minute ++ ':'.toUInt8 ::
    writeTwoDigits second ++ rest

variable {year month day hour minute second}

/-- The reader finds the fields where they were written. -/
theorem utcSeconds_datetimeText (hyear : year ≤ 9999) (hmonth : month < 100) (hday : day < 100)
    (hhour : hour < 100) (hminute : minute < 100) (hsecond : second < 100) :
    utcSeconds (datetimeText year month day hour minute second rest) =
      (daysToMonth year month + day - 1) * 86400 + hour * 3600 + minute * 60 + second := by
  have hcentury : (digitChar (year / 1000 % 10) - 48).toNat * 10 +
      (digitChar (year / 100 % 10) - 48).toNat = year / 100 := by
    rw [digitChar_sub (Nat.mod_lt _ (by decide)), digitChar_sub (Nat.mod_lt _ (by decide))]
    omega
  have hyears : (digitChar (year / 10 % 10) - 48).toNat * 10 +
      (digitChar (year % 10) - 48).toNat = year % 100 := by
    rw [digitChar_sub (Nat.mod_lt _ (by decide)), digitChar_sub (Nat.mod_lt _ (by decide))]
    omega
  have hread : ∀ buffer : Bytes,
      buffer = datetimeText year month day hour minute second rest →
      twoDigits buffer 0 = year / 100 ∧ twoDigits buffer 2 = year % 100 ∧
        twoDigits buffer 4 = month ∧ twoDigits buffer 6 = day ∧ twoDigits buffer 9 = hour ∧
        twoDigits buffer 12 = minute ∧ twoDigits buffer 15 = second := by
    rintro _ rfl
    exact ⟨hcentury, hyears, twoDigits_value hmonth, twoDigits_value hday, twoDigits_value hhour,
      twoDigits_value hminute, twoDigits_value hsecond⟩
  obtain ⟨h0, h2, h4, h6, h9, h12, h15⟩ := hread _ rfl
  have hjoined : year / 100 * 100 + year % 100 = year := Nat.div_add_mod' year 100
  dsimp only [utcSeconds]
  rw [h0, h2, h4, h6, h9, h12, h15, hjoined]

/-- The other reader accepts them, when they are in their ranges. -/
theorem isTimestamp_datetimeText (hmonth : 1 ≤ month ∧ month ≤ 12) (hday : 1 ≤ day ∧ day ≤ 31)
    (hhour : hour ≤ 23) (hminute : minute ≤ 59) (hsecond : second ≤ 59)
    (hrest : rest = [] ∨ ∃ digits, rest = '.'.toUInt8 :: digits ∧ digits.all isDigit = true) :
    isTimestamp (datetimeText year month day hour minute second rest) = true := by
  have hunder : ∀ n bound, n ≤ bound → bound < 100 → n < 100 := fun _ _ => Nat.lt_of_le_of_lt
  have hmod : ∀ n, isDigit (digitChar (n % 10)) = true :=
    fun n => isDigit_digitChar (Nat.mod_lt _ (by decide))
  have hdiv : ∀ n < 100, isDigit (digitChar (n / 10)) = true :=
    fun n h => isDigit_digitChar (Nat.div_lt_of_lt_mul h)
  have hmonth' := hunder _ 12 hmonth.2 (by decide)
  have hday' := hunder _ 31 hday.2 (by decide)
  have hhour' := hunder _ 23 hhour (by decide)
  have hminute' := hunder _ 59 hminute (by decide)
  have hsecond' := hunder _ 59 hsecond (by decide)
  have hdigits : [0, 1, 2, 3, 4, 5, 6, 7, 9, 10, 12, 13, 15, 16].all (fun i =>
      isDigit ((datetimeText year month day hour minute second rest).getD i 0)) = true := by
    simp only [datetimeText, writeFourDigits, writeTwoDigits, List.cons_append, List.nil_append,
      List.all_cons, List.all_nil, List.getD_cons_zero, List.getD_cons_succ, hmod,
      hdiv _ hmonth', hdiv _ hday', hdiv _ hhour', hdiv _ hminute', hdiv _ hsecond', Bool.and_self]
  have hfields : ∀ buffer : Bytes,
      buffer = datetimeText year month day hour minute second rest →
      buffer.length = 17 + rest.length ∧ buffer.getD 8 0 = '-'.toUInt8 ∧
        buffer.getD 11 0 = ':'.toUInt8 ∧ buffer.getD 14 0 = ':'.toUInt8 ∧
        twoDigits buffer 4 = month ∧ twoDigits buffer 6 = day ∧ twoDigits buffer 9 = hour ∧
        twoDigits buffer 12 = minute ∧ twoDigits buffer 15 = second := by
    rintro _ rfl
    refine ⟨?_, rfl, rfl, rfl, twoDigits_value hmonth', twoDigits_value hday',
      twoDigits_value hhour', twoDigits_value hminute', twoDigits_value hsecond'⟩
    simp only [datetimeText, writeFourDigits, writeTwoDigits, List.length_append, List.length_cons,
      List.length_nil]
  have hbehind : (rest.length = 0 ||
      (rest.getD 0 0 = '.'.toUInt8 && (rest.drop 1).all isDigit)) = true := by
    rcases hrest with rfl | ⟨digits, rfl, hall⟩
    · rfl
    · simp [hall]
  obtain ⟨hlength, h8, h11, h14, h4, h6, h9, h12, h15⟩ := hfields _ rfl
  have hlong : 17 ≤ 17 + rest.length := Nat.le_add_right 17 _
  have hexact : (17 + rest.length = 17) = (rest.length = 0) := by simp
  have h17 : (datetimeText year month day hour minute second rest).getD 17 0 = rest.getD 0 0 := rfl
  have h18 : (datetimeText year month day hour minute second rest).drop 18 = rest.drop 1 := rfl
  unfold isTimestamp
  simp only [hdigits, h17, h18, h8, h11, h14, h4, h6, h9, h12, h15, hlength, hlong, hexact, hbehind,
    hmonth, hday, hhour, hminute, hsecond, decide_true, Bool.and_self]

end Read

section Stamp

variable (precision : SubsecondPrecision) (now : Nat)

theorem getDatetimeAsString_eq : getDatetimeAsString precision now =
    datetimeText ((gmtime (now / 1000000000)).tmYear + 1900)
      ((gmtime (now / 1000000000)).tmMon + 1) (gmtime (now / 1000000000)).tmMday
      (gmtime (now / 1000000000)).tmHour (gmtime (now / 1000000000)).tmMin
      (gmtime (now / 1000000000)).tmSec (subsecondsText precision now) := rfl

theorem isTimestamp_getDatetimeAsString :
    isTimestamp (getDatetimeAsString precision now) = true := by
  obtain ⟨hhour, hminute, hsecond, -⟩ := gmtime_time (now / 1000000000)
  rw [getDatetimeAsString_eq]
  exact isTimestamp_datetimeText _ ⟨Nat.le_add_left 1 _, Nat.succ_le_succ (gmtime_month _)⟩
    (gmtime_day _) hhour hminute hsecond (subsecondsText_cases precision now)

variable {now}

/-- Up to the year 9999 the seconds of the time are read back. -/
theorem utcSeconds_getDatetimeAsString (h : now / 1000000000 < 253402300800) :
    utcSeconds (getDatetimeAsString precision now) = ((now / 1000000000 : Nat) : Int) := by
  obtain ⟨hhour, hminute, hsecond, htime⟩ := gmtime_time (now / 1000000000)
  have hdays := daysToMonth_gmtime (now / 1000000000)
  have hmonth := gmtime_month (now / 1000000000)
  have hday := gmtime_day (now / 1000000000)
  rw [getDatetimeAsString_eq, utcSeconds_datetimeText _ (gmtime_year h) (by omega) (by omega)
    (by omega) (by omega) (by omega), hdays]
  omega

end Stamp

/-- A message that was stamped at `sent` passes the check of its age exactly as long as it is no
older, in whole seconds, than the receiver allows. -/
theorem stale_getDatetimeAsString (precision : SubsecondPrecision) {sent : Nat}
    (h : sent / 1000000000 < 253402300800) (now : Int) (maxAllowedAgeSeconds : Nat) :
    isTimestamp (getDatetimeAsString precision sent) = true ∧
      (isUtcTimestampStale (getDatetimeAsString precision sent) now maxAllowedAgeSeconds = true ↔
        maxAllowedAgeSeconds < now - ((sent / 1000000000 : Nat) : Int)) := by
  refine ⟨isTimestamp_getDatetimeAsString precision sent, ?_⟩
  have hread := utcSeconds_getDatetimeAsString precision h
  rw [isUtcTimestampStale, hread]
  simp only [Bool.or_eq_true, decide_eq_true_eq]
  -- A time from 1970 on is not the -1 of a failure.
  omega

/-- A message of the leap day 2000 that is read a minute and a second later. -/
theorem stale_getDatetimeAsString_leapDay :
    isUtcTimestampStale (text "20000229-00:00:00.012") 951782461 60 = true ∧
      isUtcTimestampStale (text "20000229-00:00:00.012") 951782460 60 = false := by
  have htext : getDatetimeAsString .milliseconds 951782400012345678 =
      text "20000229-00:00:00.012" := by decide +kernel
  have hyear : 951782400012345678 / 1000000000 < 253402300800 := by decide
  have hlater := (stale_getDatetimeAsString .milliseconds hyear 951782461 60).2
  have hsooner := (stale_getDatetimeAsString .milliseconds hyear 951782460 60).2
  rw [htext] at hlater hsooner
  exact ⟨hlater.mpr (by decide), Bool.eq_false_iff.mpr fun h => absurd (hsooner.mp h) (by decide)⟩

end Llfix
