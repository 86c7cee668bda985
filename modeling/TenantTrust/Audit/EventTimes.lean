import Mathlib.Data.Prod.Lex
import Mathlib.Data.Rat.Floor

/-! The times of event documents, as their schema admits them and as `Date.parse` reads them. -/

namespace TenantTrust.Audit

/-- `T` or `t`, white space, or one of the characters U+2028 and U+2029. -/
inductive DateTimeSeparator where
  | letter
  | whitespace
  | lineSeparator
  deriving DecidableEq, Repr

structure CalendarDate where
  year : ℕ
  month : ℕ
  day : ℕ
  deriving DecidableEq, Repr

def isLeapYear (year : ℕ) : Bool := year % 4 = 0 && (year % 100 ≠ 0 || year % 400 = 0)

def daysOfMonths (year : ℕ) : List ℕ :=
  [31, if isLeapYear year then 29 else 28, 31, 30, 31, 30, 31, 31, 30, 31, 30, 31]

namespace CalendarDate

def valid (date : CalendarDate) : Bool :=
  date.year ≤ 9999 && 1 ≤ date.month && date.month ≤ 12 && 1 ≤ date.day &&
  date.day ≤ (daysOfMonths date.year).getD (date.month - 1) 0

/-- The days from the first of January 1970. -/
def dayNumber (date : CalendarDate) : ℤ :=
  let dayFromYear : ℤ := 365 * (date.year - 1970) + (date.year - 1969) / 4 -
    (date.year - 1901) / 100 + (date.year - 1601) / 400
  dayFromYear + ((daysOfMonths date.year).take (date.month - 1)).sum + date.day - 1

/-- A year of two digits is one from 1950 to 2049. -/
def expandYear (year : ℕ) : ℕ :=
  if year ≤ 49 then year + 2000 else if year ≤ 99 then year + 1900 else year

/-- The date that is read where no letter follows: a year that could be a day of a month is
taken for a month, with the day and the year after it. -/
def readLoosely (date : CalendarDate) : Option CalendarDate :=
  if 1 ≤ date.year ∧ date.year ≤ 31 then
    if date.year ≤ 12 then some ⟨expandYear date.day, date.year, date.month⟩ else none
  else some ⟨expandYear date.year, date.month, date.day⟩

theorem readLoosely_of_le {date : CalendarDate} (century : 100 ≤ date.year) :
    date.readLoosely = some date := by
  have notDay : ¬ (1 ≤ date.year ∧ date.year ≤ 31) := by omega
  have long : expandYear date.year = date.year := by
    unfold expandYear
    rw [if_neg (by omega), if_neg (by omega)]
  rw [readLoosely, if_neg notDay, long]

end CalendarDate

/-- A time of the format `date-time` in UTC. The milliseconds are counted from midnight, those
of a leap second from 86400000 on. -/
structure EventTime where
  date : CalendarDate
  separator : DateTimeSeparator
  milliseconds : ℚ
  dateValid : date.valid = true
  timeValid : 0 ≤ milliseconds ∧ milliseconds < 86401000
  deriving DecidableEq, Repr

namespace EventTime

/-- The place of a time among the others. -/
def instant (time : EventTime) : ℤ ×ₗ ℚ := toLex (time.date.dayNumber, time.milliseconds)

def isLeapSecond (time : EventTime) : Bool := 86400000 ≤ time.milliseconds

def readDate (time : EventTime) : Option CalendarDate :=
  match time.separator with
  | .letter => some time.date
  | .whitespace => time.date.readLoosely
  | .lineSeparator => none

/-- `Date.parse`, where `none` is `NaN`. The standard fixes what a letter separates; the rest is
how Node reads it. -/
def parse (time : EventTime) : Option ℤ :=
  if time.isLeapSecond then none
  else time.readDate.map fun date => date.dayNumber * 86400000 + ⌊time.milliseconds⌋

/-- `Date.parse` does not read the time, or reads another one. -/
def IsMisread (time : EventTime) : Prop :=
  time.isLeapSecond = true ∨ time.separator = .lineSeparator ∨
    time.separator = .whitespace ∧ time.date.year < 100

instance IsMisread.decidable (time : EventTime) : Decidable time.IsMisread :=
  inferInstanceAs (Decidable (_ ∨ _))

theorem parse_of_not_misread {time : EventTime} (read : ¬ time.IsMisread) :
    time.milliseconds < 86400000 ∧
      time.parse = some (time.date.dayNumber * 86400000 + ⌊time.milliseconds⌋) := by
  simp only [IsMisread, not_or, not_and, Bool.not_eq_true, not_lt] at read
  obtain ⟨ordinary, noLine, century⟩ := read
  refine ⟨not_le.mp (of_decide_eq_false ordinary), ?_⟩
  have date : time.readDate = some time.date := by
    unfold readDate
    cases separated : time.separator with
    | letter => rfl
    | whitespace => exact CalendarDate.readLoosely_of_le (century separated)
    | lineSeparator => exact absurd separated noLine
  rw [parse, if_neg (by rw [ordinary]; decide), date, Option.map_some]

end EventTime

def SameMillisecond (first second : EventTime) : Prop :=
  first.date.dayNumber = second.date.dayNumber ∧ ⌊first.milliseconds⌋ = ⌊second.milliseconds⌋

instance SameMillisecond.decidable (first second : EventTime) :
    Decidable (SameMillisecond first second) :=
  inferInstanceAs (Decidable (_ ∧ _))

/-- `Date.parse(first) > Date.parse(second)` -/
def parsesLater (first second : EventTime) : Bool :=
  match first.parse, second.parse with
  | some later, some earlier => earlier < later
  | _, _ => false

/-- What `Date.parse` reads does not tell which time was first: one is misread, or both are in
the same millisecond. -/
def Illegible (first second : EventTime) : Prop :=
  first.IsMisread ∨ second.IsMisread ∨ SameMillisecond first second

instance Illegible.decidable (first second : EventTime) : Decidable (Illegible first second) :=
  inferInstanceAs (Decidable (_ ∨ _ ∨ _))

theorem not_later_of_parses {first second : EventTime} (checked : parsesLater first second = false)
    (legible : Illegible first second → first.instant ≤ second.instant) :
    first.instant ≤ second.instant := by
  by_cases unclear : Illegible first second
  · exact legible unclear
  · simp only [Illegible, not_or] at unclear
    obtain ⟨firstRead, secondRead, differ⟩ := unclear
    obtain ⟨firstOrdinary, firstParsed⟩ := EventTime.parse_of_not_misread firstRead
    obtain ⟨secondOrdinary, secondParsed⟩ := EventTime.parse_of_not_misread secondRead
    rw [parsesLater, firstParsed, secondParsed] at checked
    have ordered := not_lt.mp (of_decide_eq_false checked)
    have firstLeast : 0 ≤ ⌊first.milliseconds⌋ := Int.floor_nonneg.mpr first.timeValid.1
    have secondMost : ⌊second.milliseconds⌋ < 86400000 :=
      Int.floor_lt.mpr (by exact_mod_cast secondOrdinary)
    rw [EventTime.instant, EventTime.instant, Prod.Lex.toLex_le_toLex]
    by_cases day : first.date.dayNumber = second.date.dayNumber
    · right
      rw [day] at ordered
      have floors : ⌊first.milliseconds⌋ ≤ ⌊second.milliseconds⌋ := by omega
      have apart : ⌊first.milliseconds⌋ ≠ ⌊second.milliseconds⌋ := fun same => differ ⟨day, same⟩
      exact ⟨day, (Int.floor_mono.reflect_lt (lt_of_le_of_ne floors apart)).le⟩
    · left
      dsimp only
      omega

end TenantTrust.Audit
