import Mathlib.Algebra.GroupWithZero.Nat
import Mathlib.Data.List.Basic
import Mathlib.Tactic.Common

/-!
# Calendar times

The part of Python's `datetime` that timestamps in text columns go through: parsing with
`fromisoformat`, printing with `isoformat` and comparison. A time is the proleptic Gregorian ordinal
of its day, the microseconds since midnight and, when it is aware, its offset from UTC.

Where Python raises (`ValueError` on a malformed text, `TypeError` on a comparison of an aware with
a naive time) the functions here return `none`. Texts are read as CPython 3.11 and 3.12 read them,
byte by byte.

## Main definitions

* `Foundations.Datetime`: a calendar time, naive or aware.
* `Foundations.Datetime.fromisoformat`: the ISO 8601 formats that Python accepts.
* `Foundations.Datetime.le?`: the comparison `<=`, undefined between naive and aware times.
* `Foundations.Datetime.isoformat`: the canonical text.
* `Foundations.UtcTime`: a reading of a UTC clock.

## Main results

* `Foundations.Datetime.le?_isSome_iff`: exactly which comparisons are defined.
-/

namespace Foundations

/-! ### The calendar -/

/-- Leap years of the proleptic Gregorian calendar. -/
def isLeap (year : Nat) : Bool := year % 4 = 0 ∧ (year % 100 ≠ 0 ∨ year % 400 = 0)

/-- The days of a month. -/
def daysInMonth (year month : Nat) : Nat :=
  if month = 2 then (if isLeap year then 29 else 28)
  else if month = 4 ∨ month = 6 ∨ month = 9 ∨ month = 11 then 30
  else 31

/-- The days before January 1st of a year. -/
def daysBeforeYear (year : Nat) : Nat :=
  (year - 1) * 365 + (year - 1) / 4 - (year - 1) / 100 + (year - 1) / 400

/-- The days of a year before the first of a month. -/
def daysBeforeMonth (year month : Nat) : Nat :=
  ((List.range (month - 1)).map fun m => daysInMonth year (m + 1)).sum

/-- The ordinal of a date, where January 1st of year 1 is day 1. -/
def ymdToOrdinal (year month day : Nat) : Nat :=
  daysBeforeYear year + daysBeforeMonth year month + day

/-- The ordinal of December 31st of year 9999. -/
def maxOrdinal : Nat := 3652059

/-- The ordinal of a date in the supported range. -/
def dateOrdinal? (year month day : Nat) : Option Nat :=
  if 1 ≤ year ∧ year ≤ 9999 ∧ 1 ≤ month ∧ month ≤ 12 ∧ 1 ≤ day ∧ day ≤ daysInMonth year month then
    some (ymdToOrdinal year month day)
  else none

/-- The ordinal of the Monday that starts ISO week 1 of a year. -/
def isoWeek1Monday (year : Nat) : Nat :=
  let firstDay := ymdToOrdinal year 1 1
  let firstWeekday := (firstDay + 6) % 7
  if firstWeekday > 3 then firstDay - firstWeekday + 7 else firstDay - firstWeekday

/-- The ordinal of a day given by ISO year, week and weekday. -/
def isoWeekOrdinal? (year week day : Nat) : Option Nat :=
  let firstWeekday := ymdToOrdinal year 1 1 % 7
  let weeks := if firstWeekday = 4 ∨ (firstWeekday = 3 ∧ isLeap year) then 53 else 52
  if 1 ≤ year ∧ year ≤ 9999 ∧ 1 ≤ week ∧ week ≤ weeks ∧ 1 ≤ day ∧ day ≤ 7 then
    some (isoWeek1Monday year + (week - 1) * 7 + (day - 1))
  else none

/-- The month and the day of the month of the `n`-th day (from 0) of a year. -/
def monthOfYearDay (year n : Nat) : Nat → Nat × Nat
  | 0 => (1, n + 1)
  | m + 1 =>
    if daysBeforeMonth year (m + 2) ≤ n then (m + 2, n - daysBeforeMonth year (m + 2) + 1)
    else monthOfYearDay year n m

/-- Year, month and day of an ordinal. -/
def ordinalToYmd (ordinal : Nat) : Nat × Nat × Nat :=
  let n := ordinal - 1
  let n400 := n / 146097
  let n := n % 146097
  let n100 := n / 36524
  let n := n % 36524
  let n4 := n / 1461
  let n := n % 1461
  let n1 := n / 365
  let n := n % 365
  let year := n400 * 400 + n100 * 100 + n4 * 4 + n1 + 1
  -- The last day of a leap cycle is the one day that the divisions count too far.
  if n1 = 4 ∨ n100 = 4 then (year - 1, 12, 31) else (year, monthOfYearDay year n 11)

/-- The microseconds of a day. -/
def microsPerDay : Nat := 86400000000

/-- A calendar time: the ordinal of the day, the microseconds since midnight and, for an aware
time, the offset from UTC in microseconds. -/
structure Datetime where
  ordinal : Nat
  micros : Nat
  utcoffset : Option Int
  ordinal_pos : 1 ≤ ordinal
  ordinal_le : ordinal ≤ maxOrdinal
  micros_lt : micros < microsPerDay
  utcoffset_lt : ∀ o ∈ utcoffset, o.natAbs < microsPerDay

namespace Datetime

/-- The time with the given fields, if they are in range. -/
def mk? (ordinal micros : Nat) (utcoffset : Option Int) : Option Datetime :=
  if h : (1 ≤ ordinal ∧ ordinal ≤ maxOrdinal) ∧ micros < microsPerDay ∧
      ∀ o ∈ utcoffset, o.natAbs < microsPerDay then
    some ⟨ordinal, micros, utcoffset, h.1.1, h.1.2, h.2.1, h.2.2⟩
  else none

/-! ### Parsing -/

/-- The value of an ASCII digit. -/
def digit? (c : Char) : Option Nat :=
  if '0' ≤ c ∧ c ≤ '9' then some (c.toNat - '0'.toNat) else none

/-- Read exactly `n` digits in front of a text, after a number `acc`. -/
def digits : Nat → Nat → List Char → Option (Nat × List Char)
  | 0, acc, cs => some (acc, cs)
  | _ + 1, _, [] => none
  | n + 1, acc, c :: cs => (digit? c).bind fun d => digits n (acc * 10 + d) cs

/-- Read the separator `sep` if the text uses separators. -/
def separator (sep : Char) (uses : Bool) (cs : List Char) : Option (List Char) :=
  if uses then (if cs.head? = some sep then some cs.tail else none) else some cs

/-- The number of bytes of a character in UTF-8. -/
def byteCount (c : Char) : Nat := if c.toNat < 128 then 1 else c.utf8Size

/-- The bytes of a text, where each byte of a character that has several is shown as the
character. -/
def bytes (text : String) : List Char :=
  text.toList.flatMap fun c => List.replicate (byteCount c) c

/-- Where the date ends and the separator between date and time stands. -/
def separatorLocation (cs : List Char) : Nat :=
  if cs.length = 7 then 7
  else if cs[4]? = some '-' then
    if cs[5]? = some 'W' then
      if cs[8]? = some '-' then
        (if ((cs[10]?).bind digit?).isSome then 8 else 10)
      else 8
    else 10
  else if cs[4]? = some 'W' then
    let index := 7 + ((cs.drop 7).takeWhile fun c => (digit? c).isSome).length
    if index < 9 then index else if index % 2 = 0 then 7 else 8
  else 8

/-- `YYYY-MM-DD`, `YYYYMMDD`, `YYYY-Www[-D]` or `YYYYWww[D]` in front of a text; a day of the week
is read if the week ends before `length`. -/
def parseDate (length : Nat) (text : List Char) : Option Nat := do
  let (year, cs) ← digits 4 0 text
  let uses := cs.head? = some '-'
  let cs ← separator '-' uses cs
  match cs with
  | 'W' :: cs =>
    let (week, cs) ← digits 2 0 cs
    if text.length - cs.length < length then
      let cs ← separator '-' uses cs
      let (day, _) ← digits 1 0 cs
      isoWeekOrdinal? year week day
    else isoWeekOrdinal? year week 1
  | cs =>
    let (month, cs) ← digits 2 0 cs
    let cs ← separator '-' uses cs
    let (day, _) ← digits 2 0 cs
    dateOrdinal? year month day

/-- Hours, minutes, seconds and microseconds. -/
structure Clock where
  hour : Nat
  minute : Nat
  second : Nat
  micros : Nat

/-- Whether a text is left, where `next` is the character behind it. -/
def textLeft (next : Option Char) : List Char → Bool
  | [] => next.isSome
  | c :: _ => c.toNat ≠ 0

/-- Where the fields of a clock end: nothing is read any more, and text may be left, or a fraction
follows. -/
inductive ClockEnd
  | ended (left : Bool)
  | fraction (cs : List Char)

/-- At most `n` fields of two digits. The first decides whether colons stand between them. A last
character behind a field is not read, and behind the last of three fields a fraction need not have a
decimal mark. -/
def clockFields (next : Option Char) : Nat → Option Bool → List Char →
    Option (List Nat × ClockEnd)
  | 0, _, cs => some ([], .fraction cs)
  | n + 1, uses, cs => do
    let (value, cs) ← digits 2 0 cs
    match cs with
    | c :: c' :: cs =>
      let uses := uses.getD (c = ':')
      if uses ∧ c = ':' then
        let (values, clockEnd) ← clockFields next n uses (c' :: cs)
        return (value :: values, clockEnd)
      else if c = '.' ∨ c = ',' then return ([value], .fraction (c' :: cs))
      else if uses then none
      else
        let (values, clockEnd) ← clockFields next n uses (c :: c' :: cs)
        return (value :: values, clockEnd)
    | cs => return ([value], .ended (textLeft next cs))

/-- The microseconds of the digits of a fraction, with whether text is left; digits after the sixth
are dropped. -/
def parseFraction (next : Option Char) (cs : List Char) : Option (Nat × Bool) := do
  let toParse := min 6 cs.length
  let (micros, cs) ← digits toParse 0 cs
  return (micros * 10 ^ (6 - toParse),
    textLeft next (cs.dropWhile fun c => (digit? c).isSome))

/-- `HH[:MM[:SS]][.f+]`, with or without colons, and whether text is left. -/
def parseClock (next : Option Char) (cs : List Char) : Option (Clock × Bool) := do
  let (values, clockEnd) ← clockFields next 3 none cs
  let clock : Clock := ⟨values.getD 0 0, values.getD 1 0, values.getD 2 0, 0⟩
  match clockEnd with
  | .ended left => return (clock, left)
  | .fraction cs =>
    let (micros, left) ← parseFraction next cs
    return ({ clock with micros := micros }, left)

/-- The seconds of hours, minutes and seconds. -/
def Clock.seconds (clock : Clock) : Nat := (clock.hour * 60 + clock.minute) * 60 + clock.second

/-- The microseconds of hours, minutes, seconds and microseconds. -/
def Clock.toMicros (clock : Clock) : Nat := clock.seconds * 1000000 + clock.micros

/-- A time of day with an optional offset `Z` or `±HH[:MM[:SS]][.f+]`. In front of an offset text
may be left, and an offset of no seconds is UTC, whatever its fraction. -/
def parseTime (cs : List Char) : Option (Nat × Option Int) := do
  let (clock, zone) := cs.span fun c => c ≠ '+' ∧ c ≠ '-' ∧ c ≠ 'Z'
  let (clock, left) ← parseClock zone.head? clock
  if clock.hour < 24 ∧ clock.minute < 60 ∧ clock.second < 60 then
    match zone with
    | [] => if left then none else return (clock.toMicros, none)
    | 'Z' :: zone => if textLeft none zone then none else return (clock.toMicros, some 0)
    | sign :: zone =>
      let (offset, left) ← parseClock none zone
      let micros : Int := if offset.seconds = 0 then 0 else offset.toMicros
      if left then none else return (clock.toMicros, some (if sign = '-' then -micros else micros))
  else none

/-- `datetime.fromisoformat`. Only one character may stand between date and time, and where it
stands a time must follow. -/
def fromisoformat (text : String) : Option Datetime := do
  let cs := bytes text
  if cs.length < 7 then none
  else
    let n := separatorLocation cs
    let ordinal ← parseDate n cs
    match cs.drop n with
    | [] => mk? ordinal 0 none
    | c :: cs =>
      let (micros, utcoffset) ← parseTime (cs.drop (byteCount c - 1))
      mk? ordinal micros utcoffset

/-! ### Printing -/

/-- A number with leading zeros. -/
def padded (width n : Nat) : List Char :=
  let cs := Nat.toDigits 10 n
  List.replicate (width - cs.length) '0' ++ cs

theorem isDigit_of_mem_padded {c : Char} {width n : Nat} (h : c ∈ padded width n) :
    c.isDigit = true := by
  rcases List.mem_append.mp h with h | h
  · rw [List.eq_of_mem_replicate h]
    rfl
  · exact Nat.isDigit_of_mem_toDigits (by omega) (by omega) h

/-- Leading zeros do not change the number. -/
theorem ofDigitChars_padded (width n : Nat) : Nat.ofDigitChars 10 (padded width n) 0 = n := by
  have hzeros : ∀ k, Nat.ofDigitChars 10 (List.replicate k '0' ++ Nat.toDigits 10 n) 0 = n := by
    intro k
    induction k with
    | zero => exact Nat.ofDigitChars_ten_toDigits
    | succ k ih =>
      rw [List.replicate_succ, List.cons_append, Nat.ofDigitChars_cons]
      exact ih
  exact hzeros _

/-- `HH:MM` followed by the seconds and by the microseconds that `full` or their value asks for. -/
def isoClock (full : Bool) (micros : Nat) : List Char :=
  let seconds := micros / 1000000
  let fraction := micros % 1000000
  padded 2 (seconds / 3600) ++ ':' :: padded 2 (seconds / 60 % 60) ++
    (if full ∨ seconds % 60 ≠ 0 ∨ fraction ≠ 0 then ':' :: padded 2 (seconds % 60) else []) ++
    (if fraction ≠ 0 then '.' :: padded 6 fraction else [])

/-- The text of a date: `date.isoformat`. -/
def isoDate (ordinal : Nat) : List Char :=
  let (year, month, day) := ordinalToYmd ordinal
  padded 4 year ++ '-' :: padded 2 month ++ '-' :: padded 2 day

/-- `datetime.isoformat`. -/
def isoformat (d : Datetime) : String :=
  .ofList <| isoDate d.ordinal ++ 'T' :: isoClock true d.micros ++
    match d.utcoffset with
    | none => []
    | some o => (if o < 0 then '-' else '+') :: isoClock false o.natAbs

/-! ### Comparison -/

/-- The microseconds since the start of the calendar, read in the zone of the time. -/
def localMicros (d : Datetime) : Int := d.ordinal * microsPerDay + d.micros

/-- The comparison `a <= b`, which Python refuses between a naive and an aware time. -/
def le? (a b : Datetime) : Option Bool :=
  match a.utcoffset, b.utcoffset with
  | none, none => some (a.localMicros ≤ b.localMicros)
  | some o, some o' => some (a.localMicros - o ≤ b.localMicros - o')
  | _, _ => none

/-- A comparison is defined exactly when both times are naive or both are aware. -/
theorem le?_isSome_iff (a b : Datetime) :
    (a.le? b).isSome ↔ (a.utcoffset.isSome ↔ b.utcoffset.isSome) := by
  unfold le?
  cases a.utcoffset <;> cases b.utcoffset <;> simp

end Datetime

/-- A time that is aware with offset zero, as a clock read in UTC gives it. -/
def UtcTime : Type := { d : Datetime // d.utcoffset = some 0 }

namespace UtcTime

/-- Midnight of the first day of the calendar. -/
def first : UtcTime :=
  ⟨⟨1, 0, some 0, by decide, by decide, by decide, by simp [microsPerDay]⟩, rfl⟩

/-- Every aware time can be compared with the clock. -/
theorem le?_isSome_iff (a : Datetime) (now : UtcTime) :
    (a.le? now.1).isSome ↔ a.utcoffset.isSome := by
  rw [Datetime.le?_isSome_iff, now.2]
  simp

end UtcTime

end Foundations
