/-!
# The proleptic Gregorian calendar

A date is a year, a month and a day; `toDays` counts days from 1970-01-01 and `ofDays` is its
inverse. Years count on through zero and below. The months are numbered from March on the way, so
that a leap day is the last day of its year.
-/

namespace Precis.Time

/-- A day of the calendar. -/
structure Date where
  year : Int
  month : Nat
  day : Nat
  deriving DecidableEq, Repr

/-- Has a 29th of February. -/
def isLeapYear (y : Int) : Bool := y % 4 = 0 && (y % 100 ≠ 0 || y % 400 = 0)

/-- The number of days of a month. -/
def daysInMonth (y : Int) (m : Nat) : Nat :=
  if m = 2 then (if isLeapYear y then 29 else 28)
  else if m = 4 || m = 6 || m = 9 || m = 11 then 30
  else 31

namespace Date

/-- The date exists. -/
def exists? (d : Date) : Bool :=
  1 ≤ d.month && d.month ≤ 12 && 1 ≤ d.day && d.day ≤ daysInMonth d.year d.month

/-- The first day of the 400-year cycle that counting starts from: 0000-03-01. -/
def cycleStart : Int := -719468

/-- Days from the first of March to the first of the month `m`, counted from March as month 0. -/
def daysBefore (m : Int) : Int := (153 * m + 2) / 5

/-- Days from 1970-01-01 to the first of March of a year. -/
def daysToYear (y : Int) : Int := 365 * y + y / 4 - y / 100 + y / 400 + cycleStart

/-- Days since 1970-01-01. -/
def toDays (d : Date) : Int :=
  let year := if d.month ≤ 2 then d.year - 1 else d.year
  let month : Int := if d.month ≤ 2 then d.month + 9 else d.month - 3
  daysToYear year + daysBefore month + (d.day - 1)

/-- The day number `n` of the year that starts in March of `year`. -/
def ofDayOfYear (year n : Int) : Date :=
  let month := (5 * n + 2) / 153
  let day := n - daysBefore month + 1
  if month < 10 then ⟨year, (month + 3).toNat, day.toNat⟩
  else ⟨year + 1, (month - 9).toNat, day.toNat⟩

/-- The date `n` days after 1970-01-01: cycles of 400 years, then centuries, then four years at a
time, then years. The last century of a cycle and the last of four years are a day longer. -/
def ofDays (n : Int) : Date :=
  let n := n - cycleStart
  let cycle := n / 146097
  let n := n % 146097
  let century := min (n / 36524) 3
  let n := n - century * 36524
  let four := n / 1461
  let n := n % 1461
  let single := min (n / 365) 3
  ofDayOfYear (400 * cycle + 100 * century + 4 * four + single) (n - single * 365)

theorem toDays_ofDayOfYear {n : Int} (year : Int) (h : 0 ≤ n ∧ n ≤ 365) :
    (ofDayOfYear year n).toDays = daysToYear year + n := by
  unfold ofDayOfYear
  simp only
  have hday : 0 ≤ n - daysBefore ((5 * n + 2) / 153) + 1 := by simp only [daysBefore]; omega
  have hmonth : 0 ≤ (5 * n + 2) / 153 ∧ (5 * n + 2) / 153 ≤ 11 := by omega
  generalize (5 * n + 2) / 153 = m at hday hmonth
  split
  · have e : ((m + 3).toNat : Int) = m + 3 := by omega
    have le : ¬ (m + 3).toNat ≤ 2 := by omega
    have day : ((n - daysBefore m + 1).toNat : Int) = n - daysBefore m + 1 := by omega
    simp only [toDays, e, le, day, if_false, show m + 3 - 3 = m by omega]
    omega
  · have e : ((m - 9).toNat : Int) = m - 9 := by omega
    have le : (m - 9).toNat ≤ 2 := by omega
    have day : ((n - daysBefore m + 1).toNat : Int) = n - daysBefore m + 1 := by omega
    simp only [toDays, e, le, day, if_true, show m - 9 + 9 = m by omega,
      show year + 1 - 1 = year by omega]
    omega

theorem daysToYear_cycles {cycle century four single : Int} (hc : 0 ≤ century ∧ century ≤ 3)
    (hf : 0 ≤ four ∧ four ≤ 24) (hs : 0 ≤ single ∧ single ≤ 3) :
    daysToYear (400 * cycle + 100 * century + 4 * four + single)
      = 146097 * cycle + 36524 * century + 1461 * four + 365 * single + cycleStart := by
  have h4 : (400 * cycle + 100 * century + 4 * four + single) / 4
      = 100 * cycle + 25 * century + four := by omega
  have h100 : (400 * cycle + 100 * century + 4 * four + single) / 100
      = 4 * cycle + century := by omega
  have h400 : (400 * cycle + 100 * century + 4 * four + single) / 400 = cycle := by omega
  simp only [daysToYear, h4, h100, h400]
  omega

theorem toDays_ofDays (n : Int) : (ofDays n).toDays = n := by
  unfold ofDays
  simp only
  rw [toDays_ofDayOfYear _ (by omega), daysToYear_cycles (by omega) (by omega) (by omega)]
  omega

end Date

end Precis.Time
