import Precis.Proofs.Text.Digits
import Precis.Time.Rfc3339

/-!
# Reading written timestamps

`read?_write`: the text of a timestamp reads back as the timestamp, for every second of the range,
its nanoseconds, leap seconds, and years of any sign. The parts of the text are read one after the
other; each lemma leaves open what follows its part. That the date exists is a fact about the
calendar (`exists?_ofDays`): the 29th of February is the last day of a year that starts in March.
-/

namespace Precis.Time

open Text

/-! ## The calendar -/

namespace Date

/-- Every day of a year that starts in March is a date; the 366th only before a leap year's
March. -/
theorem exists?_ofDayOfYear {year n : Int} (h : 0 ≤ n ∧ n ≤ 365)
    (hleap : n = 365 → isLeapYear (year + 1) = true) : (ofDayOfYear year n).exists? = true := by
  have hmonth : 0 ≤ (5 * n + 2) / 153 ∧ (5 * n + 2) / 153 ≤ 11 := by omega
  have hday : daysBefore ((5 * n + 2) / 153) ≤ n := by simp only [daysBefore]; omega
  have hnext : n < daysBefore ((5 * n + 2) / 153 + 1) := by simp only [daysBefore]; omega
  unfold ofDayOfYear
  generalize (5 * n + 2) / 153 = m at hmonth hday hnext
  have hcases : m = 0 ∨ m = 1 ∨ m = 2 ∨ m = 3 ∨ m = 4 ∨ m = 5 ∨ m = 6 ∨ m = 7 ∨ m = 8 ∨ m = 9 ∨
      m = 10 ∨ m = 11 := by omega
  rcases hcases with rfl | rfl | rfl | rfl | rfl | rfl | rfl | rfl | rfl | rfl | rfl | rfl
  case inr.inr.inr.inr.inr.inr.inr.inr.inr.inr.inr =>
    -- February: its last day is the 366th of the year, if there is one
    by_cases hlast : n = 365
    · subst hlast
      simp [exists?, daysInMonth, daysBefore, hleap rfl]
    · simp only [daysBefore, exists?, daysInMonth] at *
      simp
      split <;> omega
  all_goals
    simp [exists?, daysInMonth, daysBefore] at *
    omega

/-- The last of four years is a leap year, except the last one of a century that is not the last of
its cycle. -/
theorem isLeapYear_of_cycles {cycle century four : Int} (hc : 0 ≤ century ∧ century ≤ 3)
    (hf : 0 ≤ four ∧ four ≤ 24) (h : four < 24 ∨ century = 3) :
    isLeapYear (400 * cycle + 100 * century + 4 * four + 3 + 1) = true := by
  simp only [isLeapYear, Bool.and_eq_true, Bool.or_eq_true, decide_eq_true_eq]
  refine ⟨by omega, ?_⟩
  rcases h with h | rfl
  · left
    omega
  · -- only the last four years of a century may do without a leap year
    by_cases hlast : four < 24
    · left
      omega
    · right
      omega

theorem exists?_ofDays (n : Int) : (ofDays n).exists? = true := by
  unfold ofDays
  simp only
  refine exists?_ofDayOfYear (by omega) ?_
  -- the 366th day only comes in the last of four years
  intro hlast
  have hsingle :
      min (((n - cycleStart) % 146097 - min ((n - cycleStart) % 146097 / 36524) 3 * 36524)
      % 1461 / 365) 3 = 3 := by omega
  rw [hsingle]
  exact isLeapYear_of_cycles (by omega) (by omega) (by omega)

theorem year_ofDayOfYear (year n : Int) :
    year ≤ (ofDayOfYear year n).year ∧ (ofDayOfYear year n).year ≤ year + 1 := by
  unfold ofDayOfYear
  simp only
  split
  · simp only
    omega
  · simp only
    omega

/-- The years in which the days of the range of timestamps lie. -/
theorem year_ofDays {n : Int} (h : -96465293 ≤ n ∧ n ≤ 95026237) :
    -262150 ≤ (ofDays n).year ∧ (ofDays n).year ≤ 262150 := by
  unfold ofDays
  simp only [cycleStart]
  have hyear := year_ofDayOfYear
    (400 * ((n - -719468) / 146097) + 100 * min ((n - -719468) % 146097 / 36524) 3
      + 4 * (((n - -719468) % 146097 - min ((n - -719468) % 146097 / 36524) 3 * 36524) / 1461)
      + min (((n - -719468) % 146097 - min ((n - -719468) % 146097 / 36524) 3 * 36524)
        % 1461 / 365) 3)
    (((n - -719468) % 146097 - min ((n - -719468) % 146097 / 36524) 3 * 36524) % 1461
      - min (((n - -719468) % 146097 - min ((n - -719468) % 146097 / 36524) 3 * 36524)
        % 1461 / 365) 3 * 365)
  omega

end Date

namespace Timestamp

/-! ## Numbers -/

theorem spanDigitsUpTo_append {k : Nat} {ds rest : List Char} (hds : ∀ c ∈ ds, c.isDigit = true)
    (hlen : ds.length ≤ k) (hrest : NoDigit rest) : spanDigitsUpTo k (ds ++ rest) = (ds, rest) := by
  have hnext : NoDigit (rest.take (k - ds.length)) := by
    intro c hc
    rw [List.head?_take] at hc
    split at hc
    · cases hc
    · exact hrest c hc
  rw [spanDigitsUpTo, List.take_append, List.take_of_length_le hlen, takeWhile_digits hds hnext,
    List.drop_left]

theorem digitsAt_append {k : Nat} {ds rest : List Char} (hds : ∀ c ∈ ds, c.isDigit = true)
    (hne : ds ≠ []) (hlen : ds.length ≤ k) (hvalue : ofDigits ds < Nat.pow 2 63)
    (hrest : NoDigit rest) : digitsAt k (ds ++ rest) = some (ofDigits ds, rest) := by
  rw [digitsAt, spanDigitsUpTo_append hds hlen hrest]
  cases ds with
  | nil => exact absurd rfl hne
  | cons c ds => exact if_pos hvalue

theorem paddedDigits_ne_nil (w n : Nat) : paddedDigits w n ≠ [] := by
  intro h
  exact decimalDigits_ne_nil n (List.append_eq_nil_iff.1 h).2

theorem digitsAt_paddedDigits {k w n : Nat} (hlen : (paddedDigits w n).length ≤ k)
    (hvalue : n < Nat.pow 2 63) {rest : List Char} (hrest : NoDigit rest) :
    digitsAt k (paddedDigits w n ++ rest) = some (n, rest) := by
  have h := digitsAt_append (isDigit_of_mem_paddedDigits w n) (paddedDigits_ne_nil w n) hlen
    (by rw [ofDigits_paddedDigits]; exact hvalue) hrest
  rw [h, ofDigits_paddedDigits]

/-- Digits start with no other character. -/
theorem paddedDigits_append_ne (w n : Nat) (rest : List Char) {c : Char} (hc : c.isDigit = false)
    (s : List Char) : paddedDigits w n ++ rest ≠ c :: s := by
  intro h
  cases hds : paddedDigits w n with
  | nil => exact paddedDigits_ne_nil w n hds
  | cons d ds =>
    rw [hds, List.cons_append] at h
    have hd := isDigit_of_mem_paddedDigits w n d (by rw [hds]; exact List.mem_cons_self)
    rw [(List.cons.inj h).1, hc] at hd
    cases hd

/-- Two digits are read as the number that they were written for. -/
theorem numberAt_paddedDigits {low high n : Nat} (h : low ≤ n ∧ n ≤ high) (hn : n < 100)
    {rest : List Char} (hrest : NoDigit rest) :
    numberAt low high (paddedDigits 2 n ++ rest) = some (n, rest) := by
  have hpow : Nat.pow 2 63 = 9223372036854775808 := by decide
  have hread : digitsAt 2 (paddedDigits 2 n ++ rest) = some (n, rest) :=
    digitsAt_paddedDigits (Nat.le_of_eq (length_paddedDigits hn (by decide))) (by omega) hrest
  rw [numberAt, trimStart_digits (isDigit_of_mem_paddedDigits 2 n) (paddedDigits_ne_nil 2 n), hread]
  simp [h]

theorem noDigit_cons {c : Char} (h : c.isDigit = false) (s : List Char) : NoDigit (c :: s) := by
  intro d hd
  cases hd
  exact h

theorem separatorAt_cons {c : Char} (h : isBlank c = false) (s : List Char) :
    separatorAt c (c :: s) = some s := by
  rw [separatorAt, trimStart_cons h]
  exact if_pos rfl

/-! ## Years and fractions -/

theorem yearAt_writeYear {y : Int} (hy : -262150 ≤ y ∧ y ≤ 262150) {rest : List Char}
    (hrest : NoDigit rest) : yearAt (writeYear y ++ rest) = some (y, rest) := by
  have hpow : Nat.pow 2 63 = 9223372036854775808 := by decide
  have hsigned : ∀ n, n < Nat.pow 2 63 →
      digitsAt (paddedDigits 4 n ++ rest).length (paddedDigits 4 n ++ rest) = some (n, rest) := by
    intro n hn
    refine digitsAt_paddedDigits ?_ hn hrest
    rw [List.length_append]
    omega
  rw [writeYear]
  split
  · -- four digits, which start with neither sign
    rename_i hfour
    simp only [Bool.and_eq_true, decide_eq_true_eq] at hfour
    have hlt : y.toNat < Nat.pow 10 4 := by
      have hten : Nat.pow 10 4 = 10000 := by decide
      omega
    have hread : digitsAt 4 (paddedDigits 4 y.toNat ++ rest) = some (y.toNat, rest) :=
      digitsAt_paddedDigits (Nat.le_of_eq (length_paddedDigits hlt (by decide))) (by omega) hrest
    rw [yearAt, trimStart_digits (isDigit_of_mem_paddedDigits 4 _) (paddedDigits_ne_nil 4 _)]
    split
    · rename_i s hs
      exact absurd hs (paddedDigits_append_ne 4 _ rest (by decide) s)
    · rename_i s hs
      exact absurd hs (paddedDigits_append_ne 4 _ rest (by decide) s)
    · rw [hread]
      simp only [Option.map_some]
      rw [Int.toNat_of_nonneg hfour.1]
  · -- a sign, and at least four digits behind it
    rename_i hfour
    by_cases hneg : y < 0
    · rw [if_pos hneg, List.cons_append, yearAt, trimStart_cons (by decide)]
      simp only [hsigned y.natAbs (by omega), Option.map_some]
      rw [show (-(y.natAbs : Int)) = y by omega]
    · rw [if_neg hneg, List.cons_append, yearAt, trimStart_cons (by decide)]
      simp only [hsigned y.natAbs (by omega), Option.map_some]
      rw [show (y.natAbs : Int) = y by omega]

/-- A fraction of `k` digits is read as so many units, each of the place of its last digit. -/
theorem fractionAt_paddedDigits {k n : Nat} (hk : 0 < k ∧ k ≤ 9) (hn : n < Nat.pow 10 k)
    {rest : List Char} (hrest : NoDigit rest) :
    fractionAt ('.' :: (paddedDigits k n ++ rest)) = some (n * Nat.pow 10 (9 - k), rest) := by
  have hlen := length_paddedDigits hn hk.1
  rw [fractionAt, spanDigitsUpTo_append (isDigit_of_mem_paddedDigits k n) (by omega) hrest]
  have hnone : ∀ c ∈ ([] : List Char), c.isDigit = true := fun c hc => absurd hc List.not_mem_nil
  have hdrop : rest.dropWhile Char.isDigit = rest := dropWhile_digits hnone hrest
  have hvalue := ofDigits_paddedDigits k n
  cases hds : paddedDigits k n with
  | nil => exact absurd hds (paddedDigits_ne_nil k n)
  | cons c ds =>
    rw [hds] at hlen hvalue
    simp only [hdrop, hvalue, hlen]

theorem fractionAt_writeFraction {nanos : Nat} (h : nanos < nanosPerSecond) {rest : List Char}
    (hrest : NoDigit rest) (hpoint : ∀ c ∈ rest.head?, c ≠ '.') :
    fractionAt (writeFraction nanos ++ rest) = some (nanos, rest) := by
  have hlt : nanos < 1000000000 := h
  have hpow : Nat.pow 10 3 = 1000 ∧ Nat.pow 10 6 = 1000000 ∧ Nat.pow 10 9 = 1000000000 := by decide
  rw [writeFraction]
  split
  · -- no fraction is written of whole seconds
    rename_i hzero
    rw [hzero, List.nil_append, fractionAt]
    rintro s rfl
    exact hpoint '.' rfl rfl
  split
  · rename_i hmillis
    rw [List.cons_append, fractionAt_paddedDigits (by decide) (by omega) hrest]
    rw [show 9 - 3 = 6 by rfl, hpow.2.1, Nat.div_mul_cancel (Nat.dvd_of_mod_eq_zero hmillis)]
  split
  · rename_i hmicros
    rw [List.cons_append, fractionAt_paddedDigits (by decide) (by omega) hrest]
    rw [show 9 - 6 = 3 by rfl, hpow.1, Nat.div_mul_cancel (Nat.dvd_of_mod_eq_zero hmicros)]
  · rw [List.cons_append, fractionAt_paddedDigits (by decide) (by omega) hrest]
    rw [show 9 - 9 = 0 by rfl, Nat.pow_eq, Nat.pow_zero, Nat.mul_one]

/-! ## Dates and times of day -/

theorem dateAt_written {d : Date} (hyear : -262150 ≤ d.year ∧ d.year ≤ 262150)
    (hexists : d.exists? = true) {rest : List Char} (hrest : NoDigit rest) :
    dateAt (writeYear d.year ++ '-' :: (paddedDigits 2 d.month ++ '-' ::
      (paddedDigits 2 d.day ++ rest))) = some (d, rest) := by
  have hparts := hexists
  simp only [Date.exists?, Bool.and_eq_true, decide_eq_true_eq] at hparts
  obtain ⟨⟨⟨hmonth, hmonth'⟩, hday⟩, hday'⟩ := hparts
  have hthirtyOne : d.day ≤ 31 := by
    refine Nat.le_trans hday' ?_
    simp only [daysInMonth]
    split
    · split <;> omega
    · split <;> omega
  have hdash : ∀ s, NoDigit ('-' :: s) := noDigit_cons (by decide)
  simp only [dateAt, yearAt_writeYear hyear (hdash _), separatorAt_cons (c := '-') (by decide),
    numberAt_paddedDigits ⟨hmonth, hmonth'⟩ (by omega) (hdash _),
    numberAt_paddedDigits ⟨hday, hthirtyOne⟩ (by omega) hrest, hexists, Option.bind_eq_bind,
    Option.bind_some, if_true]
  rfl

/-- A leap second is written as second 60 of its minute, which is where it is read from. -/
theorem timeAt_written (hour minute second nanos : Nat) (hhour : hour ≤ 23) (hminute : minute ≤ 59)
    (hsecond : second ≤ 59)
    (hnanos : nanos < nanosPerSecond ∨ nanos < 2 * nanosPerSecond ∧ second = 59)
    {rest : List Char} (hrest : NoDigit rest) (hpoint : ∀ c ∈ rest.head?, c ≠ '.') :
    timeAt (paddedDigits 2 hour ++ ':' :: (paddedDigits 2 minute ++ ':' ::
      (paddedDigits 2 (second + nanos / nanosPerSecond)
        ++ (writeFraction (nanos % nanosPerSecond) ++ rest))))
      = some ((hour * 3600 + minute * 60 + second, nanos), rest) := by
  have hunit : nanosPerSecond = 1000000000 := rfl
  have hcolon : ∀ s, NoDigit (':' :: s) := noDigit_cons (by decide)
  have hnext : NoDigit (writeFraction (nanos % nanosPerSecond) ++ rest) := by
    rw [writeFraction]
    split
    · exact hrest
    · split
      · exact noDigit_cons (by decide) _
      · split <;> exact noDigit_cons (by decide) _
  have hfraction := fractionAt_writeFraction (Nat.mod_lt nanos (y := nanosPerSecond) (by decide))
    hrest hpoint
  have hcarry : second + nanos / nanosPerSecond ≤ 60 := by
    rw [hunit] at hnanos ⊢
    omega
  simp only [timeAt, separatorAt_cons (c := ':') (by decide),
    numberAt_paddedDigits ⟨Nat.zero_le _, hhour⟩ (by omega) (hcolon _),
    numberAt_paddedDigits ⟨Nat.zero_le _, hminute⟩ (by omega) (hcolon _),
    numberAt_paddedDigits ⟨Nat.zero_le _, hcarry⟩ (by omega) hnext, hfraction,
    Option.bind_eq_bind, Option.bind_some]
  -- nanoseconds beyond one second belong to an inserted second
  by_cases hleap : nanos < nanosPerSecond
  · rw [Nat.div_eq_of_lt hleap, Nat.mod_eq_of_lt hleap, Nat.add_zero, if_neg (by omega)]
    rfl
  · have hlast : second = 59 ∧ nanos / nanosPerSecond = 1
        ∧ nanos % nanosPerSecond + nanosPerSecond = nanos := by
      rw [hunit] at hnanos hleap ⊢
      omega
    rw [hlast.1, hlast.2.1, hlast.2.2, if_pos rfl]
    rfl

/-! ## Timestamps -/

/-- What a timestamp is written as reads back as the timestamp. -/
theorem read?_write (t : Timestamp) : read? t.write = some t := by
  obtain ⟨seconds, nanos, hrange, hfits⟩ := t
  simp only [firstSecond, lastSecond] at hrange
  have hunit : nanosPerSecond = 1000000000 := rfl
  have hyear := Date.year_ofDays (n := seconds / 86400) (by omega)
  have hsecond : nanos < nanosPerSecond
      ∨ nanos < 2 * nanosPerSecond ∧ (seconds % 86400).toNat % 60 = 59 := by
    rcases hfits with h | h <;> omega
  have hpoint : ∀ c ∈ ['Z'].head?, c ≠ '.' := by
    intro c hc
    cases hc
    decide
  have htime := timeAt_written ((seconds % 86400).toNat / 3600)
    ((seconds % 86400).toNat / 60 % 60) ((seconds % 86400).toNat % 60) nanos (by omega) (by omega)
    (by omega) hsecond (noDigit_cons (c := 'Z') (by decide) []) hpoint
  have hdate := dateAt_written hyear (Date.exists?_ofDays _)
    (noDigit_cons (c := 'T') (by decide) (paddedDigits 2 ((seconds % 86400).toNat / 3600) ++ ':' ::
      (paddedDigits 2 ((seconds % 86400).toNat / 60 % 60) ++ ':' ::
      (paddedDigits 2 ((seconds % 86400).toNat % 60 + nanos / nanosPerSecond)
        ++ (writeFraction (nanos % nanosPerSecond) ++ ['Z'])))))
  have hmiddle : ∀ s, middleAt ('T' :: s) = some s := fun _ => rfl
  have hzone : zoneAt (trimStart ['Z']) = some (0, []) := by decide
  have hend : (trimStart []).isEmpty = true := rfl
  simp only [read?, write, List.append_assoc, List.cons_append, hdate, hmiddle, htime, hzone, hend,
    Option.bind_eq_bind, Option.bind_some, if_true, Date.toDays_ofDays]
  have hseconds : seconds / 86400 * 86400
      + (((seconds % 86400).toNat / 3600 * 3600 + (seconds % 86400).toNat / 60 % 60 * 60
        + (seconds % 86400).toNat % 60 : Nat) : Int) - 0 = seconds := by omega
  rw [hseconds, ofParts?, dif_pos ⟨hrange, hfits⟩]

end Timestamp

end Precis.Time
