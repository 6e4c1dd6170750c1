import Mathlib
import Playbook.Time.Date

/-!
# Playbook.Proofs.Time.Date

The calendar counts days without gaps: the civil date of a day number is one that the
calendar has, and it is the civil date of no other day (`ofCivil?_civil`).  The dates that
can be given are the days from a first one to a last one (`inRange_iff`).

Both directions go through the eras of four hundred years.  `Falls` takes a day of an era
apart into centuries, spans of four years, years and days, which is where the divisions of
`civil` are understood; `Shows` puts a civil date together from a year of an era, a month
counted from March and a day of the month.
-/

namespace Playbook.Time.Date

/-! ## days of an era -/

/-- A day of an era by the centuries, the spans of four years, the years and the days in
front of it.  Only a leap year has a 366th day. -/
structure Falls (n century span year day : ℤ) : Prop where
  eq : n = century * 36524 + span * 1461 + year * 365 + day
  century_mem : 0 ≤ century ∧ century ≤ 3
  span_mem : 0 ≤ span ∧ span ≤ 24
  year_mem : 0 ≤ year ∧ year ≤ 3
  day_mem : 0 ≤ day ∧ (day ≤ 364 ∨ day = 365 ∧ year = 3 ∧ (span ≤ 23 ∨ century = 3))

/-- Every day of an era falls in a century, a span of four years, a year and a day. -/
theorem exists_falls {n : ℤ} (h : 0 ≤ n) (h' : n < daysPerEra) :
    ∃ century span year day, Falls n century span year day := by
  rw [daysPerEra] at h'
  -- a century and a year that are full do not start the next one on the last day
  obtain ⟨century, rest, hn, hcentury, hrest⟩ : ∃ century rest : ℤ,
      n = century * 36524 + rest ∧ (0 ≤ century ∧ century ≤ 3) ∧
        0 ≤ rest ∧ (rest < 36524 ∨ rest = 36524 ∧ century = 3) := by
    by_cases hlast : n = 146096
    · exact ⟨3, 36524, by omega, by omega, by omega⟩
    · exact ⟨n / 36524, n % 36524, by omega, by omega, by omega⟩
  obtain ⟨span, left, hspan⟩ : ∃ span left : ℤ, rest = span * 1461 + left ∧
      (0 ≤ span ∧ span ≤ 24) ∧ 0 ≤ left ∧ left < 1461 :=
    ⟨rest / 1461, rest % 1461, by omega, by omega, by omega⟩
  by_cases hlast : left = 1460
  · exact ⟨century, span, 3, 365, by omega, hcentury, by omega, by omega, by omega⟩
  · exact ⟨century, span, left / 365, left % 365, by omega, hcentury, by omega, by omega, by omega⟩

variable {n century span year day : ℤ}

/-- Days of leap years are taken out of a day number, so that all years are equally long. -/
theorem Falls.yearOfEra_eq (h : Falls n century span year day) :
    (n - n / 1460 + n / 36524 - n / 146096) / 365 = century * 100 + span * 4 + year := by
  obtain ⟨heq, hcentury, hspan, hyear, hday⟩ := h
  have hcenturies : n / 36524 - n / 146096 = century := by
    by_cases hlast : n = 146096
    · omega
    · have hwithin : span * 1461 + year * 365 + day ≤ 36523 := by omega
      have hfull : n / 36524 = century := by omega
      have hnone : n / 146096 = 0 := by omega
      omega
  have hspans : n / 1460 = century * 25 + span ∧ day ≤ 364 ∨
      n / 1460 = century * 25 + span + 1 ∧ 1 ≤ day := by
    by_cases hover : century * 24 + span + year * 365 + day < 1460
    · exact .inl (by omega)
    · exact .inr (by omega)
  omega

/-- The day of the year is what is left when the days of the years before are taken away. -/
theorem Falls.dayOfYear_eq (h : Falls n century span year day) :
    n - (365 * (century * 100 + span * 4 + year) + (century * 100 + span * 4 + year) / 4 -
      (century * 100 + span * 4 + year) / 100) = day := by
  obtain ⟨heq, hcentury, hspan, hyear, -⟩ := h
  have hfours : (century * 100 + span * 4 + year) / 4 = century * 25 + span := by omega
  have hhundreds : (century * 100 + span * 4 + year) / 100 = century := by omega
  rw [hfours, hhundreds]
  omega

/-! ## months -/

/-- Months are counted from March, and so are the days of a year. -/
theorem month_spec (h : 0 ≤ day ∧ day ≤ 365) :
    0 ≤ (5 * day + 2) / 153 ∧ (5 * day + 2) / 153 ≤ 11 ∧
      daysBeforeMonth ((5 * day + 2) / 153) ≤ day ∧
      day < daysBeforeMonth ((5 * day + 2) / 153 + 1) := by
  unfold daysBeforeMonth
  omega

/-! ## civil dates -/

/-- The civil date of a day of an era. -/
theorem civil_of_falls {d : Date} {era : ℤ} (hday : d.day + epochInEra = era * daysPerEra + n)
    (hn : 0 ≤ n ∧ n < daysPerEra) (h : Falls n century span year day) :
    let m := (5 * day + 2) / 153
    let month := if m < 10 then m + 3 else m - 9
    d.civil = ⟨century * 100 + span * 4 + year + era * 400 + if month ≤ 2 then 1 else 0,
      month.toNat, (day - daysBeforeMonth m + 1).toNat⟩ := by
  have hera : (d.day + epochInEra) / daysPerEra = era := by
    rw [hday, daysPerEra] at *
    omega
  have hrest : (d.day + epochInEra) % daysPerEra = n := by
    rw [hday, daysPerEra] at *
    omega
  simp only [civil, hera, hrest, h.yearOfEra_eq, h.dayOfYear_eq]

/-- What a civil date is made of: an era, a year of it that starts in March, a month from
March and a day of the month, both from zero. -/
structure Shows (c : Civil) (era yearOfEra m k : ℤ) : Prop where
  yearOfEra_mem : 0 ≤ yearOfEra ∧ yearOfEra ≤ 399
  m_mem : 0 ≤ m ∧ m ≤ 11
  k_nonneg : 0 ≤ k
  year_eq : c.year = yearOfEra + era * 400 + if m < 10 then 0 else 1
  month_eq : (c.month : ℤ) = if m < 10 then m + 3 else m - 9
  day_eq : (c.day : ℤ) = k + 1

/-- The number of a date, from its era, its year, its month and its day. -/
theorem Shows.ofCivil_eq {c : Civil} {era yearOfEra m k : ℤ} (h : Shows c era yearOfEra m k) :
    (ofCivil c).day + epochInEra = era * daysPerEra +
      (yearOfEra * 365 + yearOfEra / 4 - yearOfEra / 100 + daysBeforeMonth m + k) := by
  obtain ⟨hyearOfEra, hm, hk, hyear, hmonth, hday⟩ := h
  have hmarch : ((c.month : ℤ) + 9) % 12 = m := by
    split at hmonth <;> omega
  have hstart : (if c.month ≤ 2 then c.year - 1 else c.year) = yearOfEra + era * 400 := by
    split at hmonth <;> split at hyear <;> split <;> omega
  have hera : (yearOfEra + era * 400) / 400 = era := by omega
  have hrest : (yearOfEra + era * 400) % 400 = yearOfEra := by omega
  simp only [ofCivil, hmarch, hstart, hera, hrest, hday]
  omega

/-- A day of an era shows as a civil date. -/
theorem Falls.shows {d : Date} {era : ℤ} (hday : d.day + epochInEra = era * daysPerEra + n)
    (hn : 0 ≤ n ∧ n < daysPerEra) (h : Falls n century span year day) :
    Shows d.civil era (century * 100 + span * 4 + year) ((5 * day + 2) / 153)
      (day - daysBeforeMonth ((5 * day + 2) / 153)) := by
  have hmem := h.day_mem
  obtain ⟨hm, hm', hbefore, -⟩ := month_spec (show 0 ≤ day ∧ day ≤ 365 by omega)
  have hcivil := civil_of_falls hday hn h
  generalize (5 * day + 2) / 153 = m at *
  dsimp only at hcivil
  obtain ⟨heq, hcentury, hspan, hyear, hday⟩ := h
  refine ⟨by omega, ⟨hm, hm'⟩, by omega, ?_, ?_, ?_⟩
  · rw [hcivil]
    dsimp only
    split <;> split <;> omega
  · rw [hcivil]
    dsimp only
    split <;> omega
  · rw [hcivil]
    dsimp only
    omega

/-- Days are counted from the beginning of their era. -/
theorem exists_era (d : Date) :
    ∃ era n, d.day + epochInEra = era * daysPerEra + n ∧ 0 ≤ n ∧ n < daysPerEra :=
  ⟨_, _, (Int.ediv_mul_add_emod _ daysPerEra).symm, Int.emod_nonneg _ (by decide),
    Int.emod_lt_of_pos _ (by decide)⟩

/-- **Civil dates** are days: the day of the civil date of a day is this day. -/
theorem ofCivil_civil (d : Date) : ofCivil d.civil = d := by
  obtain ⟨era, n, hera, hn, hn'⟩ := exists_era d
  obtain ⟨century, span, year, day, hfalls⟩ := exists_falls hn hn'
  have hsame := (hfalls.shows hera ⟨hn, hn'⟩).ofCivil_eq
  obtain ⟨heq, hcentury, hspan, hyear, hday⟩ := hfalls
  have hdays : (ofCivil d.civil).day = d.day := by omega
  exact congrArg Date.mk hdays

/-- A 366th day is the leap day in front of March. -/
theorem Falls.isLeap (h : Falls n century span year 365) (era : ℤ) :
    isLeap (century * 100 + span * 4 + year + era * 400 + 1) = true := by
  obtain ⟨-, hcentury, hspan, -, -, hday | ⟨-, rfl, hday⟩⟩ := h
  · contradiction
  · rw [Date.isLeap, Bool.and_eq_true, Bool.or_eq_true, decide_eq_true_eq, decide_eq_true_eq,
      decide_eq_true_eq]
    omega

/-- A day that its month has is a day of the month as the calendar counts them. -/
theorem day_le_daysInMonth {y m k : ℤ} {month : ℕ} (hm : 0 ≤ m ∧ m ≤ 11)
    (hmonth : (month : ℤ) = if m < 10 then m + 3 else m - 9)
    (hk : k < daysBeforeMonth (m + 1) - daysBeforeMonth m)
    (hfebruary : m = 11 → k < if isLeap y then 29 else 28) : k < daysInMonth y month := by
  obtain ⟨hm, hm'⟩ := hm
  by_cases hlast : m = 11
  · subst hlast
    obtain rfl : month = 2 := by
      rw [if_neg (by decide)] at hmonth
      omega
    rw [daysInMonth, if_pos rfl, Nat.cast_ite]
    exact hfebruary rfl
  · have hnot : ¬month = 2 := by
      split at hmonth <;> omega
    rw [daysInMonth, if_neg hnot]
    unfold daysBeforeMonth at hk
    interval_cases m <;> simp at hmonth <;> split <;> omega

/-- The calendar has the civil date of every day. -/
theorem civil_spec (d : Date) :
    1 ≤ d.civil.month ∧ d.civil.month ≤ 12 ∧ 1 ≤ d.civil.day ∧
      d.civil.day ≤ daysInMonth d.civil.year d.civil.month := by
  obtain ⟨era, n, hera, hn, hn'⟩ := exists_era d
  obtain ⟨century, span, year, day, hfalls⟩ := exists_falls hn hn'
  obtain ⟨-, hm, hk, hyear, hmonth, hday⟩ := hfalls.shows hera ⟨hn, hn'⟩
  have hmem := hfalls.day_mem
  obtain ⟨-, -, -, hnext⟩ := month_spec (show 0 ≤ day ∧ day ≤ 365 by omega)
  have hfebruary : (5 * day + 2) / 153 = 11 →
      day - daysBeforeMonth ((5 * day + 2) / 153) < if isLeap d.civil.year then 29 else 28 := by
    intro hlast
    rw [hlast] at hyear ⊢
    obtain hshort | ⟨rfl, -⟩ := hmem.2
    · unfold daysBeforeMonth
      split <;> omega
    · have hleap : isLeap d.civil.year = true := by
        rw [hyear]
        exact hfalls.isLeap era
      rw [if_pos hleap]
      decide
  have hcount := day_le_daysInMonth hm hmonth (by omega) hfebruary
  refine ⟨?_, ?_, by omega, by omega⟩
  · split at hmonth <;> omega
  · split at hmonth <;> omega

/-- **The parts of a date** give the date back. -/
theorem ofCivil?_civil {d : Date} (h : d.inRange = true) : ofCivil? d.civil = some d := by
  rw [inRange, Bool.and_eq_true, decide_eq_true_eq, decide_eq_true_eq] at h
  rw [ofCivil?, if_pos ⟨h.1, h.2, civil_spec d⟩, ofCivil_civil]

/-! ## the ends of the calendar -/

/-- The first day of the calendar. -/
def firstDay : Date := ⟨-96465292⟩

/-- The last day of the calendar. -/
def lastDay : Date := ⟨95026236⟩

/-- **The dates that can be given** lie between the first day and the last one. -/
theorem inRange_iff (d : Date) :
    d.inRange = true ↔ firstDay.day ≤ d.day ∧ d.day ≤ lastDay.day := by
  obtain ⟨era, n, hera, hn, hn'⟩ := exists_era d
  obtain ⟨century, span, year, day, hfalls⟩ := exists_falls hn hn'
  have hyear := (hfalls.shows hera ⟨hn, hn'⟩).year_eq
  obtain ⟨heq, hcentury, hspan, hyears, hday⟩ := hfalls
  rw [inRange, Bool.and_eq_true, decide_eq_true_eq, decide_eq_true_eq, hyear, yearRange, firstDay,
    lastDay]
  rw [epochInEra, daysPerEra] at hera
  dsimp only
  have hmonth : (5 * day + 2) / 153 < 10 ↔ day < 306 := by omega
  simp only [hmonth]
  have hlow : -96465292 ≤ d.day ↔ -262144 < century * 100 + span * 4 + year + era * 400 ∨
      -262144 = century * 100 + span * 4 + year + era * 400 ∧ 306 ≤ day := by
    omega
  have hhigh : d.day ≤ 95026236 ↔ century * 100 + span * 4 + year + era * 400 < 262142 ∨
      century * 100 + span * 4 + year + era * 400 = 262142 ∧ day ≤ 305 := by
    omega
  rw [hlow, hhigh]
  split <;> omega
end Playbook.Time.Date
