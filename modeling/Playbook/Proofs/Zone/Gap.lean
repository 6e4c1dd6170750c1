import Mathlib
import Playbook.Proofs.Zone.Showing
import Playbook.Session.Window
import Playbook.Zone.Database

/-!
# Playbook.Proofs.Zone.Gap

What a time on the wall means, whether clocks show it once, twice or never.

A time that clocks never show is skipped by some change: just before it clocks are not
beyond the time, and from it on they are (`exists_skip`).  `localize_resolves` says which
instant each time means, and `localize_eq_none_iff` which times mean none: those that are not
shown in the last hour of the calendar.
-/

namespace Playbook

namespace Zone

variable {z : Zone} {wall t : ℤ}

/-! ## instants that show a time -/

/-- The clocks show a time at an instant whose date in universal time can be given. -/
def Shows (z : Zone) (wall t : ℤ) : Prop := z.wallAt t = wall ∧ (Time.dateOf t).inRange = true

/-- The earliest instant that is found is the least one of all that show the time. -/
theorem earliestShowing_eq_some_iff :
    z.earliestShowing wall = some t ↔ IsLeast {u | z.Shows wall u} t := by
  rw [earliestShowing, List.min?_eq_some_iff, mem_instantsShowing]
  simp only [mem_instantsShowing]
  rfl

/-- None is found only if no instant shows it. -/
theorem earliestShowing_eq_none_iff :
    z.earliestShowing wall = none ↔ ¬∃ t, z.Shows wall t := by
  rw [earliestShowing, List.min?_eq_none_iff, List.eq_nil_iff_forall_not_mem, not_exists]
  simp only [mem_instantsShowing]
  rfl

/-- If clocks ever show a time, they do so for the first time. -/
theorem exists_earliestShowing (h : ∃ t, z.Shows wall t) :
    ∃ t, z.earliestShowing wall = some t := by
  rwa [← Option.isSome_iff_exists, Option.isSome_iff_ne_none, ne_eq, earliestShowing_eq_none_iff,
    not_not]

/-! ## gaps -/

/-- A change puts clocks from a time not beyond `wall` to one beyond it. -/
def Skips (z : Zone) (wall : ℤ) : Prop :=
  ∃ c ∈ z.changes, c.1 + (z.offsetAt (c.1 - 1)).seconds ≤ wall ∧ wall < z.wallAt c.1

/-- The same changes are made up to an instant and up to the second before it, if none is made
then. -/
theorem takeWhile_eq_of_no_change {changes : List (ℤ × Offset)} (h : ∀ c ∈ changes, c.1 ≠ t) :
    (changes.takeWhile fun c => c.1 ≤ t) = changes.takeWhile fun c => c.1 ≤ t - 1 := by
  induction changes with
  | nil => rfl
  | cons c changes ih =>
      obtain ⟨hc, hchanges⟩ := List.forall_mem_cons.mp h
      have hiff : c.1 ≤ t ↔ c.1 ≤ t - 1 := by omega
      simp only [List.takeWhile_cons, hiff, ih hchanges]

/-- Without a change clocks keep their offset for a second. -/
theorem offsetAt_eq_of_no_change (h : ∀ c ∈ z.changes, c.1 ≠ t) :
    z.offsetAt t = z.offsetAt (t - 1) := by
  rw [offsetAt, offsetAt, takeWhile_eq_of_no_change h]

/-- Clocks go through all times, or skip them. -/
theorem exists_skip (h : ∀ t, z.wallAt t ≠ wall) : z.Skips wall := by
  -- The last instant at which clocks are not beyond the time: offsets are bounded.
  obtain ⟨least, hleast⟩ := z.offsets.finite_toSet.bddBelow
  obtain ⟨most, hmost⟩ := z.offsets.finite_toSet.bddAbove
  obtain ⟨last, hlast, hmax⟩ := Int.exists_greatest_of_bdd (P := fun t => z.wallAt t ≤ wall)
    ⟨wall - least, fun t ht => by
      have hoffset := hleast (offsetAt_mem_offsets z t)
      rw [wallAt] at ht
      omega⟩
    ⟨wall - most, by
      have hoffset := hmost (offsetAt_mem_offsets z (wall - most))
      rw [wallAt]
      omega⟩
  have hbefore : last + (z.offsetAt last).seconds < wall := lt_of_le_of_ne hlast (h last)
  have hbeyond : wall < z.wallAt (last + 1) := by
    by_contra hle
    have hlate := hmax (last + 1) (not_lt.mp hle)
    omega
  have hsecond : last + 1 - 1 = last := add_sub_cancel_right last 1
  obtain ⟨c, hc, hchange⟩ : ∃ c ∈ z.changes, c.1 = last + 1 := by
    by_contra hnone
    have hsame : z.offsetAt (last + 1) = z.offsetAt (last + 1 - 1) :=
      offsetAt_eq_of_no_change fun c hc heq => hnone ⟨c, hc, heq⟩
    rw [wallAt, hsame, hsecond] at hbeyond
    omega
  refine ⟨c, hc, ?_, hchange ▸ hbeyond⟩
  rw [hchange, hsecond]
  omega

/-! ## the instant of a time on the wall -/

/-- A time that is shown means the first instant that shows it. -/
theorem exists_localize_of_shown (h : ∃ t, z.Shows wall t) :
    ∃ t, z.localize wall = some t ∧ IsLeast {u | z.Shows wall u} t := by
  obtain ⟨t, ht⟩ := exists_earliestShowing h
  refine ⟨t, ?_, earliestShowing_eq_some_iff.mp ht⟩
  rw [localize, ht]

/-- A time that is not shown is moved on, if the calendar goes on for another hour. -/
theorem localize_of_gap (hgap : ¬∃ t, z.Shows wall t) :
    z.localize wall =
      if (Time.dateOf (wall + gapShift)).inRange then
        some ((z.earliestShowing (wall + gapShift)).getD wall)
      else none := by
  rw [localize, earliestShowing_eq_none_iff.mpr hgap]

/-- A time that is moved on means the first instant that shows the time an hour later. -/
theorem exists_localize_of_moved (hgap : ¬∃ t, z.Shows wall t)
    (hrange : (Time.dateOf (wall + gapShift)).inRange = true)
    (h : ∃ t, z.Shows (wall + gapShift) t) :
    ∃ t, z.localize wall = some t ∧ IsLeast {u | z.Shows (wall + gapShift) u} t := by
  obtain ⟨t, ht⟩ := exists_earliestShowing h
  refine ⟨t, ?_, earliestShowing_eq_some_iff.mp ht⟩
  rw [localize_of_gap hgap, if_pos hrange, ht, Option.getD_some]

/-- If it cannot be moved on, universal time shows it. -/
theorem localize_eq_wall (hgap : ¬∃ t, z.Shows wall t)
    (hrange : (Time.dateOf (wall + gapShift)).inRange = true)
    (h : ¬∃ t, z.Shows (wall + gapShift) t) : z.localize wall = some wall := by
  rw [localize_of_gap hgap, if_pos hrange, earliestShowing_eq_none_iff.mpr h, Option.getD_none]

/-- **Which times mean nothing**: those that are not shown, with no hour left in the calendar. -/
theorem localize_eq_none_iff :
    z.localize wall = none ↔
      (¬∃ t, z.Shows wall t) ∧ (Time.dateOf (wall + gapShift)).inRange = false := by
  by_cases hshown : ∃ t, z.Shows wall t
  · obtain ⟨t, ht, -⟩ := exists_localize_of_shown hshown
    simp [ht, hshown]
  · rw [localize_of_gap hshown]
    simp [hshown]

/-- At the instant that a time means clocks show the time or the one an hour later, unless
universal time shows it. -/
theorem wallAt_of_localize (h : z.localize wall = some t) :
    z.wallAt t = wall ∨ z.wallAt t = wall + gapShift ∨ t = wall := by
  by_cases hshown : ∃ t, z.Shows wall t
  · obtain ⟨u, hu, hleast⟩ := exists_localize_of_shown hshown
    obtain rfl := Option.some.inj (hu.symm.trans h)
    exact .inl hleast.1.1
  · have hrange : (Time.dateOf (wall + gapShift)).inRange = true := by
      by_contra hend
      have hnone := localize_eq_none_iff.mpr ⟨hshown, Bool.eq_false_iff.mpr hend⟩
      exact absurd (h.symm.trans hnone) nofun
    by_cases hlater : ∃ t, z.Shows (wall + gapShift) t
    · obtain ⟨u, hu, hleast⟩ := exists_localize_of_moved hshown hrange hlater
      obtain rfl := Option.some.inj (hu.symm.trans h)
      exact .inr (.inl hleast.1.1)
    · exact .inr (.inr (Option.some.inj (h.symm.trans (localize_eq_wall hshown hrange hlater))))

/-- **What a time on the wall means**: the first instant at which clocks show it.  A time that
they do not show is skipped, unless the instants that show it have no date that can be given.
If the calendar goes on for another hour it means the first instant at which clocks show an hour
later, or, if they do not show that either, the instant at which universal time shows it;
otherwise it means nothing. -/
theorem localize_resolves (z : Zone) (wall : ℤ) :
    ((∃ t, z.Shows wall t) →
      ∃ u, z.localize wall = some u ∧ IsLeast {t | z.Shows wall t} u ∧ z.wallAt u = wall) ∧
    ((¬∃ t, z.Shows wall t) →
      (z.Skips wall ∨ ∃ t, z.wallAt t = wall ∧ (Time.dateOf t).inRange = false) ∧
      ((Time.dateOf (wall + 3600)).inRange = true →
        ((∃ t, z.Shows (wall + 3600) t) →
          ∃ u, z.localize wall = some u ∧ IsLeast {t | z.Shows (wall + 3600) t} u ∧
            z.wallAt u = wall + 3600) ∧
        ((¬∃ t, z.Shows (wall + 3600) t) → z.localize wall = some wall)) ∧
      ((Time.dateOf (wall + 3600)).inRange = false → z.localize wall = none)) := by
  constructor
  · intro hshown
    obtain ⟨u, hu, hleast⟩ := exists_localize_of_shown hshown
    exact ⟨u, hu, hleast, hleast.1.1⟩
  · intro hgap
    refine ⟨?_, fun hrange => ⟨fun hlater => ?_, localize_eq_wall hgap hrange⟩,
      fun hend => localize_eq_none_iff.mpr ⟨hgap, hend⟩⟩
    · by_cases hever : ∃ t, z.wallAt t = wall
      · obtain ⟨t, ht⟩ := hever
        exact .inr ⟨t, ht, Bool.eq_false_iff.mpr fun hrange => hgap ⟨t, ht, hrange⟩⟩
      · exact .inl (exists_skip (not_exists.mp hever))
    · obtain ⟨u, hu, hleast⟩ := exists_localize_of_moved hgap hrange hlater
      exact ⟨u, hu, hleast, hleast.1.1⟩

/-! ## zones of the tables -/

/-- A zone is read from its history in the tables. -/
theorem standard_eq (name : ZoneName) {history : List Char}
    (h : histories.lookup ((Table.links.lookup name.text).getD name.text) =
      some (String.ofList history)) : standard name = History.zone history := by
  rw [standard, h, Option.elim_some, String.toList_ofList]

/-! ## two hours at once -/

/-- A station whose clocks are put forward by two hours, at one in the morning. -/
def troll : ZoneName := ⟨"Antarctica/Troll", by decide +kernel⟩

/-- Two o'clock on 27 October 2024, when clocks are put back from three to one. -/
def trollAutumn : ℤ := 1729994400

/-- Half past two on 31 March 2024, in the last hour of the gap. -/
def trollSpring : ℤ := 1711852200

/-- Half past one on that day, in the first hour of the gap. -/
def trollNight : ℤ := 1711848600

/-- When clocks there show these times and the ones an hour later. -/
theorem earliestShowing_troll :
    (standard troll).earliestShowing trollAutumn = some (trollAutumn - 7200) ∧
      (standard troll).earliestShowing trollSpring = none ∧
      (standard troll).earliestShowing (trollSpring + 3600) = some (trollSpring - 3600) ∧
      (standard troll).earliestShowing trollNight = none ∧
      (standard troll).earliestShowing (trollNight + 3600) = none ∧
      (standard troll).wallAt trollAutumn = trollAutumn ∧
      (standard troll).wallAt trollNight = trollNight + 7200 := by
  decide +kernel

/-- These times can be moved on by an hour. -/
theorem inRange_troll : (Time.dateOf (trollSpring + 3600)).inRange = true ∧
    (Time.dateOf (trollNight + 3600)).inRange = true := by
  decide +kernel

/-- Half past eleven in the evening of the last day of the calendar. -/
def lastEvening : ℤ := 8210266875000

/-- When clocks in New York show that evening, it is the day behind the calendar in universal
time. -/
theorem earliestShowing_lastEvening :
    (standard ZoneName.trader).earliestShowing lastEvening = none ∧
    (Time.dateOf lastEvening).inRange = true ∧
    (Time.dateOf (lastEvening + 3600)).inRange = false := by
  rw [standard_eq ZoneName.trader (by rfl)]
  decide +kernel

/-- A time that is shown twice, one that is skipped, one that is skipped together with the time
an hour later, and one in the last hour of the calendar. -/
theorem localize_resolves_troll :
    (standard troll).wallAt trollAutumn = trollAutumn ∧
      IsLeast {t | (standard troll).Shows trollAutumn t} (trollAutumn - 7200) ∧
      (standard troll).localize trollAutumn = some (trollAutumn - 7200) ∧
    (¬∃ t, (standard troll).Shows trollSpring t) ∧
      (∃ u, (standard troll).localize trollSpring = some u ∧
        (standard troll).wallAt u = trollSpring + 3600) ∧
    (¬∃ t, (standard troll).Shows trollNight t) ∧
      (standard troll).localize trollNight = some trollNight ∧
    (¬∃ t, (standard ZoneName.trader).Shows lastEvening t) ∧
      (standard ZoneName.trader).localize lastEvening = none := by
  obtain ⟨hautumn, hspring, hspring', hnight, hnight', hshown, -⟩ := earliestShowing_troll
  obtain ⟨hrange, hrange'⟩ := inRange_troll
  obtain ⟨hevening, -, hend⟩ := earliestShowing_lastEvening
  have hfirst := earliestShowing_eq_some_iff.mp hautumn
  have hlater := earliestShowing_eq_some_iff.mp hspring'
  have hskipped := earliestShowing_eq_none_iff.mp hspring
  have hskipped' := earliestShowing_eq_none_iff.mp hnight
  have hunshown := earliestShowing_eq_none_iff.mp hevening
  obtain ⟨u, hu, hleast, -⟩ := (localize_resolves _ trollAutumn).1 ⟨_, hfirst.1⟩
  obtain ⟨-, hmoved, -⟩ := (localize_resolves _ trollSpring).2 hskipped
  obtain ⟨-, huniversal, -⟩ := (localize_resolves _ trollNight).2 hskipped'
  obtain ⟨-, -, hnothing⟩ := (localize_resolves _ lastEvening).2 hunshown
  obtain ⟨v, hv, -, hwall⟩ := (hmoved hrange).1 ⟨_, hlater.1⟩
  exact ⟨hshown, hfirst, hu.trans (congrArg some (hleast.unique hfirst)), hskipped, ⟨v, hv, hwall⟩,
    hskipped', (huniversal hrange').2 (earliestShowing_eq_none_iff.mp hnight'), hunshown,
    hnothing hend⟩

/-- In a gap of two hours a time in the first hour is not moved on by one hour: clocks do not
show the time an hour later, and the instant that is meant shows one two hours later. -/
theorem localize_two_hour_gap :
    (¬∃ t, (standard troll).Shows trollNight t) ∧
      ∃ u, (standard troll).localize trollNight = some u ∧
        (standard troll).wallAt u = trollNight + 7200 := by
  obtain ⟨-, -, -, hnight, hnight', -, hshown⟩ := earliestShowing_troll
  have hskipped := earliestShowing_eq_none_iff.mp hnight
  exact ⟨hskipped, trollNight,
    localize_eq_wall hskipped inRange_troll.2 (earliestShowing_eq_none_iff.mp hnight'), hshown⟩

end Zone

end Playbook
