import Mathlib
import Playbook.Proofs.Time.Instant
import Playbook.Proofs.Zone.Gap
import Playbook.Session.Window

/-!
# Playbook.Proofs.Session.Exchange

A trader's clock time on the exchange's calendar and clock.

What the exchange shows is the trader's date and time moved by an offset of each zone, and by
an hour in a gap, so that it is less than two days off (`meant_near`).  Hence the date is at
most one day from the trader's date, eight bits hold the difference, and calendar and clock
together are the instant that the trader means (`ofTrader_exact`).  No time is told where the
calendar ends in between, which happens on its first and its last day only
(`exists_ofTrader`).  `ahead` is what the clock alone shows: so many minutes more than the
trader's clock.
-/

namespace Playbook

open Time (Clock Date)

/-! ## clocks and walls -/

theorem Time.Clock.minuteOfDay_lt (c : Clock) : c.minuteOfDay < Hours.minutesPerDay := by
  have hday : Hours.minutesPerDay = 1440 := rfl
  have hhour := c.hour.isLt
  have hminute := c.minute.isLt
  rw [minuteOfDay]
  omega

/-- A clock shows a second of the day; a leap second counts as the one before it. -/
theorem Time.Clock.secondOfDay_lt (c : Clock) : (c.secondOfDay : ℤ) < secondsPerDay := by
  have hday : Hours.minutesPerDay = 1440 := rfl
  have hseconds : secondsPerDay = 86400 := rfl
  have hminute := c.minuteOfDay_lt
  have hsecond := c.second.isLt
  rw [secondOfDay]
  omega

/-- The minute of the day by the seconds on the wall. -/
theorem Time.minuteOfDay_clockOf (wall : ℤ) :
    ((clockOf wall).minuteOfDay : ℤ) = wall / 60 % Hours.minutesPerDay := by
  have hday : Hours.minutesPerDay = 1440 := rfl
  have hseconds : secondsPerDay = 86400 := rfl
  rw [clockOf, Clock.ofSecond, Clock.minuteOfDay, hday, hseconds]
  dsimp only
  omega

/-- A clock time without seconds. -/
def Time.Clock.IsWhole (c : Clock) : Prop := c.second.val = 0 ∧ c.leap = false

theorem Time.Clock.IsWhole.secondOfDay_eq {c : Clock} (h : c.IsWhole) :
    c.secondOfDay = c.minuteOfDay * 60 := by
  rw [secondOfDay, h.1]
  rfl

/-- Times without seconds are the same if their minutes are. -/
theorem Time.Clock.IsWhole.eq_of_minuteOfDay {c d : Clock} (hc : c.IsWhole) (hd : d.IsWhole)
    (h : c.minuteOfDay = d.minuteOfDay) : c = d := by
  obtain ⟨hour, minute, second, leap⟩ := c
  obtain ⟨hour', minute', second', leap'⟩ := d
  obtain ⟨hsecond, hleap⟩ := hc
  obtain ⟨hsecond', hleap'⟩ := hd
  simp only [minuteOfDay] at h hsecond hleap hsecond' hleap'
  simp only [mk.injEq, Fin.ext_iff, hsecond, hsecond', hleap, hleap', and_true]
  omega

/-! ## how far an instant is off -/

namespace Zone

variable {z : Zone} {wall t : ℤ}

/-- The instant that a time on the wall means, and universal time where it means none. -/
def meant (z : Zone) (wall : ℤ) : ℤ := (z.localize wall).getD wall

/-- Where a time means an instant, it is this one. -/
theorem meant_of_localize (h : z.localize wall = some t) : z.meant wall = t := by
  rw [meant, h, Option.getD_some]

/-- At this instant clocks show the time or the one an hour later, unless universal time
shows it. -/
theorem wallAt_meant (z : Zone) (wall : ℤ) :
    z.wallAt (z.meant wall) = wall ∨ z.wallAt (z.meant wall) = wall + gapShift ∨
      z.meant wall = wall := by
  cases h : z.localize wall with
  | none => exact .inr (.inr (by rw [meant, h, Option.getD_none]))
  | some t => exact meant_of_localize h ▸ wallAt_of_localize h

/-- A time on the wall means an instant that is off it by less than the offsets are, but for the
hour by which a time in a gap is moved. -/
theorem meant_near {limit : ℤ} (hz : ∀ o ∈ z.offsets, -limit < o ∧ o < limit) (wall : ℤ) :
    wall - limit < z.meant wall ∧ z.meant wall < wall + gapShift + limit := by
  have hshift : gapShift = 3600 := rfl
  have hoffset := hz _ (z.offsetAt_mem_offsets (z.meant wall))
  have hshows : z.wallAt (z.meant wall) =
      z.meant wall + (z.offsetAt (z.meant wall)).seconds := rfl
  obtain hwall | hwall | hwall := z.wallAt_meant wall <;> omega

/-- What is not moved out of a gap. -/
theorem isMoved_eq_false_iff :
    z.isMoved wall = false ↔ (∃ t, z.Shows wall t) ∨ ¬∃ t, z.Shows (wall + gapShift) t := by
  rw [isMoved, Bool.and_eq_false_iff, Option.isNone_eq_false_iff, Option.isSome_eq_false_iff,
    Option.isNone_iff_eq_none, earliestShowing_eq_none_iff, Option.isSome_iff_ne_none, ne_eq,
    earliestShowing_eq_none_iff, not_not]

end Zone

namespace ExchangeTime

variable {exchange trader : Zone} {clock : Clock} {date : Date} {r : ExchangeTime}

/-- **When a time is told on the exchange's clock**, and what is told then. -/
theorem ofTrader_eq_some_iff :
    ofTrader exchange trader clock date = some r ↔
      ∃ t, trader.localize (Time.wall date clock) = some t ∧
        (Time.dateOf (exchange.wallAt t)).inRange = true ∧
        r = {
          clock := { Time.clockOf (exchange.wallAt t) with
            leap := clock.leap && !trader.isMoved (Time.wall date clock) }
          daylight := (exchange.offsetAt t).daylight
          dayOffset := Int8.ofInt ((Time.dateOf (exchange.wallAt t)).day - date.day) } := by
  rw [ofTrader, Option.bind_eq_some_iff]
  refine exists_congr fun t => and_congr_right fun _ => ?_
  rw [Option.ite_none_right_eq_some, Option.some.injEq, eq_comm (a := r)]

/-- **When it is not told**: the trader's time means no instant, or the exchange's date is none
that can be given. -/
theorem ofTrader_eq_none_iff :
    ofTrader exchange trader clock date = none ↔
      trader.localize (Time.wall date clock) = none ∨
        ∃ t, trader.localize (Time.wall date clock) = some t ∧
          (Time.dateOf (exchange.wallAt t)).inRange = false := by
  cases h : trader.localize (Time.wall date clock) with
  | none => simp [ofTrader, h]
  | some t => simp [ofTrader, h]

/-- The minutes by which the exchange's clock is ahead of what the trader's clock shows. -/
def ahead (exchange trader : Zone) (clock : Clock) (date : Date) : ℤ :=
  let wall := Time.wall date clock
  (exchange.wallAt (trader.meant wall) - wall) / 60

/-- What the exchange's clock shows, by the minutes by which it is ahead. -/
theorem minuteOfDay_ofTrader (hclock : clock.IsWhole)
    (h : ofTrader exchange trader clock date = some r) :
    (r.clock.minuteOfDay : ℤ) =
      (clock.minuteOfDay + ahead exchange trader clock date) % Hours.minutesPerDay := by
  have hday : Hours.minutesPerDay = 1440 := rfl
  have hwall : Time.wall date clock = date.day * 86400 + clock.minuteOfDay * 60 := by
    rw [Time.wall, hclock.secondOfDay_eq]
    push_cast
    rfl
  obtain ⟨t, ht, -, rfl⟩ := ofTrader_eq_some_iff.mp h
  change ((Time.clockOf (exchange.wallAt t)).minuteOfDay : ℤ) = _
  rw [Time.minuteOfDay_clockOf, ahead, Zone.meant_of_localize ht, hwall, hday]
  omega

/-- The offsets of the exchange's zone are between five and six hours behind. -/
def IsExchange (z : Zone) : Prop := ∀ o ∈ z.offsets, -(6 * 3600) ≤ o ∧ o ≤ -(5 * 3600)

instance (z : Zone) : Decidable (IsExchange z) := inferInstanceAs (Decidable (∀ o ∈ _, _))

/-- The offsets of a zone are less than sixteen hours. -/
def IsTrader (z : Zone) : Prop := ∀ o ∈ z.offsets, -(16 * 3600) < o ∧ o < 16 * 3600

instance (z : Zone) : Decidable (IsTrader z) := inferInstanceAs (Decidable (∀ o ∈ _, _))

/-- The calendar at the exchange is at most a day from the trader's. -/
theorem day_near (hexchange : IsExchange exchange) (htrader : IsTrader trader) (clock : Clock)
    (date : Date) :
    let shown := exchange.wallAt (trader.meant (Time.wall date clock))
    date.day - 1 ≤ (Time.dateOf shown).day ∧ (Time.dateOf shown).day ≤ date.day + 1 := by
  intro shown
  have hseconds : Time.secondsPerDay = 86400 := rfl
  have hshift : Zone.gapShift = 3600 := rfl
  have hclock := clock.secondOfDay_lt
  have hwall : Time.wall date clock = date.day * 86400 + clock.secondOfDay := rfl
  have hdate : (Time.dateOf shown).day = shown / 86400 := rfl
  have hshown : shown = trader.meant (Time.wall date clock) +
      (exchange.offsetAt (trader.meant (Time.wall date clock))).seconds := rfl
  have hoffset := hexchange _
    (exchange.offsetAt_mem_offsets (trader.meant (Time.wall date clock)))
  obtain ⟨hlow, hhigh⟩ := Zone.meant_near htrader (Time.wall date clock)
  -- Behind by less than 22 hours and ahead by less than 12.
  omega

/-- **On every day but the first and the last of the calendar all times are told.** -/
theorem exists_ofTrader (hexchange : IsExchange exchange) (htrader : IsTrader trader)
    (hfirst : Date.firstDay.day < date.day) (hlast : date.day < Date.lastDay.day) (clock : Clock) :
    ∃ r, ofTrader exchange trader clock date = some r := by
  rw [← Option.ne_none_iff_exists', ne_eq, ofTrader_eq_none_iff, not_or]
  have hseconds : Time.secondsPerDay = 86400 := rfl
  have hshift : Zone.gapShift = 3600 := rfl
  have hclock := clock.secondOfDay_lt
  have hwall : Time.wall date clock = date.day * 86400 + clock.secondOfDay := rfl
  constructor
  · intro hnone
    obtain ⟨-, hend⟩ := Zone.localize_eq_none_iff.mp hnone
    have hmoved : (Time.dateOf (Time.wall date clock + Zone.gapShift)).day =
        (Time.wall date clock + Zone.gapShift) / 86400 := rfl
    have hrange : (Time.dateOf (Time.wall date clock + Zone.gapShift)).inRange = true :=
      (Date.inRange_iff _).mpr ⟨by omega, by omega⟩
    exact absurd (hrange.symm.trans hend) nofun
  · rintro ⟨t, ht, hend⟩
    obtain ⟨hlow, hhigh⟩ := day_near hexchange htrader clock date
    rw [Zone.meant_of_localize ht] at hlow hhigh
    have hrange : (Time.dateOf (exchange.wallAt t)).inRange = true :=
      (Date.inRange_iff _).mpr ⟨by omega, by omega⟩
    exact absurd (hrange.symm.trans hend) nofun

/-- The days that are told are one at most, and all of their number is kept. -/
theorem dayOffset_ofTrader (hexchange : IsExchange exchange) (htrader : IsTrader trader) {t : ℤ}
    (ht : trader.localize (Time.wall date clock) = some t)
    (h : ofTrader exchange trader clock date = some r) :
    r.dayOffset.toInt = (Time.dateOf (exchange.wallAt t)).day - date.day ∧
      (r.dayOffset = -1 ∨ r.dayOffset = 0 ∨ r.dayOffset = 1) := by
  obtain ⟨u, hu, -, rfl⟩ := ofTrader_eq_some_iff.mp h
  obtain rfl := Option.some.inj (hu.symm.trans ht)
  obtain ⟨hlow, hhigh⟩ := day_near hexchange htrader clock date
  rw [Zone.meant_of_localize ht] at hlow hhigh
  have hfits : -2 ^ 7 ≤ (Time.dateOf (exchange.wallAt u)).day - date.day ∧
      (Time.dateOf (exchange.wallAt u)).day - date.day < 2 ^ 7 := by omega
  have hkept := Int8.toInt_ofInt_of_le hfits.1 hfits.2
  refine ⟨hkept, ?_⟩
  rw [← Int8.toInt_inj, ← Int8.toInt_inj, ← Int8.toInt_inj]
  change (Int8.ofInt _).toInt = -1 ∨ (Int8.ofInt _).toInt = 0 ∨ (Int8.ofInt _).toInt = 1
  omega

/-- **Nothing is lost on the way to the exchange's clock**: where the trader's time means an
instant, and the exchange's date then is one that can be given, a time is told.  The trader's
date, moved by the days that are told, and the clock show what calendar and clock at the exchange
show at that instant, whether it shows the trader's time, shows one an hour later or is read as
universal time.  The days are one at most, and all of their number is kept.  A leap second stays
one unless it is moved.  Nothing is told exactly if the trader's time is not shown and has no
hour behind it in the calendar, or the calendar has no date for the exchange; that is so on the
first and the last day of the calendar only. -/
theorem ofTrader_exact (hexchange : IsExchange exchange) (htrader : IsTrader trader)
    (clock : Clock) (date : Date) :
    let wall := Time.wall date clock
    (∀ t, trader.localize wall = some t → (Time.dateOf (exchange.wallAt t)).inRange = true →
      ∃ r, ofTrader exchange trader clock date = some r ∧
        (r.dayOffset = -1 ∨ r.dayOffset = 0 ∨ r.dayOffset = 1) ∧
        Time.wall ⟨date.day + r.dayOffset.toInt⟩ r.clock = exchange.wallAt t ∧
        r.dayOffset.toInt = (Time.dateOf (exchange.wallAt t)).day - date.day ∧
        (r.clock.leap = true ↔ clock.leap = true ∧
          ((∃ t, trader.Shows wall t) ∨ ¬∃ t, trader.Shows (wall + Zone.gapShift) t))) ∧
    (ofTrader exchange trader clock date = none ↔
      ((¬∃ t, trader.Shows wall t) ∧ (Time.dateOf (wall + Zone.gapShift)).inRange = false) ∨
        ∃ t, trader.localize wall = some t ∧
          (Time.dateOf (exchange.wallAt t)).inRange = false) ∧
    (Date.firstDay.day < date.day → date.day < Date.lastDay.day →
      ∃ r, ofTrader exchange trader clock date = some r) := by
  intro wall
  refine ⟨fun t ht hrange => ?_, ?_, fun hfirst hlast =>
    exists_ofTrader hexchange htrader hfirst hlast clock⟩
  · obtain ⟨r, hr⟩ : ∃ r, ofTrader exchange trader clock date = some r :=
      ⟨_, ofTrader_eq_some_iff.mpr ⟨t, ht, hrange, rfl⟩⟩
    obtain ⟨hkept, hdays⟩ := dayOffset_ofTrader hexchange htrader ht hr
    refine ⟨r, hr, hdays, ?_, hkept, ?_⟩
    · rw [hkept, add_sub_cancel]
      obtain ⟨u, hu, -, rfl⟩ := ofTrader_eq_some_iff.mp hr
      obtain rfl := Option.some.inj (hu.symm.trans ht)
      exact Time.wall_dateOf_clockOf _ _
    · obtain ⟨u, -, -, rfl⟩ := ofTrader_eq_some_iff.mp hr
      rw [← Zone.isMoved_eq_false_iff, ← Bool.not_eq_true', ← Bool.and_eq_true]
  · rw [ofTrader_eq_none_iff, Zone.localize_eq_none_iff]

/-! ## the day that Manila left out -/

/-- A city that changed sides of the date line: 31 December 1844 was not counted there. -/
def manila : ZoneName := ⟨"Asia/Manila", by decide +kernel⟩

/-- 30 December 1844. -/
def manilaLast : Date := ⟨-45657⟩

/-- 31 December 1844. -/
def manilaSkipped : Date := ⟨-45656⟩

/-- Half past eleven at night. -/
def night : Clock := .ofSecond (23 * 3600 + 30 * 60)

/-- Noon. -/
def noon : Clock := .ofSecond (12 * 3600)

/-- A time in Manila, at the exchange. -/
def ofManila (clock : Clock) (date : Date) : Option ExchangeTime :=
  ofTrader (Zone.standard ZoneName.exchange) (Zone.standard manila) clock date

/-- What clocks in Manila show. -/
theorem isTrader_manila : IsTrader (Zone.standard manila) ∧
    (Zone.standard manila).earliestShowing (Time.wall manilaLast night) = some (-3944622832) ∧
    (Zone.standard manila).earliestShowing (Time.wall manilaSkipped noon) = none ∧
    (Zone.standard manila).earliestShowing (Time.wall manilaSkipped noon + Zone.gapShift) =
      none := by
  rw [Zone.standard_eq manila (by rfl)]
  decide +kernel

/-- What the exchange's clock shows at these instants. -/
theorem isExchange_exchange : IsExchange (Zone.standard ZoneName.exchange) ∧
    (Zone.standard ZoneName.exchange).wallAt (-3944622832) = -3944643868 ∧
    (Zone.standard ZoneName.exchange).wallAt (Time.wall manilaSkipped noon) = -3944656236 := by
  rw [Zone.standard_eq ZoneName.exchange (by rfl)]
  decide +kernel

/-- These dates can be given. -/
theorem inRange_manila : (Time.dateOf (-3944643868)).inRange = true ∧
    (Time.dateOf (-3944656236)).inRange = true ∧
    (Time.dateOf (Time.wall manilaSkipped noon + Zone.gapShift)).inRange = true := by
  decide +kernel

/-- The night before is a day later at the exchange, and noon of the day that was left out is
read as universal time.  Any time of that day is told. -/
theorem ofTrader_exact_manila :
    IsExchange (Zone.standard ZoneName.exchange) ∧ IsTrader (Zone.standard manila) ∧
      (∃ r, ofManila night manilaLast = some r ∧ r.dayOffset.toInt = 1 ∧
        Time.wall ⟨manilaLast.day + 1⟩ r.clock = -3944643868) ∧
      (∃ r, ofManila noon manilaSkipped = some r ∧ r.dayOffset.toInt = 0 ∧
        Time.wall manilaSkipped r.clock = -3944656236) ∧
      Date.firstDay.day < manilaSkipped.day ∧ manilaSkipped.day < Date.lastDay.day ∧
      ∀ clock, ∃ r, ofManila clock manilaSkipped = some r := by
  obtain ⟨htrader, hfirst, hnone, hnone'⟩ := isTrader_manila
  obtain ⟨hexchange, hnight, hnoon⟩ := isExchange_exchange
  obtain ⟨hrange, hrange', hmoved⟩ := inRange_manila
  have hinner : Date.firstDay.day < manilaSkipped.day ∧ manilaSkipped.day < Date.lastDay.day := by
    decide
  have hlast : (Zone.standard manila).localize (Time.wall manilaLast night) =
      some (-3944622832) := by
    rw [Zone.localize, hfirst]
  have hskipped : (Zone.standard manila).localize (Time.wall manilaSkipped noon) =
      some (Time.wall manilaSkipped noon) :=
    Zone.localize_eq_wall (Zone.earliestShowing_eq_none_iff.mp hnone) hmoved
      (Zone.earliestShowing_eq_none_iff.mp hnone')
  obtain ⟨r, hr, -, hwall, hdays, -⟩ :=
    (ofTrader_exact hexchange htrader night manilaLast).1 _ hlast (hnight ▸ hrange)
  obtain ⟨r', hr', -, hwall', hdays', -⟩ :=
    (ofTrader_exact hexchange htrader noon manilaSkipped).1 _ hskipped (hnoon ▸ hrange')
  rw [hnight] at hwall hdays
  rw [hnoon] at hwall' hdays'
  rw [hdays] at hwall
  rw [hdays'] at hwall'
  exact ⟨hexchange, htrader, ⟨r, hr, hdays, hwall⟩, ⟨r', hr', hdays', hwall'⟩, hinner.1, hinner.2,
    fun clock => (ofTrader_exact hexchange htrader clock manilaSkipped).2.2 hinner.1 hinner.2⟩

/-! ## the ends of the calendar -/

/-- Midnight. -/
def midnight : Clock := .ofSecond 0

/-- At the first midnight of universal time it is still the evening before at the exchange. -/
theorem wallAt_firstMidnight : Zone.universal.earliestShowing
      (Time.wall Date.firstDay midnight) = some (Time.wall Date.firstDay midnight) ∧
    (Time.dateOf ((Zone.standard ZoneName.exchange).wallAt
      (Time.wall Date.firstDay midnight))).inRange = false ∧
    IsTrader Zone.universal := by
  rw [Zone.standard_eq ZoneName.exchange (by rfl)]
  decide +kernel

/-- New York is behind universal time by less than sixteen hours. -/
theorem isTrader_newYork : IsTrader (Zone.standard ZoneName.trader) := by
  rw [Zone.standard_eq ZoneName.trader (by rfl)]
  decide +kernel

/-- **Times that are not told.**  The calendar has no date for the exchange at the first midnight
of universal time, which means an instant.  In the last hour of the last day the time in New York
is not shown at an instant whose date can be given, and cannot be moved on by an hour. -/
theorem ofTrader_beyond_calendar :
    IsExchange (Zone.standard ZoneName.exchange) ∧
    (Date.firstDay.inRange = true ∧ IsTrader Zone.universal ∧
      Zone.universal.localize (Time.wall Date.firstDay midnight) =
        some (Time.wall Date.firstDay midnight) ∧
      ofTrader (Zone.standard ZoneName.exchange) Zone.universal midnight Date.firstDay = none) ∧
    Date.lastDay.inRange = true ∧ IsTrader (Zone.standard ZoneName.trader) ∧
      ofTrader (Zone.standard ZoneName.exchange) (Zone.standard ZoneName.trader) night
        Date.lastDay = none := by
  obtain ⟨hshown, hevening, htrader⟩ := wallAt_firstMidnight
  obtain ⟨hunshown, -, hend⟩ := Zone.earliestShowing_lastEvening
  have hlocal : Zone.universal.localize (Time.wall Date.firstDay midnight) =
      some (Time.wall Date.firstDay midnight) := by
    rw [Zone.localize, hshown]
  have hnothing : (Zone.standard ZoneName.trader).localize (Time.wall Date.lastDay night) = none :=
    Zone.localize_eq_none_iff.mpr ⟨Zone.earliestShowing_eq_none_iff.mp hunshown, hend⟩
  have hfirst := (Date.inRange_iff Date.firstDay).mpr ⟨le_rfl, by decide⟩
  have hlast := (Date.inRange_iff Date.lastDay).mpr ⟨by decide, le_rfl⟩
  exact ⟨isExchange_exchange.1,
    ⟨hfirst, htrader, hlocal, ofTrader_eq_none_iff.mpr (.inr ⟨_, hlocal, hevening⟩)⟩,
    hlast, isTrader_newYork, ofTrader_eq_none_iff.mpr (.inl hnothing)⟩

end ExchangeTime

end Playbook
