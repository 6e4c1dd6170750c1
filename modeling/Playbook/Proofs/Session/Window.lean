import Playbook.Proofs.Session.Converted
import Playbook.Proofs.Zone.Showing

/-!
# Playbook.Proofs.Session.Window

An instant falls into a session exactly if the session's hours on the exchange's
clock contain what this clock shows (`Session.isOpen_eq_contains`).

The two sides use different clocks: a custom session is checked on the trader's
clock, and its hours are told on the exchange's clock.  Where both zones keep their
offsets the second clock is some minutes ahead of the first one, and hours do not
depend on where the minutes are counted from.
-/

namespace Playbook

open Time (Clock Date)

namespace Session

/-- The date at the exchange. -/
def exchangeDate (tz : ZoneDatabase) (i : ℤ) : Date :=
  Time.dateOf ((tz ZoneName.exchange).wallAt i)

/-- The minute of the day at the exchange. -/
def exchangeMinute (tz : ZoneDatabase) (i : ℤ) : Nat :=
  (Time.clockOf ((tz ZoneName.exchange).wallAt i)).minuteOfDay

variable {exchange trader : Zone} {i minutes exchangeMinutes : ℤ} {clock : Clock} {date : Date}

/-- On a date near by every time is told, and the exchange's clock is ahead of the trader's by
the difference of the offsets. -/
theorem exists_ofTrader_of_settled (hexchange : exchange.OffsetsWithinDay)
    (htrader : trader.OffsetsWithinDay)
    (hgiven : ∀ t, Zone.Near i t → (Time.dateOf t).inRange = true)
    (hsettled : exchange.Settled i exchangeMinutes) (hsettled' : trader.Settled i minutes)
    (hclock : clock.IsWhole)
    (hlow : (Time.dateOf (exchange.wallAt i)).day - 1 ≤ date.day)
    (hhigh : date.day ≤ (Time.dateOf (exchange.wallAt i)).day + 1) :
    ∃ r, ExchangeTime.ofTrader exchange trader clock date = some r ∧
      (r.clock.minuteOfDay : ℤ) =
        (clock.minuteOfDay + (exchangeMinutes - minutes)) % Hours.minutesPerDay := by
  have hseconds : Time.secondsPerDay = 86400 := rfl
  have hsecond := clock.secondOfDay_lt
  have hdate (wall : ℤ) : (Time.dateOf wall).day = wall / 86400 := rfl
  have hself : Zone.Near i i := by constructor <;> omega
  have hoffset := hexchange _ (exchange.offsetAt_mem_offsets i)
  have hoffset' := htrader _ (trader.offsetAt_mem_offsets i)
  rw [hsettled i hself] at hoffset
  rw [hsettled' i hself] at hoffset'
  rw [hsettled.wallAt_eq hself, hdate] at hlow hhigh
  have hwall : Time.wall date clock = date.day * 86400 + clock.secondOfDay := rfl
  obtain ⟨hnear, hlocal⟩ : Zone.Near i (Time.wall date clock - minutes * 60) ∧
      trader.localize (Time.wall date clock) = some (Time.wall date clock - minutes * 60) :=
    Zone.localize_of_settled htrader hgiven hsettled' hoffset (by omega) (by omega)
  -- The exchange's calendar is less than five days off, too.
  have hrange : (Time.dateOf (exchange.wallAt (Time.wall date clock - minutes * 60))).inRange =
      true := by
    rw [hsettled.wallAt_eq hnear]
    exact hgiven _ (by constructor <;> omega)
  have htold := ExchangeTime.ofTrader_eq_some_iff.mpr ⟨_, hlocal, hrange, rfl⟩
  have hahead : ExchangeTime.ahead exchange trader clock date = exchangeMinutes - minutes := by
    rw [ExchangeTime.ahead, Zone.meant_of_localize hlocal, hsettled.wallAt_eq hnear]
    omega
  have hminute := ExchangeTime.minuteOfDay_ofTrader hclock htold
  rw [hahead] at hminute
  exact ⟨_, htold, hminute⟩

/-- **One window on two clocks**: an instant falls into a session exactly if the hours
that are told on the exchange's clock contain what this clock shows.  That holds for
named sessions always, and for a custom session where both zones keep their offsets for
five days before and after the instant, with the hours of the date at the exchange, of
the day before it and of the day behind it.  There are such hours on these dates. -/
theorem isOpen_eq_contains (tz : ZoneDatabase) (s : Session) (i : ℤ) :
    ((∀ start stop, s.kind ≠ .custom start stop) →
      ∀ date, ∃ hours, s.hoursOn tz date = some hours ∧
        s.isOpen tz i = hours.contains (exchangeMinute tz i)) ∧
    ∀ start stop, s.kind = .custom start stop → start.IsWhole → stop.IsWhole →
      (∀ zone, (tz zone).OffsetsWithinDay) →
      (∀ t, Zone.Near i t → (Time.dateOf t).inRange = true) →
      ∀ exchangeMinutes minutes, (tz ZoneName.exchange).Settled i exchangeMinutes →
      (tz s.zone).Settled i minutes →
      ∀ date : Date, (exchangeDate tz i).day - 1 ≤ date.day →
        date.day ≤ (exchangeDate tz i).day + 1 →
        ∃ hours, s.hoursOn tz date = some hours ∧
          s.isOpen tz i = hours.contains (exchangeMinute tz i) := by
  obtain ⟨kind, zone⟩ := s
  constructor
  · intro hnamed date
    cases kind with
    | custom start stop => exact absurd rfl (hnamed start stop)
    | _ => exact ⟨_, rfl, rfl⟩
  · rintro start stop rfl hstart hstop htz hgiven exchangeMinutes minutes hsettled hsettled' date
      hlow hhigh
    have hself : Zone.Near i i := by
      have hseconds : Time.secondsPerDay = 86400 := rfl
      constructor <;> omega
    have hminute : ((exchangeMinute tz i : ℕ) : ℤ) =
        ((Time.clockOf ((tz zone).wallAt i)).minuteOfDay + (exchangeMinutes - minutes)) %
          Hours.minutesPerDay := by
      have hday : Hours.minutesPerDay = 1440 := rfl
      rw [exchangeMinute, Time.minuteOfDay_clockOf, Time.minuteOfDay_clockOf,
        hsettled.wallAt_eq hself, hsettled'.wallAt_eq hself, hday]
      omega
    have htold {clock : Clock} (hclock : clock.IsWhole) :=
      exists_ofTrader_of_settled (htz ZoneName.exchange) (htz zone) hgiven hsettled hsettled' hclock
        hlow hhigh
    obtain ⟨first, hfirst, hfirst'⟩ := htold hstart
    obtain ⟨last, hlast, hlast'⟩ := htold hstop
    refine ⟨⟨first.clock.minuteOfDay, last.clock.minuteOfDay⟩,
      (hoursOn_eq_some_iff rfl).mpr ⟨first, last, hfirst, hlast, rfl⟩, ?_⟩
    exact (Hours.contains_rotate (exchangeMinutes - minutes) start.minuteOfDay_lt
      stop.minuteOfDay_lt hfirst' hlast' hminute).symm

/-! ## London in March -/

/-- The exchange's zone in 2024. -/
def chicago2024 : Zone :=
  ⟨⟨-21600, false⟩, [(1710057600, ⟨-18000, true⟩), (1730617200, ⟨-21600, false⟩)]⟩

/-- The zone of London in 2024, which changes its offset three weeks later. -/
def london2024 : Zone :=
  ⟨⟨0, false⟩, [(1711846800, ⟨3600, true⟩), (1729990800, ⟨0, false⟩)]⟩

/-- The name of the second zone. -/
def london : ZoneName := ⟨"Europe/London", by decide +kernel⟩

/-- The two zones by their names, and universal time for all others. -/
def zones2024 : ZoneDatabase := fun zone =>
  if zone = ZoneName.exchange then chicago2024 else if zone = london then london2024
  else Zone.universal

/-- Two hours in the morning of London. -/
def londonMorning : Session := ⟨.custom (.ofSecond (9 * 3600)) (.ofSecond (11 * 3600)), london⟩

/-- Half past nine in London on 20 March 2024, between the changes of the two zones. -/
def march20 : ℤ := 1710927000

theorem zones2024_withinDay (zone : ZoneName) : (zones2024 zone).OffsetsWithinDay := by
  unfold zones2024 Zone.OffsetsWithinDay
  split
  · decide
  · split <;> decide

/-- Chicago has put its clocks forward by then. -/
theorem chicago2024_settled : (zones2024 ZoneName.exchange).Settled march20 (-300) := by
  intro t ht
  have hseconds : Time.secondsPerDay = 86400 := rfl
  obtain ⟨hlow, hhigh⟩ := ht
  rw [march20, hseconds] at hlow hhigh
  have hfirst : (1710057600 : ℤ) ≤ t := by omega
  have hsecond : ¬(1730617200 : ℤ) ≤ t := by omega
  have hzone : zones2024 ZoneName.exchange = chicago2024 := if_pos rfl
  simp [hzone, Zone.offsetAt, chicago2024, hfirst, hsecond]

/-- London has not. -/
theorem london2024_settled : (zones2024 london).Settled march20 0 := by
  intro t ht
  have hseconds : Time.secondsPerDay = 86400 := rfl
  obtain ⟨hlow, hhigh⟩ := ht
  rw [march20, hseconds] at hlow hhigh
  have hfirst : ¬(1711846800 : ℤ) ≤ t := by omega
  have hname : london ≠ ZoneName.exchange := by decide +kernel
  have hzone : zones2024 london = london2024 := by rw [zones2024, if_neg hname, if_pos rfl]
  simp [hzone, Zone.offsetAt, london2024, hfirst]

theorem inRange_march20 (t : ℤ) (ht : Zone.Near march20 t) :
    (Time.dateOf t).inRange = true := by
  have hseconds : Time.secondsPerDay = 86400 := rfl
  obtain ⟨hlow, hhigh⟩ := ht
  rw [march20, hseconds] at hlow hhigh
  rw [Time.dateOf, hseconds]
  obtain ⟨day, hday⟩ : ∃ day, day = t / 86400 := ⟨_, rfl⟩
  have h1 : 19797 ≤ day := by omega
  have h2 : day ≤ 19807 := by omega
  rw [← hday]
  interval_cases day <;> decide

/-- While London and the exchange are five hours apart, the session in London is open
from four to six on the exchange's clock; named sessions have their fixed hours. -/
theorem isOpen_londonMorning :
    (∀ date : Date, date.day = 19802 →
      ∃ hours, londonMorning.hoursOn zones2024 date = some hours ∧
        londonMorning.isOpen zones2024 march20 =
          hours.contains (exchangeMinute zones2024 march20)) ∧
    londonMorning.isOpen zones2024 march20 = true ∧
    londonMorning.hoursOn zones2024 ⟨19802⟩ = some ⟨240, 360⟩ ∧
    ∀ date, ∃ hours, (⟨.ny, london⟩ : Session).hoursOn zones2024 date = some hours ∧
      (⟨.ny, london⟩ : Session).isOpen zones2024 march20 =
        hours.contains (exchangeMinute zones2024 march20) := by
  refine ⟨fun date hdate => ?_, by decide +kernel, by decide +kernel, ?_⟩
  · have hdate' : (exchangeDate zones2024 march20).day = 19802 := by decide +kernel
    exact (isOpen_eq_contains zones2024 londonMorning march20).2 _ _ rfl ⟨rfl, rfl⟩ ⟨rfl, rfl⟩
      zones2024_withinDay inRange_march20 _ _ chicago2024_settled london2024_settled date
      (by omega) (by omega)
  · exact (isOpen_eq_contains zones2024 _ march20).1 nofun

end Session

end Playbook
