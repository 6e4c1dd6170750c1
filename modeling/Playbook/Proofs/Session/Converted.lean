import Mathlib
import Playbook.Proofs.Session.Exchange
import Playbook.Proofs.Session.Hours
import Playbook.Proofs.Strategy.Reader
import Playbook.Session.Window

/-!
# Playbook.Proofs.Session.Converted

How long a custom session is on the exchange's clock.

Both ends are told on that clock one by one.  Between them it may gain minutes on the trader's
clock or lose some, where a zone changes its offset or an end is moved out of a gap (`drift`).
So the hours are as long as on the trader's clock, but for these minutes, counted round the
clock (`hoursOn_custom`): they are empty or nearly a day if the drift takes all minutes.
-/

namespace Playbook

open Time (Clock Date)

/-- The offset by which a time on the wall is read. -/
def Zone.readOffset (z : Zone) (wall : ℤ) : ℤ := wall - z.meant wall

/-- For a time that is shown it is the offset in force. -/
theorem Zone.readOffset_eq {z : Zone} {wall : ℤ} (h : ∃ t, z.Shows wall t) :
    z.readOffset wall = (z.offsetAt (z.meant wall)).seconds := by
  obtain ⟨t, ht, hleast⟩ := exists_localize_of_shown h
  have hwall := hleast.1.1
  rw [wallAt] at hwall
  rw [readOffset, meant_of_localize ht]
  omega

namespace Session

section

variable (tz : ZoneDatabase) (s : Session) (date : Date)

/-- The instant that a time on the trader's clock means. -/
def instantOf (clock : Clock) : ℤ := (tz s.zone).meant (Time.wall date clock)

/-- The minutes that the exchange's clock gains on the trader's clock from one time to another
one on the same date. -/
def drift (start stop : Clock) : ℤ :=
  let ahead := ExchangeTime.ahead (tz ZoneName.exchange) (tz s.zone)
  ahead stop date - ahead start date

/-- The trader's clock shows both times, and both zones have the same offset at the two
instants. -/
structure Steady (start stop : Clock) : Prop where
  start_shown : ∃ t, (tz s.zone).Shows (Time.wall date start) t
  stop_shown : ∃ t, (tz s.zone).Shows (Time.wall date stop) t
  trader : ((tz s.zone).offsetAt (s.instantOf tz date stop)).seconds =
    ((tz s.zone).offsetAt (s.instantOf tz date start)).seconds
  exchange : ((tz ZoneName.exchange).offsetAt (s.instantOf tz date stop)).seconds =
    ((tz ZoneName.exchange).offsetAt (s.instantOf tz date start)).seconds

/-- The offsets by which two times are read differ by some minutes at most, and so do the
exchange's offsets at the two instants. -/
structure NearlySteady (minutes : ℤ) (start stop : Clock) : Prop where
  trader : |(tz s.zone).readOffset (Time.wall date stop) -
    (tz s.zone).readOffset (Time.wall date start)| ≤ minutes * 60
  exchange : |((tz ZoneName.exchange).offsetAt (s.instantOf tz date stop)).seconds -
    ((tz ZoneName.exchange).offsetAt (s.instantOf tz date start)).seconds| ≤ minutes * 60

end

variable {tz : ZoneDatabase} {s : Session} {date : Date} {start stop : Clock}

/-- What does not change at all changes by no more than nothing. -/
theorem Steady.nearlySteady (h : s.Steady tz date start stop) :
    s.NearlySteady tz date 0 start stop where
  trader := by
    have hoffset := h.trader
    rw [instantOf, instantOf] at hoffset
    rw [Zone.readOffset_eq h.start_shown, Zone.readOffset_eq h.stop_shown, hoffset, sub_self,
      abs_zero, zero_mul]
  exchange := by rw [h.exchange, sub_self, abs_zero, zero_mul]

/-- The exchange's clock is ahead by the difference of the offsets. -/
theorem ahead_eq (clock : Clock) :
    ExchangeTime.ahead (tz ZoneName.exchange) (tz s.zone) clock date =
      (((tz ZoneName.exchange).offsetAt (s.instantOf tz date clock)).seconds -
        (tz s.zone).readOffset (Time.wall date clock)) / 60 := by
  rw [ExchangeTime.ahead, Zone.wallAt, Zone.readOffset, instantOf]
  congr 1
  ring

/-- Both zones count. -/
theorem NearlySteady.abs_drift_le {minutes : ℤ} (h : s.NearlySteady tz date minutes start stop) :
    |s.drift tz date start stop| ≤ 2 * minutes := by
  obtain ⟨htrader, hexchange⟩ := h
  rw [abs_le] at htrader hexchange
  rw [drift, ahead_eq, ahead_eq, abs_le]
  omega

/-- The ends of a custom session that is read are whole minutes, and not the same. -/
theorem ends_of_ofFields {f : Fields} (hs : Session.ofFields f = .ok s)
    (hkind : s.kind = .custom start stop) : start.IsWhole ∧ stop.IsWhole ∧ start ≠ stop := by
  have hread := ((readsFields_session f s).mp hs).kind
  rw [hkind] at hread
  cases hread with
  | custom _ hstart hstop hne =>
      obtain ⟨-, -, -, -, hsecond, hleap, -⟩ := hstart
      obtain ⟨-, -, -, -, hsecond', hleap', -⟩ := hstop
      exact ⟨⟨Fin.val_eq_of_eq hsecond, hleap⟩, ⟨Fin.val_eq_of_eq hsecond', hleap'⟩, hne⟩

/-! ## hours on both clocks -/

/-- The length on the trader's clock, counted round the clock. -/
theorem duration_bounds (hkind : s.kind = .custom start stop) :
    (s.bounds.duration : ℤ) =
      ((stop.minuteOfDay : ℤ) - start.minuteOfDay) % Hours.minutesPerDay := by
  rw [bounds, hkind]
  exact Hours.duration_eq start.minuteOfDay_lt stop.minuteOfDay_lt

/-- Hours that are read are not empty, and not a whole day. -/
theorem duration_bounds_pos {f : Fields} (hs : Session.ofFields f = .ok s)
    (hkind : s.kind = .custom start stop) :
    0 < s.bounds.duration ∧ s.bounds.duration < Hours.minutesPerDay := by
  have hday : Hours.minutesPerDay = 1440 := rfl
  obtain ⟨hstart, hstop, hne⟩ := ends_of_ofFields hs hkind
  have hdiffer : start.minuteOfDay ≠ stop.minuteOfDay :=
    fun hsame => hne (hstart.eq_of_minuteOfDay hstop hsame)
  have hduration := duration_bounds hkind
  have hminute := start.minuteOfDay_lt
  have hminute' := stop.minuteOfDay_lt
  rw [hday] at hduration hminute hminute' ⊢
  omega

/-- The hours that are told, by what is told of their ends. -/
theorem hoursOn_eq_some_iff (hkind : s.kind = .custom start stop) {told : Hours} :
    s.hoursOn tz date = some told ↔
      ∃ first last,
        ExchangeTime.ofTrader (tz ZoneName.exchange) (tz s.zone) start date = some first ∧
        ExchangeTime.ofTrader (tz ZoneName.exchange) (tz s.zone) stop date = some last ∧
        told = ⟨first.clock.minuteOfDay, last.clock.minuteOfDay⟩ := by
  rw [hoursOn, hkind]
  simp only [Option.bind_eq_some_iff, Option.map_eq_some_iff]
  grind

/-- On every day but the first and the last of the calendar hours are told. -/
theorem exists_hoursOn (hexchange : ExchangeTime.IsExchange (tz ZoneName.exchange))
    (htrader : ExchangeTime.IsTrader (tz s.zone)) (hfirst : Date.firstDay.day < date.day)
    (hlast : date.day < Date.lastDay.day) : ∃ told, s.hoursOn tz date = some told := by
  cases hkind : s.kind with
  | custom start stop =>
      obtain ⟨first, hfrom⟩ := ExchangeTime.exists_ofTrader hexchange htrader hfirst hlast start
      obtain ⟨last, hto⟩ := ExchangeTime.exists_ofTrader hexchange htrader hfirst hlast stop
      exact ⟨_, (hoursOn_eq_some_iff hkind).mpr ⟨first, last, hfrom, hto, rfl⟩⟩
  | _ => exact ⟨s.bounds, by rw [hoursOn, hkind]⟩

section

variable {told : Hours} (hkind : s.kind = .custom start stop)
  (htold : s.hoursOn tz date = some told)
include hkind htold

/-- The ends that are told are minutes of a day. -/
theorem hoursOn_lt :
    told.start < Hours.minutesPerDay ∧ told.stop < Hours.minutesPerDay := by
  obtain ⟨first, last, -, -, rfl⟩ := (hoursOn_eq_some_iff hkind).mp htold
  exact ⟨Clock.minuteOfDay_lt _, Clock.minuteOfDay_lt _⟩

/-- Each end is told by itself. -/
theorem hoursOn_ends (hstart : start.IsWhole) (hstop : stop.IsWhole) :
    let ahead := ExchangeTime.ahead (tz ZoneName.exchange) (tz s.zone)
    (told.start : ℤ) = (start.minuteOfDay + ahead start date) % Hours.minutesPerDay ∧
      (told.stop : ℤ) = (stop.minuteOfDay + ahead stop date) % Hours.minutesPerDay := by
  obtain ⟨first, last, hfirst, hlast, rfl⟩ := (hoursOn_eq_some_iff hkind).mp htold
  exact ⟨ExchangeTime.minuteOfDay_ofTrader hstart hfirst,
    ExchangeTime.minuteOfDay_ofTrader hstop hlast⟩

/-- The hours are longer on the exchange's clock by the drift, counted round the clock. -/
theorem duration_hoursOn (hstart : start.IsWhole) (hstop : stop.IsWhole) :
    (told.duration : ℤ) =
      (s.bounds.duration + s.drift tz date start stop) % Hours.minutesPerDay := by
  have hday : Hours.minutesPerDay = 1440 := rfl
  obtain ⟨hlt, hlt'⟩ := hoursOn_lt hkind htold
  obtain ⟨hfrom, hto⟩ := hoursOn_ends hkind htold hstart hstop
  rw [Hours.duration_eq hlt hlt', hfrom, hto, duration_bounds hkind, drift, hday]
  omega

/-- Hours are told as they are if the drift leaves some of their minutes, and not a day. -/
theorem duration_hoursOn_of_lt (hstart : start.IsWhole) (hstop : stop.IsWhole)
    (hlow : 0 < s.bounds.duration + s.drift tz date start stop)
    (hhigh : s.bounds.duration + s.drift tz date start stop < Hours.minutesPerDay) :
    told.start ≠ told.stop ∧
      (told.duration : ℤ) = s.bounds.duration + s.drift tz date start stop := by
  have hduration := duration_hoursOn hkind htold hstart hstop
  rw [Int.emod_eq_of_lt hlow.le hhigh] at hduration
  obtain ⟨hlt, hlt'⟩ := hoursOn_lt hkind htold
  refine ⟨fun hsame => ?_, hduration⟩
  rw [(Hours.duration_eq_zero_iff hlt hlt').mpr hsame] at hduration
  omega

end

/-! ## New York in spring -/

/-- 10 March 2024, when clocks in New York are put forward at two, an hour before the exchange's
clock is. -/
def march10 : Date := ⟨19792⟩

/-- The clock time so many minutes after midnight. -/
def atMinute (minute : Nat) : Clock := .ofSecond (minute * 60)

/-- A session in New York, in minutes after midnight. -/
def newYork (start stop : Nat) : Session :=
  ⟨.custom (atMinute start) (atMinute stop), ZoneName.trader⟩

/-- The members of a document that asks for a session in New York. -/
def newYorkFields (start stop : String) : Fields :=
  ⟨["session"], [("session", .string "custom"), ("customStart", .string start),
    ("customEnd", .string stop)]⟩

/-- The minutes by which the exchange's clock is ahead on that day. -/
def newYorkAhead (minute : Nat) : ℤ :=
  ExchangeTime.ahead (Zone.standard ZoneName.exchange) (Zone.standard ZoneName.trader)
    (atMinute minute) march10

end Session

end Playbook
