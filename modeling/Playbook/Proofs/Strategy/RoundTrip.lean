import Playbook.Proofs.Strategy.Reader
import Playbook.Proofs.Zone.Description
import Playbook.Strategy.Writer

/-!
# Playbook.Proofs.Strategy.RoundTrip

The document that is written for a strategy is read as this strategy
(`Strategy.ofJson_toJson`).

`Writes write means` is the counterpart of `Reads`: what a value means is written
as a value with the same meaning.  Only meanings that some value has matter, since
the types of strategies do not carry the bounds.
-/

namespace Playbook

open Number Time Schema Checked

variable {α : Type}

/-! ## written values -/

/-- Whatever a value means is written as a value that means it, too, and that does
not count as absent. -/
def Writes (write : α → Json) (means : Json → α → Prop) : Prop :=
  ∀ v x, means v x → write x ≠ .null ∧ means (write x) x

/-- Whatever the members of an object mean is written as an object that means it. -/
def WritesFields (write : α → Json) (means : Members → α → Prop) : Prop :=
  ∀ o x, means o x → IsObject means (write x) x

/-- What is written for members is written for an object. -/
theorem writes_object {write : α → Json} {means : Members → α → Prop}
    (h : WritesFields write means) : Writes write (IsObject means) := by
  intro v x hv
  obtain ⟨o, -, hx⟩ := hv
  obtain ⟨o', ho', hx'⟩ := h o x hx
  refine ⟨?_, o', ho', hx'⟩
  rw [ho']
  exact nofun

namespace Schema

variable {o o' : Members} {name : String} {means : Json → α → Prop} {write : α → Json}
  {x absent : α}

/-- A field that has to be there is written. -/
theorem Required.written (h : Required o name means x) (hwrites : Writes write means)
    (hlookup : o'.lookup name = some (write x)) : Required o' name means x := by
  obtain ⟨v, -, hv⟩ := h
  obtain ⟨hnull, hx⟩ := hwrites v x hv
  exact ⟨write x, ⟨hlookup, hnull⟩, hx⟩

/-- A field that may be absent is written even then, if some value means the same. -/
theorem Optional.written (h : Optional o name absent means x) (hwrites : Writes write means)
    (habsent : ∃ v, means v absent) (hlookup : o'.lookup name = some (write x)) :
    Optional o' name absent means x := by
  have hmeans : ∃ v, means v x := by
    obtain ⟨v, -, hv⟩ | ⟨-, rfl⟩ := h
    · exact ⟨v, hv⟩
    · exact habsent
  obtain ⟨v, hv⟩ := hmeans
  obtain ⟨hnull, hx⟩ := hwrites v x hv
  exact .inl ⟨write x, ⟨hlookup, hnull⟩, hx⟩

/-- The method of written members. -/
theorem method_written (name : String) (rest : Members) :
    Method (("method", .string name) :: rest) name := ⟨rfl, nofun⟩

end Schema

/-! ## texts -/

/-- A text that is written has to mean what it is written for. -/
theorem writes_text {write : α → String} {means : String → α → Prop}
    (h : ∀ s x, means s x → means (write x) x) :
    Writes (fun x => .string (write x)) (IsText means) := by
  intro v x hv
  obtain ⟨s, -, hs⟩ := hv
  exact ⟨nofun, write x, rfl, h s x hs⟩

/-- The name of a meaning that has one is a name for it. -/
theorem nameOf_mem [DecidableEq α] {named : List (String × α)} {s : String} {x : α}
    (h : (s, x) ∈ named) : (nameOf named x, x) ∈ named := by
  rw [nameOf]
  cases hfind : named.find? fun n => n.2 = x with
  | none => exact absurd (decide_eq_true rfl) (List.find?_eq_none.mp hfind (s, x) h)
  | some n =>
      have hx := List.find?_some hfind
      rw [← of_decide_eq_true hx]
      exact List.mem_of_find?_eq_some hfind

/-- A name that is looked up in a table of names means what it stands for. -/
theorem writes_nameOf [DecidableEq α] {named : List (String × α)} {means : String → α → Prop}
    (h : ∀ s x, (s, x) ∈ named ↔ means s x) :
    Writes (fun x => .string (nameOf named x)) (IsText means) :=
  writes_text fun s x hs => (h _ x).mp (nameOf_mem ((h s x).mpr hs))

/-- A pattern is written with its own name, whichever name was read. -/
theorem writes_pattern : Writes (fun p => .string p.name) (IsText PatternName) := by
  refine writes_text fun s p _ => ?_
  cases p <;> constructor

theorem writes_direction : Writes (fun d => .string d.name) (IsText DirectionName) := by
  refine writes_text fun s d _ => ?_
  cases d <;> constructor

theorem writes_symbol : Writes (fun x => .string x.text) (IsText SymbolText) := by
  refine writes_text fun s x _ => ⟨[], x.text.toList, [], ?_, nofun, nofun, rfl⟩
  rw [List.nil_append, List.append_nil]

/-- A clock time is written with two digits for each part. -/
theorem writes_clock : Writes (fun c => .string c.write) (IsText ClockText) :=
  writes_text fun _ _ h => Clock.tells_write h.1 h.2.1

/-- A zone is written with its full name, which describes nothing else. -/
theorem writes_zone : Writes (fun z => .string z.text) (IsText ZoneText) :=
  writes_text fun _ _ h => ZoneName.ofDescription?_text h

/-- The zone that stands for none has a description, its own name. -/
theorem trader_described : ZoneText ZoneName.trader.text ZoneName.trader :=
  ZoneName.ofDescription?_of_visible (ZoneName.visible_of_slash (by decide))

/-! ## numbers -/

/-- Any number that was read can be written and means the same: it is finite. -/
theorem writes_number : Writes Json.ofFloat IsNumber := by
  intro v x h
  have hfinite : x.isFinite := by
    cases h with
    | integer hfinite => exact hfinite
    | real hfinite => exact hfinite
  rw [Json.ofFloat, if_pos hfinite]
  exact ⟨by rintro ⟨⟩, .real hfinite⟩

/-- The bounds are about the number and not about its text. -/
theorem writes_numberThat {bounds : Float → Prop} : Writes Json.ofFloat (IsNumberThat bounds) := by
  intro v x hv
  obtain ⟨hnumber, hbounds⟩ := hv
  obtain ⟨hnull, hx⟩ := writes_number v x hnumber
  exact ⟨hnull, hx, hbounds⟩

/-- A whole number that fits into a mantissa is written as an integer, and the
integer is not rounded when it is read. -/
theorem isWhole_integer {least most n : Nat} (hmost : most < 2 ^ 53) (hn : least ≤ n)
    (hn' : n ≤ most) : IsWhole least most (.integer n) n := by
  have hvalue : IsValue (Float.ofInt n) n := isValue_ofNat (by omega)
  exact ⟨Float.ofInt n, .integer hvalue.isFinite, hvalue, hn, hn'⟩

/-- A number of things is below the numbers that are not exact. -/
theorem writes_whole {least most : Nat} (hmost : most < 2 ^ 53) :
    Writes (fun n : Nat => .integer n) (IsWhole least most) := by
  intro v n hv
  obtain ⟨x, -, -, hn, hn'⟩ := hv
  exact ⟨nofun, isWhole_integer hmost hn hn'⟩

/-- A finite number of ticks that is not below zero passes its check. -/
theorem isTicks_real {x : Float} (hfinite : x.isFinite = true) (hx : 0.0 ≤ x) :
    ∃ v, IsTicks v x := ⟨.real x, .real hfinite, hx⟩

/-! ## distances and methods -/

/-- A distance is written with its unit, also where none was read. -/
theorem Schema.FixedDistance.written {o o' : Members} {d : Distance} (h : FixedDistance o d)
    (hvalue : o'.lookup "value" = some (.ofFloat d.value))
    (hunit : o'.lookup "unit" = some (.string (nameOf DistanceUnit.named d.unit))) :
    FixedDistance o' d where
  value := h.value.written writes_numberThat hvalue
  unit := h.unit.written (writes_nameOf mem_unit_iff) ⟨_, _, rfl, .ticks⟩ hunit

/-- The value of a method keeps its meaning among other members. -/
theorem Schema.Value.written {o o' : Members} {x : Float} (h : Value o x)
    (hlookup : o'.lookup "value" = some (.ofFloat x)) : Value o' x :=
  Required.written h writes_numberThat hlookup

/-! ## opening range -/

/-- What is written for a stop has the name of its method and the fields that belong to it. -/
theorem writesFields_openingStop : WritesFields OpeningRange.Stop.toJson OpeningStop := by
  intro o x h
  cases h with
  | percentage _ hx =>
      exact ⟨_, rfl, .percentage (method_written _ _) (hx.written writes_numberThat rfl)⟩
  | oppositeSide _ => exact ⟨_, rfl, .oppositeSide (method_written _ _)⟩
  | fixed _ hd => exact ⟨_, rfl, .fixed (method_written _ _) (hd.written rfl rfl)⟩
  | atr _ hx => exact ⟨_, rfl, .atr (method_written _ _) (hx.written rfl)⟩

theorem writesFields_openingTarget : WritesFields OpeningRange.Target.toJson OpeningTarget := by
  intro o x h
  cases h with
  | risk _ hx => exact ⟨_, rfl, .risk (method_written _ _) (hx.written rfl)⟩
  | extension _ hx => exact ⟨_, rfl, .extension (method_written _ _) (hx.written rfl)⟩
  | fixed _ hd => exact ⟨_, rfl, .fixed (method_written _ _) (hd.written rfl rfl)⟩

/-- Rules are written with all fields, also with those that were absent. -/
theorem writesFields_openingRules : WritesFields OpeningRange.Rules.toJson OpeningRules := by
  intro o r h
  refine ⟨_, rfl, ?_, ?_, ?_, ?_⟩
  · exact h.period.written (writes_whole (by decide)) rfl
  · exact h.buffer.written writes_numberThat (isTicks_real rfl (by decide +kernel)) rfl
  · exact h.stop.written (writes_object writesFields_openingStop) rfl
  · exact h.target.written (writes_object writesFields_openingTarget) rfl

/-! ## pullback -/

/-- A band that is written has its ends in the same order. -/
theorem writesFields_band : WritesFields Pullback.RsiBand.toJson Band := by
  intro o b h
  refine ⟨_, rfl, ?_, ?_, h.ordered⟩
  · exact h.min.written writes_numberThat rfl
  · exact h.max.written writes_numberThat rfl

theorem writesFields_pullbackStop : WritesFields Pullback.Stop.toJson PullbackStop := by
  intro o x h
  cases h with
  | swing _ hx =>
      refine ⟨_, rfl, .swing (method_written _ _) ?_⟩
      exact hx.written writes_numberThat (isTicks_real rfl (by decide +kernel)) rfl
  | atr _ hx => exact ⟨_, rfl, .atr (method_written _ _) (hx.written rfl)⟩
  | fixed _ hd => exact ⟨_, rfl, .fixed (method_written _ _) (hd.written rfl rfl)⟩

theorem writesFields_pullbackTarget : WritesFields Pullback.Target.toJson PullbackTarget := by
  intro o x h
  cases h with
  | risk _ hx => exact ⟨_, rfl, .risk (method_written _ _) (hx.written rfl)⟩

/-- The target that stands for none is the meaning of an object. -/
theorem pullbackTarget_described : ∃ v, IsObject PullbackTarget v Default.pullbackTarget := by
  refine ⟨valueMethod "r_multiple" 2.0, _, rfl, .risk (method_written _ _) ?_⟩
  exact ⟨.real 2.0, ⟨rfl, nofun⟩, .real rfl, by decide +kernel⟩

/-- A band is written if there is one. -/
theorem writesFields_someBand :
    WritesFields (fun b => b.elim .null Pullback.RsiBand.toJson) SomeBand := by
  intro o b h
  obtain ⟨band, hband, rfl⟩ := h
  obtain ⟨o', ho', hband'⟩ := writesFields_band o band hband
  exact ⟨o', ho', band, hband', rfl⟩

/-- A band that is not there is not written; the other fields are. -/
theorem writesFields_pullbackRules : WritesFields Pullback.Rules.toJson PullbackRules := by
  intro o r h
  obtain ⟨period, confirmation, tolerance, band, stop, target⟩ := r
  refine ⟨_, rfl, ?_, ?_, ?_, ?_, ?_, ?_⟩
  · exact h.period.written (writes_whole (by decide)) rfl
  · exact h.confirmation.written (writes_nameOf mem_pullbackConfirmation_iff)
      ⟨_, _, rfl, .bounce⟩ rfl
  · exact h.tolerance.written writes_numberThat (isTicks_real rfl (by decide +kernel)) rfl
  -- The member of the band may be missing, and the members behind it move up.
  · cases band with
    | none => exact .inr ⟨nofun, rfl⟩
    | some band =>
        have hband := h.band.resolve_right fun habsent => nomatch habsent.2
        exact .inl (hband.written (writes_object writesFields_someBand) rfl)
  · exact h.stop.written (writes_object writesFields_pullbackStop) (by cases band <;> rfl)
  · exact h.target.written (writes_object writesFields_pullbackTarget) pullbackTarget_described
      (by cases band <;> rfl)

/-! ## breakout -/

theorem writesFields_breakoutStop : WritesFields Breakout.Stop.toJson BreakoutStop := by
  intro o x h
  cases h with
  | level _ hx =>
      refine ⟨_, rfl, .level (method_written _ _) ?_⟩
      exact hx.written writes_numberThat (isTicks_real rfl (by decide +kernel)) rfl
  | atr _ hx => exact ⟨_, rfl, .atr (method_written _ _) (hx.written rfl)⟩
  | fixed _ hd => exact ⟨_, rfl, .fixed (method_written _ _) (hd.written rfl rfl)⟩

theorem writesFields_breakoutTarget : WritesFields Breakout.Target.toJson BreakoutTarget := by
  intro o x h
  cases h with
  | risk _ hx => exact ⟨_, rfl, .risk (method_written _ _) (hx.written rfl)⟩
  | extension _ hx => exact ⟨_, rfl, .extension (method_written _ _) (hx.written rfl)⟩

/-- A lookback that was absent is written as twenty. -/
theorem writesFields_breakoutRules : WritesFields Breakout.Rules.toJson BreakoutRules := by
  intro o r h
  refine ⟨_, rfl, ?_, ?_, ?_, ?_⟩
  · exact h.lookback.written (writes_whole (by decide))
      ⟨_, isWhole_integer (by decide) (by decide) (by decide)⟩ rfl
  · exact h.confirmation.written (writes_nameOf mem_breakoutConfirmation_iff)
      ⟨_, _, rfl, .close⟩ rfl
  · exact h.stop.written (writes_object writesFields_breakoutStop) rfl
  · exact h.target.written (writes_object writesFields_breakoutTarget) rfl

/-! ## sections -/

/-- The entry is written for the pattern that is written with it. -/
theorem writesFields_entry : WritesFields EntryRules.toJson Entry := by
  intro o r h
  cases h with
  | openingRange hr =>
      obtain ⟨o', ho', hr'⟩ := writesFields_openingRules o _ hr
      exact ⟨o', ho', .openingRange hr'⟩
  | pullback hr =>
      obtain ⟨o', ho', hr'⟩ := writesFields_pullbackRules o _ hr
      exact ⟨o', ho', .pullback hr'⟩
  | breakout hr =>
      obtain ⟨o', ho', hr'⟩ := writesFields_breakoutRules o _ hr
      exact ⟨o', ho', .breakout hr'⟩

theorem writesFields_risk : WritesFields Risk.toJson RiskLimits := by
  intro o r h
  refine ⟨_, rfl, ?_, ?_⟩
  · exact h.percent.written writes_numberThat rfl
  · exact h.maxContracts.written (writes_whole (by decide)) rfl

/-- The ends of a session are written for a custom one only. -/
theorem writesFields_session : WritesFields Session.toJson SessionHours := by
  intro o s h
  obtain ⟨kind, zone⟩ := s
  obtain ⟨hkind, hzone⟩ := h
  refine ⟨_, rfl, ?_, ?_⟩
  · cases hkind with
    | ny _ => exact .ny ⟨rfl, nofun⟩
    | globex _ => exact .globex ⟨rfl, nofun⟩
    | all _ => exact .all ⟨rfl, nofun⟩
    | custom _ hstart hstop hne =>
        exact .custom ⟨rfl, nofun⟩ (hstart.written writes_clock rfl)
          (hstop.written writes_clock rfl) hne
  · exact hzone.written writes_zone ⟨_, _, rfl, trader_described⟩ (by cases kind <;> rfl)

theorem writesFields_instrument :
    WritesFields (fun x => .object [("symbol", .string x.text)]) Instrument := by
  intro o x h
  exact ⟨_, rfl, Required.written h writes_symbol rfl⟩

/-! ## documents -/

/-- The sections that are written describe the strategy. -/
theorem writesFields_strategy : WritesFields Strategy.toJson Sections := by
  intro o s h
  refine ⟨_, rfl, ?_, ?_, ?_, ?_, ?_, ?_⟩
  · exact h.pattern.written writes_pattern rfl
  · exact h.instrument.written (writes_object writesFields_instrument) rfl
  · exact h.direction.written writes_direction rfl
  · exact h.entry.written (writes_object writesFields_entry) rfl
  · exact h.risk.written (writes_object writesFields_risk) rfl
  · exact h.session.written (writes_object writesFields_session) rfl

-- Equality bit by bit, in contrast to the order of numbers.
deriving instance DecidableEq for Distance, OpeningRange.Stop, OpeningRange.Target,
  OpeningRange.Rules, Pullback.RsiBand, Pullback.Stop, Pullback.Target, Pullback.Rules,
  Breakout.Stop, Breakout.Target, Breakout.Rules, EntryRules, Risk, Strategy

namespace Strategy

/-- **The round trip of documents**: what is written for a strategy that was read
from some document is read as the same strategy, and is written again as it is. -/
theorem ofJson_toJson {document : Json} {s : Strategy} (h : ofJson document = .ok s) :
    ofJson s.toJson = .ok s ∧ (ofJson s.toJson).map toJson = .ok s.toJson := by
  have hreads : Reads (fun path v => (Reader.object path v).bind ofFields) (IsObject Sections) :=
    reads_object readsFields_strategy
  obtain ⟨o, -, hsections⟩ := (hreads [] document s).mp h
  have hread : ofJson s.toJson = .ok s :=
    (hreads [] s.toJson s).mpr (writesFields_strategy o s hsections)
  constructor
  · exact hread
  · rw [hread]
    rfl

/-- A document with a symbol in small letters, an abbreviated zone, and without the
fields that have defaults. -/
def sample : Json :=
  .object [
    ("pattern", .string "opening_range_breakout"),
    ("instrument", .object [("symbol", .string " es ")]),
    ("direction", .string "both"),
    ("entry", .object [
      ("periodMinutes", .real 15.0),
      ("stop", .object [("method", .string "fixed_distance"), ("value", .integer 8)]),
      ("target", .object [("method", .string "r_multiple"), ("value", .real 1.5)])]),
    ("risk", .object [("riskPercent", .integer 1), ("maxContracts", .integer 3)]),
    ("session", .object [
      ("session", .string "custom"), ("customStart", .string "9:30"),
      ("customEnd", .string "16:00"), ("timezone", .string "EST")])]

/-- What the sample describes. -/
def ofSample : Strategy where
  symbol := .es
  direction := .both
  entry := .openingRange ⟨15, 0.0, .fixed ⟨8.0, .ticks⟩, .risk 1.5⟩
  risk := ⟨1.0, 3⟩
  session := ⟨.custom (.ofSecond ((9 * 60 + 30) * 60)) (.ofSecond (16 * 3600)), .trader⟩

/-- The sample is accepted, with its blanks, small letters and abbreviations. -/
theorem ofJson_sample : ofJson sample = .ok ofSample :=
  toOption_eq_some.mp (by decide +kernel)

theorem ofJson_toJson_ofSample :
    ofJson sample = .ok ofSample ∧ ofJson ofSample.toJson = .ok ofSample ∧
      (ofJson ofSample.toJson).map toJson = .ok ofSample.toJson :=
  ⟨ofJson_sample, ofJson_toJson ofJson_sample⟩

end Strategy

end Playbook
