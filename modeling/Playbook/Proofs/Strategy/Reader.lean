import Playbook.Proofs.Strategy.Checked
import Playbook.Strategy.Reader

/-!
# Playbook.Proofs.Strategy.Reader

The reader accepts exactly the documents of the schema and gives the strategies
that they describe (`Strategy.ofJson_eq_ok_iff`).

The laws follow the reader, section by section.
-/

namespace Playbook

open Number Time Schema Checked

/-! ## names -/

/-- The table of units has the units of the schema, and no other. -/
theorem mem_unit_iff (s : String) (x : DistanceUnit) :
    (s, x) ∈ DistanceUnit.named ↔ UnitName s x := by
  simp only [DistanceUnit.named, List.mem_cons, Prod.mk.injEq, List.not_mem_nil, or_false]
  constructor
  · intro h
    obtain ⟨rfl, rfl⟩ | ⟨rfl, rfl⟩ := h <;> constructor
  · intro h
    cases h <;> simp

theorem reads_unit : Reads (Reader.choice DistanceUnit.named) (IsText UnitName) :=
  reads_choice (by decide) mem_unit_iff

/-- The table of directions has those of the schema. -/
theorem mem_direction_iff (s : String) (x : Direction) :
    (s, x) ∈ Direction.named ↔ DirectionName s x := by
  simp only [Direction.named, List.mem_cons, Prod.mk.injEq, List.not_mem_nil, or_false]
  constructor
  · intro h
    obtain ⟨rfl, rfl⟩ | ⟨rfl, rfl⟩ | ⟨rfl, rfl⟩ := h <;> constructor
  · intro h
    cases h <;> simp

theorem reads_direction : Reads (Reader.choice Direction.named) (IsText DirectionName) :=
  reads_choice (by decide) mem_direction_iff

/-- The table of confirmations of a pullback has those of the schema. -/
theorem mem_pullbackConfirmation_iff (s : String) (x : Pullback.Confirmation) :
    (s, x) ∈ Pullback.Confirmation.named ↔ PullbackConfirmationName s x := by
  simp only [Pullback.Confirmation.named, List.mem_cons, Prod.mk.injEq, List.not_mem_nil, or_false]
  constructor
  · intro h
    obtain ⟨rfl, rfl⟩ | ⟨rfl, rfl⟩ := h <;> constructor
  · intro h
    cases h <;> simp

theorem reads_pullbackConfirmation :
    Reads (Reader.choice Pullback.Confirmation.named) (IsText PullbackConfirmationName) :=
  reads_choice (by decide) mem_pullbackConfirmation_iff

/-- The table of confirmations of a breakout has those of the schema. -/
theorem mem_breakoutConfirmation_iff (s : String) (x : Breakout.Confirmation) :
    (s, x) ∈ Breakout.Confirmation.named ↔ BreakoutConfirmationName s x := by
  simp only [Breakout.Confirmation.named, List.mem_cons, Prod.mk.injEq, List.not_mem_nil, or_false]
  constructor
  · intro h
    obtain ⟨rfl, rfl⟩ | ⟨rfl, rfl⟩ := h <;> constructor
  · intro h
    cases h <;> simp

theorem reads_breakoutConfirmation :
    Reads (Reader.choice Breakout.Confirmation.named) (IsText BreakoutConfirmationName) :=
  reads_choice (by decide) mem_breakoutConfirmation_iff

/-- A pattern has its own name and some others, and no name is that of two patterns. -/
theorem Pattern.ofName?_eq_some_iff (s : String) (p : Pattern) :
    Pattern.ofName? s = some p ↔ PatternName s p := by
  constructor
  · intro h
    unfold Pattern.ofName? at h
    split at h
    · obtain rfl := Option.some.inj h
      exact .orb
    · obtain rfl := Option.some.inj h
      exact .openingRangeBreakout
    · obtain rfl := Option.some.inj h
      exact .pullback
    · obtain rfl := Option.some.inj h
      exact .breakout
    · contradiction
  · intro h
    cases h <;> rfl

theorem reads_pattern : Reads Pattern.reader (IsText PatternName) :=
  reads_text Pattern.ofName?_eq_some_iff

/-- A zone is read from any text that describes one. -/
theorem reads_zone : Reads ZoneName.reader (IsText ZoneText) := reads_text fun _ _ => Iff.rfl

/-- A clock time is read with blanks around it, up to the minute. -/
theorem reads_clock : Reads clockReader (IsText ClockText) :=
  reads_text fun s c => Clock.read_eq_some_iff s.toList c

/-! ## symbols -/

namespace Symbol

/-- No symbol is left out of the list that is searched. -/
theorem mem_all (x : Symbol) : x ∈ all := by
  cases x <;> decide

/-- No two symbols differ only in letter case. -/
theorem nodup_lower : (all.map fun x => Text.lower x.text.toList).Nodup := by decide +kernel

/-- Symbols differ in more than the case of their letters, so the first one that is found is the
only one. -/
theorem eq_of_lower_eq {x y : Symbol}
    (h : Text.lower x.text.toList = Text.lower y.text.toList) : x = y :=
  List.inj_on_of_nodup_map nodup_lower x.mem_all y.mem_all h

/-- Symbols have no blanks. -/
theorem no_blank (x : Symbol) : ∀ c ∈ Text.lower x.text.toList, Text.isBlank c = false := by
  have h : (Text.lower x.text.toList).any Text.isBlank = false := by cases x <;> decide
  exact fun c hc => Bool.eq_false_iff.mpr (List.any_eq_false.mp h c hc)

/-- A symbol in any letter case has no blanks. -/
theorem tight_of_lower_eq {x : Symbol} {t : List Char}
    (h : Text.lower t = Text.lower x.text.toList) : Text.Tight t := by
  refine Text.tight_of_no_blank fun c hc => ?_
  rw [← Text.isBlank_toLower]
  exact x.no_blank _ (by rw [← h]; exact List.mem_map_of_mem hc)

/-- A symbol is found in any case and with blanks around it. -/
theorem ofText?_eq_some_iff (s : String) (x : Symbol) :
    ofText? s = some x ↔ SymbolText s x := by
  constructor
  · intro h
    obtain ⟨b, b', hb, -, hb', hs⟩ := Text.trim_spec s.toList
    rw [ofText?] at h
    have hfolded := List.find?_some h
    exact ⟨b, Text.trim s.toList, b', hs, hb, hb', (Text.lower_eq_of_sameFolded hfolded).symm⟩
  · intro h
    obtain ⟨b, t, b', hs, hb, hb', ht⟩ := h
    have htrim : Text.trim s.toList = t := by
      rw [hs]
      exact Text.trim_append hb (tight_of_lower_eq ht) hb'
    have hx : Text.sameFolded x.text.toList t = true := beq_iff_eq.mpr ht.symm
    rw [ofText?, htrim]
    cases hfind : all.find? fun x => Text.sameFolded x.text.toList t with
    | none => exact absurd hx (List.find?_eq_none.mp hfind x x.mem_all)
    | some y =>
        have hy := List.find?_some hfind
        rw [eq_of_lower_eq ((Text.lower_eq_of_sameFolded hy).trans ht)]

/-- A text that names a symbol is not blank. -/
theorem trim_ne_nil {s : String} {x : Symbol} (h : SymbolText s x) : Text.trim s.toList ≠ [] := by
  obtain ⟨b, t, b', hs, hb, hb', ht⟩ := h
  rw [hs, Text.trim_append hb (tight_of_lower_eq ht) hb']
  rintro rfl
  cases x <;> contradiction

end Symbol

/-- The symbol of a document is read so, too. -/
theorem reads_symbol : Reads Symbol.reader (IsText SymbolText) := by
  intro path v x
  rw [Symbol.reader, bind_eq_ok]
  constructor
  · intro h
    obtain ⟨s, hs, hx⟩ := h
    split at hx
    · contradiction
    · exact ⟨s, string_eq_ok.mp hs, (Symbol.ofText?_eq_some_iff s x).mp (ofOption_eq_ok.mp hx)⟩
  · intro h
    obtain ⟨s, rfl, hx⟩ := h
    refine ⟨s, rfl, ?_⟩
    rw [if_neg (Symbol.trim_ne_nil hx)]
    exact ofOption_eq_ok.mpr ((Symbol.ofText?_eq_some_iff s x).mpr hx)

/-! ## distances and bounds -/

/-- A rule for numbers and the bounds of the schema say the same; here for ticks. -/
theorem reads_ticks : Reads (Reader.numberThat .notNegative) IsTicks :=
  reads_numberThat fun _ => decide_eq_true_iff

theorem reads_positive : Reads (Reader.numberThat .positive) IsPositive :=
  reads_numberThat fun _ => decide_eq_true_iff

theorem reads_percentage :
    Reads (Reader.numberThat .percentage) (IsNumberThat fun x => 0.0 < x ∧ x ≤ 100.0) :=
  reads_numberThat fun _ => by simp only [NumberRule.admits, Bool.and_eq_true, decide_eq_true_eq]

/-- Both ends of the scale of an RSI are allowed. -/
theorem reads_rsi : Reads (Reader.numberThat .rsi) (IsNumberThat fun x => 0.0 ≤ x ∧ x ≤ 100.0) :=
  reads_numberThat fun _ => by simp only [NumberRule.admits, Bool.and_eq_true, decide_eq_true_eq]

/-- No more than a twentieth of the balance may be risked. -/
theorem reads_riskPercent :
    Reads (Reader.numberThat .riskPercent) (IsNumberThat fun x => 0.0 < x ∧ x ≤ 5.0) :=
  reads_numberThat fun _ => by simp only [NumberRule.admits, Bool.and_eq_true, decide_eq_true_eq]

theorem Fields.ticks_eq_ok {f : Fields} {name : String} {absent x : Float} :
    f.ticks name absent = .ok x ↔ Optional f.members name absent IsTicks x :=
  optional_eq_ok reads_ticks

/-- The value of a method is there and positive. -/
theorem Fields.positive_eq_ok {f : Fields} {x : Float} : f.positive = .ok x ↔ Value f.members x :=
  required_eq_ok reads_positive

/-- A fixed distance is in ticks where no unit is given. -/
theorem readsFields_distance : ReadsFields Distance.ofFields FixedDistance := by
  intro f d
  rw [Distance.ofFields, map_eq_ok]
  simp only [Prod.exists, both_eq_ok, Fields.positive_eq_ok, Fields.optional_eq_ok reads_unit]
  constructor
  · intro h
    obtain ⟨value, unit, ⟨hvalue, hunit⟩, rfl⟩ := h
    exact ⟨hvalue, hunit⟩
  · intro h
    obtain ⟨hvalue, hunit⟩ := h
    exact ⟨d.value, d.unit, ⟨hvalue, hunit⟩, rfl⟩

/-! ## opening range -/

/-- For each method of the stop the reader looks at what the schema asks for. -/
theorem readsFields_openingStop : ReadsFields OpeningRange.Stop.ofFields OpeningStop := by
  intro f x
  rw [OpeningRange.Stop.ofFields, Fields.method_eq_ok (by decide)]
  simp only [List.mem_cons, List.not_mem_nil, or_false, exists_eq_or_imp, exists_eq_left, map_eq_ok,
    Except.ok.injEq, Fields.required_eq_ok reads_percentage, Fields.positive_eq_ok,
    readsFields_distance f _]
  constructor
  · intro h
    obtain ⟨h, y, hy, rfl⟩ | ⟨h, rfl⟩ | ⟨h, y, hy, rfl⟩ | ⟨h, y, hy, rfl⟩ := h
    · exact .percentage h hy
    · exact .oppositeSide h
    · exact .fixed h hy
    · exact .atr h hy
  · intro h
    cases h with
    | percentage h hy => exact .inl ⟨h, _, hy, rfl⟩
    | oppositeSide h => exact .inr (.inl ⟨h, rfl⟩)
    | fixed h hy => exact .inr (.inr (.inl ⟨h, _, hy, rfl⟩))
    | atr h hy => exact .inr (.inr (.inr ⟨h, _, hy, rfl⟩))

theorem readsFields_openingTarget : ReadsFields OpeningRange.Target.ofFields OpeningTarget := by
  intro f x
  rw [OpeningRange.Target.ofFields, Fields.method_eq_ok (by decide)]
  simp only [List.mem_cons, List.not_mem_nil, or_false, exists_eq_or_imp, exists_eq_left, map_eq_ok,
    Fields.positive_eq_ok, readsFields_distance f _]
  constructor
  · intro h
    obtain ⟨h, y, hy, rfl⟩ | ⟨h, y, hy, rfl⟩ | ⟨h, y, hy, rfl⟩ := h
    · exact .risk h hy
    · exact .extension h hy
    · exact .fixed h hy
  · intro h
    cases h with
    | risk h hy => exact .inl ⟨h, _, hy, rfl⟩
    | extension h hy => exact .inr (.inl ⟨h, _, hy, rfl⟩)
    | fixed h hy => exact .inr (.inr ⟨h, _, hy, rfl⟩)

theorem readsFields_openingRules : ReadsFields OpeningRange.Rules.ofFields OpeningRules := by
  intro f r
  rw [OpeningRange.Rules.ofFields, map_eq_ok]
  simp only [Prod.exists, both_eq_ok, Fields.required_eq_ok (reads_whole _), Fields.ticks_eq_ok,
    Fields.requiredObject_eq_ok readsFields_openingStop,
    Fields.requiredObject_eq_ok readsFields_openingTarget]
  constructor
  · intro h
    obtain ⟨period, buffer, stop, target, ⟨hperiod, hbuffer, hstop, htarget⟩, rfl⟩ := h
    exact ⟨hperiod, hbuffer, hstop, htarget⟩
  · intro h
    obtain ⟨hperiod, hbuffer, hstop, htarget⟩ := h
    exact ⟨_, _, _, _, ⟨hperiod, hbuffer, hstop, htarget⟩, rfl⟩

/-! ## pullback -/

/-- A band is read if its ends are, and if the lower one is below the upper one. -/
theorem readsFields_band : ReadsFields Pullback.RsiBand.ofFields Band := by
  intro f b
  rw [Pullback.RsiBand.ofFields, bind_eq_ok]
  simp only [Prod.exists, both_eq_ok, Fields.required_eq_ok reads_rsi, demand_eq_ok,
    decide_eq_true_eq]
  constructor
  · intro h
    obtain ⟨min, max, ⟨hmin, hmax⟩, hlt, rfl⟩ := h
    exact ⟨hmin, hmax, hlt⟩
  · intro h
    obtain ⟨hmin, hmax, hlt⟩ := h
    exact ⟨_, _, ⟨hmin, hmax⟩, hlt, rfl⟩

theorem readsFields_pullbackStop : ReadsFields Pullback.Stop.ofFields PullbackStop := by
  intro f x
  rw [Pullback.Stop.ofFields, Fields.method_eq_ok (by decide)]
  simp only [List.mem_cons, List.not_mem_nil, or_false, exists_eq_or_imp, exists_eq_left, map_eq_ok,
    Fields.ticks_eq_ok, Fields.positive_eq_ok, readsFields_distance f _]
  constructor
  · intro h
    obtain ⟨h, y, hy, rfl⟩ | ⟨h, y, hy, rfl⟩ | ⟨h, y, hy, rfl⟩ := h
    · exact .swing h hy
    · exact .atr h hy
    · exact .fixed h hy
  · intro h
    cases h with
    | swing h hy => exact .inl ⟨h, _, hy, rfl⟩
    | atr h hy => exact .inr (.inl ⟨h, _, hy, rfl⟩)
    | fixed h hy => exact .inr (.inr ⟨h, _, hy, rfl⟩)

/-- A pullback has one method for its target. -/
theorem readsFields_pullbackTarget : ReadsFields Pullback.Target.ofFields PullbackTarget := by
  intro f x
  rw [Pullback.Target.ofFields, Fields.method_eq_ok (by decide)]
  simp only [List.mem_singleton, exists_eq_left, map_eq_ok, Fields.positive_eq_ok]
  constructor
  · intro h
    obtain ⟨h, y, hy, rfl⟩ := h
    exact .risk h hy
  · intro h
    cases h with
    | risk h hy => exact ⟨h, _, hy, rfl⟩

/-- The band is read as a value that may be absent, so it stands in an option. -/
theorem reads_someBand :
    Reads (fun path v => ((Reader.object path v).bind Pullback.RsiBand.ofFields).map some)
      (IsObject SomeBand) := by
  intro path v b
  rw [map_eq_ok]
  simp only [reads_object readsFields_band path v _]
  constructor
  · intro h
    obtain ⟨band, ⟨o, rfl, hband⟩, rfl⟩ := h
    exact ⟨o, rfl, band, hband, rfl⟩
  · intro h
    obtain ⟨o, rfl, band, hband, rfl⟩ := h
    exact ⟨band, ⟨o, rfl, hband⟩, rfl⟩

theorem readsFields_pullbackRules : ReadsFields Pullback.Rules.ofFields PullbackRules := by
  intro f r
  rw [Pullback.Rules.ofFields, map_eq_ok]
  simp only [Prod.exists, both_eq_ok, Fields.required_eq_ok (reads_whole _),
    Fields.optional_eq_ok reads_pullbackConfirmation, Fields.ticks_eq_ok,
    Fields.optional_eq_ok reads_someBand, Fields.requiredObject_eq_ok readsFields_pullbackStop,
    Fields.optional_eq_ok (reads_object readsFields_pullbackTarget)]
  constructor
  · intro h
    obtain ⟨period, confirmation, tolerance, band, stop, target,
      ⟨hperiod, hconfirmation, htolerance, hband, hstop, htarget⟩, rfl⟩ := h
    exact ⟨hperiod, hconfirmation, htolerance, hband, hstop, htarget⟩
  · intro h
    obtain ⟨hperiod, hconfirmation, htolerance, hband, hstop, htarget⟩ := h
    exact ⟨_, _, _, _, _, _, ⟨hperiod, hconfirmation, htolerance, hband, hstop, htarget⟩, rfl⟩

/-! ## breakout -/

theorem readsFields_breakoutStop : ReadsFields Breakout.Stop.ofFields BreakoutStop := by
  intro f x
  rw [Breakout.Stop.ofFields, Fields.method_eq_ok (by decide)]
  simp only [List.mem_cons, List.not_mem_nil, or_false, exists_eq_or_imp, exists_eq_left, map_eq_ok,
    Fields.ticks_eq_ok, Fields.positive_eq_ok, readsFields_distance f _]
  constructor
  · intro h
    obtain ⟨h, y, hy, rfl⟩ | ⟨h, y, hy, rfl⟩ | ⟨h, y, hy, rfl⟩ := h
    · exact .level h hy
    · exact .atr h hy
    · exact .fixed h hy
  · intro h
    cases h with
    | level h hy => exact .inl ⟨h, _, hy, rfl⟩
    | atr h hy => exact .inr (.inl ⟨h, _, hy, rfl⟩)
    | fixed h hy => exact .inr (.inr ⟨h, _, hy, rfl⟩)

theorem readsFields_breakoutTarget : ReadsFields Breakout.Target.ofFields BreakoutTarget := by
  intro f x
  rw [Breakout.Target.ofFields, Fields.method_eq_ok (by decide)]
  simp only [List.mem_cons, List.not_mem_nil, or_false, exists_eq_or_imp, exists_eq_left, map_eq_ok,
    Fields.positive_eq_ok]
  constructor
  · intro h
    obtain ⟨h, y, hy, rfl⟩ | ⟨h, y, hy, rfl⟩ := h
    · exact .risk h hy
    · exact .extension h hy
  · intro h
    cases h with
    | risk h hy => exact .inl ⟨h, _, hy, rfl⟩
    | extension h hy => exact .inr ⟨h, _, hy, rfl⟩

theorem readsFields_breakoutRules : ReadsFields Breakout.Rules.ofFields BreakoutRules := by
  intro f r
  rw [Breakout.Rules.ofFields, map_eq_ok]
  simp only [Prod.exists, both_eq_ok, Fields.optional_eq_ok (reads_whole _),
    Fields.optional_eq_ok reads_breakoutConfirmation,
    Fields.requiredObject_eq_ok readsFields_breakoutStop,
    Fields.requiredObject_eq_ok readsFields_breakoutTarget]
  constructor
  · intro h
    obtain ⟨lookback, confirmation, stop, target,
      ⟨hlookback, hconfirmation, hstop, htarget⟩, rfl⟩ := h
    exact ⟨hlookback, hconfirmation, hstop, htarget⟩
  · intro h
    obtain ⟨hlookback, hconfirmation, hstop, htarget⟩ := h
    exact ⟨_, _, _, _, ⟨hlookback, hconfirmation, hstop, htarget⟩, rfl⟩

/-! ## sections -/

/-- The entry of a document is read for its pattern. -/
theorem entry_eq_ok {f : Fields} {pattern : Pattern} {r : EntryRules} :
    EntryRules.ofFields pattern f = .ok r ↔ r.pattern = pattern ∧ Entry f.members r := by
  cases pattern with
  | openingRange =>
      simp only [EntryRules.ofFields, map_eq_ok, readsFields_openingRules f _]
      constructor
      · intro h
        obtain ⟨r, hr, rfl⟩ := h
        exact ⟨rfl, .openingRange hr⟩
      · intro h
        obtain ⟨hpattern, h⟩ := h
        cases h with
        | openingRange hr => exact ⟨_, hr, rfl⟩
        | _ => contradiction
  | pullback =>
      simp only [EntryRules.ofFields, map_eq_ok, readsFields_pullbackRules f _]
      constructor
      · intro h
        obtain ⟨r, hr, rfl⟩ := h
        exact ⟨rfl, .pullback hr⟩
      · intro h
        obtain ⟨hpattern, h⟩ := h
        cases h with
        | pullback hr => exact ⟨_, hr, rfl⟩
        | _ => contradiction
  | breakout =>
      simp only [EntryRules.ofFields, map_eq_ok, readsFields_breakoutRules f _]
      constructor
      · intro h
        obtain ⟨r, hr, rfl⟩ := h
        exact ⟨rfl, .breakout hr⟩
      · intro h
        obtain ⟨hpattern, h⟩ := h
        cases h with
        | breakout hr => exact ⟨_, hr, rfl⟩
        | _ => contradiction

/-- The percentage that is risked and the number of contracts at most. -/
theorem readsFields_risk : ReadsFields Risk.ofFields RiskLimits := by
  intro f r
  rw [Risk.ofFields, map_eq_ok]
  simp only [Prod.exists, both_eq_ok, Fields.required_eq_ok reads_riskPercent,
    Fields.required_eq_ok (reads_whole _)]
  constructor
  · intro h
    obtain ⟨percent, maxContracts, ⟨hpercent, hmax⟩, rfl⟩ := h
    exact ⟨hpercent, hmax⟩
  · intro h
    obtain ⟨hpercent, hmax⟩ := h
    exact ⟨_, _, ⟨hpercent, hmax⟩, rfl⟩

/-- A custom session has two ends that are not the same; they are compared where both are read. -/
theorem custom_eq_ok {f : Fields} {kind : SessionKind} :
    SessionKind.customOfFields f = .ok kind ↔
      ∃ start stop, Required f.members "customStart" (IsText ClockText) start ∧
        Required f.members "customEnd" (IsText ClockText) stop ∧ start ≠ stop ∧
        .custom start stop = kind := by
  rw [SessionKind.customOfFields, bind_eq_ok]
  simp only [Prod.exists, both_eq_ok, Fields.required_eq_ok reads_clock, demand_eq_ok,
    decide_eq_true_eq, and_assoc]

/-- The kinds of sessions with what is read for them. -/
theorem kind_eq_ok {f : Fields} {kind : SessionKind} :
    (∃ read, f.required "session" (.choice SessionKind.readers) = .ok read ∧ read f = .ok kind) ↔
      Kind f.members kind := by
  have hreads : Reads (Reader.choice SessionKind.readers)
      (IsText fun name read => (name, read) ∈ SessionKind.readers) :=
    reads_choice (by decide) fun _ _ => Iff.rfl
  simp only [Fields.required_eq_ok hreads]
  simp only [SessionKind.readers, List.mem_cons, List.not_mem_nil, or_false, Prod.mk.injEq]
  constructor
  · intro h
    obtain ⟨read, ⟨v, hv, name, rfl, hread⟩, hkind⟩ := h
    obtain ⟨rfl, rfl⟩ | ⟨rfl, rfl⟩ | ⟨rfl, rfl⟩ | ⟨rfl, rfl⟩ := hread
    · obtain rfl := Except.ok.inj hkind
      exact .ny hv
    · obtain rfl := Except.ok.inj hkind
      exact .globex hv
    · obtain rfl := Except.ok.inj hkind
      exact .all hv
    · obtain ⟨start, stop, hstart, hstop, hne, rfl⟩ := custom_eq_ok.mp hkind
      exact .custom hv hstart hstop hne
  · intro h
    cases h with
    | ny hv => exact ⟨_, ⟨_, hv, _, rfl, .inl ⟨rfl, rfl⟩⟩, rfl⟩
    | globex hv => exact ⟨_, ⟨_, hv, _, rfl, .inr (.inl ⟨rfl, rfl⟩)⟩, rfl⟩
    | all hv => exact ⟨_, ⟨_, hv, _, rfl, .inr (.inr (.inl ⟨rfl, rfl⟩))⟩, rfl⟩
    | custom hv hstart hstop hne =>
        exact ⟨_, ⟨_, hv, _, rfl, .inr (.inr (.inr ⟨rfl, rfl⟩))⟩,
          custom_eq_ok.mpr ⟨_, _, hstart, hstop, hne, rfl⟩⟩

/-- A session has its name, the fields that belong to it, and a zone. -/
theorem readsFields_session : ReadsFields Session.ofFields SessionHours := by
  intro f s
  rw [Session.ofFields, map_eq_ok]
  simp only [Prod.exists, both_eq_ok, whenOk_eq_ok, Fields.optional_eq_ok reads_zone]
  constructor
  · intro h
    obtain ⟨-, zone, kind, ⟨-, hzone, hkind⟩, rfl⟩ := h
    exact ⟨kind_eq_ok.mp hkind, hzone⟩
  · intro h
    obtain ⟨hkind, hzone⟩ := h
    obtain ⟨read, hread, hkind⟩ := kind_eq_ok.mpr hkind
    exact ⟨read, _, _, ⟨hread, hzone, read, hread, hkind⟩, rfl⟩

theorem readsFields_instrument :
    ReadsFields (fun f => f.required "symbol" Symbol.reader) Instrument := by
  intro f x
  exact Fields.required_eq_ok reads_symbol

/-! ## documents -/

/-- The field of the entry is read for the pattern of the document. -/
theorem entryField_eq_ok {f : Fields} {pattern : Pattern} {r : EntryRules} :
    f.requiredObject "entry" (EntryRules.ofFields pattern) = .ok r ↔
      r.pattern = pattern ∧ Required f.members "entry" (IsObject Entry) r := by
  have hentry : ReadsFields (EntryRules.ofFields pattern)
      fun o r => r.pattern = pattern ∧ Entry o r := fun _ _ => entry_eq_ok
  rw [Fields.requiredObject_eq_ok hentry]
  constructor
  · intro h
    obtain ⟨v, hv, o, rfl, hpattern, hr⟩ := h
    exact ⟨hpattern, _, hv, o, rfl, hr⟩
  · intro h
    obtain ⟨hpattern, v, hv, o, rfl, hr⟩ := h
    exact ⟨_, hv, o, rfl, hpattern, hr⟩

/-- The sections of a document; the entry is read by the rules of the pattern. -/
theorem readsFields_strategy : ReadsFields Strategy.ofFields Sections := by
  intro f s
  rw [Strategy.ofFields, map_eq_ok]
  simp only [Prod.exists, both_eq_ok, whenOk_eq_ok, Fields.required_eq_ok reads_pattern,
    Fields.requiredObject_eq_ok readsFields_instrument, Fields.required_eq_ok reads_direction,
    entryField_eq_ok, Fields.requiredObject_eq_ok readsFields_risk,
    Fields.requiredObject_eq_ok readsFields_session]
  constructor
  · intro h
    obtain ⟨_, symbol, direction, entry, risk, session,
      ⟨-, hsymbol, hdirection, ⟨_, hpattern, rfl, hentry⟩, hrisk, hsession⟩, rfl⟩ := h
    exact ⟨hpattern, hsymbol, hdirection, hentry, hrisk, hsession⟩
  · intro h
    obtain ⟨hpattern, hsymbol, hdirection, hentry, hrisk, hsession⟩ := h
    exact ⟨s.pattern, s.symbol, s.direction, s.entry, s.risk, s.session,
      ⟨hpattern, hsymbol, hdirection, ⟨s.pattern, hpattern, rfl, hentry⟩, hrisk, hsession⟩, rfl⟩

/-- A document is an object with these sections. -/
theorem reads_strategy :
    Reads (fun path v => (Reader.object path v).bind Strategy.ofFields) Document :=
  reads_object readsFields_strategy

/-- **The reader and the schema agree**: a document is read as a strategy exactly
if the schema relates the two. -/
theorem Strategy.ofJson_eq_ok_iff (document : Json) (s : Strategy) :
    Strategy.ofJson document = .ok s ↔ Document document s :=
  reads_object readsFields_strategy [] document s

end Playbook
