import Playbook.Proofs.Market.Averages

/-!
# Playbook.Proofs.Market.RoundTrip

Contexts survive being written and read again (`Context.ofJson?_toJson`).

Every part of a context is a record of lossless fields, so that each of them is one line per
field here, and a context is a record of these.
-/

namespace Playbook

open Json Time

/-! ## parts of a context -/

theorem lossless_optionalNumber (name : String) :
    LosslessField name (fun f => optional? f name float?) ofFloat? :=
  lossless_number.optional name rfl

/-- A record is lossless by its fields, in the order of the record; here those of a quote. -/
theorem lossless_quote : Lossless Quote.ofJson? Quote.toJson := by
  have hfields := (lossless_number.required "last").cons <|
    (lossless_optionalNumber "bid").cons <| (lossless_optionalNumber "ask").cons losslessFields_nil
  refine lossless_record hfields (by decide) (fun (last, bid, ask, _) => ⟨last, bid, ask⟩)
    (fun v => ?_) ?_
  · simp [Quote.ofJson?, requiredNumber?, Option.map_bind, Quote.fields]
  · rintro ⟨last, bid, ask, -⟩
    rfl

/-- The volume of a candle may be left out, but not be null. -/
theorem lossless_candle : Lossless Candle.ofJson? Candle.toJson := by
  have hvolume := lossless_number.default "volume" 0.0 (.real 0.0) rfl rfl
  have hfields := (lossless_instant.required "time").cons <|
    (lossless_number.required "open").cons <| (lossless_number.required "high").cons <|
    (lossless_number.required "low").cons <| (lossless_number.required "close").cons <|
    hvolume.cons losslessFields_nil
  refine lossless_record hfields (by decide)
    (fun (time, opening, high, low, close, volume, _) =>
      ⟨time, opening, high, low, close, volume⟩) (fun v => ?_) ?_
  · simp [Candle.ofJson?, requiredNumber?, Option.map_bind, Candle.fields]
  · rintro ⟨time, opening, high, low, close, volume, -⟩
    rfl

theorem lossless_openingRange : Lossless OpeningRange.ofJson? OpeningRange.toJson := by
  have hfields := (lossless_number.required "high").cons <|
    (lossless_number.required "low").cons <|
    (lossless_flag.required "isComplete").cons losslessFields_nil
  refine lossless_record hfields (by decide)
    (fun (high, low, isComplete, _) => ⟨high, low, isComplete⟩) (fun v => ?_) ?_
  · simp [OpeningRange.ofJson?, requiredNumber?, Option.map_bind, OpeningRange.fields]
  · rintro ⟨high, low, isComplete, -⟩
    rfl

theorem lossless_swing : Lossless Swing.ofJson? Swing.toJson := by
  have hfields := (lossless_optionalNumber "swingHigh").cons <|
    (lossless_optionalNumber "swingLow").cons losslessFields_nil
  refine lossless_record hfields (by decide) (fun (high, low, _) => ⟨high, low⟩)
    (fun v => ?_) ?_
  · simp [Swing.ofJson?, Option.map_bind, Swing.fields]
  · rintro ⟨high, low, -⟩
    rfl

theorem lossless_indicators : Lossless Indicators.ofJson? Indicators.toJson := by
  have haverages := Indicators.lossless_averages.default "ema" [] (.object [])
    ⟨.nil, trivial⟩ rfl
  have hfields := haverages.cons <| (lossless_optionalNumber "rsi").cons <|
    (lossless_optionalNumber "atr").cons losslessFields_nil
  refine lossless_record hfields (by decide) (fun (averages, rsi, atr, _) => ⟨averages, rsi, atr⟩)
    (fun v => ?_) ?_
  · simp [Indicators.ofJson?, Option.map_bind, Indicators.fields]
  · rintro ⟨averages, rsi, atr, -⟩
    rfl

theorem lossless_candles :
    Lossless Context.candles? fun cs => .array (cs.map Candle.toJson) where
  ordered {v} hv := by
    cases v with
    | array items => exact lossless_candle.mapM_ordered hv
    | _ => rfl
  kept {v cs} hv h := by
    cases v with
    | array items => exact (lossless_candle.mapM_kept hv h).1
    | _ => contradiction
  printable {v cs} hv h := by
    cases v with
    | array items => exact (lossless_candle.mapM_kept hv h).2
    | _ => contradiction

/-! ## contexts -/

theorem lossless_context : Lossless Context.ofJson? Context.toJson := by
  have hcandles := lossless_candles.default "candles" [] (.array []) trivial rfl
  have hindicators := lossless_indicators.default "indicators" Indicators.empty (.object [])
    ⟨.nil, trivial⟩ rfl
  have hfields := hcandles.cons <| (lossless_quote.optional "quote" rfl).cons <|
    hindicators.cons <| (lossless_openingRange.optional "openingRange" rfl).cons <|
    (lossless_swing.optional "swing" rfl).cons <|
    (lossless_instant.required "time").cons losslessFields_nil
  refine lossless_record hfields (by decide)
    (fun (candles, quote, indicators, openingRange, swing, time, _) =>
      ⟨candles, quote, indicators, openingRange, swing, time⟩) (fun v => ?_) ?_
  · simp [Context.ofJson?, Option.map_bind, Context.fields]
  · rintro ⟨candles, quote, indicators, openingRange, swing, time, -⟩
    rfl

/-- **Contexts survive being written**: the value of a context that was read from a value is
read as the same context, whatever the order of its members.  The same context means the same
candles with the same instants, to the nanosecond and with leap seconds, whatever the year,
and the same numbers to the bit. -/
theorem Context.ofJson?_toJson {v : Json} {c : Context} (hv : v.Printable)
    (h : Context.ofJson? v = some c) :
    Context.ofJson? c.toJson = some c ∧ Context.ofJson? c.toJson.ordered = some c :=
  lossless_context.survives hv h

/-- A candle in the form of an array without its volume, at a leap second told in the time of
New York; averages out of order, a quote that is null and no swings. -/
theorem Context.ofJson?_toJson_leapSecond :
    let v : Json := .object [
      ("time", .string "2017-01-01T00:00:00.5Z"),
      ("quote", .null),
      ("indicators", .object [("ema", .object [("20", .real 1.25), ("9", .real 1.5)])]),
      ("candles", .array [.array [
        .string "2016-12-31T18:59:60.123456789-05:00",
        .real 1.5, .real 2.5, .real 1.0, .real 2.0]])]
    let c : Context := {
      candles := [⟨⟨1483228799, 1123456789⟩, 1.5, 2.5, 1.0, 2.0, 0.0⟩]
      quote := none
      indicators := ⟨[(9, 1.5), (20, 1.25)], none, none⟩
      openingRange := none
      swing := none
      time := ⟨1483228800, 500000000⟩ }
    v.Printable ∧ Context.ofJson? v = some c ∧
      Context.ofJson? c.toJson = some c ∧ Context.ofJson? c.toJson.ordered = some c := by
  intro v c
  have hv : v.Printable := by
    refine ⟨by decide, trivial, trivial, ⟨by decide, ⟨by decide, rfl, rfl, trivial⟩, trivial⟩, ?_,
      trivial⟩
    exact ⟨⟨trivial, rfl, rfl, rfl, rfl, trivial⟩, trivial⟩
  have h : Context.ofJson? v = some c := rfl
  exact ⟨hv, h, Context.ofJson?_toJson hv h⟩

end Playbook
