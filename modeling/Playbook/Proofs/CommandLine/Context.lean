import Playbook.CommandLine.Run
import Playbook.Proofs.Market.Selection
import Playbook.Proofs.Strategy.Canonical
import Playbook.Zone.Database

/-!
# Playbook.Proofs.CommandLine.Context

One context in a file of its own, and on the only line of a file.

`evaluate` reads the value of the text, `scan` reads the text itself.  They decide alike
on texts that have a value and repeat no field; a text without a value is refused by
`evaluate`, a text that repeats a field by `scan` (`evaluate_scan_alike`).
-/

namespace Playbook

open Json (Tree ofTree? maxDepth)

/-! ## lines with contexts -/

namespace Json.Token

/-- A blank that is none of JSON starts no token. -/
theorem scan_of_isBlank {c : Char} (s : List Char) (hc : Text.isBlank c = true)
    (hspace : isSpace c = false) : scan (c :: s) = none := by
  have hrange : c.toNat < 33 ∨ 126 < c.toNat := by
    by_contra hprintable
    rw [Text.isBlank_of_printable (by omega) (by omega)] at hc
    contradiction
  have hne (d : Char) (hd : 33 ≤ d.toNat ∧ d.toNat ≤ 126) : c ≠ d := by
    rintro rfl
    omega
  have hpunctuation : punctuation c = none := by
    unfold punctuation
    split
    case h_7 => rfl
    all_goals exact absurd rfl (hne _ (by decide))
  have hnumber : inNumber c = false := by
    have hdigit : c.isDigit = false := by
      rw [← Bool.not_eq_true, Char.isDigit_iff_toNat]
      have hzero : '0'.toNat = 48 := rfl
      have hnine : '9'.toNat = 57 := rfl
      omega
    simp only [inNumber, hdigit, decide_eq_false (hne '-' (by decide)),
      decide_eq_false (hne '+' (by decide)), decide_eq_false (hne '.' (by decide)),
      decide_eq_false (hne 'e' (by decide)), decide_eq_false (hne 'E' (by decide)), Bool.or_self]
  have hlower : c.isLower = false := by
    by_contra hletter
    have hletter : 97 ≤ c.toNat ∧ c.toNat ≤ 122 := by
      simpa [Char.isLower, UInt32.le_iff_toNat_le] using hletter
    omega
  rw [scan, hspace, hpunctuation]
  simp only [Bool.false_eq_true, if_false, if_neg (hne '"' (by decide)), hnumber, hlower]

/-- There are no tokens in blanks. -/
theorem scan_of_allBlank {s : List Char} (h : Text.AllBlank s) :
    scan s = some [] ∨ scan s = none := by
  induction s with
  | nil => exact .inl (by rw [scan])
  | cons c s ih =>
      obtain ⟨hc, hs⟩ := List.forall_mem_cons.mp h
      cases hspace : isSpace c with
      | true => rw [scan, hspace]; exact ih hs
      | false => exact .inr (scan_of_isBlank s hc hspace)

end Json.Token

/-- A line that holds a value is not blank. -/
theorem isBlankLine_eq_false {line : List Char} {t : Tree} (h : Tree.read line = some t) :
    isBlankLine line = false := by
  by_contra hblank
  have hall : Text.AllBlank line := List.all_eq_true.mp (eq_true_of_ne_false hblank)
  obtain hscan | hscan := Json.Token.scan_of_allBlank hall <;> rw [Tree.read, hscan] at h <;>
    contradiction

/-- A file with one line that holds a value has one context, or its first line is bad. -/
theorem contextsOfText_of_line {text line : List Char} {t : Tree} (hlines : lines text = [line])
    (ht : Tree.read line = some t) :
    contextsOfText text =
      match Context.ofText? line with
      | some m => .ok [m]
      | none => .error 1 := by
  rw [contextsOfText, hlines, contextsOfLines, isBlankLine_eq_false ht]
  cases Context.ofText? line <;> rfl

/-! ## decisions -/

/-- What a decision has to say about a context: its time, whether the session is open then, the
side that is entered, and the plan for it. -/
structure Decision.Answers (d : Decision) (tz : ZoneDatabase) (s : Strategy) (balance : Float)
    (m : Context) : Prop where
  time : d.time = m.time
  inSession : d.inSession = s.isOpen tz m
  side : d.side = s.entrySide m
  plan : d.plan = s.plan tz m balance

/-- What a strategy decides is its answer: the three functions of the strategy on one context. -/
theorem Strategy.answers_decide (tz : ZoneDatabase) (s : Strategy) (balance : Float)
    (m : Context) : (s.decide tz m balance).Answers tz s balance m :=
  ⟨rfl, rfl, rfl, rfl⟩

namespace CommandLine

/-! ## the commands -/

section

variable {w : World} {strategy context contexts : String} {s : Strategy} {text line : List Char}
  {t : Tree}

/-- `evaluate` reads the value of the text, and then a context from the value. -/
theorem evaluate_eq (hs : readStrategy w strategy (.unusable strategy) = .ok s)
    (hcontext : w.files context = .text line) (balance : Float) :
    evaluate w strategy context balance =
      match Json.read line with
      | none => .error (.notJson context)
      | some v =>
        match Context.ofJson? v with
        | some m => .ok [(s.decide w.zones m balance).toJson.pretty]
        | none => .error (.notContext context) := by
  cases h : Json.read line with
  | none =>
      have hvalue : readJson w context = .error (.notJson context) := by
        simp only [readJson, readFile, hcontext, Except.bind, h]
      rw [evaluate, hs, hvalue]
      rfl
  | some v =>
      have hvalue : readJson w context = .ok v := by
        simp only [readJson, readFile, hcontext, Except.bind, h]
      rw [evaluate, hs, hvalue]
      rfl

/-- `scan` reads a context from the text of the line. -/
theorem scan_eq (hs : readStrategy w strategy (.unusable strategy) = .ok s)
    (hcontexts : w.files contexts = .text text) (hlines : lines text = [line])
    (ht : Tree.read line = some t) (balance : Float) :
    scan w strategy contexts balance =
      match Context.ofText? line with
      | some m => .ok [(s.decide w.zones m balance).toJson.compact]
      | none => .error (.badLine 1) := by
  have hfile : readFile w contexts = .ok text := by rw [readFile, hcontexts]
  have hcontext := contextsOfText_of_line hlines ht
  rw [scan, hs, hfile]
  cases h : Context.ofText? line with
  | none =>
      have hscan : s.scan w.zones text balance = .error 1 := by
        rw [Strategy.scan, hcontext, h]
        rfl
      simp only [bind, Except.bind, hscan]
      rfl
  | some m =>
      have hscan : s.scan w.zones text balance = .ok [s.decide w.zones m balance] := by
        rw [Strategy.scan, hcontext, h]
        rfl
      simp only [bind, Except.bind, hscan]
      rfl

/-- **The two commands decide alike on one text.**  If every literal of the text has a
value, arrays and objects are nested at most 127 deep, and no field that is read is
repeated, both write the decision that answers the context, or none.  What has no value is
refused by `evaluate`; what repeats a field is refused by `scan`. -/
theorem evaluate_scan_alike (hs : readStrategy w strategy (.unusable strategy) = .ok s)
    (hcontext : w.files context = .text line) (hcontexts : w.files contexts = .text text)
    (hlines : lines text = [line]) (ht : Tree.read line = some t) (balance : Float) :
    (t.Valued ∧ t.depth ≤ maxDepth → Shape.context.Single t →
      (∃ m d, Context.ofText? line = some m ∧ Decision.Answers d w.zones s balance m ∧
        evaluate w strategy context balance = .ok [d.toJson.pretty] ∧
        scan w strategy contexts balance = .ok [d.toJson.compact]) ∨
      (Context.ofText? line = none ∧
        evaluate w strategy context balance = .error (.notContext context) ∧
        scan w strategy contexts balance = .error (.badLine 1))) ∧
    (¬(t.Valued ∧ t.depth ≤ maxDepth) →
      evaluate w strategy context balance = .error (.notJson context)) ∧
    (¬Shape.context.Single t → scan w strategy contexts balance = .error (.badLine 1)) := by
  have hvalue := Json.isSome_read_iff ht
  rw [evaluate_eq hs hcontext, scan_eq hs hcontexts hlines ht]
  refine ⟨fun hvalued hsingle => ?_, fun hvalued => ?_, fun hsingle => ?_⟩
  · obtain ⟨v, hv⟩ := Option.isSome_iff_exists.mp (hvalue.mpr hvalued)
    have htree : ofTree? t = some v := by rwa [Json.read_eq_ite ht, if_pos hvalued.2] at hv
    rw [Context.ofText?_eq_ofJson? ht htree hsingle, hv]
    dsimp only
    cases Context.ofJson? v with
    | none => exact .inr ⟨rfl, rfl, rfl⟩
    | some m => exact .inl ⟨m, _, rfl, s.answers_decide w.zones balance m, rfl, rfl⟩
  · rw [Option.not_isSome_iff_eq_none.mp (mt hvalue.mp hvalued)]
  · rw [Context.ofText?_eq_none ht hsingle]

end

/-! ## sample files -/

/-- A strategy in one file and a line in all others. -/
def sampleWorld (line : List Char) : World where
  files file := .text (if file = "strategy.json" then Strategy.ofSample.toJson.compact else line)
  zones := Zone.standard
  now := 0

/-- The text that is written for the sample is accepted, and gives the sample. -/
theorem readStrategy_ofSample {w : World} {file : String}
    (hfile : w.files file = .text Strategy.ofSample.toJson.compact) :
    readStrategy w file (.unusable file) = .ok Strategy.ofSample := by
  have hread : ((Json.read Strategy.ofSample.toJson.compact).bind fun v =>
      (Strategy.ofJson v).toOption) = some Strategy.ofSample := by decide +kernel
  obtain ⟨v, hvalue, hstrategy⟩ := Option.bind_eq_some_iff.mp hread
  rw [readStrategy, readJson, readFile, hfile]
  simp only [Except.bind, hvalue, Checked.toOption_eq_some.mp hstrategy]

theorem readStrategy_sampleWorld (line : List Char) :
    readStrategy (sampleWorld line) "strategy.json" (.unusable "strategy.json") =
      .ok Strategy.ofSample :=
  readStrategy_ofSample (congrArg Finding.text (if_pos rfl))

theorem files_sampleWorld (line : List Char) :
    (sampleWorld line).files "context.json" = .text line ∧
      (sampleWorld line).files "contexts.jsonl" = .text line :=
  ⟨congrArg Finding.text (if_neg (by decide)), congrArg Finding.text (if_neg (by decide))⟩

/-- An instant, with more members behind it. -/
def instantWith (members : List Char) : List Char :=
  "\x7b\"time\":\"2024-03-04T15:10:00Z\"".toList ++ members ++ ['\x7d']

/-- Both commands make one decision at this instant. -/
theorem evaluate_scan_instant :
    ∃ m d, Decision.Answers d Zone.standard Strategy.ofSample 50000.0 m ∧
      evaluate (sampleWorld (instantWith [])) "strategy.json" "context.json" 50000.0 =
        .ok [d.toJson.pretty] ∧
      scan (sampleWorld (instantWith [])) "strategy.json" "contexts.jsonl" 50000.0 =
        .ok [d.toJson.compact] := by
  obtain ⟨t, ht⟩ := Option.isSome_iff_exists.mp
    (show (Tree.read (instantWith [])).isSome from by decide +kernel)
  have hvalue : (Json.read (instantWith [])).isSome := by decide +kernel
  have hsome : (Context.ofText? (instantWith [])).isSome := by decide +kernel
  have hsingle : Shape.context.Single t := by
    by_contra hsingle
    rw [Context.ofText?_eq_none ht hsingle] at hsome
    contradiction
  obtain ⟨hcontext, hcontexts⟩ := files_sampleWorld (instantWith [])
  have h := evaluate_scan_alike (readStrategy_sampleWorld _) hcontext hcontexts
    (by decide +kernel) ht 50000.0
  obtain ⟨m, d, -, heq⟩ | ⟨hnone, -⟩ := h.1 ((Json.isSome_read_iff ht).mp hvalue) hsingle
  · exact ⟨m, d, heq⟩
  · rw [hnone] at hsome
    contradiction

/-- Contexts that repeat a field, name a period with an escape, or replace an average
that is no number. -/
def repeating : List (List Char) := [
  instantWith ",\"time\":\"2024-03-04T15:10:00Z\"".toList,
  instantWith ",\"indicators\":\x7b\"ema\":\x7b\"\\u0039\":1\x7d\x7d".toList,
  instantWith ",\"indicators\":\x7b\"ema\":\x7b\"9\":null,\"9\":1\x7d\x7d".toList]

/-- Contexts with members that nobody reads and that have no value: a number out of range, one
that is out of range only as it is computed, half a pair of code units, and too many arrays
inside one another. -/
def valueless : List (List Char) := [
  instantWith ",\"note\":1e999".toList,
  instantWith ",\"note\":1.797693134862315708e308".toList,
  instantWith ",\"note\":\"\\ud800\"".toList,
  instantWith (",\"note\":".toList ++ List.replicate 127 '[' ++ List.replicate 127 ']')]

/-- Whether a text is an object. -/
def isObject (text : List Char) : Bool :=
  match Tree.read text with
  | some (.object _) => true
  | _ => false

theorem exists_members {text : List Char} (h : isObject text = true) :
    ∃ members, Tree.read text = some (.object members) := by
  unfold isObject at h
  split at h
  · next members hread => exact ⟨members, hread⟩
  · contradiction

/-- **Where the commands differ**: each condition under which they decide alike is needed,
also for texts that are objects. -/
theorem evaluate_scan_differ :
    (∀ line, readStrategy (sampleWorld line) "strategy.json" (.unusable "strategy.json") =
      .ok Strategy.ofSample) ∧
    (∀ line ∈ repeating, lines line = [line] ∧
      (∃ members, Tree.read line = some (.object members)) ∧
      (∃ m, evaluate (sampleWorld line) "strategy.json" "context.json" 50000.0 =
        .ok [(Strategy.ofSample.decide Zone.standard m 50000.0).toJson.pretty]) ∧
      scan (sampleWorld line) "strategy.json" "contexts.jsonl" 50000.0 = .error (.badLine 1)) ∧
    ∀ line ∈ valueless, lines line = [line] ∧
      (∃ members, Tree.read line = some (.object members)) ∧
      evaluate (sampleWorld line) "strategy.json" "context.json" 50000.0 =
        .error (.notJson "context.json") ∧
      ∃ m, scan (sampleWorld line) "strategy.json" "contexts.jsonl" 50000.0 =
        .ok [(Strategy.ofSample.decide Zone.standard m 50000.0).toJson.compact] := by
  have hrepeating : ∀ line ∈ repeating, lines line = [line] ∧ isObject line = true ∧
      ((Json.read line).bind Context.ofJson?).isSome ∧ (Context.ofText? line).isNone := by
    decide +kernel
  have hvalueless : ∀ line ∈ valueless, lines line = [line] ∧ isObject line = true ∧
      (Json.read line).isNone ∧ (Context.ofText? line).isSome := by
    decide +kernel
  refine ⟨readStrategy_sampleWorld, fun line hline => ?_, fun line hline => ?_⟩
  · obtain ⟨hlines, hobject, hsome, hnone⟩ := hrepeating line hline
    obtain ⟨hcontext, hcontexts⟩ := files_sampleWorld line
    obtain ⟨members, ht⟩ := exists_members hobject
    obtain ⟨m, hm⟩ := Option.isSome_iff_exists.mp hsome
    obtain ⟨v, hv, hm⟩ := Option.bind_eq_some_iff.mp hm
    refine ⟨hlines, ⟨members, ht⟩, ⟨m, ?_⟩, ?_⟩
    · rw [evaluate_eq (readStrategy_sampleWorld line) hcontext, hv]
      dsimp only
      rw [hm]
      rfl
    · rw [scan_eq (readStrategy_sampleWorld line) hcontexts hlines ht,
        Option.isNone_iff_eq_none.mp hnone]
  · obtain ⟨hlines, hobject, hnone, hsome⟩ := hvalueless line hline
    obtain ⟨hcontext, hcontexts⟩ := files_sampleWorld line
    obtain ⟨members, ht⟩ := exists_members hobject
    obtain ⟨m, hm⟩ := Option.isSome_iff_exists.mp hsome
    refine ⟨hlines, ⟨members, ht⟩, ?_, ⟨m, ?_⟩⟩
    · rw [evaluate_eq (readStrategy_sampleWorld line) hcontext,
        Option.isNone_iff_eq_none.mp hnone]
    · rw [scan_eq (readStrategy_sampleWorld line) hcontexts hlines ht, hm]
      rfl

end CommandLine

end Playbook
