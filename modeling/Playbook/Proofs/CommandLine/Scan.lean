import Playbook.Proofs.CommandLine.Context
import Playbook.Proofs.Json.Line

/-!
# Playbook.Proofs.CommandLine.Scan

All lines of a file of contexts, or none.

Contexts are read line by line (`contextsOfLines_cons`), and the first line that is neither
blank nor a context ends the reading (`contextsOfLines_of_bad`).  So the command answers
every line as it would answer it alone, in the order of the lines, or it answers nothing
and names the first bad line by its place among all lines (`scan_all_or_nothing`).
-/

namespace Playbook

/-! ## lines -/

/-- What follows a line feed is cut into lines on its own. -/
theorem lines_append_cons (t u : List Char) :
    lines (t ++ '\n' :: u) = (t.splitOn '\n').map dropReturn ++ lines u := by
  have hne : u.splitOn '\n' ≠ [] := List.splitOn_ne_nil '\n' u
  have hlast : (t.splitOn '\n' ++ u.splitOn '\n').getLast? = (u.splitOn '\n').getLast? := by
    rw [List.getLast?_append, List.getLast?_eq_some_getLast hne, Option.some_or]
  simp only [lines, List.splitOn_append_cons_self, List.dropLast_append_of_ne_nil hne, hlast,
    List.map_append, List.append_assoc]

/-- The lines of two texts, the first of which ends with a line feed. -/
theorem lines_append {t : List Char} (h : t.getLast? = some '\n') (u : List Char) :
    lines (t ++ u) = lines t ++ lines u := by
  obtain ⟨t, rfl⟩ := List.getLast?_eq_some_iff.mp h
  rw [List.append_assoc, List.singleton_append, lines_append_cons, lines_append_cons]
  simp [lines]

/-- Texts that end with a line feed do not run into one another. -/
theorem lines_flatten {texts : List (List Char)} (h : ∀ t ∈ texts, t.getLast? = some '\n') :
    lines texts.flatten = texts.flatMap lines := by
  induction texts with
  | nil => rfl
  | cons t texts ih =>
      obtain ⟨ht, htexts⟩ := List.forall_mem_cons.mp h
      rw [List.flatten_cons, lines_append ht, ih htexts, List.flatMap_cons]

/-- A text without line feeds is its own line, unless there is nothing on it. -/
theorem lines_of_notMem {line : List Char} (h : '\n' ∉ line) :
    lines line = if line = [] then [] else [line] := by
  rw [lines, List.splitOn_eq_singleton h]
  cases line <;> rfl

theorem notMem_of_mem_splitOn {a : Char} {text part : List Char} (h : part ∈ text.splitOn a) :
    a ∉ part := by
  induction text generalizing part with
  | nil =>
      obtain rfl := List.mem_singleton.mp h
      exact List.not_mem_nil
  | cons c text ih =>
      obtain ⟨head, parts, hparts⟩ := List.exists_cons_of_ne_nil (List.splitOn_ne_nil a text)
      rw [List.splitOn_cons_eq_if_modifyHead, hparts] at h
      rw [hparts] at ih
      split at h
      · obtain rfl | h := List.mem_cons.mp h
        · exact List.not_mem_nil
        · exact ih h
      · next hc =>
        obtain rfl | h := List.mem_cons.mp h
        · have hca : a ≠ c := fun h => hc (by simp [h])
          exact List.not_mem_cons_of_ne_of_not_mem hca (ih List.mem_cons_self)
        · exact ih (List.mem_cons_of_mem _ h)

/-- There are no line feeds in lines. -/
theorem notMem_of_mem_lines {text line : List Char} (h : line ∈ lines text) : '\n' ∉ line := by
  obtain h | h := List.mem_append.mp h
  · obtain ⟨part, hpart, rfl⟩ := List.mem_map.mp h
    have hfree := notMem_of_mem_splitOn (List.mem_of_mem_dropLast hpart)
    unfold dropReturn
    split
    · exact mt List.mem_of_mem_dropLast hfree
    · exact hfree
  · split at h
    · contradiction
    · next last hlast =>
      obtain rfl := List.mem_singleton.mp h
      exact notMem_of_mem_splitOn (List.mem_of_getLast? hlast)
    · contradiction

/-! ## contexts on lines -/

/-- The lines that are not blank. -/
def filled (ls : List (List Char)) : List (List Char) := ls.filter fun line => !isBlankLine line

theorem filled_append (ls ls' : List (List Char)) : filled (ls ++ ls') = filled ls ++ filled ls' :=
  List.filter_append ..

/-- A line that is not blank and holds no context. -/
def BadLine (line : List Char) : Prop := isBlankLine line = false ∧ Context.ofText? line = none

instance (line : List Char) : Decidable (BadLine line) :=
  decidable_of_iff (isBlankLine line = false ∧ (Context.ofText? line).isNone)
    (by rw [BadLine, Option.isNone_iff_eq_none])

/-- No line is bad if every line that is filled holds a context. -/
theorem forall_not_badLine_iff {ls : List (List Char)} :
    (∀ line ∈ ls, ¬BadLine line) ↔ ∀ line ∈ filled ls, Context.ofText? line ≠ none := by
  simp only [filled, List.mem_filter, Bool.not_eq_true', BadLine, not_and, and_imp, ne_eq]

/-- The contexts on lines none of which is bad. -/
def contextsOn (ls : List (List Char)) : List Context := (filled ls).filterMap Context.ofText?

theorem contextsOn_append (ls ls' : List (List Char)) :
    contextsOn (ls ++ ls') = contextsOn ls ++ contextsOn ls' := by
  rw [contextsOn, filled_append, List.filterMap_append]
  rfl

/-- A function that always has a result gives one for each item. -/
theorem forall₂_filterMap {α β : Type} {f : α → Option β} {l : List α} (h : ∀ a ∈ l, f a ≠ none) :
    List.Forall₂ (fun a b => f a = some b) l (l.filterMap f) := by
  induction l with
  | nil => exact .nil
  | cons a l ih =>
      obtain ⟨ha, hl⟩ := List.forall_mem_cons.mp h
      obtain ⟨b, hb⟩ := Option.ne_none_iff_exists'.mp ha
      rw [List.filterMap_cons_some hb]
      exact .cons hb (ih hl)

/-- The filled lines hold the contexts one by one. -/
theorem forall₂_contextsOn {ls : List (List Char)} (h : ∀ line ∈ ls, ¬BadLine line) :
    List.Forall₂ (fun line m => Context.ofText? line = some m) (filled ls) (contextsOn ls) :=
  forall₂_filterMap (forall_not_badLine_iff.mp h)

/-- Reading goes on behind a line that is not bad; its context comes first, if it has one. -/
theorem contextsOfLines_cons {line : List Char} (h : ¬BadLine line) (number : Nat)
    (rest : List (List Char)) :
    contextsOfLines number (line :: rest) =
      (contextsOfLines (number + 1) rest).map (contextsOn [line] ++ ·) := by
  rw [contextsOfLines]
  cases hblank : isBlankLine line with
  | true =>
      have hnone : contextsOn [line] = [] := by simp [contextsOn, filled, hblank]
      rw [hnone, if_pos rfl]
      exact (congrFun Except.map_id _).symm
  | false =>
      obtain ⟨m, hm⟩ := Option.ne_none_iff_exists'.mp fun hnone => h ⟨hblank, hnone⟩
      have hone : contextsOn [line] = [m] := by simp [contextsOn, filled, hblank, hm]
      rw [hone, hm]
      rfl

/-- Without bad lines all contexts are read, whatever number the first line has. -/
theorem contextsOfLines_of_good {ls : List (List Char)} (h : ∀ line ∈ ls, ¬BadLine line)
    (number : Nat) : contextsOfLines number ls = .ok (contextsOn ls) := by
  induction ls generalizing number with
  | nil => rfl
  | cons line ls ih =>
      obtain ⟨hline, hls⟩ := List.forall_mem_cons.mp h
      have hcons : contextsOn (line :: ls) = contextsOn [line] ++ contextsOn ls :=
        contextsOn_append [line] ls
      rw [contextsOfLines_cons hline, ih hls, hcons]
      rfl

/-- The first bad line is named by its number among all lines. -/
theorem contextsOfLines_of_bad {ls : List (List Char)} (h : ∃ line ∈ ls, BadLine line)
    (number : Nat) :
    contextsOfLines number ls = .error (number + ls.findIdx fun line => decide (BadLine line)) := by
  induction ls generalizing number with
  | nil => exact absurd h (by simp)
  | cons line ls ih =>
      rw [List.findIdx_cons]
      by_cases hline : BadLine line
      · rw [decide_eq_true hline, contextsOfLines, hline.1, hline.2]
        rfl
      · have hls : ∃ line ∈ ls, BadLine line := by
          obtain ⟨l, hl, hbad⟩ := h
          cases hl with
          | head => exact absurd hbad hline
          | tail _ hl => exact ⟨l, hl, hbad⟩
        rw [decide_eq_false hline, contextsOfLines_cons hline, ih hls, cond_false,
          Nat.add_right_comm]
        rfl

namespace CommandLine

/-! ## output -/

/-- Lines without control characters are found again in a text of them. -/
theorem lines_textOfLines {ls : List (List Char)} (h : ∀ line ∈ ls, Json.NotControl line) :
    lines (textOfLines ls).toList = ls := by
  have hended : ∀ t ∈ ls.map (· ++ ['\n']), t.getLast? = some '\n' := by
    intro t ht
    obtain ⟨line, -, rfl⟩ := List.mem_map.mp ht
    exact List.getLast?_concat
  have hline : ∀ line ∈ ls, lines (line ++ ['\n']) = [line] := by
    intro line hline
    have hfree {c : Char} (hc : c.toNat < 0x20) : c ∉ line := fun hmem =>
      Nat.not_lt_of_le (h line hline c hmem) hc
    have hreturn : line.getLast? ≠ some '\r' := fun hlast =>
      hfree (by decide) (List.mem_of_getLast? hlast)
    rw [lines_append_cons, List.splitOn_eq_singleton (hfree (by decide))]
    simp [lines, dropReturn, hreturn]
  rw [textOfLines, String.toList_ofList, List.flatMap_def, lines_flatten hended, List.flatMap_map,
    List.flatMap_congr hline, List.flatMap_singleton']

/-- The outcome is that of a scan of the text: some arguments ask to decide in all contexts of
a file with this text, by a strategy that is accepted, and with this balance, given or
configured. -/
def Scans (tz : ZoneDatabase) (s : Strategy) (balance : Float) (text : List Char) (o : Outcome) :
    Prop :=
  ∃ (w : World) (args : List String) (r : Request) (config : Config)
    (strategy contexts : String) (given : Option Float),
    w.zones = tz ∧ Request.ofArguments args = .ok r ∧ r.command = .scan strategy contexts given ∧
    loadConfig w r.config = .ok config ∧ given.getD config.balance = balance ∧
    readStrategy w strategy (.unusable strategy) = .ok s ∧ w.files contexts = .text text ∧
    run w args = o

/-- The line that is written for a context. -/
def answerLine (tz : ZoneDatabase) (s : Strategy) (balance : Float) (m : Context) : List Char :=
  (s.decide tz m balance).toJson.compact

/-- Several outcomes as one: it is a success if all of them are, and then the output is theirs,
one after the other. -/
def Outcome.Joins (o : Outcome) (os : List Outcome) : Prop :=
  (o.exit = 0 ↔ ∀ p ∈ os, p.exit = 0) ∧
    (o.exit = 0 → o.output = String.join (os.map Outcome.output))

section

variable {tz : ZoneDatabase} {s : Strategy} {balance : Float} {text : List Char} {o : Outcome}

/-- The outcome, by what is read from the text: lines for all contexts, or the number of one
line. -/
theorem Scans.outcome_eq (h : Scans tz s balance text o) :
    o = match contextsOfText text with
      | .ok ms => ⟨0, textOfLines (ms.map (answerLine tz s balance)), "", []⟩
      | .error n =>
        ⟨1, "", "Error: line " ++ String.ofList (Text.decimal n) ++ ": bad context", []⟩ := by
  obtain ⟨w, args, r, config, strategy, contexts, given, rfl, hargs, hcommand, hconfig, rfl,
    hstrategy, hfile, rfl⟩ := h
  have hread : readFile w contexts = .ok text := by rw [readFile, hfile]
  have hrun : r.run w = scan w strategy contexts (given.getD config.balance) := by
    rw [Request.run, hconfig, Except.bind, hcommand, Command.run]
  rw [run, hargs]
  simp only [hrun, scan, hstrategy, hread, Strategy.scan, bind, Except.bind]
  cases contextsOfText text with
  | ok ms =>
      dsimp only [Except.map]
      rw [List.map_map]
      rfl
  | error n => rfl

/-- Without bad lines there is an answer for every context. -/
theorem Scans.outcome_of_good (h : Scans tz s balance text o)
    (hgood : ∀ line ∈ lines text, ¬BadLine line) :
    o = ⟨0, textOfLines ((contextsOn (lines text)).map (answerLine tz s balance)), "", []⟩ := by
  rw [h.outcome_eq, contextsOfText, contextsOfLines_of_good hgood]

/-- With a bad line there is nothing but its number. -/
theorem Scans.outcome_of_bad (h : Scans tz s balance text o)
    (hbad : ∃ line ∈ lines text, BadLine line) :
    o = ⟨1, "", "Error: line " ++ String.ofList (Text.decimal
      (1 + (lines text).findIdx fun line => decide (BadLine line))) ++ ": bad context", []⟩ := by
  rw [h.outcome_eq, contextsOfText, contextsOfLines_of_bad hbad]

/-- A scan succeeds exactly if no line is bad. -/
theorem Scans.exit_eq_zero_iff (h : Scans tz s balance text o) :
    o.exit = 0 ↔ ∀ line ∈ lines text, ¬BadLine line := by
  constructor
  · intro hexit
    by_contra hbad
    rw [h.outcome_of_bad (by simpa only [not_forall, not_not, exists_prop] using hbad)] at hexit
    contradiction
  · intro hgood
    rw [h.outcome_of_good hgood]

/-! ## pieces -/

theorem textOfLines_append (ls ls' : List (List Char)) :
    textOfLines (ls ++ ls') = textOfLines ls ++ textOfLines ls' := by
  rw [textOfLines, List.flatMap_append, String.ofList_append]
  rfl

/-- Pieces of a text have the lines of the text, up to blank ones. -/
def CutInto (text : List Char) (pieces : List (List Char)) : Prop :=
  filled (lines text) = filled (pieces.flatMap lines)

/-- Lines that are cut again are the same, except that empty ones are gone. -/
theorem filled_flatMap_lines {ls : List (List Char)} (h : ∀ line ∈ ls, '\n' ∉ line) :
    filled (ls.flatMap lines) = filled ls := by
  induction ls with
  | nil => rfl
  | cons line ls ih =>
      obtain ⟨hline, hls⟩ := List.forall_mem_cons.mp h
      have hfilled : filled (lines line) = filled [line] := by
        rw [lines_of_notMem hline]
        split
        · next hempty => rw [hempty]; rfl
        · rfl
      rw [List.flatMap_cons, filled_append, hfilled, ih hls, ← filled_append, List.singleton_append]

/-- Each line of a text is a piece of it. -/
theorem cutInto_lines (text : List Char) : CutInto text (lines text) :=
  (filled_flatMap_lines fun _ => notMem_of_mem_lines).symm

/-- Texts that end with a line feed are pieces of what they make together. -/
theorem cutInto_flatten {texts : List (List Char)} (h : ∀ t ∈ texts, t.getLast? = some '\n') :
    CutInto texts.flatten texts := congrArg filled (lines_flatten h)

/-- Scans of some pieces succeed exactly if no line of a piece is bad. -/
theorem forall_exit_eq_zero_iff {pieces : List (List Char)} {os : List Outcome}
    (hos : List.Forall₂ (Scans tz s balance) pieces os) :
    (∀ p ∈ os, p.exit = 0) ↔ ∀ line ∈ pieces.flatMap lines, ¬BadLine line := by
  induction hos with
  | nil => simp
  | cons h _ ih => simp only [List.forall_mem_cons, h.exit_eq_zero_iff, ih, List.flatMap_cons,
      List.forall_mem_append]

/-- They write, one after the other, what is written for the contexts on all these lines. -/
theorem join_output {pieces : List (List Char)} {os : List Outcome}
    (hos : List.Forall₂ (Scans tz s balance) pieces os)
    (hgood : ∀ line ∈ pieces.flatMap lines, ¬BadLine line) :
    String.join (os.map Outcome.output) =
      textOfLines ((contextsOn (pieces.flatMap lines)).map (answerLine tz s balance)) := by
  induction hos with
  | nil => rfl
  | cons h _ ih =>
      rw [List.flatMap_cons] at hgood ⊢
      obtain ⟨hfirst, hrest⟩ := List.forall_mem_append.mp hgood
      rw [List.map_cons, String.join_cons, ih hrest, h.outcome_of_good hfirst, contextsOn_append,
        List.map_append, textOfLines_append]

/-- Scans of the pieces make the scan of the text. -/
theorem Scans.joins (h : Scans tz s balance text o) {pieces : List (List Char)}
    (hpieces : CutInto text pieces) {os : List Outcome}
    (hos : List.Forall₂ (Scans tz s balance) pieces os) : o.Joins os := by
  have hbad : (∀ line ∈ lines text, ¬BadLine line) ↔
      ∀ line ∈ pieces.flatMap lines, ¬BadLine line := by
    rw [forall_not_badLine_iff, forall_not_badLine_iff, hpieces]
  refine ⟨h.exit_eq_zero_iff.trans (hbad.trans (forall_exit_eq_zero_iff hos).symm), fun hexit => ?_⟩
  have hgood := h.exit_eq_zero_iff.mp hexit
  rw [h.outcome_of_good hgood, join_output hos (hbad.mp hgood), contextsOn, contextsOn, hpieces]

/-! ## the command -/

/-- **All lines or none.**  If no line is bad, the output is one line for each line that is not
blank, in order, and each is the decision in the context of that line.  Otherwise there is no
output, and the first bad line is named by its number among all lines, from one.  The outcome
is also that of scanning each line alone; and that of scanning the parts of the text, if it is
made of parts that end with a line feed. -/
theorem scan_all_or_nothing (h : Scans tz s balance text o) :
    ((∀ line ∈ lines text, ¬BadLine line) →
      ∃ ms, List.Forall₂ (fun line m => Context.ofText? line = some m) (filled (lines text)) ms ∧
        (∀ m ∈ ms, ∃ d : Decision, d.Answers tz s balance m ∧
          answerLine tz s balance m = d.toJson.compact) ∧
        o = ⟨0, textOfLines (ms.map (answerLine tz s balance)), "", []⟩ ∧
        lines o.output.toList = ms.map (answerLine tz s balance)) ∧
    ((∃ line ∈ lines text, BadLine line) →
      o = ⟨1, "", "Error: line " ++ String.ofList (Text.decimal
        (1 + (lines text).findIdx fun line => decide (BadLine line))) ++ ": bad context", []⟩) ∧
    (∀ os, List.Forall₂ (Scans tz s balance) (lines text) os → o.Joins os) ∧
    ∀ texts os, (∀ t ∈ texts, t.getLast? = some '\n') → texts.flatten = text →
      List.Forall₂ (Scans tz s balance) texts os → o.Joins os := by
  refine ⟨fun hgood => ⟨contextsOn (lines text), forall₂_contextsOn hgood, ?_, ?_⟩,
    h.outcome_of_bad, fun os hos => h.joins (cutInto_lines text) hos, ?_⟩
  · exact fun m _ => ⟨_, s.answers_decide tz balance m, rfl⟩
  · have ho := h.outcome_of_good hgood
    refine ⟨ho, ?_⟩
    rw [ho]
    refine lines_textOfLines fun line hline => ?_
    obtain ⟨m, -, rfl⟩ := List.mem_map.mp hline
    exact Json.notControl_compact _
  · rintro texts os htexts rfl hos
    exact h.joins (cutInto_flatten htexts) hos

end

/-! ## sample files -/

/-- An option of a command whose value is the next argument. -/
theorem takeOwn_option (command : CommandName) (operands : List Parameter) (vs : Values)
    (arg value : String) (rest : List String) {vs' : Values} {name : String} {p : Parameter}
    (harg : Argument.ofText arg = .option name none)
    (hp : (sharedOptions ++ command.options).find? (fun p => p.name = name) = some p)
    (hvalue : Argument.ofText value = .word) (htake : vs.take p value = .ok vs') :
    takeOwn command operands vs (arg :: value :: rest) = takeOwn command operands vs' rest := by
  rw [takeOwn.eq_def]
  simp only [harg, takeOption, hp, hvalue, htake, Except.map]

/-- Arguments that ask for a scan with the configured balance. -/
def scanArguments : List String :=
  ["scan", "--strategy", "strategy.json", "--contexts", "contexts.jsonl"]

/-- These arguments ask for a scan, with no balance. -/
theorem ofArguments_scanArguments :
    Request.ofArguments scanArguments =
      .ok ⟨none, none, .scan "strategy.json" "contexts.jsonl" none⟩ := by
  have hfront : takeFront Values.none scanArguments =
      .ok (Values.none, .scan, scanArguments.tail) := by
    rw [takeFront.eq_def]
    rfl
  have hstrategy := takeOwn_option .scan [] Values.none "--strategy" "strategy.json"
    ["--contexts", "contexts.jsonl"] rfl rfl rfl rfl
  have hcontexts := takeOwn_option .scan []
    ⟨[], some (CommandName.strategyFile "strategy", "strategy.json")⟩
    "--contexts" "contexts.jsonl" [] rfl rfl rfl rfl
  have hown : CommandName.scan.values scanArguments.tail =
      .ok [("strategy", "strategy.json"), ("contexts", "contexts.jsonl")] := by
    rw [CommandName.values, CommandName.operands]
    · rw [scanArguments, List.tail_cons, hstrategy.trans hcontexts, takeOwn.eq_def]
      rfl
    all_goals exact nofun
  rw [Request.ofArguments, hfront]
  simp only [bind, Except.bind, hown]
  rfl

/-- A strategy and a file of contexts, and no configuration. -/
def scanWorld (text : List Char) : World where
  files file :=
    if file = "strategy.json" then .text Strategy.ofSample.toJson.compact
    else if file = "contexts.jsonl" then .text text
    else .missing
  zones := Zone.standard
  now := 0

theorem scans_scanWorld (text : List Char) :
    Scans Zone.standard Strategy.ofSample Config.default.balance text
      (run (scanWorld text) scanArguments) :=
  ⟨scanWorld text, scanArguments, _, Config.default, "strategy.json", "contexts.jsonl", none, rfl,
    ofArguments_scanArguments, rfl, rfl, rfl, readStrategy_ofSample rfl, rfl, rfl⟩

/-- Filled and blank lines, one with a carriage return. -/
def mixedText : List Char :=
  (textOfLines [[], instantWith [], [' ', '\t'], instantWith ",\"note\":0".toList ++ ['\r']]).toList

/-- Lines two of which hold no value. -/
def faultyText : List Char := (textOfLines [[], ['?'], instantWith [], ['?']]).toList

/-- Good lines among blank ones are answered alone, in two parts, or all at once; two bad lines
behind them leave no answer, and the first one is the sixth line. -/
theorem scan_all_or_nothing_mixed :
    (∃ ms, List.Forall₂ (fun line m => Context.ofText? line = some m)
        [instantWith [], instantWith ",\"note\":0".toList] ms ∧
      (∀ m ∈ ms, ∃ d : Decision,
        d.Answers Zone.standard Strategy.ofSample Config.default.balance m ∧
          answerLine Zone.standard Strategy.ofSample Config.default.balance m =
            d.toJson.compact) ∧
      lines (run (scanWorld mixedText) scanArguments).output.toList =
        ms.map (answerLine Zone.standard Strategy.ofSample Config.default.balance)) ∧
    run (scanWorld (mixedText ++ faultyText)) scanArguments =
      ⟨1, "", "Error: line 6: bad context", []⟩ ∧
    (run (scanWorld mixedText) scanArguments).Joins
      ((lines mixedText).map fun line => run (scanWorld line) scanArguments) ∧
    (run (scanWorld (mixedText ++ mixedText)) scanArguments).Joins
      [run (scanWorld mixedText) scanArguments, run (scanWorld mixedText) scanArguments] := by
  refine ⟨?_, ?_, ?_, ?_⟩
  · obtain ⟨ms, hms, hanswers, -, houtput⟩ :=
      (scan_all_or_nothing (scans_scanWorld mixedText)).1 (by decide +kernel)
    have hfilled : filled (lines mixedText) =
        [instantWith [], instantWith ",\"note\":0".toList] := by decide +kernel
    exact ⟨ms, hfilled ▸ hms, hanswers, houtput⟩
  · have hbad : ∃ line ∈ lines (mixedText ++ faultyText), BadLine line := by decide +kernel
    have hplace : (lines (mixedText ++ faultyText)).findIdx (fun line => decide (BadLine line)) =
        5 := by decide +kernel
    have houtcome := (scan_all_or_nothing (scans_scanWorld _)).2.1 hbad
    rw [hplace] at houtcome
    exact houtcome
  · refine (scan_all_or_nothing (scans_scanWorld _)).2.2.1 _ ?_
    exact List.forall₂_map_right_iff.mpr
      (List.forall₂_same.mpr fun line _ => scans_scanWorld line)
  · refine (scan_all_or_nothing (scans_scanWorld _)).2.2.2 [mixedText, mixedText] _
      (by decide +kernel) ?_ (.cons (scans_scanWorld _) (.cons (scans_scanWorld _) .nil))
    simp

end CommandLine

end Playbook
