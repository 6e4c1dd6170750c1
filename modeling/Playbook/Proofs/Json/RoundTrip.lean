import Playbook.Json.Reader
import Playbook.Proofs.Json.Token

/-!
# Playbook.Proofs.Json.RoundTrip

The text of a value has the tree that the value is written as (`treeRead_compact`), and
this tree determines the value (`asTree_inj`), so values with one text are equal
(`compact_inj`).

The tree of a text is built in one pass over the tokens; between the tokens of a
value and behind them, what is open is the same (`foldlM_tokens`).
-/

namespace Playbook.Json

open Number

/-! ## trees of values -/

mutual

/-- The tree that a value is written as. -/
def asTree : Json → Tree
  | .null => .null
  | .bool b => .bool b
  | .integer n => .number (Text.decimalInt n)
  | .real x => .number (Layout.document.render x)
  | .string s => .string (s.toList.flatMap escape)
  | .array items => .array (itemTrees items)
  | .object members => .object (memberTrees members)

/-- The trees of items. -/
def itemTrees : List Json → List Tree
  | [] => []
  | v :: rest => asTree v :: itemTrees rest

/-- The trees of members. -/
def memberTrees : List (String × Json) → List (List Char × Tree)
  | [] => []
  | (name, v) :: rest => (name.toList.flatMap escape, asTree v) :: memberTrees rest

end

/-! ## building the tree -/

/-- No value starts with the bracket that ends an array, so that an array with items
is told from an empty one at once. -/
theorem step_firstItem (v : Json) (stack : List Tree.Frame) :
    ∃ t ts, tokens v = t :: ts ∧
      Tree.step (.firstItem, stack) t = Tree.step (.value, .items [] :: stack) t := by
  cases v with
  | bool b => cases b <;> exact ⟨_, _, rfl, rfl⟩
  | _ => exact ⟨_, _, rfl, rfl⟩

theorem foldlM_firstItem (v : Json) (vs : List Json) (stack : List Tree.Frame)
    (rest : List Token) :
    (itemTokens (v :: vs) ++ rest).foldlM Tree.step (.firstItem, stack) =
      (itemTokens (v :: vs) ++ rest).foldlM Tree.step (.value, .items [] :: stack) := by
  obtain ⟨t, ts, htokens, hstep⟩ := step_firstItem v stack
  have hitems : ∃ us, itemTokens (v :: vs) = t :: us := by
    cases vs with
    | nil => exact ⟨ts, htokens⟩
    | cons w ws =>
        refine ⟨ts ++ .comma :: itemTokens (w :: ws), ?_⟩
        rw [itemTokens, htokens]
        · rfl
        · exact List.cons_ne_nil w ws
  obtain ⟨us, hus⟩ := hitems
  rw [hus, List.cons_append, List.foldlM_cons, List.foldlM_cons, hstep]

mutual

/-- The tokens of a value, where a value is expected, complete its tree and leave what
is open alone. -/
theorem foldlM_tokens (v : Json) (h : Printable v) (stack : List Tree.Frame) :
    (tokens v).foldlM Tree.step (.value, stack) = some (.after (asTree v), stack) := by
  cases v with
  | null => rfl
  | bool b => cases b <;> rfl
  | integer n =>
      have hdenotes := Literal.denotes_decimalInt h.1 h.2
      obtain ⟨numeral, hn, -⟩ := hdenotes.names
      simp [tokens, asTree, Tree.step, Tree.start, Tree.leaf?, hn]
  | real x =>
      obtain ⟨numeral, hn, -⟩ := (Literal.denotes_render h).names
      simp [tokens, asTree, Tree.step, Tree.start, Tree.leaf?, hn]
  | string s => rfl
  | array items =>
      match items with
      | [] => rfl
      | v :: vs =>
          have hitems := foldlM_itemTokens (v :: vs) h (List.cons_ne_nil v vs) [] stack
          rw [← foldlM_firstItem] at hitems
          exact hitems
  | object members =>
      match members with
      | [] => rfl
      | m :: ms =>
          have hmembers := foldlM_memberTokens (m :: ms) h.2 (List.cons_ne_nil m ms) [] stack
          cases ms with
          | nil => exact hmembers
          | cons m' ms => exact hmembers

/-- The items of an array are taken one by one, and the bracket puts them together. -/
theorem foldlM_itemTokens (vs : List Json) (h : PrintableItems vs) (hne : vs ≠ [])
    (done : List Tree) (stack : List Tree.Frame) :
    (itemTokens vs ++ [Token.closeBracket]).foldlM Tree.step (.value, .items done :: stack) =
      some (.after (.array (done.reverse ++ itemTrees vs)), stack) := by
  match vs with
  | [v] =>
      rw [itemTokens, List.foldlM_append, foldlM_tokens v h.1]
      simp [Tree.step, Tree.resume, itemTrees]
  | v :: w :: ws =>
      have hrest := foldlM_itemTokens (w :: ws) h.2 (List.cons_ne_nil w ws) (asTree v :: done) stack
      rw [itemTokens, List.append_assoc, List.foldlM_append, foldlM_tokens v h.1]
      · simpa [Tree.step, Tree.resume, itemTrees] using hrest
      · exact List.cons_ne_nil w ws

theorem foldlM_memberTokens (ms : List (String × Json)) (h : PrintableMembers ms) (hne : ms ≠ [])
    (done : List (List Char × Tree)) (stack : List Tree.Frame) :
    (memberTokens ms ++ [Token.closeBrace]).foldlM Tree.step (.name done, stack) =
      some (.after (.object (done.reverse ++ memberTrees ms)), stack) := by
  match ms with
  | [(name, v)] =>
      have hvalue := foldlM_tokens v h.1 (.members done (name.toList.flatMap escape) :: stack)
      simp [memberTokens, stringToken, List.foldlM_append, Tree.step, hvalue, Tree.resume,
        memberTrees]
  | (name, v) :: m :: ms =>
      have hvalue := foldlM_tokens v h.1 (.members done (name.toList.flatMap escape) :: stack)
      have hrest := foldlM_memberTokens (m :: ms) h.2 (List.cons_ne_nil m ms)
        ((name.toList.flatMap escape, asTree v) :: done) stack
      simpa [memberTokens, stringToken, List.foldlM_append, Tree.step, hvalue, Tree.resume,
        memberTrees] using hrest

end

/-- **The tree of a written value.** -/
theorem treeRead_compact {v : Json} (h : Printable v) : Tree.read v.compact = some (asTree v) := by
  have hends : Token.EndsToken [] := nofun
  have hscan := scan_compact v h hends
  rw [List.append_nil, Token.scan, Option.map_some, List.append_nil] at hscan
  rw [Tree.read, hscan, Option.bind_some, Tree.ofTokens?, foldlM_tokens v h]

/-! ## values of trees -/

/-- What is written between quotes determines the text. -/
theorem quoted_inj {s s' : String}
    (h : s.toList.flatMap escape = s'.toList.flatMap escape) : s = s' := by
  have hread := text?_quoted s
  rw [h, text?_quoted] at hread
  exact (Option.some.inj hread).symm

mutual

/-- The tree of a value determines the value. -/
theorem asTree_inj (v w : Json) (hv : Printable v) (hw : Printable w) (h : asTree v = asTree w) :
    v = w := by
  -- Trees of different kinds differ; integers and other numbers are one kind.
  cases v <;> cases w <;>
    simp only [asTree, reduceCtorEq, Tree.bool.injEq, Tree.number.injEq, Tree.string.injEq,
      Tree.array.injEq, Tree.object.injEq] at h
  case null.null => rfl
  case bool.bool => rw [h]
  case integer.integer =>
    have hn := Literal.denotes_decimalInt hv.1 hv.2
    rw [h] at hn
    exact hn.unique (Literal.denotes_decimalInt hw.1 hw.2)
  case integer.real =>
    have hn := Literal.denotes_decimalInt hv.1 hv.2
    rw [h] at hn
    exact hn.unique (Literal.denotes_render hw)
  case real.integer =>
    have hx := Literal.denotes_render hv
    rw [h] at hx
    exact hx.unique (Literal.denotes_decimalInt hw.1 hw.2)
  case real.real =>
    have hx := Literal.denotes_render hv
    rw [h] at hx
    exact hx.unique (Literal.denotes_render hw)
  case string.string => rw [quoted_inj h]
  case array.array vs ws => rw [itemTrees_inj vs ws hv hw h]
  case object.object ms ns => rw [memberTrees_inj ms ns hv.2 hw.2 h]

/-- The trees of items determine the items. -/
theorem itemTrees_inj (vs ws : List Json) (hv : PrintableItems vs) (hw : PrintableItems ws)
    (h : itemTrees vs = itemTrees ws) : vs = ws := by
  match vs, ws with
  | [], [] => rfl
  | v :: vs, w :: ws =>
      obtain ⟨hhead, htail⟩ := List.cons.inj h
      rw [asTree_inj v w hv.1 hw.1 hhead, itemTrees_inj vs ws hv.2 hw.2 htail]

/-- The trees of members determine the members. -/
theorem memberTrees_inj (ms ns : List (String × Json)) (hm : PrintableMembers ms)
    (hn : PrintableMembers ns) (h : memberTrees ms = memberTrees ns) : ms = ns := by
  match ms, ns with
  | [], [] => rfl
  | (name, v) :: ms, (name', w) :: ns =>
      obtain ⟨hhead, htail⟩ := List.cons.inj h
      obtain ⟨hname, hvalue⟩ := Prod.mk.inj hhead
      rw [quoted_inj hname, asTree_inj v w hm.1 hn.1 hvalue, memberTrees_inj ms ns hm.2 hn.2 htail]

end

/-- **The text of a value determines it.** -/
theorem compact_inj {v w : Json} (hv : Printable v) (hw : Printable w)
    (h : v.compact = w.compact) : v = w := by
  have htree : some (asTree v) = some (asTree w) := by
    rw [← treeRead_compact hv, h, treeRead_compact hw]
  exact asTree_inj v w hv hw (Option.some.inj htree)

end Playbook.Json
