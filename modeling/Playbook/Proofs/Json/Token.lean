import Playbook.Json.Printer
import Playbook.Proofs.Json.Number

/-!
# Playbook.Proofs.Json.Token

The tokens of a text that was written for a value (`scan_compact`).

A string goes on up to the quote behind it, because the quotes inside are escaped;
a number and a word go on up to the comma or the bracket behind them.
-/

namespace Playbook.Json

open Number

/-! ## strings -/

/-- A control character is written with its two hexadecimal digits. -/
theorem unitEscape_eq {c : Char} (hc : c.toNat < 0x20) :
    ∃ h l, unitEscape c = ['\\', 'u', '0', '0', h, l] ∧
      Text.hexQuad '0' '0' h l = some c.toNat := by
  have hquad : ∀ n : Fin 0x20,
      Text.hexQuad '0' '0' (Nat.digitChar (n / 16)) (Nat.digitChar (n % 16)) = some n.val := by
    decide
  have hbyte : c.toNat.toUInt8.toNat = c.toNat := Nat.mod_eq_of_lt (by omega)
  refine ⟨_, _, rfl, ?_⟩
  rw [hbyte]
  exact hquad ⟨c.toNat, hc⟩

/-- What is written for a character is taken as part of the string. -/
theorem takeBody_escape (c : Char) (rest : List Char) :
    Token.takeBody (escape c ++ rest) = (Token.takeBody rest).map (Token.inFront (escape c)) := by
  unfold escape
  split
  case h_8 h1 h2 h3 h4 h5 h6 h7 =>
    split
    · next hc =>
      obtain ⟨h, l, heq, hquad⟩ := unitEscape_eq hc
      rw [heq]
      simp only [List.cons_append, List.nil_append, Token.takeBody, hquad, Option.isSome_some,
        if_true]
    · next hc =>
      rw [List.singleton_append, Token.takeBody, if_neg]
      all_goals grind
  all_goals rfl

/-- The quotation mark that ends a string is the first one that is not escaped. -/
theorem takeBody_quoted (cs rest : List Char) :
    Token.takeBody (cs.flatMap escape ++ '"' :: rest) = some (cs.flatMap escape, rest) := by
  induction cs with
  | nil => rfl
  | cons c cs ih =>
      rw [List.flatMap_cons, List.append_assoc, takeBody_escape, ih]
      rfl

/-- An escape stands for the character it was written for. -/
theorem characters?_escape (c : Char) (rest : List Char) :
    Literal.characters? none (escape c ++ rest) =
      (Literal.characters? none rest).map (c :: ·) := by
  unfold escape
  split
  case h_8 h1 h2 h3 h4 h5 h6 h7 =>
    split
    · next hc =>
      obtain ⟨h, l, heq, hquad⟩ := unitEscape_eq hc
      have hhigh : Literal.isHighHalf c.toNat = false := by
        simp [Literal.isHighHalf]
        omega
      have hlow : Literal.isLowHalf c.toNat = false := by
        simp [Literal.isLowHalf]
        omega
      rw [heq]
      conv_lhs => unfold Literal.characters?
      simp only [List.cons_append, List.nil_append, hquad, hhigh, hlow, Bool.false_eq_true,
        if_false, Char.ofNat_toNat]
    · next hc =>
      rw [List.singleton_append, Literal.characters?]
      all_goals grind
  all_goals rfl

/-- The escapes of a written string are resolved to its characters. -/
theorem text?_quoted (s : String) : Literal.text? (s.toList.flatMap escape) = some s := by
  have h (cs : List Char) : Literal.characters? none (cs.flatMap escape) = some cs := by
    induction cs with
    | nil => rfl
    | cons c cs ih =>
        rw [List.flatMap_cons, characters?_escape, ih]
        rfl
  rw [Literal.text?, h, Option.map_some, String.ofList_toList]

namespace Token

/-! ## single tokens -/

/-- A mark of punctuation is a token by itself. -/
theorem scan_punctuation {c : Char} {t : Token} (rest : List Char) (h : punctuation c = some t) :
    scan (c :: rest) = (scan rest).map (t :: ·) := by
  have hspace : isSpace c = false := by
    unfold punctuation at h
    split at h <;> first | rfl | contradiction
  rw [scan, hspace, h]
  rfl

/-- A string is a token up to its quotation mark. -/
theorem scan_string {rest body tail : List Char} (h : takeBody rest = some (body, tail)) :
    scan ('"' :: rest) = (scan tail).map (.string body :: ·) := by
  have hspace : isSpace '"' = false := rfl
  have hpunctuation : punctuation '"' = none := rfl
  rw [scan, hspace, hpunctuation]
  simp only [Bool.false_eq_true, if_false, if_true]
  split
  · next h' =>
    obtain ⟨rfl, rfl⟩ := Prod.mk.inj (Option.some.inj (h.symm.trans h'))
    rfl
  · next h' =>
    rw [h] at h'
    contradiction

/-- A character that starts neither a blank nor a token of another kind. -/
theorem isSpace_eq_false {p : Char → Bool} {c : Char} (hc : p c = true)
    (hp : [' ', '\t', '\n', '\r', '\x7b', '\x7d', '[', ']', ',', ':', '"'].any p = false) :
    isSpace c = false ∧ punctuation c = none ∧ c ≠ '"' := by
  simp only [List.any_cons, List.any_nil, Bool.or_eq_false_iff] at hp
  obtain ⟨h1, h2, h3, h4, h5, h6, h7, h8, h9, h10, h11, -⟩ := hp
  have hne {d : Char} (hd : p d = false) : c ≠ d := by
    rintro rfl
    rw [hc] at hd
    contradiction
  refine ⟨?_, ?_, hne h11⟩
  · simp only [isSpace, decide_eq_false (hne h1), decide_eq_false (hne h2),
      decide_eq_false (hne h3), decide_eq_false (hne h4), Bool.or_self]
  · unfold punctuation
    split
    · exact absurd rfl (hne h5)
    · exact absurd rfl (hne h6)
    · exact absurd rfl (hne h7)
    · exact absurd rfl (hne h8)
    · exact absurd rfl (hne h9)
    · exact absurd rfl (hne h10)
    · rfl

/-- A text that goes on with something that belongs neither to a number nor to a word. -/
def EndsToken (s : List Char) : Prop := ∀ c ∈ s.head?, inNumber c = false ∧ c.isLower = false

/-- A number goes on as long as its characters do. -/
theorem scan_number {s rest : List Char} (hne : s ≠ []) (hs : ∀ c ∈ s, inNumber c = true)
    (hrest : EndsToken rest) : scan (s ++ rest) = (scan rest).map (.number s :: ·) := by
  obtain ⟨c, cs, rfl⟩ := List.exists_cons_of_ne_nil hne
  obtain ⟨hc, hcs⟩ := List.forall_mem_cons.mp hs
  obtain ⟨htake, hdrop⟩ := Text.takeWhile_append_of_ends hcs fun c hc => (hrest c hc).1
  obtain ⟨hspace, hpunctuation, hquote⟩ := isSpace_eq_false hc rfl
  rw [List.cons_append, scan, hspace, hpunctuation]
  simp only [Bool.false_eq_true, if_false, if_neg hquote, hc, if_true, htake, hdrop]

/-- A word may not start with the letter of an exponent. -/
theorem scan_word {c : Char} {cs rest : List Char} (hc : inNumber c = false)
    (hs : (c :: cs).all Char.isLower = true) (hrest : EndsToken rest) :
    scan (c :: cs ++ rest) = (scan rest).map (.word (c :: cs) :: ·) := by
  obtain ⟨hlower, hcs⟩ := List.forall_mem_cons.mp (List.all_eq_true.mp hs)
  obtain ⟨htake, hdrop⟩ := Text.takeWhile_append_of_ends hcs fun c hc => (hrest c hc).2
  obtain ⟨hspace, hpunctuation, hquote⟩ := isSpace_eq_false hlower rfl
  rw [List.cons_append, scan, hspace, hpunctuation]
  simp only [Bool.false_eq_true, if_false, if_neg hquote, hc, hlower, if_true, htake, hdrop]

end Token

/-! ## values -/

mutual

/-- Values that have a text: numbers are finite, integers fit into 64 bits, and no
two members of an object have one name. -/
def Printable : Json → Prop
  | .integer n => -0x8000000000000000 ≤ n ∧ n ≤ 0xFFFFFFFFFFFFFFFF
  | .real x => x.isFinite = true
  | .array items => PrintableItems items
  | .object members => (members.map Prod.fst).Nodup ∧ PrintableMembers members
  | _ => True

/-- All values of a list have a text. -/
def PrintableItems : List Json → Prop
  | [] => True
  | v :: rest => Printable v ∧ PrintableItems rest

/-- All values of the members have a text. -/
def PrintableMembers : List (String × Json) → Prop
  | [] => True
  | (_, v) :: rest => Printable v ∧ PrintableMembers rest

end

/-- A number that is not finite is written as null. -/
theorem printable_ofFloat (x : Float) : Printable (.ofFloat x) := by
  rw [ofFloat]
  split
  · next h => exact h
  · trivial

/-- A string as a token. -/
def stringToken (s : String) : Token := .string (s.toList.flatMap escape)

mutual

/-- The tokens of a value. -/
def tokens : Json → List Token
  | .null => [.word "null".toList]
  | .bool true => [.word "true".toList]
  | .bool false => [.word "false".toList]
  | .integer n => [.number (Text.decimalInt n)]
  | .real x => [.number (Layout.document.render x)]
  | .string s => [stringToken s]
  | .array items => .openBracket :: itemTokens items ++ [.closeBracket]
  | .object members => .openBrace :: memberTokens members ++ [.closeBrace]

/-- The tokens of items with commas between them. -/
def itemTokens : List Json → List Token
  | [] => []
  | [v] => tokens v
  | v :: rest => tokens v ++ .comma :: itemTokens rest

/-- The tokens of members with commas between them. -/
def memberTokens : List (String × Json) → List Token
  | [] => []
  | [(name, v)] => stringToken name :: .colon :: tokens v
  | (name, v) :: rest => stringToken name :: .colon :: tokens v ++ .comma :: memberTokens rest

end

/-- What stands in no number and in no word ends both. -/
theorem Token.endsToken_cons {c : Char} {rest : List Char}
    (h : inNumber c = false ∧ c.isLower = false) : EndsToken (c :: rest) := by
  intro d hd
  rwa [← Option.some.inj hd]

theorem scan_quoted (s : String) (rest : List Char) :
    Token.scan (quoted s ++ rest) = (Token.scan rest).map (stringToken s :: ·) := by
  rw [quoted, List.cons_append, List.cons_append, List.append_assoc]
  exact Token.scan_string (takeBody_quoted s.toList rest)

mutual

/-- **A written value is cut into its tokens**, whatever follows that does not belong
to the last token. -/
theorem scan_compact (v : Json) (h : Printable v) {rest : List Char}
    (hrest : Token.EndsToken rest) :
    Token.scan (v.compact ++ rest) = (Token.scan rest).map (tokens v ++ ·) := by
  cases v with
  | null => exact Token.scan_word rfl rfl hrest
  | bool b =>
      cases b with
      | true => exact Token.scan_word rfl rfl hrest
      | false => exact Token.scan_word rfl rfl hrest
  | integer n =>
      have hn := Literal.denotes_decimalInt h.1 h.2
      exact Token.scan_number hn.nonempty hn.inNumber hrest
  | real x =>
      have hx := Literal.denotes_render h
      exact Token.scan_number hx.nonempty hx.inNumber hrest
  | string s => exact scan_quoted s rest
  | array items =>
      have hends : Token.EndsToken (']' :: rest) := Token.endsToken_cons (by decide)
      rw [compact, List.cons_append, List.cons_append, List.append_assoc,
        Token.scan_punctuation _ rfl, List.singleton_append,
        scan_compactItems items h hends, Token.scan_punctuation rest rfl]
      simp [tokens, Function.comp_def]
  | object members =>
      have hends : Token.EndsToken ('\x7d' :: rest) := Token.endsToken_cons (by decide)
      rw [compact, List.cons_append, List.cons_append, List.append_assoc,
        Token.scan_punctuation _ rfl, List.singleton_append,
        scan_compactMembers members h.2 hends, Token.scan_punctuation rest rfl]
      simp [tokens, Function.comp_def]

/-- Items are written with commas, which are tokens again. -/
theorem scan_compactItems (vs : List Json) (h : PrintableItems vs) {rest : List Char}
    (hrest : Token.EndsToken rest) :
    Token.scan (compactItems vs ++ rest) = (Token.scan rest).map (itemTokens vs ++ ·) := by
  match vs with
  | [] => simp [compactItems, itemTokens]
  | [v] => exact scan_compact v h.1 hrest
  | v :: w :: ws =>
      have hends : Token.EndsToken (',' :: (compactItems (w :: ws) ++ rest)) :=
        Token.endsToken_cons (by decide)
      rw [compactItems, List.append_assoc, List.cons_append, scan_compact v h.1 hends,
        Token.scan_punctuation _ rfl, scan_compactItems (w :: ws) h.2 hrest]
      · simp [itemTokens, Function.comp_def]
      · exact nofun

theorem scan_compactMembers (ms : List (String × Json)) (h : PrintableMembers ms)
    {rest : List Char} (hrest : Token.EndsToken rest) :
    Token.scan (compactMembers ms ++ rest) = (Token.scan rest).map (memberTokens ms ++ ·) := by
  match ms with
  | [] => simp [compactMembers, memberTokens]
  | [(name, v)] =>
      rw [compactMembers, List.append_assoc, scan_quoted, List.cons_append,
        Token.scan_punctuation _ rfl, scan_compact v h.1 hrest]
      simp [memberTokens, Function.comp_def]
  | (name, v) :: m :: ms =>
      have hends : Token.EndsToken (',' :: (compactMembers (m :: ms) ++ rest)) :=
        Token.endsToken_cons (by decide)
      rw [compactMembers, List.append_assoc, List.append_assoc, scan_quoted, List.cons_append,
        Token.scan_punctuation _ rfl, List.cons_append, scan_compact v h.1 hends,
        Token.scan_punctuation _ rfl, scan_compactMembers (m :: ms) h.2 hrest]
      · simp [memberTokens, Function.comp_def]
      · exact nofun

end

end Playbook.Json
