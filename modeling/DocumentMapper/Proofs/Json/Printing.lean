import DocumentMapper.Json.Basic
import DocumentMapper.Json.Scanner
import Mathlib.Data.List.Forall2

/-!
# Texts of JSON trees

What a printed tree looks like is said here without the printing: the tokens of the tree in
their order, strings in their marks and with their escapes (`QuotedAs`), items with commas
between them (`SpreadAs`), and brackets around (`EnclosedAs`). The two printings have all of
this in common. They differ in what stands between the tokens and nowhere else, so a style
is the gap in front of an item, which depends on the depth, and what stands behind the name
of a member.

Such a text is unique for each style, and so the relation says all about a printing
(`printedAs_compact_iff`, `printedAs_pretty_iff`). That the escapes are right is another
matter: a string is read back by the scanner, whatever its characters are
(`string?_of_quotedAs`).

## Main definitions

* `Style`: What stands between the tokens.
* `EscapedAs`, `QuotedAs`: A character inside a string, and a string.
* `SpreadAs`, `EnclosedAs`: Texts with commas between them, and brackets around.
* `PrintedAs`: A tree at a depth.

## Theorems

* `printedAs_unique`: One text for each style.
* `printedAs_compact_iff`, `printedAs_pretty_iff`: The two printings.
* `string?_of_quotedAs`: Strings are read back.
-/

namespace DocumentMapper.Json

/-- What stands between the tokens of a tree: in front of an item and of the bracket behind
    the items, by the depth, and behind the name of a member. -/
structure Style where
  gap : Nat → String
  colon : String

/-- Nothing stands between the tokens. -/
def Style.compact : Style where
  gap _ := ""
  colon := ":"

/-- Every item has a line of its own, which begins with two blanks for every level. -/
def Style.pretty : Style where
  gap depth := "\n" ++ String.ofList (List.replicate (2 * depth) ' ')
  colon := ": "

/-! ### The grammar -/

/-- The letters behind a backslash, and the characters that have one. -/
def letters : List (Char × Char) :=
  [('"', '"'), ('\\', '\\'), ('\x08', 'b'), ('\x0c', 'f'), ('\n', 'n'), ('\r', 'r'), ('\t', 't')]

/-- A character as it stands inside a string. -/
inductive EscapedAs (c : Char) : List Char → Prop where
  | letter {l : Char} (named : (c, l) ∈ letters) : EscapedAs c ['\\', l]
  /-- A control character without a letter has its number, in four digits. -/
  | number (unnamed : c ∉ letters.map Prod.fst) (control : c.toNat < 32) :
      EscapedAs c (['\\', 'u', '0', '0'] ++ Hex.byteDigits c.toNat.toUInt8)
  | plain (unnamed : c ∉ letters.map Prod.fst) (visible : 32 ≤ c.toNat) : EscapedAs c [c]

/-- The text of a string: its characters one after another between two marks. -/
def QuotedAs (s text : String) : Prop :=
  ∃ pieces, List.Forall₂ EscapedAs s.toList pieces ∧
    text.toList = ['"'] ++ pieces.flatten ++ ['"']

/-- Texts with a gap in front of each and commas between them. -/
inductive SpreadAs (gap : String) : List String → String → Prop where
  | last {text : String} : SpreadAs gap [text] (gap ++ text)
  | cons {text body : String} {rest : List String} (spread : SpreadAs gap rest body) :
      SpreadAs gap (text :: rest) (gap ++ text ++ "," ++ body)

/-- Texts between brackets at a depth. The texts are one level deeper, and without any of
    them nothing stands between the brackets. -/
inductive EnclosedAs (style : Style) (opening closing : String) (depth : Nat) :
    List String → String → Prop where
  | empty : EnclosedAs style opening closing depth [] (opening ++ closing)
  | items {texts : List String} {body : String}
      (spread : SpreadAs (style.gap (depth + 1)) texts body) :
      EnclosedAs style opening closing depth texts (opening ++ body ++ style.gap depth ++ closing)

mutual

/-- The text of a tree at a depth. -/
inductive PrintedAs (style : Style) : Nat → Json → String → Prop where
  | null {depth : Nat} : PrintedAs style depth .null "null"
  | true {depth : Nat} : PrintedAs style depth (.bool true) "true"
  | false {depth : Nat} : PrintedAs style depth (.bool false) "false"
  | number {depth : Nat} {text : String} : PrintedAs style depth (.number text) text
  | string {depth : Nat} {s text : String} (quoted : QuotedAs s text) :
      PrintedAs style depth (.string s) text
  | array {depth : Nat} {items : List Json} {texts : List String} {text : String}
      (printed : ItemsPrintedAs style (depth + 1) items texts)
      (enclosed : EnclosedAs style "[" "]" depth texts text) :
      PrintedAs style depth (.array items) text
  | object {depth : Nat} {members : List (String × Json)} {texts : List String} {text : String}
      (printed : MembersPrintedAs style (depth + 1) members texts)
      (enclosed : EnclosedAs style "\x7b" "\x7d" depth texts text) :
      PrintedAs style depth (.object members) text

/-- The texts of items. -/
inductive ItemsPrintedAs (style : Style) : Nat → List Json → List String → Prop where
  | nil {depth : Nat} : ItemsPrintedAs style depth [] []
  | cons {depth : Nat} {item : Json} {rest : List Json} {text : String} {texts : List String}
      (printed : PrintedAs style depth item text)
      (restPrinted : ItemsPrintedAs style depth rest texts) :
      ItemsPrintedAs style depth (item :: rest) (text :: texts)

/-- The texts of members: the name as a string, and the item. -/
inductive MembersPrintedAs (style : Style) : Nat → List (String × Json) → List String → Prop where
  | nil {depth : Nat} : MembersPrintedAs style depth [] []
  | cons {depth : Nat} {name quoted : String} {item : Json} {rest : List (String × Json)}
      {text : String} {texts : List String} (nameQuoted : QuotedAs name quoted)
      (printed : PrintedAs style depth item text)
      (restPrinted : MembersPrintedAs style depth rest texts) :
      MembersPrintedAs style depth ((name, item) :: rest) ((quoted ++ style.colon ++ text) :: texts)

end

/-! ### Strings -/

theorem eq_escape_of_escapedAs {c : Char} {piece : List Char} (h : EscapedAs c piece) :
    piece = escape c := by
  cases h with
  | letter named =>
      simp only [letters, List.mem_cons, Prod.mk.injEq, List.not_mem_nil, or_false] at named
      rcases named with ⟨rfl, rfl⟩ | ⟨rfl, rfl⟩ | ⟨rfl, rfl⟩ | ⟨rfl, rfl⟩ | ⟨rfl, rfl⟩ |
        ⟨rfl, rfl⟩ | ⟨rfl, rfl⟩ <;> rfl
  | number unnamed control =>
      simp only [letters, List.map_cons, List.map_nil, List.mem_cons, List.not_mem_nil, or_false,
        not_or] at unnamed
      have hbyte : c.toNat.toUInt8.toNat = c.toNat := Nat.mod_eq_of_lt (by omega)
      simp [escape, unnamed, control, Hex.byteDigits, hbyte]
  | plain unnamed visible =>
      simp only [letters, List.map_cons, List.map_nil, List.mem_cons, List.not_mem_nil, or_false,
        not_or] at unnamed
      simp [escape, unnamed, Nat.not_lt.mpr visible]

theorem escapedAs_iff {c : Char} {piece : List Char} : EscapedAs c piece ↔ piece = escape c := by
  refine ⟨eq_escape_of_escapedAs, ?_⟩
  rintro rfl
  have hexists : ∃ piece, EscapedAs c piece := by
    by_cases hnamed : c ∈ letters.map Prod.fst
    · rcases List.mem_map.mp hnamed with ⟨⟨_, l⟩, hmem, rfl⟩
      exact ⟨_, .letter hmem⟩
    · by_cases hcontrol : c.toNat < 32
      · exact ⟨_, .number hnamed hcontrol⟩
      · exact ⟨_, .plain hnamed (Nat.not_lt.mp hcontrol)⟩
  rcases hexists with ⟨piece, hpiece⟩
  rw [← eq_escape_of_escapedAs hpiece]
  exact hpiece

theorem forall₂_escapedAs_iff {cs : List Char} :
    ∀ {pieces}, List.Forall₂ EscapedAs cs pieces ↔ pieces = cs.map escape := by
  induction cs with
  | nil =>
      intro pieces
      exact List.forall₂_nil_left_iff
  | cons c cs ih =>
      intro pieces
      rw [List.forall₂_cons_left_iff, List.map_cons]
      constructor
      · rintro ⟨piece, rest, hpiece, hrest, rfl⟩
        rw [escapedAs_iff.mp hpiece, ih.mp hrest]
      · rintro rfl
        exact ⟨_, _, escapedAs_iff.mpr rfl, ih.mpr rfl, rfl⟩

theorem toList_quote (s : String) :
    (quote s).toList = ['"'] ++ (s.toList.map escape).flatten ++ ['"'] := by
  rw [quote, String.toList_ofList, ← List.flatMap_def]
  rfl

/-- A string is printed in one way. -/
theorem quotedAs_iff {s text : String} : QuotedAs s text ↔ text = quote s := by
  constructor
  · rintro ⟨pieces, hpieces, htext⟩
    rw [forall₂_escapedAs_iff.mp hpieces, ← toList_quote] at htext
    exact String.toList_injective htext
  · rintro rfl
    exact ⟨_, forall₂_escapedAs_iff.mpr rfl, toList_quote s⟩

/-! ### One text for each style -/

theorem spreadAs_unique {gap : String} {texts : List String} {body : String}
    (h : SpreadAs gap texts body) : ∀ {body'}, SpreadAs gap texts body' → body = body' := by
  induction h with
  | last =>
      intro body' h'
      cases h' with
      | last => rfl
      | cons spread => cases spread
  | cons spread ih =>
      intro body' h'
      cases h' with
      | last => cases spread
      | cons spread' => rw [ih spread']

variable {style : Style}

theorem enclosedAs_unique {opening closing : String} {depth : Nat} {texts : List String}
    {text text' : String} (h : EnclosedAs style opening closing depth texts text)
    (h' : EnclosedAs style opening closing depth texts text') : text = text' := by
  cases h with
  | empty =>
      cases h' with
      | empty => rfl
      | items spread => cases spread
  | items spread =>
      cases h' with
      | empty => cases spread
      | items spread' => rw [spreadAs_unique spread spread']

mutual

/-- A tree is printed in one way in each style. -/
theorem printedAs_unique : ∀ {depth : Nat} {j : Json} {text text' : String},
    j.PrintedAs style depth text → j.PrintedAs style depth text' → text = text'
  | _, _, _, _, .null, .null => rfl
  | _, _, _, _, .true, .true => rfl
  | _, _, _, _, .false, .false => rfl
  | _, _, _, _, .number, .number => rfl
  | _, _, _, _, .string quoted, .string quoted' => by
      rw [quotedAs_iff.mp quoted, quotedAs_iff.mp quoted']
  | _, _, _, _, .array printed enclosed, .array printed' enclosed' => by
      rw [itemsPrintedAs_unique printed' printed] at enclosed'
      exact enclosedAs_unique enclosed enclosed'
  | _, _, _, _, .object printed enclosed, .object printed' enclosed' => by
      rw [membersPrintedAs_unique printed' printed] at enclosed'
      exact enclosedAs_unique enclosed enclosed'

/-- The same for items. -/
theorem itemsPrintedAs_unique : ∀ {depth : Nat} {items : List Json} {texts texts' : List String},
    ItemsPrintedAs style depth items texts → ItemsPrintedAs style depth items texts' →
      texts = texts'
  | _, _, _, _, .nil, .nil => rfl
  | _, _, _, _, .cons printed rest, .cons printed' rest' => by
      rw [printedAs_unique printed printed', itemsPrintedAs_unique rest rest']

/-- The same for members. -/
theorem membersPrintedAs_unique : ∀ {depth : Nat} {members : List (String × Json)}
    {texts texts' : List String}, MembersPrintedAs style depth members texts →
      MembersPrintedAs style depth members texts' → texts = texts'
  | _, _, _, _, .nil, .nil => rfl
  | _, _, _, _, .cons quoted printed rest, .cons quoted' printed' rest' => by
      rw [quotedAs_iff.mp quoted, quotedAs_iff.mp quoted', printedAs_unique printed printed',
        membersPrintedAs_unique rest rest']

end

/-! ### The two printings -/

/-- Texts behind their gaps are joined by commas and gaps. -/
theorem spreadAs_intercalate (gap : String) {texts : List String} (h : texts ≠ []) :
    SpreadAs gap texts (gap ++ String.intercalate ("," ++ gap) texts) := by
  induction texts with
  | nil => exact absurd rfl h
  | cons text rest ih =>
      cases rest with
      | nil =>
          rw [String.intercalate_singleton]
          exact .last
      | cons next rest =>
          have hbody : gap ++ String.intercalate ("," ++ gap) (text :: next :: rest) =
              gap ++ text ++ "," ++ (gap ++ String.intercalate ("," ++ gap) (next :: rest)) := by
            rw [String.intercalate_cons_cons]
            simp only [String.append_assoc]
          rw [hbody]
          exact .cons (ih (List.cons_ne_nil _ _))

theorem enclosedAs_compact (opening closing : String) (depth : Nat) (texts : List String) :
    EnclosedAs .compact opening closing depth texts
      (opening ++ String.intercalate "," texts ++ closing) := by
  cases texts with
  | nil =>
      rw [String.intercalate_nil, String.append_empty]
      exact .empty
  | cons text rest =>
      have hspread := spreadAs_intercalate "" (List.cons_ne_nil text rest)
      have henclosed : EnclosedAs .compact opening closing depth (text :: rest) _ := .items hspread
      rw [String.empty_append, Style.compact, String.append_empty, String.append_empty]
        at henclosed
      exact henclosed

theorem enclosedAs_block (opening closing : String) (depth : Nat) (texts : List String) :
    EnclosedAs .pretty opening closing depth texts (block opening closing depth texts) := by
  have hgap : ∀ depth, newline depth = Style.pretty.gap depth := fun depth => by
    apply String.toList_injective
    simp [newline, Style.pretty]
  cases texts with
  | nil => exact .empty
  | cons text rest =>
      have hspread :=
        spreadAs_intercalate (Style.pretty.gap (depth + 1)) (List.cons_ne_nil text rest)
      rw [block, hgap, hgap, @String.append_assoc opening]
      · exact .items hspread
      · exact List.cons_ne_nil text rest

mutual

theorem printedAs_compact : ∀ (j : Json) (depth : Nat), j.PrintedAs .compact depth j.compact
  | .null, _ => .null
  | .bool true, _ => .true
  | .bool false, _ => .false
  | .number _, _ => .number
  | .string _, _ => .string (quotedAs_iff.mpr rfl)
  | .array items, depth =>
      .array (itemsPrintedAs_compact items (depth + 1)) (enclosedAs_compact _ _ _ _)
  | .object members, depth =>
      .object (membersPrintedAs_compact members (depth + 1)) (enclosedAs_compact _ _ _ _)

theorem itemsPrintedAs_compact : ∀ (items : List Json) (depth : Nat),
    ItemsPrintedAs .compact depth items (compactItems items)
  | [], _ => .nil
  | item :: rest, depth =>
      .cons (printedAs_compact item depth) (itemsPrintedAs_compact rest depth)

theorem membersPrintedAs_compact : ∀ (members : List (String × Json)) (depth : Nat),
    MembersPrintedAs .compact depth members (compactMembers members)
  | [], _ => .nil
  | (_, item) :: rest, depth =>
      .cons (quotedAs_iff.mpr rfl) (printedAs_compact item depth)
        (membersPrintedAs_compact rest depth)

end

mutual

theorem printedAs_prettyAt : ∀ (j : Json) (depth : Nat),
    j.PrintedAs .pretty depth (prettyAt depth j)
  | .null, _ => .null
  | .bool true, _ => .true
  | .bool false, _ => .false
  | .number _, _ => .number
  | .string _, _ => .string (quotedAs_iff.mpr rfl)
  | .array items, depth =>
      .array (itemsPrintedAs_pretty items (depth + 1)) (enclosedAs_block _ _ _ _)
  | .object members, depth =>
      .object (membersPrintedAs_pretty members (depth + 1)) (enclosedAs_block _ _ _ _)

theorem itemsPrintedAs_pretty : ∀ (items : List Json) (depth : Nat),
    ItemsPrintedAs .pretty depth items (prettyItems depth items)
  | [], _ => .nil
  | item :: rest, depth =>
      .cons (printedAs_prettyAt item depth) (itemsPrintedAs_pretty rest depth)

theorem membersPrintedAs_pretty : ∀ (members : List (String × Json)) (depth : Nat),
    MembersPrintedAs .pretty depth members (prettyMembers depth members)
  | [], _ => .nil
  | (_, item) :: rest, depth =>
      .cons (quotedAs_iff.mpr rfl) (printedAs_prettyAt item depth)
        (membersPrintedAs_pretty rest depth)

end

theorem printedAs_compact_iff {j : Json} {depth : Nat} {text : String} :
    j.PrintedAs .compact depth text ↔ text = j.compact := by
  constructor
  · exact fun h => printedAs_unique h (printedAs_compact j depth)
  · rintro rfl
    exact printedAs_compact j depth

theorem printedAs_pretty_iff {j : Json} {text : String} :
    j.PrintedAs .pretty 0 text ↔ text = j.pretty := by
  constructor
  · exact fun h => printedAs_unique h (printedAs_prettyAt j 0)
  · rintro rfl
    exact printedAs_prettyAt j 0

/-! ### Strings read back -/

/-- What a scanner finds in a string for a character: the character, or its number. -/
inductive FoundAs (c : Char) : Scan.Piece → Prop where
  | char : FoundAs c (.char c)
  | unit (control : c.toNat < 32) : FoundAs c (.unit c.toNat)

theorem codeUnit?_digits : ∀ n < 32,
    Scan.codeUnit? '0' '0' (Hex.digit (n / 16)) (Hex.digit (n % 16)) = some n := by
  decide

theorem pieces?_of_escapedAs {c : Char} {piece : List Char} (h : EscapedAs c piece) :
    ∃ p, FoundAs c p ∧ ∀ rest, Scan.pieces? (piece ++ rest) =
      (Scan.pieces? rest).map fun (ps, rest) => (p :: ps, rest) := by
  cases h with
  | letter named =>
      refine ⟨.char c, .char, fun rest => ?_⟩
      simp only [letters, List.mem_cons, Prod.mk.injEq, List.not_mem_nil, or_false] at named
      -- No letter is the one in front of a number.
      rcases named with ⟨rfl, rfl⟩ | ⟨rfl, rfl⟩ | ⟨rfl, rfl⟩ | ⟨rfl, rfl⟩ | ⟨rfl, rfl⟩ |
        ⟨rfl, rfl⟩ | ⟨rfl, rfl⟩ <;>
        rw [List.cons_append, List.cons_append, List.nil_append, Scan.pieces?, Scan.escaped?] <;>
        first | (cases Scan.pieces? rest <;> rfl) | simp
  | number unnamed control =>
      refine ⟨.unit c.toNat, .unit control, fun rest => ?_⟩
      have hbyte : c.toNat.toUInt8.toNat = c.toNat := Nat.mod_eq_of_lt (by omega)
      change Scan.pieces? ('\\' :: 'u' :: '0' :: '0' :: _ :: _ :: rest) = _
      rw [Scan.pieces?, hbyte, codeUnit?_digits _ control]
      cases Scan.pieces? rest <;> rfl
  | plain unnamed visible =>
      refine ⟨.char c, .char, fun rest => ?_⟩
      simp only [letters, List.map_cons, List.map_nil, List.mem_cons, List.not_mem_nil, or_false,
        not_or] at unnamed
      have hallowed : ¬ (c.toNat < 32 ∨ c = '\\') := not_or.mpr ⟨by omega, unnamed.2.1⟩
      rw [List.singleton_append, Scan.pieces?, if_neg hallowed]
      · cases Scan.pieces? rest <;> rfl
      · exact unnamed.1
      · exact fun _ _ _ _ _ hc => absurd hc unnamed.2.1
      · exact fun _ _ hc => absurd hc unnamed.2.1

/-- A number below all units that come in pairs is a character of its own. -/
theorem characters?_unit {n : Nat} (h : n < 32) (ps : List Scan.Piece) :
    Scan.characters? (.unit n :: ps) = (Scan.characters? ps).map (Char.ofNat n :: ·) := by
  have hlone : ¬ (0xd800 ≤ n ∧ n < 0xe000) := by omega
  have hhigh : ¬ (0xd800 ≤ n ∧ n < 0xdc00) := by omega
  have hlow : ¬ (0xdc00 ≤ n ∧ n < 0xe000) := by omega
  generalize hresult : Scan.characters? ps = result
  rcases ps with _ | ⟨d | low, ps⟩
  · rw [Scan.characters?, if_neg hlone, hresult]
    · cases result <;> rfl
    · intro _ _ hpair
      cases hpair
  · rw [Scan.characters?, if_neg hlone, hresult]
    · cases result <;> rfl
    · intro _ _ hpair
      cases hpair
  · rw [Scan.characters?, if_neg hhigh, if_neg hlow, hresult]
    cases result <;> rfl

theorem characters?_of_foundAs {c : Char} {p : Scan.Piece} (h : FoundAs c p)
    (ps : List Scan.Piece) :
    Scan.characters? (p :: ps) = (Scan.characters? ps).map (c :: ·) := by
  cases h with
  | char =>
      rw [Scan.characters?]
      cases Scan.characters? ps <;> rfl
  | unit control => rw [characters?_unit control, Char.ofNat_toNat]

/-- The scanner stops at the mark behind the characters. -/
theorem pieces?_of_forall₂ {cs : List Char} {pieces : List (List Char)}
    (h : List.Forall₂ EscapedAs cs pieces) (rest : List Char) :
    ∃ ps, Scan.pieces? (pieces.flatten ++ '"' :: rest) = some (ps, rest) ∧
      Scan.characters? ps = some cs := by
  induction h with
  | nil =>
      refine ⟨[], ?_, Scan.characters?.eq_1⟩
      rw [List.flatten_nil, List.nil_append, Scan.pieces?]
  | cons hpiece _ ih =>
      rcases ih with ⟨ps, hps, hcharacters⟩
      rcases pieces?_of_escapedAs hpiece with ⟨p, hfound, hp⟩
      refine ⟨p :: ps, ?_, ?_⟩
      · rw [List.flatten_cons, List.append_assoc, hp, hps, Option.map_some]
      · rw [characters?_of_foundAs hfound, hcharacters, Option.map_some]

/-- A printed string is read back, whatever stands behind it. -/
theorem string?_of_quotedAs {s text : String} (h : QuotedAs s text) (rest : List Char) :
    ∃ body, text.toList = '"' :: body ∧ Scan.string? (body ++ rest) = some (s, rest) := by
  rcases h with ⟨pieces, hpieces, htext⟩
  rcases pieces?_of_forall₂ hpieces rest with ⟨ps, hps, hcharacters⟩
  refine ⟨pieces.flatten ++ ['"'], htext, ?_⟩
  rw [List.append_assoc, List.singleton_append, Scan.string?, hps]
  simp only [Option.bind_eq_bind, Option.bind_some, hcharacters, String.ofList_toList,
    Option.pure_def]

end DocumentMapper.Json
