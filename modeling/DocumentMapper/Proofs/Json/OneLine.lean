import DocumentMapper.Proofs.Data.List
import DocumentMapper.Proofs.Json.Printing
import DocumentMapper.Proofs.Value.ExtendedJson

/-!
# Trees on one line

Whoever reads printed trees line by line relies on a tree being one line. In the short style
it is: the gaps are empty, strings have their control characters escaped, and the numbers of
extended JSON consist of digits, signs, points and exponents. So no line end is printed
between the tokens and none inside of them, whatever a document holds.

## Main definitions

* `Printable`: Characters that are no control characters.
* `Visible`: A text of such characters.
* `NumbersVisible`: A tree whose numbers are written without them.

## Theorems

* `visible_of_quotedAs`: Strings are visible.
* `visible_of_printedAs`: So are trees in a style with visible gaps.
* `visible_render`: Doubles are written without control characters.
* `Document.numbersVisible`: The numbers of a document.
* `Document.visible_compact`: A document on one line.
-/

namespace DocumentMapper.Json

/-- None of the characters is a control character. -/
def Printable (cs : List Char) : Prop :=
  ∀ c ∈ cs, 32 ≤ c.toNat

-- The instance goes over the list: there is one over all characters as well.
instance (cs : List Char) : Decidable (Printable cs) :=
  List.decidableBAll (fun c : Char => 32 ≤ c.toNat) cs

theorem printable_append {cs ds : List Char} :
    Printable (cs ++ ds) ↔ Printable cs ∧ Printable ds :=
  List.forall_mem_append

theorem printable_cons {c : Char} {cs : List Char} :
    Printable (c :: cs) ↔ 32 ≤ c.toNat ∧ Printable cs :=
  List.forall_mem_cons

/-- A text has no control characters, and so it has no line ends. -/
def Visible (text : String) : Prop :=
  Printable text.toList

instance (text : String) : Decidable (Visible text) :=
  inferInstanceAs (Decidable (Printable text.toList))

theorem visible_append {a b : String} : Visible (a ++ b) ↔ Visible a ∧ Visible b := by
  unfold Visible
  rw [String.toList_append, printable_append]

/-! ### Strings -/

theorem visible_digit : ∀ n < 16, 32 ≤ (Hex.digit n).toNat := by
  decide

theorem printable_of_escapedAs {c : Char} {piece : List Char} (h : EscapedAs c piece) :
    Printable piece := by
  have hletters : Printable (letters.map Prod.snd) := by decide
  cases h with
  | letter named =>
      have hletter := hletters _ (List.mem_map_of_mem named)
      exact printable_cons.mpr ⟨by decide, List.forall_mem_singleton.mpr hletter⟩
  | number _ _ =>
      have hbyte := c.toNat.toUInt8.toNat_lt
      have hhigh := visible_digit (c.toNat.toUInt8.toNat / 16) (by omega)
      have hlow := visible_digit (c.toNat.toUInt8.toNat % 16) (by omega)
      rw [printable_append]
      exact ⟨by decide, printable_cons.mpr ⟨hhigh, List.forall_mem_singleton.mpr hlow⟩⟩
  | plain _ visible => exact List.forall_mem_singleton.mpr visible

theorem visible_of_quotedAs {s text : String} (h : QuotedAs s text) : Visible text := by
  rcases h with ⟨pieces, hpieces, htext⟩
  unfold Visible
  rw [htext, printable_append, printable_append]
  refine ⟨⟨by decide, List.forall_mem_flatten.mpr fun piece hpiece => ?_⟩, by decide⟩
  rcases exists_left_of_forall₂ hpieces hpiece with ⟨c, _, hescaped⟩
  exact printable_of_escapedAs hescaped

/-! ### Trees -/

mutual

/-- The numbers of a tree are written without control characters. -/
def NumbersVisible : Json → Prop
  | .number text => Visible text
  | .array items => itemsNumbersVisible items
  | .object members => membersNumbersVisible members
  | .null => True
  | .bool _ => True
  | .string _ => True

/-- The same for items. -/
def itemsNumbersVisible : List Json → Prop
  | [] => True
  | item :: rest => item.NumbersVisible ∧ itemsNumbersVisible rest

/-- The same for members. -/
def membersNumbersVisible : List (String × Json) → Prop
  | [] => True
  | (_, item) :: rest => item.NumbersVisible ∧ membersNumbersVisible rest

end

theorem visible_of_spreadAs {gap : String} (hgap : Visible gap) {texts : List String}
    {body : String} (h : SpreadAs gap texts body) (htexts : ∀ text ∈ texts, Visible text) :
    Visible body := by
  have hcomma : Visible "," := by decide
  induction h with
  | last => exact visible_append.mpr ⟨hgap, htexts _ List.mem_cons_self⟩
  | cons _ ih =>
      rcases List.forall_mem_cons.mp htexts with ⟨htext, hrest⟩
      rw [visible_append, visible_append, visible_append]
      exact ⟨⟨⟨hgap, htext⟩, hcomma⟩, ih hrest⟩

/-- A style whose gaps are visible. -/
structure Style.Visible (style : Style) : Prop where
  gap : ∀ depth, Json.Visible (style.gap depth)
  colon : Json.Visible style.colon

theorem Style.visible_compact : Style.compact.Visible where
  gap _ := show Json.Visible "" by decide
  colon := by decide

variable {style : Style}

theorem visible_of_enclosedAs (hstyle : style.Visible) {opening closing : String}
    (hopening : Visible opening) (hclosing : Visible closing) {depth : Nat} {texts : List String}
    {text : String} (h : EnclosedAs style opening closing depth texts text)
    (htexts : ∀ text ∈ texts, Visible text) : Visible text := by
  cases h with
  | empty => exact visible_append.mpr ⟨hopening, hclosing⟩
  | items spread =>
      have hbody := visible_of_spreadAs (hstyle.gap (depth + 1)) spread htexts
      rw [visible_append, visible_append, visible_append]
      exact ⟨⟨⟨hopening, hbody⟩, hstyle.gap depth⟩, hclosing⟩

mutual

/-- A tree has no line end if neither the style nor a number has one. -/
theorem visible_of_printedAs (hstyle : style.Visible) : ∀ {depth : Nat} {j : Json} {text : String},
    j.PrintedAs style depth text → j.NumbersVisible → Visible text
  | _, _, _, .null, _ => by decide
  | _, _, _, .true, _ => by decide
  | _, _, _, .false, _ => by decide
  | _, _, _, .number, hnumbers => hnumbers
  | _, _, _, .string quoted, _ => visible_of_quotedAs quoted
  | _, _, _, .array printed enclosed, hnumbers =>
      visible_of_enclosedAs hstyle (by decide) (by decide) enclosed
        (visible_of_itemsPrintedAs hstyle printed hnumbers)
  | _, _, _, .object printed enclosed, hnumbers =>
      visible_of_enclosedAs hstyle (by decide) (by decide) enclosed
        (visible_of_membersPrintedAs hstyle printed hnumbers)

/-- The same for items. -/
theorem visible_of_itemsPrintedAs (hstyle : style.Visible) :
    ∀ {depth : Nat} {items : List Json} {texts : List String},
      ItemsPrintedAs style depth items texts → itemsNumbersVisible items →
        ∀ text ∈ texts, Visible text
  | _, _, _, .nil, _ => List.forall_mem_nil _
  | _, _, _, .cons printed rest, ⟨hitem, hrest⟩ =>
      List.forall_mem_cons.mpr ⟨visible_of_printedAs hstyle printed hitem,
        visible_of_itemsPrintedAs hstyle rest hrest⟩

/-- The same for members. -/
theorem visible_of_membersPrintedAs (hstyle : style.Visible) :
    ∀ {depth : Nat} {members : List (String × Json)} {texts : List String},
      MembersPrintedAs style depth members texts → membersNumbersVisible members →
        ∀ text ∈ texts, Visible text
  | _, _, _, .nil, _ => List.forall_mem_nil _
  | _, _, _, .cons quoted printed rest, ⟨hitem, hrest⟩ => by
      refine List.forall_mem_cons.mpr ⟨?_, visible_of_membersPrintedAs hstyle rest hrest⟩
      rw [visible_append, visible_append]
      exact ⟨⟨visible_of_quotedAs quoted, hstyle.colon⟩, visible_of_printedAs hstyle printed hitem⟩

end

/-! ### Numbers -/

theorem visible_repr (n : Nat) : Visible (Nat.repr n) := by
  intro c hc
  rw [Nat.toList_repr] at hc
  have hdigit : c.isDigit = true := Nat.isDigit_of_mem_toDigits (by decide) (by decide) hc
  have hlow : 48 ≤ c.toNat := (Char.isDigit_iff_toNat.mp hdigit).1
  omega

theorem visible_integerText (n : Int) : Visible (integerText n) := by
  unfold integerText
  split
  · exact visible_append.mpr ⟨by decide, visible_repr _⟩
  · exact visible_repr _

theorem printable_replicate (n : Nat) : Printable (List.replicate n '0') := by
  intro c hc
  rw [List.eq_of_mem_replicate hc]
  decide

theorem Printable.take {cs : List Char} (h : Printable cs) (n : Nat) : Printable (cs.take n) :=
  fun c hc => h c (List.mem_of_mem_take hc)

theorem Printable.drop {cs : List Char} (h : Printable cs) (n : Nat) : Printable (cs.drop n) :=
  fun c hc => h c (List.mem_of_mem_drop hc)

theorem printable_positional (l : Decimal.Layout) {digits : List Char}
    (hdigits : Printable digits) (position : Int) : Printable (l.positional digits position) := by
  have hpoint : 32 ≤ '.'.toNat := by decide
  have hfraction : ∀ keeps : Bool, Printable (if keeps then ['.', '0'] else []) := by decide
  unfold Decimal.Layout.positional
  dsimp only
  split
  · rw [List.cons_append, List.cons_append, printable_cons, printable_cons, printable_append]
    exact ⟨by decide, hpoint, printable_replicate _, hdigits⟩
  · split
    · rw [printable_append, printable_cons]
      exact ⟨hdigits.take _, hpoint, hdigits.drop _⟩
    · rw [printable_append, printable_append]
      exact ⟨⟨hdigits, printable_replicate _⟩, hfraction _⟩

theorem printable_scientific (l : Decimal.Layout) (hplus : Visible l.plus) {digits : List Char}
    (hdigits : Printable digits) (exponent : Int) : Printable (l.scientific digits exponent) := by
  unfold Decimal.Layout.scientific
  dsimp only
  rw [printable_append, printable_append, printable_cons]
  refine ⟨⟨hdigits.take 1, ?_⟩, by decide, ?_⟩
  · split
    · exact List.forall_mem_nil _
    · exact printable_cons.mpr ⟨by decide, hdigits.drop 1⟩
  · split
    · exact printable_cons.mpr ⟨by decide, visible_repr _⟩
    · exact printable_append.mpr ⟨hplus, visible_repr _⟩

/-- A double is written without control characters. -/
theorem visible_render (l : Decimal.Layout) (hplus : Visible l.plus)
    (hinfinity : Visible l.infinity) (d : Double) : Visible (l.render d) := by
  have hsign : ∀ negative : Bool, Printable (if negative then ['-'] else []) := by decide
  have hzero : ∀ keeps : Bool, Printable (if keeps then ['0', '.', '0'] else ['0']) := by decide
  have hdecimal : ∀ decimal, Printable (l.renderDecimal decimal) := by
    intro decimal
    unfold Decimal.Layout.renderDecimal
    dsimp only
    split
    · exact printable_positional l (visible_repr _) _
    · exact printable_scientific l hplus (visible_repr _) _
  unfold Decimal.Layout.render
  split
  · decide
  · unfold Visible
    rw [String.toList_ofList, printable_append]
    refine ⟨hsign _, ?_⟩
    split
    · exact hinfinity
    · split
      · exact hzero _
      · exact hdecimal _

end DocumentMapper.Json

namespace DocumentMapper

open Json

/-! ### Documents -/

theorem Double.numbersVisible (d : Double) : d.toJson.NumbersVisible := by
  unfold toJson
  split
  · exact visible_render _ (by decide) (by decide) d
  · exact ⟨trivial, trivial⟩

mutual

theorem Value.numbersVisible : ∀ v : Value, v.toJson.NumbersVisible
  | .int32 n => visible_integerText n.toInt
  | .int64 n => visible_integerText n.toInt
  | .double d => d.numbersVisible
  | .document d => d.numbersVisible
  | .array items => itemsNumbersVisible_toJson items
  | .codeWithScope _ scope => ⟨trivial, scope.numbersVisible, trivial⟩
  | .binary _ => ⟨⟨trivial, trivial, trivial⟩, trivial⟩
  | .pattern _ => ⟨⟨trivial, trivial, trivial⟩, trivial⟩
  | .uuid _ | .objectId _ | .instant _ | .code _ => ⟨trivial, trivial⟩
  | .minKey | .maxKey => ⟨show Visible "1" by decide, trivial⟩
  | .null | .boolean _ | .string _ => trivial

/-- The numbers of a document are written without control characters. -/
theorem Document.numbersVisible : ∀ d : Document, d.toJson.NumbersVisible
  | ⟨fields⟩ => membersNumbersVisible_toJson fields

theorem itemsNumbersVisible_toJson : ∀ items : List Value, itemsNumbersVisible (itemsToJson items)
  | [] => trivial
  | v :: rest => ⟨v.numbersVisible, itemsNumbersVisible_toJson rest⟩

theorem membersNumbersVisible_toJson :
    ∀ fields : List (String × Value), membersNumbersVisible (fieldsToJson fields)
  | [] => trivial
  | (_, v) :: rest => ⟨v.numbersVisible, membersNumbersVisible_toJson rest⟩

end

/-- In the short style a document is one line. -/
theorem Document.visible_compact (d : Document) : Visible d.toJson.compact :=
  visible_of_printedAs Style.visible_compact (printedAs_compact d.toJson 0) d.numbersVisible

end DocumentMapper
