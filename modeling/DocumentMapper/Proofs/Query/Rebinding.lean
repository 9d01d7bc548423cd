import DocumentMapper.Proofs.Query.Alike

/-!
# Binding for other rows

The rows of a level and the rows of a filter around it differ in their label, but they are
rows of one class, and a chain of members is bound to the same path for both. So of
expressions that are alike the one is bound if the other is, for rows of one class, and the
results are alike.

## Main definitions

* `Expr.sourceClass?`: The class of the documents that a source reads in the end.

## Theorems

* `Select.Related.rows_eq`: Levels that are alike have and read the same rows.
* `Alike.bind`: Binding of expressions that are alike, for rows of one class.
-/

namespace DocumentMapper

namespace Expr

variable {free : Prop}

/-- The class of the documents that a source reads in the end. -/
def sourceClass? : Expr → Option String
  | .collection c => c.documentType.className?
  | .select s => s.documentClass?
  | _ => none

theorem documentClass?_eq_bind (s : Select) : s.documentClass? = s.source.bind sourceClass? := by
  rcases s with ⟨label, fields, source, filter, order, group, distinct, skip, take⟩
  rw [Select.documentClass?.eq_def]
  cases source with
  | none => rfl
  | some e => cases e <;> rfl

theorem Alike.sourceClass?_eq {e e' : Expr} (h : Alike free e e') :
    e.sourceClass? = e'.sourceClass? := by
  induction h with
  | select parts clauses levels ih =>
      rw [sourceClass?, sourceClass?, documentClass?_eq_bind, documentClass?_eq_bind]
      exact bind_eq_of_rel clauses.source ih
  | _ => rfl

end Expr

section

variable {free : Prop} {R : Expr → Expr → Prop} {s s' : Select}

namespace Select.Related

/-- Levels whose sources are alike have and read rows of the same label and class. -/
theorem rows_eq (h : Select.Related R s s') (parts : ∀ e e', R e e' → Expr.Alike free e e') :
    s.rows = s'.rows ∧ s.sourceRows = s'.sourceRows := by
  have hclass : s.documentClass? = s'.documentClass? := by
    rw [Expr.documentClass?_eq_bind, Expr.documentClass?_eq_bind]
    exact bind_eq_of_rel h.source fun e e' hR => (parts e e' hR).sourceClass?_eq
  have hlabel : s.sourceLabel? = s'.sourceLabel? :=
    bind_eq_of_rel h.source fun e e' hR => (parts e e' hR).rowsLabel?_eq
  constructor
  · rw [Select.rows, Select.rows, h.label, hclass]
  · rw [Select.sourceRows, Select.sourceRows, hlabel, hclass]

end Select.Related

end

namespace Expr

variable {free : Prop} {store : Option Store} {rows rows' : Option Rows}

/-- A chain of members is bound alike for rows of one class. -/
theorem bindChain_alike (hclass : rows.map Rows.documentClass = rows'.map Rows.documentClass)
    (chain : List String) :
    Except.Agree (Alike free) (bindChain store rows chain) (bindChain store rows' chain) := by
  -- Paths are looked up by the class of the rows alone; only the label of the field may differ.
  have hpath : ∀ path : List String,
      Except.Agree (Alike free) (bindPath store rows path) (bindPath store rows' path) := by
    intro path
    cases rows with
    | none =>
        cases rows' with
        | none => exact trivial
        | some rows' => cases hclass
    | some rows =>
        cases rows' with
        | none => cases hclass
        | some rows' =>
            rw [bindPath_some, bindPath_some, Option.some.inj hclass]
            refine Except.Agree.bind (Except.Agree.refl _) ?_
            rintro path _ rfl
            exact .field rows.label rows'.label _
  induction chain with
  | nil => exact hpath _
  | cons last chain ih =>
      cases chain with
      | nil => exact hpath _
      | cons next rest =>
          rw [bindChain, bindChain]
          split
          next => exact ih.bind fun _ _ he => he.member last
          next => exact hpath _

theorem lookup_alike {R : Expr → Expr → Prop} {members members' : List (String × Expr)}
    (h : NamedRelated R members members') (name : String) :
    Option.Rel R (members.lookup name) (members'.lookup name) := by
  induction h with
  | nil => exact .none
  | @cons m m' _ _ hm _ ih =>
      rcases m with ⟨key, e⟩
      rcases m' with ⟨_, e'⟩
      rcases hm with ⟨rfl, he⟩
      rw [List.lookup_cons, List.lookup_cons]
      cases name == key with
      | true => exact .some he
      | false => exact ih

namespace Alike

variable {e e' : Expr}

theorem bindMember (h : Alike free e e') (name : String) :
    Except.Agree (Alike free) (e.bindMember name) (e'.bindMember name) := by
  have hmember := h.member name
  cases h with
  | @object R members members' parts contents =>
      have hlookup := lookup_alike contents name
      rw [Expr.bindMember, Expr.bindMember]
      generalize members.lookup name = part, members'.lookup name = part' at hlookup
      cases hlookup with
      | none => exact trivial
      | some hR => exact parts _ _ hR
  | field label label' path =>
      rw [Expr.bindMember, Expr.bindMember]
      split
      · exact (Alike.field label label' path).member name
      · exact .field label label' _
  | _ => exact hmember

theorem agree_refl (x : Except QueryError Expr) : Except.Agree (Alike free) x x := by
  refine (Except.Agree.refl x).mono ?_
  rintro e _ rfl
  exact refl e

/-- Of levels whose clauses are bound alike the one is bound if the other is. -/
theorem bind_level {R : Expr → Expr → Prop} {s s' : Select}
    (parts : ∀ e e', R e e' → Alike free e e') (clauses : Select.Related R s s')
    (hbind : ∀ e e', R e e' → ∀ {rows rows' : Option Rows},
      rows.map Rows.documentClass = rows'.map Rows.documentClass →
        Except.Agree (Alike free) (e.bind store rows) (e'.bind store rows')) :
    Except.Agree (Select.Related (Alike free)) (s.bind store) (s'.bind store) := by
  let rows := some s'.sourceRows
  rw [Select.bind_eq_traverse, Select.bind_eq_traverse, (clauses.rows_eq parts).2]
  exact (Relator.except QueryError).traverse (f := Expr.bind store rows)
    (g := Expr.bind store rows) (fun e e' hR => hbind e e' hR (Eq.refl _)) clauses

/-- With parts that are bound alike expressions of the same form are, but for members and
    queries. -/
theorem bind_of_rebuilt {rows rows' : Option Rows} (hquery : e.isQuery = false)
    (hmember : e.isMember = false)
    (h : Rebuilt (fun p p' => Except.Agree (Alike free) (p.bind store rows) (p'.bind store rows'))
      e e') : Except.Agree (Alike free) (e.bind store rows) (e'.bind store rows') := by
  rw [bind_eq_traverse store rows hquery hmember,
    bind_eq_traverse store rows' (h.isQuery_eq ▸ hquery) (h.isMember_eq ▸ hmember)]
  have hparts := (Relator.except QueryError).rebuilt (fun _ _ hp => hp) h
  exact hparts.mono fun _ _ hp => .of_rebuilt_of_not_query hp.1 (hp.2.trans hquery)

/-- Of expressions that are alike the one is bound if the other is, and for rows of one
    class to expressions that are alike. -/
theorem bind (h : Alike free e e') :
    ∀ {rows rows' : Option Rows}, rows.map Rows.documentClass = rows'.map Rows.documentClass →
      Except.Agree (Alike free) (e.bind store rows) (e'.bind store rows') := by
  have parts : ∀ e e' : Expr, Alike free e e' → Alike free e e' := fun _ _ h => h
  let r := Relator.except QueryError
  induction h with
  | constant v => exact fun _ => bind_of_rebuilt rfl rfl (.constant v)
  | parameter names =>
      intro rows rows' _
      rw [bind_form rfl, bind_form rfl]
      exact .parameter names
  | field label label' path =>
      intro rows rows' _
      rw [bind_form rfl, bind_form rfl]
      exact .field label label' path
  | rowField path => exact fun _ => bind_of_rebuilt rfl rfl (.rowField path)
  | collection c => exact fun _ => bind_of_rebuilt rfl rfl (.collection c)
  | @member e e' operand name ih =>
      intro rows rows' hclass
      -- A chain that begins at the row is bound as a whole, other members after their operand.
      have hchains := (operand.member name).parameterChain?_eq
      cases hchain : (Expr.member e name).parameterChain? with
      | some chain =>
          rw [Expr.bind.eq_def, Expr.bind.eq_def, ← hchains, hchain]
          exact bindChain_alike hclass chain
      | none =>
          rw [bind_form hchain, bind_form (hchains.symm.trans hchain)]
          exact (ih hclass).bind fun _ _ he => he.bindMember name
  | unary op operand ih => exact fun hclass => bind_of_rebuilt rfl rfl (.unary op (ih hclass))
  | binary op left right ihl ihr =>
      exact fun hclass => bind_of_rebuilt rfl rfl (.binary op (ihl hclass) (ihr hclass))
  | exchanged allowed comparison left right ihl ihr =>
      intro rows rows' hclass
      rw [bind_form rfl, bind_form rfl]
      exact (ihl hclass).bind_comm (ihr hclass) fun _ _ hl _ _ hr =>
        r.pure (Alike.exchanged allowed comparison hl hr)
  | call method _ receives takes ih =>
      exact fun hclass => bind_of_rebuilt rfl rfl
        ((Rebuilt.call method receives takes).imp fun e e' hR => ih e e' hR hclass)
  | object _ contents ih =>
      exact fun hclass => bind_of_rebuilt rfl rfl
        ((Rebuilt.object contents).imp fun e e' hR => ih e e' hR hclass)
  | aggregate kind distinct _ takes ih =>
      exact fun hclass => bind_of_rebuilt rfl rfl
        ((Rebuilt.aggregate kind distinct takes).imp fun e e' hR => ih e e' hR hclass)
  | select hparts clauses levels ih =>
      intro rows rows' _
      rw [bind_form rfl, bind_form rfl]
      rcases levels with hfree | rfl
      · exact (bind_level hparts clauses ih).bind fun _ _ hs =>
          r.pure (.select parts hs (.inl hfree))
      · exact agree_refl _
  | projection hparts clauses shape levels ih ihshape =>
      intro rows rows' _
      rw [bind_form rfl, bind_form rfl]
      rcases levels with hfree | ⟨rfl, rfl⟩
      · refine (bind_level hparts clauses ih).bind fun t t' hs => ?_
        -- The shape is bound for the rows of the level as it is bound.
        have hclass : (some t.rows).map Rows.documentClass =
            (some t'.rows).map Rows.documentClass := by
          rw [(hs.rows_eq parts).1]
        exact (ihshape hclass).bind fun _ _ he =>
          r.pure (Alike.projection parts hs he (.inl hfree))
      · exact agree_refl _
  | subquery hparts clauses levels ih =>
      intro rows rows' _
      rw [bind_form rfl, bind_form rfl]
      rcases levels with hfree | rfl
      · exact (bind_level hparts clauses ih).bind fun _ _ hs =>
          r.pure (.subquery parts hs (.inl hfree))
      · exact agree_refl _

end Alike

end Expr

end DocumentMapper
