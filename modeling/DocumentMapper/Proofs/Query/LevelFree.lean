import DocumentMapper.Proofs.Query.Clauses
import DocumentMapper.Query.Ordering

/-!
# Expressions without levels

What is gathered while keys are hoisted comes from levels. An expression in which no level
stands but within a subquery adds nothing and takes nothing away: what happens inside a
subquery stays there. Folding and binding bring no levels into an expression, so that the
filter of a level that was given without levels has none when it comes to hoisting. The same
is shown of any limits on levels and on the arguments of calls that the arguments keep.

## Main definitions

* `Expr.LevelFree`: Levels stand only within subqueries.
* `Expr.Limited`: Limits on levels and on the arguments of calls.
* `Expr.SameAround`: Expressions that differ within subqueries only.

## Theorems

* `Limited.fold`, `Limited.bind`: Limits that a translation keeps.
* `LevelFree.fold`, `LevelFree.bind`, `LevelFree.hoist`: The steps of a translation.
-/

namespace DocumentMapper

/-- An expression in which levels stand only within subqueries. -/
inductive Expr.LevelFree : Expr → Prop
  | constant (v : Value) : LevelFree (.constant v)
  | parameter (name : String) : LevelFree (.parameter name)
  | field (f : FieldRef) : LevelFree (.field f)
  | rowField (path : String) : LevelFree (.rowField path)
  | collection (c : Collection) : LevelFree (.collection c)
  | member {e : Expr} (operand : LevelFree e) (name : String) : LevelFree (.member e name)
  | unary {e : Expr} (op : UnaryOp) (operand : LevelFree e) : LevelFree (.unary op e)
  | binary {l r : Expr} (op : BinaryOp) (left : LevelFree l) (right : LevelFree r) :
    LevelFree (.binary op l r)
  | call {receiver : Option Expr} {arguments : List Expr} (method : Method)
    (receives : ∀ e ∈ receiver, LevelFree e) (takes : ∀ e ∈ arguments, LevelFree e) :
    LevelFree (.call method receiver arguments)
  | object {members : List (String × Expr)} (contents : ∀ m ∈ members, LevelFree m.2) :
    LevelFree (.object members)
  | aggregate {argument : Option Expr} (kind : AggregateKind) (distinct : Bool)
    (takes : ∀ e ∈ argument, LevelFree e) : LevelFree (.aggregate kind argument distinct)
  | subquery (s : Select) : LevelFree (.subquery s)

/-- An expression in which levels stand only within subqueries unless they are allowed, and
    in which every call has arguments that fit its method. -/
inductive Expr.Limited (levels : Prop) (fits : Method → List Expr → Prop) : Expr → Prop
  | constant (v : Value) : Limited levels fits (.constant v)
  | parameter (name : String) : Limited levels fits (.parameter name)
  | field (f : FieldRef) : Limited levels fits (.field f)
  | rowField (path : String) : Limited levels fits (.rowField path)
  | collection (c : Collection) : Limited levels fits (.collection c)
  | member {e : Expr} (operand : Limited levels fits e) (name : String) :
    Limited levels fits (.member e name)
  | unary {e : Expr} (op : UnaryOp) (operand : Limited levels fits e) :
    Limited levels fits (.unary op e)
  | binary {l r : Expr} (op : BinaryOp) (left : Limited levels fits l)
    (right : Limited levels fits r) : Limited levels fits (.binary op l r)
  | call {receiver : Option Expr} {arguments : List Expr} (method : Method)
    (receives : ∀ e ∈ receiver, Limited levels fits e)
    (takes : ∀ e ∈ arguments, Limited levels fits e) (fit : fits method arguments) :
    Limited levels fits (.call method receiver arguments)
  | object {members : List (String × Expr)} (contents : ∀ m ∈ members, Limited levels fits m.2) :
    Limited levels fits (.object members)
  | aggregate {argument : Option Expr} (kind : AggregateKind) (distinct : Bool)
    (takes : ∀ e ∈ argument, Limited levels fits e) :
    Limited levels fits (.aggregate kind argument distinct)
  | select (allowed : levels) (s : Select) : Limited levels fits (.select s)
  | projection (allowed : levels) (s : Select) (e : Expr) : Limited levels fits (.projection s e)
  | subquery (s : Select) : Limited levels fits (.subquery s)

/-- Without levels, and with calls of any kind. -/
theorem Expr.levelFree_iff_limited {e : Expr} :
    e.LevelFree ↔ e.Limited False fun _ _ => True := by
  constructor
  · intro h
    induction h with
    | constant v => exact .constant v
    | parameter name => exact .parameter name
    | field f => exact .field f
    | rowField path => exact .rowField path
    | collection c => exact .collection c
    | member operand name ih => exact .member ih name
    | unary op operand ih => exact .unary op ih
    | binary op left right ihl ihr => exact .binary op ihl ihr
    | call method receives takes ihreceives ihtakes =>
        exact .call method ihreceives ihtakes trivial
    | object contents ih => exact .object ih
    | aggregate kind distinct takes ih => exact .aggregate kind distinct ih
    | subquery s => exact .subquery s
  · intro h
    induction h with
    | constant v => exact .constant v
    | parameter name => exact .parameter name
    | field f => exact .field f
    | rowField path => exact .rowField path
    | collection c => exact .collection c
    | member operand name ih => exact .member ih name
    | unary op operand ih => exact .unary op ih
    | binary op left right ihl ihr => exact .binary op ihl ihr
    | call method receives takes fit ihreceives ihtakes => exact .call method ihreceives ihtakes
    | object contents ih => exact .object ih
    | aggregate kind distinct takes ih => exact .aggregate kind distinct ih
    | select allowed s => exact allowed.elim
    | projection allowed s e => exact allowed.elim
    | subquery s => exact .subquery s

namespace Expr

variable {levels : Prop} {fits : Method → List Expr → Prop}

/-- Limits that hold for new parts if they held for the old ones hold for what is rebuilt
    from the new parts. -/
theorem Limited.of_rebuilt {T : Expr → Expr → Prop} {e r : Expr} (h : e.Limited levels fits)
    (hfits : ∀ {method arguments arguments'}, List.Forall₂ T arguments arguments' →
      fits method arguments → fits method arguments') (hrebuilt : Rebuilt T e r)
    (hparts : e.Parts fun p => p.Limited levels fits → ∀ q, T p q → q.Limited levels fits) :
    r.Limited levels fits := by
  cases h with
  | constant v => cases hrebuilt with | constant _ => exact .constant v
  | parameter name => cases hrebuilt with | parameter _ => exact .parameter name
  | field f => cases hrebuilt with | field _ => exact .field f
  | rowField path => cases hrebuilt with | rowField _ => exact .rowField path
  | collection c => cases hrebuilt with | collection _ => exact .collection c
  | member operand name =>
      cases hrebuilt with
      | member hoperand _ => exact .member (hparts operand _ hoperand) name
  | unary op operand =>
      cases hrebuilt with
      | unary _ hoperand => exact .unary op (hparts operand _ hoperand)
  | binary op left right =>
      cases hrebuilt with
      | binary _ hl hr => exact .binary op (hparts.1 left _ hl) (hparts.2 right _ hr)
  | call method receives takes fit =>
      cases hrebuilt with
      | call _ hreceives htakes =>
          exact .call method
            (forall_of_rel hreceives fun e he => hparts.1 e he (receives e he))
            (forall_of_forall₂ htakes fun e he => hparts.2 e he (takes e he)) (hfits htakes fit)
  | object contents =>
      cases hrebuilt with
      | object hcontents =>
          exact .object (forall_of_namedRelated hcontents fun m hm => hparts m hm (contents m hm))
  | aggregate kind distinct takes =>
      cases hrebuilt with
      | aggregate _ _ htakes =>
          exact .aggregate kind distinct
            (forall_of_rel htakes fun e he => hparts e he (takes e he))
  | select allowed s => cases hrebuilt with | select _ => exact .select allowed _
  | projection allowed s e => cases hrebuilt with | projection _ _ => exact .projection allowed _ _
  | subquery s => cases hrebuilt with | subquery _ => exact .subquery _

/-! ### Folding -/

theorem Limited.settlesTo {e r : Expr} (h : e.Limited levels fits) (hsettles : e.SettlesTo r) :
    r.Limited levels fits := by
  rcases hsettles with ⟨_, rfl⟩ | ⟨v, _, _, rfl⟩
  · exact h
  · exact .constant v

/-- Folding keeps limits that are kept for the arguments of calls. -/
theorem Limited.fold (hfits : ∀ {method arguments arguments'},
    List.Forall₂ FoldsTo arguments arguments' → fits method arguments → fits method arguments')
    {e : Expr} (h : e.Limited levels fits) {r : Expr} (hr : e.FoldsTo r) :
    r.Limited levels fits := by
  induction e using Expr.induct generalizing r with
  | step e ih =>
      rcases hr.rebuilt with ⟨e', hparts, hsettles⟩
      have he' := h.of_rebuilt hfits hparts (ih.imp fun _ hp hlimited _ => hp hlimited)
      exact he'.settlesTo hsettles

/-- Folding puts no levels into an expression. -/
theorem LevelFree.fold {e r : Expr} (h : e.LevelFree) (hr : e.FoldsTo r) : r.LevelFree :=
  levelFree_iff_limited.mpr ((levelFree_iff_limited.mp h).fold (fun _ fit => fit) hr)

/-! ### Binding -/

section

variable {store : Option Store} {rows : Option Rows}

/-- A chain of members stands for a field or for a length of one. -/
theorem limited_bindChain {chain : List String} :
    ∀ {r : Expr}, bindChain store rows chain = .ok r → r.Limited levels fits := by
  have hpath : ∀ {path : List String} {r : Expr}, bindPath store rows path = .ok r →
      r.Limited levels fits := by
    intro path r h
    cases rows with
    | none => cases h
    | some rows =>
        rcases bindPath_eq_ok.mp h with ⟨_, _, rfl⟩
        exact .field _
  induction chain with
  | nil => exact hpath
  | cons last chain ih =>
      intro r h
      cases chain with
      | nil => exact hpath h
      | cons next rest =>
          rw [bindChain] at h
          split at h
          next =>
            -- A length of what the rest of the chain stands for.
            rcases Except.bind_eq_ok.mp h with ⟨e, he, h⟩
            rw [← Except.ok.inj h]
            exact (ih he).member last
          next => exact hpath h

theorem Limited.bindMember {e r : Expr} {name : String} (h : e.Limited levels fits)
    (hbind : e.bindMember name = .ok r) : r.Limited levels fits := by
  rcases bindMember_eq_ok hbind with ⟨members, rfl, hlookup⟩ | ⟨f, _, _, rfl⟩ | rfl
  · cases h with
    | object contents => exact contents (name, r) (mem_of_lookup hlookup)
  · exact .field _
  · exact h.member name

/-- Binding keeps limits that are kept for the arguments of calls. -/
theorem Limited.bind (hfits : ∀ {method arguments arguments'},
    List.Forall₂ (BindsTo store rows) arguments arguments' → fits method arguments →
      fits method arguments')
    {e : Expr} (h : e.Limited levels fits) {r : Expr} (hr : e.BindsTo store rows r) :
    r.Limited levels fits := by
  induction e using Expr.induct generalizing r with
  | step e ih =>
      cases hquery : e.isQuery with
      | true =>
          cases h with
          | select allowed s =>
              rcases bindsTo_select hr with ⟨s', rfl, _⟩
              exact .select allowed s'
          | projection allowed s e =>
              rcases bindsTo_projection hr with ⟨s', e', rfl, _, _⟩
              exact .projection allowed s' e'
          | subquery s =>
              rcases bindsTo_subquery hr with ⟨s', rfl, _⟩
              exact .subquery s'
          | _ => cases hquery
      | false =>
          -- Binding rebuilds all expressions from their parts but members, which may become fields.
          cases hmember : e.isMember with
          | false =>
              exact h.of_rebuilt hfits (hr.rebuilt hquery hmember)
                (ih.imp fun _ hp hlimited _ => hp hlimited)
          | true =>
              cases h with
              | @member e operand name =>
                  cases hchain : (Expr.member e name).parameterChain? with
                  | some chain => exact limited_bindChain (bindsTo_chain hchain hr)
                  | none =>
                      rcases bindsTo_member hchain hr with ⟨e', he, hbind⟩
                      exact (ih operand he).bindMember hbind
              | _ => cases hmember

/-- Binding puts no levels into an expression. -/
theorem LevelFree.bind {e r : Expr} (h : e.LevelFree) (hr : e.BindsTo store rows r) :
    r.LevelFree :=
  levelFree_iff_limited.mpr ((levelFree_iff_limited.mp h).bind (fun _ fit => fit) hr)

end

end Expr

/-! ### Hoisting -/

namespace Expr

/-- The level of an expression that is one, with or without a shape. -/
def level? : Expr → Option Select
  | select s => some s
  | projection s _ => some s
  | _ => none

theorem level?_of_not_query {e : Expr} (h : e.isQuery = false) : e.level? = none := by
  cases e with
  | select s | projection s e => cases h
  | _ => rfl

/-- Expressions that differ within subqueries only, and whose levels outside of these are
    related. -/
inductive SameAround (levels : Select → Select → Prop) : Expr → Expr → Prop
  | subquery (s s' : Select) : SameAround levels (.subquery s) (.subquery s')
  | rebuilt {R : Expr → Expr → Prop} {e e' : Expr}
    (parts : ∀ p p', R p p' → SameAround levels p p') (form : Rebuilt R e e')
    (level : Option.Rel levels e.level? e'.level?) : SameAround levels e e'

/-- Hoisting in an expression without levels has no effect on what is gathered, and what it
    makes of the expression differs within subqueries only. -/
theorem LevelFree.hoist {e : Expr} (h : e.LevelFree) (outermost : Bool) :
    ∃ e', e.hoist outermost = pure e' ∧ SameAround Eq e e' := by
  have form : ∀ {e : Expr}, e.isQuery = false →
      (e.Parts fun p => ∃ p', p.hoist outermost = pure p' ∧ SameAround Eq p p') →
      ∃ e', e.hoist outermost = pure e' ∧ SameAround Eq e e' := by
    intro e hquery hparts
    rcases exists_rebuilt hparts with ⟨e', he'⟩
    refine ⟨e', ?_, .rebuilt (fun _ _ hp => hp) (he'.imp fun _ _ hp => hp.2) ?_⟩
    · rw [hoist_eq_traverse outermost hquery]
      exact (he'.imp fun _ _ hp => hp.1).traverse_eq_pure
    · rw [level?_of_not_query hquery, level?_of_not_query (he'.isQuery_eq ▸ hquery)]
      exact .none
  induction h with
  | constant v | parameter name | field f | rowField path | collection c => exact form rfl trivial
  | member operand name ih | unary op operand ih => exact form rfl ih
  | binary op left right ihl ihr => exact form rfl ⟨ihl, ihr⟩
  | call method receives takes ihreceives ihtakes => exact form rfl ⟨ihreceives, ihtakes⟩
  | object contents ih | aggregate kind distinct takes ih => exact form rfl ih
  | subquery s =>
      -- What is gathered in a subquery is not seen from around it.
      rw [Expr.hoist]
      exact ⟨_, rfl, .subquery s _⟩

end Expr

/-- So it is in an optional expression. -/
theorem exists_hoistOption (outermost : Bool) {x : Option Expr} (h : ∀ e ∈ x, e.LevelFree) :
    ∃ y, hoistOption outermost x = pure y ∧ Option.Rel (Expr.SameAround Eq) x y := by
  rcases exists_rel fun e he => (h e he).hoist outermost with ⟨y, hy⟩
  refine ⟨y, ?_, rel_imp_of_mem hy fun _ _ _ he => he.2⟩
  rw [hoistOption_eq_mapM]
  exact option_mapM_eq_pure (rel_imp_of_mem hy fun _ _ _ he => he.1)

end DocumentMapper
