import DocumentMapper.Proofs.Query.Chain
import DocumentMapper.Proofs.Query.Clauses
import DocumentMapper.Proofs.Query.Refinement
import DocumentMapper.Proofs.Value.Document
import DocumentMapper.Proofs.Value.Restriction
import DocumentMapper.Query.Ordering

/-!
# Shapes of rows

The shape of a row is an expression over the row: it reads members, computes with them and
constructs objects. On its way to the query object it is folded, bound to the fields of
the outermost level and passed over by the hoisting of keys. Every step yields a shape
again that has every value the shape had before (`Expr.Reshapes`), so that the steps can
be put together.

Folding puts in values that do not depend on a row. Binding follows a chain of members
through the documents of a row, takes a member of an object on the spot apart, and goes on
along the path of a field. In each case the expression that is replaced may fail where the
new one has a value, but not the other way round: a chain of members that ends in a value
has gone through documents only, and an object with a value has values for all of its
members.

## Main definitions

* `Expr.IsShape`: Expressions that can shape a row.
* `Expr.Reshapes`: A shape that refines another expression at every row.

## Theorems

* `IsShape.fold`, `IsShape.bind`, `IsShape.hoist`: The steps on a shape.
-/

namespace DocumentMapper

/-- An expression that can shape a row. Its members have names without dots, its objects
    have different names, and there are neither levels nor placeholders in it. -/
inductive Expr.IsShape : Expr → Prop
  | constant (v : Value) : IsShape (.constant v)
  | parameter (name : String) : IsShape (.parameter name)
  | field (f : FieldRef) : IsShape (.field f)
  | member {e : Expr} {name : String} (operand : IsShape e) (dotless : '.' ∉ name.toList) :
    IsShape (.member e name)
  | unary {e : Expr} (op : UnaryOp) (operand : IsShape e) : IsShape (.unary op e)
  | binary {l r : Expr} (op : BinaryOp) (left : IsShape l) (right : IsShape r) :
    IsShape (.binary op l r)
  | call {receiver : Option Expr} {arguments : List Expr} (method : Method)
    (receives : ∀ e ∈ receiver, IsShape e) (takes : ∀ e ∈ arguments, IsShape e) :
    IsShape (.call method receiver arguments)
  | object {members : List (String × Expr)} (names : (members.map Prod.fst).Nodup)
    (contents : ∀ m ∈ members, IsShape m.2) : IsShape (.object members)
  | aggregate {argument : Option Expr} (kind : AggregateKind) (distinct : Bool)
    (takes : ∀ e ∈ argument, IsShape e) : IsShape (.aggregate kind argument distinct)

/-- A shape that has every value of an expression, at every row. -/
structure Expr.Reshapes (e e' : Expr) : Prop where
  isShape : e'.IsShape
  refines : ∀ row, Expr.Refines row row e e'

namespace Expr

/-! ### Shapes with new parts -/

/-- What goes over from the parts of a shape to the shape holds of all shapes. -/
theorem IsShape.induct {P : Expr → Prop} (step : ∀ e : Expr, e.IsShape → e.Parts P → P e)
    {e : Expr} (h : e.IsShape) : P e := by
  induction h with
  | constant v => exact step _ (.constant v) trivial
  | parameter name => exact step _ (.parameter name) trivial
  | field f => exact step _ (.field f) trivial
  | member operand dotless ih => exact step _ (.member operand dotless) ih
  | unary op operand ih => exact step _ (.unary op operand) ih
  | binary op left right ihl ihr => exact step _ (.binary op left right) ⟨ihl, ihr⟩
  | call method receives takes ihreceives ihtakes =>
      exact step _ (.call method receives takes) ⟨ihreceives, ihtakes⟩
  | object names contents ih => exact step _ (.object names contents) ih
  | aggregate kind distinct takes ih => exact step _ (.aggregate kind distinct takes) ih

theorem IsShape.isQuery_eq {e : Expr} (h : e.IsShape) : e.isQuery = false := by
  cases h <;> rfl

/-- The names of members and the names in objects are kept with the form. -/
theorem IsShape.of_rebuilt {e e' : Expr} (h : e.IsShape)
    (hparts : Rebuilt (fun _ p' => p'.IsShape) e e') : e'.IsShape := by
  cases hparts with
  | constant v | parameter name | field f => exact h
  | rowField path | collection c | select clauses | projection clauses shape
  | subquery clauses => cases h
  | member operand name =>
      cases h with
      | member _ dotless => exact .member operand dotless
  | unary op operand => exact .unary op operand
  | binary op left right => exact .binary op left right
  | call method receives takes =>
      exact .call method (forall_of_rel receives fun _ _ _ hp => hp)
        (forall_of_forall₂ takes fun _ _ _ hp => hp)
  | object contents =>
      cases h with
      | object names _ =>
          rw [map_fst_eq_of_namedRelated contents] at names
          exact .object names (forall_of_namedRelated contents fun _ _ _ hp => hp)
  | aggregate kind distinct takes =>
      exact .aggregate kind distinct (forall_of_rel takes fun _ _ _ hp => hp)

namespace Reshapes

variable {e e' e'' : Expr}

theorem of_isShape (h : e.IsShape) : Reshapes e e :=
  ⟨h, fun _ => Except.Refines.rfl⟩

theorem trans (h : Reshapes e e') (h' : Reshapes e' e'') : Reshapes e e'' :=
  ⟨h'.isShape, fun row => (h.refines row).trans (h'.refines row)⟩

theorem member (h : Reshapes e e') {name : String} (hname : '.' ∉ name.toList) :
    Reshapes (.member e name) (.member e' name) :=
  ⟨.member h.isShape hname, fun row => refines_member (h.refines row) name⟩

/-- A shape with reshaped parts is reshaped. -/
theorem of_rebuilt (h : e.IsShape) (hparts : Rebuilt Reshapes e e') : Reshapes e e' where
  isShape := h.of_rebuilt (hparts.imp fun _ _ hp => hp.isShape)
  refines row := (hparts.imp fun _ _ hp => hp.refines row).refines

end Reshapes

/-! ### Folding -/

theorem reshapes_of_settlesTo {e r : Expr} (h : e.IsShape) (hsettles : e.SettlesTo r) :
    Reshapes e r := by
  rcases hsettles with ⟨_, rfl⟩ | ⟨v, hfoldable, hv, rfl⟩
  · exact .of_isShape h
  · refine ⟨.constant v, fun row => ?_⟩
    unfold Expr.Refines
    rw [evaluate_of_isFoldable hfoldable, hv, evaluate]
    exact Except.Refines.rfl

/-- A shape keeps its values when its constants are folded. -/
theorem IsShape.fold {e r : Expr} (h : e.IsShape) (hr : e.FoldsTo r) : Reshapes e r := by
  refine h.induct (P := fun e => ∀ r, e.FoldsTo r → Reshapes e r) ?_ r hr
  intro e h ih r hr
  rcases hr.rebuilt with ⟨e', hparts, hsettles⟩
  have hreshapes := Reshapes.of_rebuilt h (hparts.imp_of_parts ih)
  exact hreshapes.trans (reshapes_of_settlesTo hreshapes.isShape hsettles)

/-! ### Chains of members -/

/-- What a chain of members is a chain on. -/
theorem parameterChain?_eq_some {e : Expr} {chain : List String}
    (h : e.parameterChain? = some chain) :
    chain ≠ [] ∧ ∃ label, e = chain.reverse.foldl .member (.parameter label) := by
  induction e using parameterChain?.induct generalizing chain with
  | case1 label name =>
      rw [parameterChain?] at h
      rw [← Option.some.inj h]
      exact ⟨List.cons_ne_nil _ _, label, rfl⟩
  | case2 e name hparameter ih =>
      have hmember : (Expr.member e name).parameterChain? = e.parameterChain?.map (name :: ·) := by
        rw [parameterChain?]
        exact hparameter
      rw [hmember] at h
      rcases Option.map_eq_some_iff.mp h with ⟨inner, hinner, rfl⟩
      rcases ih hinner with ⟨_, label, he⟩
      refine ⟨List.cons_ne_nil _ _, label, ?_⟩
      rw [List.reverse_cons, List.foldl_append, ← he]
      rfl
  | case3 e hparameter hmember =>
      rw [parameterChain?] at h
      · cases h
      · exact hparameter
      · exact hmember

theorem dotless_of_isShape_members (names : List String) :
    ∀ {e : Expr}, (names.foldl Expr.member e).IsShape → ∀ name ∈ names, '.' ∉ name.toList := by
  induction names using List.reverseRecOn with
  | nil =>
      intro e _ name hname
      cases hname
  | append_singleton names last ih =>
      intro e h name hname
      rw [List.foldl_append, List.foldl_cons, List.foldl_nil] at h
      cases h with
      | member operand dotless =>
          rcases List.mem_append.mp hname with hname | hname
          · exact ih operand name hname
          · rw [List.mem_singleton.mp hname]
            exact dotless

/-- A chain that names a field is bound to the path of the field. -/
theorem reshapes_chain (k : FieldChain) {label : String} {rows : Rows} {r : Expr}
    (h : (k.on (.parameter label)).BindsTo none (some rows) r) :
    Reshapes (k.on (.parameter label)) r := by
  have hfield : r = .field ⟨rows.label, k.path⟩ := by
    unfold BindsTo at h
    rw [k.bind_on_eq] at h
    exact (Except.ok.inj h).symm
  rw [hfield]
  refine ⟨.field _, fun row => ?_⟩
  intro v hv
  rw [evaluate, rowValue, k.evaluate_on hv]
  rfl

/-! ### Members of what is bound -/

theorem lookup_evaluateMembers {row : Option Document} {ms : List (String × Expr)} :
    ∀ {vs : List (String × Value)}, evaluateMembers row ms = .ok vs →
      vs.map Prod.fst = ms.map Prod.fst ∧
        ∀ name e, ms.lookup name = some e →
          ∃ v, vs.lookup name = some v ∧ e.evaluate row = .ok v := by
  induction ms with
  | nil =>
      intro vs h
      rw [evaluateMembers] at h
      rw [← Except.ok.inj h]
      exact ⟨rfl, fun name e hlookup => by cases hlookup⟩
  | cons m ms ih =>
      rcases m with ⟨first, e₁⟩
      intro vs h
      rw [evaluateMembers] at h
      rcases Except.bind_eq_ok.mp h with ⟨v₁, hv₁, h⟩
      rcases Except.bind_eq_ok.mp h with ⟨rest, hrest, h⟩
      rw [← Except.ok.inj h]
      rcases ih hrest with ⟨hnames, hlookups⟩
      refine ⟨congrArg (first :: ·) hnames, ?_⟩
      intro name e hlookup
      rw [List.lookup_cons] at hlookup ⊢
      cases hname : name == first with
      | true =>
          rw [hname] at hlookup
          cases hlookup
          exact ⟨v₁, rfl, hv₁⟩
      | false =>
          rw [hname] at hlookup
          exact hlookups name e hlookup

/-- A member of an object is the expression the object has for it. -/
theorem refines_object_member {members : List (String × Expr)}
    (hnames : (members.map Prod.fst).Nodup) {name : String} {e : Expr}
    (hlookup : members.lookup name = some e) (row : Document) :
    Refines row row (.member (.object members) name) e := by
  intro w hw
  rw [evaluate, evaluate] at hw
  rcases Except.bind_eq_ok.mp hw with ⟨v, hv, hw⟩
  rcases Except.bind_eq_ok.mp hv with ⟨vs, hvs, hv⟩
  rcases lookup_evaluateMembers hvs with ⟨hfst, hlookups⟩
  rcases hlookups name e hlookup with ⟨u, hu, he⟩
  rw [← Except.ok.inj hv, Document.ofList,
    Fields.ofList_of_nodup (by rw [hfst]; exact hnames)] at hw
  have hget : (Document.mk vs).get? name = some u := hu
  rw [Value.member, hget] at hw
  rw [he, ← Except.ok.inj hw]
  rfl

theorem getPath?_concat (name : String) {inner : Document} (path : List String) :
    ∀ {d : Document}, d.getPath? path = some (.document inner) →
      d.getPath? (path ++ [name]) = inner.get? name := by
  induction path with
  | nil =>
      intro d h
      cases h
  | cons key rest ih =>
      intro d h
      cases rest with
      | nil =>
          rw [Document.getPath?] at h
          rw [List.singleton_append, Document.getPath?, h]
          rfl
      | cons next rest =>
          rw [Document.getPath?] at h
          rw [List.cons_append, List.cons_append, Document.getPath?]
          -- The path goes on, so there is a document under its first name.
          cases hget : d.get? key with
          | none =>
              rw [hget] at h
              cases h
          | some v =>
              rw [hget] at h
              cases v with
              | document middle => exact ih h
              | _ => cases h

theorem pathNames_member (path : String) {name : String} (hname : '.' ∉ name.toList) :
    pathNames (path ++ "." ++ name) = pathNames path ++ [name] := by
  have hdot : ".".toList = ['.'] := rfl
  unfold pathNames
  rw [String.toList_append, String.toList_append, hdot, List.append_assoc, List.singleton_append,
    List.splitOn_append_cons_self, List.splitOn_eq_singleton hname, List.map_append,
    List.map_cons, List.map_nil, String.ofList_toList]

/-- A member of a field that asks for no length is a field further along the path. -/
theorem refines_field_member (f : FieldRef) {name : String} (hname : '.' ∉ name.toList)
    (hlength : isLengthMember name = false) (row : Document) :
    Refines row row (.member (.field f) name)
      (.field { f with path := f.path ++ "." ++ name }) := by
  intro w hw
  rw [evaluate, evaluate, rowValue, Except.ok_bind] at hw
  rw [evaluate, rowValue]
  -- What is no document has no members but lengths.
  cases hvalue : row.lookupPath? f.path with
  | none =>
      rw [hvalue] at hw
      have hmember := FieldChain.isLengthMember_of_member rfl hw
      rw [hlength] at hmember
      cases hmember
  | some v =>
      rw [hvalue, Option.getD_some] at hw
      cases hdocument : v.asDocument? with
      | none =>
          have hmember := FieldChain.isLengthMember_of_member hdocument hw
          rw [hlength] at hmember
          cases hmember
      | some inner =>
          have hv : v = .document inner := by
            cases v with
            | document d => exact congrArg Value.document (Option.some.inj hdocument)
            | _ => cases hdocument
          rw [hv] at hvalue hw
          have hpath : row.lookupPath? (f.path ++ "." ++ name) = inner.get? name := by
            have hnames := getPath?_concat name (pathNames f.path) hvalue
            rw [← pathNames_member f.path hname] at hnames
            exact hnames
          rw [hpath]
          exact hw

/-- A member of a bound shape. -/
theorem reshapes_bindMember {e r : Expr} {name : String} (h : e.IsShape)
    (hname : '.' ∉ name.toList) (hbind : e.bindMember name = .ok r) :
    Reshapes (.member e name) r := by
  rcases bindMember_eq_ok hbind with ⟨members, rfl, hlookup⟩ | ⟨f, rfl, hlength, rfl⟩ | rfl
  · cases h with
    | object names contents =>
        exact ⟨contents _ (mem_of_lookup hlookup), refines_object_member names hlookup⟩
  · exact ⟨.field _, refines_field_member f hname hlength⟩
  · exact .of_isShape (.member h hname)

/-! ### Binding -/

/-- Binding a member keeps its values if binding its operand does. -/
theorem reshapes_member {rows : Rows} {e r : Expr} {name : String} (operand : e.IsShape)
    (dotless : '.' ∉ name.toList)
    (ih : ∀ {e' : Expr}, e.BindsTo none (some rows) e' → Reshapes e e')
    (hr : (Expr.member e name).BindsTo none (some rows) r) : Reshapes (.member e name) r := by
  by_cases hparameter : ∃ label, e = .parameter label
  · rcases hparameter with ⟨label, rfl⟩
    exact reshapes_chain (.single name dotless) hr
  · have hnot : ∀ label, e = .parameter label → False := fun label he => hparameter ⟨label, he⟩
    have hmember : (Expr.member e name).parameterChain? = e.parameterChain?.map (name :: ·) := by
      rw [parameterChain?]
      exact hnot
    cases hchain : e.parameterChain? with
    | none =>
        -- The operand is bound for itself, and then its member is looked for in the result.
        rw [hchain] at hmember
        rcases bindsTo_member hmember hr with ⟨e', he, hbind⟩
        have hoperand := ih he
        exact (hoperand.member dotless).trans (reshapes_bindMember hoperand.isShape dotless hbind)
    | some chain =>
        rcases parameterChain?_eq_some hchain with ⟨hne, label, he⟩
        by_cases hlength : isLengthMember name = true
        · -- A length of what the rest of the chain stands for.
          rw [hchain] at hmember
          have hr := bindsTo_chain hmember hr
          rcases List.exists_cons_of_ne_nil hne with ⟨next, rest, rfl⟩
          rw [bindChain, if_pos hlength] at hr
          rcases Except.bind_eq_ok.mp hr with ⟨e', he', hr⟩
          have hoperand : e.BindsTo none (some rows) e' := by
            unfold BindsTo Expr.bind
            rw [hchain]
            exact he'
          rw [← Except.ok.inj hr]
          exact (ih hoperand).member dotless
        · -- Otherwise the whole chain is one path.
          have hparents : ∀ n ∈ chain.reverse ++ [name], '.' ∉ n.toList := by
            rw [he] at operand
            intro n hn
            rcases List.mem_append.mp hn with hn | hn
            · exact dotless_of_isShape_members _ operand n hn
            · rw [List.mem_singleton.mp hn]
              exact dotless
          have hon : Expr.member e name = FieldChain.on
              ⟨chain.reverse, name, hparents, fun _ => Bool.eq_false_iff.mpr hlength⟩
              (.parameter label) := by
            rw [he]
            rfl
          rw [hon] at hr ⊢
          exact reshapes_chain _ hr

/-- A shape keeps its values when it is bound to the fields of some rows. -/
theorem IsShape.bind {rows : Rows} {e r : Expr} (h : e.IsShape)
    (hr : e.BindsTo none (some rows) r) : Reshapes e r := by
  refine h.induct (P := fun e => ∀ r, e.BindsTo none (some rows) r → Reshapes e r) ?_ r hr
  intro e h ih r hr
  cases hmember : e.isMember with
  | false => exact .of_rebuilt h ((hr.rebuilt h.isQuery_eq hmember).imp_of_parts ih)
  | true =>
      cases h with
      | member operand dotless => exact reshapes_member operand dotless (ih _) hr
      | _ => cases hmember

/-! ### Hoisting -/

/-- A shape holds no levels that have keys. -/
theorem IsShape.hoist {outermost : Bool} {e : Expr} (h : e.IsShape) :
    e.hoist outermost = pure e := by
  refine h.induct (P := fun e => e.hoist outermost = pure e) fun e h ih => ?_
  rw [hoist_eq_traverse outermost h.isQuery_eq, traverse_eq_pure ih]

end Expr

end DocumentMapper
