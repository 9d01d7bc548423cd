import DocumentMapper.Proofs.Query.FilterLevel
import DocumentMapper.Proofs.Query.GroupedRows
import DocumentMapper.Proofs.Query.HoistedLevels
import DocumentMapper.Proofs.Query.SortDocument

/-!
# Keys that are computed

A sort document has paths, so a key has to be a field, and a query with a key that is none
is not accepted if the key is still there at the end. Whether it is depends on the level of
the key. The outermost level and the levels that skip or take rows keep their keys, and
then a key that is computed stays computed until the sort document is made. Every other
level hands its keys on and keeps none. What it hands on are fields of its own rows, also
where it had to make up a field for a key that is computed, and nobody asks later what such
a field stands for.

So the paths of an accepted query are those that were given as long as no key is computed
on a level that only hands its keys on. The invariant for this is about the keys that are
gathered (`KeysOver`). Keys of another source drop out on the way outward, and keys that are
fields never make a level declare anything.

## Main definitions

* `Expr.ReducesTo`, `Expr.ReadsField`: What folding and binding make of a key.
* `KeysOver`: Keys that are fields with paths of some kind.
* `Select.keepsKeys`: Levels that have keys in the end.
* `KeyGiven`: Keys of operators.

## Theorems

* `handOn_over`: A level hands fields on as fields of the same paths.
* `mem_handOn_of_computed`: A level that keeps its keys keeps those that are computed.
* `Nest.accepted_kept`, `Nest.accepted_over`: The keys of accepted levels.
* `Nest.levels_step`: Steps of a nest, level by level.
* `QueryBuilder.order_reads_fields`: The sort document of an accepted query.
* `Computed.order_of_computed_key`: A sort document with a name that was made up.
-/

namespace DocumentMapper

open QueryBuilder (label)

/-- What folding and binding make of an expression that is read for some rows. -/
def Expr.ReducesTo (store : Option Store) (rows : Rows) (e e' : Expr) : Prop :=
  ∃ folded, e.FoldsTo folded ∧ folded.BindsTo store (some rows) e'

/-- The expression is a field after folding and binding, and this is its path. -/
def Expr.ReadsField (store : Option Store) (rows : Rows) (e : Expr) (path : String) : Prop :=
  ∃ e' f, e.ReducesTo store rows e' ∧ e'.asField? = some f ∧ f.path = path

theorem Expr.ReducesTo.unique {store : Option Store} {rows : Rows} {e e₁ e₂ : Expr}
    (h₁ : e.ReducesTo store rows e₁) (h₂ : e.ReducesTo store rows e₂) : e₁ = e₂ := by
  rcases h₁ with ⟨folded₁, hfold₁, hbind₁⟩
  rcases h₂ with ⟨folded₂, hfold₂, hbind₂⟩
  rcases foldsTo_iff.mp hfold₁ 0 with ⟨n₁, hrun₁⟩
  rcases foldsTo_iff.mp hfold₂ 0 with ⟨n₂, hrun₂⟩
  rw [hrun₁] at hrun₂
  cases hrun₂
  exact Except.ok.inj (hbind₁.symm.trans hbind₂)

/-- Keys that are fields, of any sources, with paths of some kind. -/
def KeysOver (paths : String → Prop) (keys : List (Direction × Expr)) : Prop :=
  ∀ key ∈ keys, ∃ f, key.2.asField? = some f ∧ paths f.path

namespace Select

variable {paths : String → Prop} {keys : List (Direction × Expr)} {g : Gathering} {s : Select}

/-- Whether a level has keys of its own in the end: the outermost one has, and so has one
    that skips or takes rows. -/
def keepsKeys (outermost : Bool) (s : Select) : Bool :=
  outermost || s.take.isSome || s.skip.isSome

theorem handOn_order (outermost : Bool) (s : Select) (g : Gathering) :
    (s.handOn outermost g).1.order =
      if s.keepsKeys outermost && !(s.group.isSome || s.distinct) then g.keys.getD []
      else if s.keepsKeys outermost then s.order else [] := by
  unfold handOn keepsKeys
  cases g.keys with
  | none => rfl
  | some keys =>
      dsimp only
      split <;> rfl

/-! ### Keys that are handed on -/

/-- A field is handed on with its path, or not at all, and is not declared. -/
theorem passKey_over (hfields : s.fields = []) {key : Direction × Expr} {f : FieldRef}
    (hkey : key.2.asField? = some f) (hf : paths f.path) :
    (s.passKey [] key).1 = [] ∧ KeysOver paths (s.passKey [] key).2.toList := by
  have hown : KeysOver paths [(key.1, Expr.field ⟨s.label, f.path⟩)] := by
    intro key' hkey'
    rw [List.mem_singleton.mp hkey']
    exact ⟨_, rfl, hf⟩
  unfold passKey
  rw [hkey, hfields]
  dsimp only
  split
  · exact ⟨rfl, List.forall_mem_nil _⟩
  · exact ⟨rfl, hown⟩

theorem passOutward_over (hfields : s.fields = []) (h : KeysOver paths keys) :
    (s.passOutward keys).1 = [] ∧ KeysOver paths (s.passOutward keys).2 := by
  rw [passOutward_eq, hfields]
  -- Nothing is declared on the way, so that every key finds the level without fields.
  induction keys using List.reverseRecOn with
  | nil => exact ⟨rfl, List.forall_mem_nil _⟩
  | append_singleton keys key ih =>
      have hkeys : KeysOver paths keys := fun key' hkey' => h key' (List.mem_append_left _ hkey')
      rcases ih hkeys with ⟨hdeclared, hpassed⟩
      rcases h key List.mem_concat_self with ⟨f, hkey, hf⟩
      rcases passKey_over hfields hkey hf with ⟨hdeclared', hpassed'⟩
      rw [List.foldl_append, List.foldl_cons, List.foldl_nil, passStep, hdeclared]
      exact ⟨hdeclared', List.forall_mem_append.mpr ⟨hpassed, hpassed'⟩⟩

theorem prepend_over (hg : KeysOver paths (g.keys.getD [])) (h : KeysOver paths keys) :
    KeysOver paths ((g.prepend keys).keys.getD []) := by
  intro key hkey
  unfold Gathering.prepend at hkey
  rcases mem_foldr_push hkey with hown | hstart
  · exact h key hown
  · cases hgathered : g.keys with
    | none =>
        rw [hgathered] at hstart
        cases hstart
    | some gathered =>
        rw [hgathered] at hstart
        refine hg key ?_
        rw [hgathered]
        exact hstart

/-- A level that declares nothing hands fields on as fields of the same paths, and the keys
    that it gets are among those that it was given and its own. -/
theorem handOn_over (hfields : s.fields = []) (hg : KeysOver paths (g.keys.getD []))
    (h : KeysOver paths s.order) (outermost : Bool) :
    KeysOver paths (s.handOn outermost g).1.order ∧
      KeysOver paths ((s.handOn outermost g).2.keys.getD []) := by
  constructor
  · rw [handOn_order]
    split
    · exact hg
    · split
      · exact h
      · exact List.forall_mem_nil _
  · unfold handOn
    cases hkeys : g.keys with
    | none => exact List.forall_mem_nil _
    | some keys =>
        rw [hkeys] at hg
        dsimp only
        split
        · exact List.forall_mem_nil _
        · exact prepend_over (List.forall_mem_nil _) (passOutward_over hfields hg).2

/-! ### Keys that are kept -/

/-- A key that is computed is put in front of the others whatever is there. -/
theorem mem_foldr_push_of_computed {key : Direction × Expr} (hcomputed : key.2.asField? = none)
    {start : List (Direction × Expr) × List FieldRef} (hkey : key ∈ keys) :
    key ∈ (keys.foldr Gathering.push start).1 := by
  induction keys with
  | nil => cases hkey
  | cons first keys ih =>
      rw [List.foldr_cons]
      unfold Gathering.push
      rcases List.mem_cons.mp hkey with rfl | hkey
      · rw [hcomputed]
        exact List.mem_cons_self
      · have hrest := ih hkey
        split
        · exact List.mem_cons_of_mem _ hrest
        · split
          · exact hrest
          · exact List.mem_cons_of_mem _ hrest

/-- A level that keeps its keys keeps those that are computed. -/
theorem mem_handOn_of_computed {key : Direction × Expr} {outermost : Bool}
    (hkeeps : s.keepsKeys outermost = true) (hkey : key ∈ s.order)
    (hcomputed : key.2.asField? = none) :
    key ∈ (s.handOn outermost (if s.order.isEmpty then g else g.prepend s.order)).1.order := by
  -- The keys that are gathered begin with those of the level.
  have hempty : s.order.isEmpty = false := List.isEmpty_eq_false_iff_exists_mem.mpr ⟨key, hkey⟩
  obtain ⟨g₁, hg₁⟩ : ∃ g₁, g₁ = g.prepend s.order := ⟨_, rfl⟩
  have hgathered : key ∈ g₁.keys.getD [] := by
    rw [hg₁]
    exact mem_foldr_push_of_computed hcomputed hkey
  rw [hempty, if_neg Bool.false_ne_true, ← hg₁, handOn_order, hkeeps, Bool.true_and, if_pos rfl]
  split
  · exact hgathered
  · exact hkey

end Select

/-! ### Accepted levels -/

section

variable {keys : List (Direction × Expr)} {q' : QueryObject}

/-- Keys that are accepted are fields, and nothing but their paths goes to the sort document. -/
theorem addKeys_fields (paths : String → Prop) : ∀ {q : QueryObject}, q.addKeys keys = .ok q' →
    (∀ key ∈ keys, ∃ f, key.2.asField? = some f) ∧
      (KeysOver paths keys → (∀ path ∈ q.order.keys, paths path) →
        ∀ path ∈ q'.order.keys, paths path) := by
  induction keys with
  | nil =>
      intro q h
      rw [QueryObject.addKeys, Except.ok.injEq] at h
      subst h
      exact ⟨List.forall_mem_nil _, fun _ hq => hq⟩
  | cons key keys ih =>
      intro q h
      rw [QueryObject.addKeys] at h
      cases hfield : key.2.asField? with
      | none =>
          rw [hfield] at h
          cases h
      | some f =>
          rw [hfield] at h
          rcases ih h with ⟨hfields, hpaths⟩
          refine ⟨List.forall_mem_cons.mpr ⟨⟨f, hfield⟩, hfields⟩, fun hover hq => ?_⟩
          refine hpaths (fun key hkey => hover key (List.mem_cons_of_mem _ hkey)) ?_
          intro path hpath
          rcases List.mem_map.mp hpath with ⟨field, hmem, rfl⟩
          rcases Fields.mem_of_mem_insert hmem with rfl | hmem
          · -- The first path is that of the first key.
            rcases hover key List.mem_cons_self with ⟨f', hf', hpaths'⟩
            rw [hfield] at hf'
            cases hf'
            exact hpaths'
          · exact hq _ (List.mem_map.mpr ⟨field, hmem, rfl⟩)

theorem addClauses_fields (paths : String → Prop) {s : Select} {q : QueryObject}
    (h : s.addClauses q = .ok q') :
    (∀ key ∈ s.order, ∃ f, key.2.asField? = some f) ∧
      (KeysOver paths s.order → (∀ path ∈ q.order.keys, paths path) →
        ∀ path ∈ q'.order.keys, paths path) := by
  rcases (addClauses_eq_ok h).2 with ⟨q₁, horder, hkeys⟩
  rcases addKeys_fields paths hkeys with ⟨hfields, hpaths⟩
  rw [horder] at hpaths
  exact ⟨hfields, hpaths⟩

end

namespace Select

variable {paths : String → Prop} {s : Select} {g : Gathering} {outermost within : Bool}
  {fields : List (String × Expr)} {q : QueryObject}

/-- A level that asks for other fields. -/
def asking (s : Select) (fields : List (String × Expr)) : Select :=
  { s with fields := fields }

theorem asking_own (s : Select) : s.asking s.fields = s := by
  cases s
  rfl

/-- Hoisting replaces the clauses of a level before the level gets its keys. -/
theorem hoistClauses_related (s : Select) (g : Gathering) :
    Select.Related (Expr.HoistsTo false) s (s.hoistClauses.run g).1 := by
  have htraverse : s.hoistClauses = s.traverse (Expr.hoist false) := by
    unfold hoistClauses traverse
    simp only [hoistOption_eq_mapM, hoistGroup_eq_mapM, hoistNamed_eq_mapM, hoistKeys_eq_mapM]
  rw [htraverse]
  exact Hoisting.results.related ⟨g, rfl⟩

/-- If a level that keeps its keys is accepted, whatever fields it asks for, then its keys
    are fields. -/
theorem fields_of_accepted (hkeeps : s.keepsKeys outermost = true)
    (h : (((s.hoist outermost).run g).1.asking fields).queryObjectWithin within = .ok q) :
    ∀ key ∈ s.order, ∃ f, key.2.asField? = some f := by
  rcases exists_addClauses h with ⟨q₁, hadd⟩
  have hfields := (addClauses_fields (fun _ => True) hadd).1
  have hclauses := hoistClauses_related s g
  have hkeeps' : (s.hoistClauses.run g).1.keepsKeys outermost = true := by
    unfold keepsKeys at hkeeps ⊢
    rw [← isSome_eq_of_rel hclauses.take, ← isSome_eq_of_rel hclauses.skip]
    exact hkeeps
  intro key hkey
  by_contra hcomputed
  have hnone : key.2.asField? = none :=
    Option.eq_none_iff_forall_ne_some.mpr fun f hf => hcomputed ⟨f, hf⟩
  -- Hoisting makes no field of it, so that it would be left among the keys.
  rcases exists_right_of_forall₂ hclauses.order hkey with ⟨key', hkey', _, hhoist⟩
  have hnone' : key'.2.asField? = none := by
    have hsame := hhoist.looksLike.field
    rw [hnone] at hsame
    exact Option.map_eq_none_iff.mp hsame.symm
  have hkept := mem_handOn_of_computed (g := (s.hoistClauses.run g).2) hkeeps' hkey' hnone'
  rw [← receive_run, ← hoist_run] at hkept
  rcases hfields key' hkept with ⟨f, hf⟩
  rw [hnone'] at hf
  cases hf

/-- A level as operators make it: it declares and groups nothing, and counts by constants. -/
structure Plain (s : Select) : Prop where
  undeclaring : s.Undeclaring
  skip : ∀ e ∈ s.skip, e.isConstant = true
  take : ∀ e ∈ s.take, e.isConstant = true

/-- The tidy filter of a level that is accepted has no levels. -/
theorem levelFree_filter_of_accepted (htidy : ∀ e ∈ s.filter, e.Tidy)
    (h : (((s.hoist outermost).run g).1.asking fields).queryObjectWithin within = .ok q) :
    ∀ e ∈ s.filter, e.LevelFree := by
  intro e he
  have hrel := (hoistClauses_related s g).filter
  have hkept : ((s.hoist outermost).run g).1.filter = (s.hoistClauses.run g).1.filter := by
    rw [hoist_run, receive_run]
    exact (handOn_sameRows outermost _ _).1.filter
  rw [he] at hrel
  generalize (s.hoistClauses.run g).1.filter = filter at hrel hkept
  cases hrel with
  | some hhoist =>
      have hfilter : (((s.hoist outermost).run g).1.asking fields).filter = some _ := hkept
      exact levelFree_of_accepted (htidy e he) hhoist hfilter h

/-- A level that declares nothing, with keys that are fields, has and hands on fields of the
    paths of its keys and of those from inside. -/
theorem hoist_over (hplain : s.Plain) (hfilter : ∀ e ∈ s.filter, e.LevelFree)
    (hkeys : KeysOver paths s.order)
    (hinside : KeysOver paths (((hoistOption false s.source).run g).2.keys.getD []))
    (outermost : Bool) :
    KeysOver paths ((s.hoist outermost).run g).1.order ∧
      KeysOver paths (((s.hoist outermost).run g).2.keys.getD []) := by
  -- Keys over the paths are fields, so they stay where they are instead of being computed.
  have hfields : ∀ key ∈ s.order, ∃ f, key.2.asField? = some f := by
    intro key hkey
    rcases hkeys key hkey with ⟨f, hf, _⟩
    exact ⟨f, hf⟩
  rcases hoistClauses_run_of_fields hplain.undeclaring.1 hplain.undeclaring.2 hplain.skip
    hplain.take hfields hfilter g with ⟨filter, _, hclauses⟩
  rw [hoist_run, hclauses, receive_run]
  refine handOn_over (s := { s with source := _, filter := filter }) hplain.undeclaring.1 ?_ hkeys
    outermost
  split
  · exact hinside
  · exact prepend_over hinside hkeys

/-- A level around a collection that is accepted adds its clauses to what the collection has. -/
theorem addClauses_of_collection {c : Collection} (hsource : s.source = some (.collection c))
    (h : (((s.hoist outermost).run {}).1.asking fields).queryObjectWithin within = .ok q) :
    (((s.hoist outermost).run {}).1.asking fields).addClauses (.ofCollection c) = .ok q := by
  have hhoisted : (((s.hoist outermost).run {}).1.asking fields).source = some (.collection c) := by
    rw [asking, (hoist_source_label outermost s {}).1, hsource, hoistOption_collection]
  rcases queryObjectWithin_eq_ok h with ⟨c', hc, hadd⟩ | ⟨inner, q₁, hinner, _, _⟩
  · rw [hhoisted] at hc
    cases hc
    exact hadd
  · rw [hhoisted] at hinner
    cases hinner

/-- If a level around another one is accepted then so is the level inside, and it asks for the
    fields that it declares. -/
theorem addClauses_of_select {inner : Select} (hsource : s.source = some (.select inner))
    (h : (((s.hoist outermost).run {}).1.asking fields).queryObjectWithin within = .ok q) :
    ∃ declared q₁,
      (((inner.hoist false).run {}).1.asking declared).queryObjectWithin false = .ok q₁ ∧
      (((s.hoist outermost).run {}).1.asking fields).addClauses q₁ = .ok q := by
  have hhoisted : (((s.hoist outermost).run {}).1.asking fields).source =
      some (.select ((inner.hoist false).run {}).1) := by
    rw [asking, (hoist_source_label outermost s {}).1, hsource, hoistOption_select]
  rcases queryObjectWithin_eq_ok h with ⟨c, hc, _⟩ | ⟨inner', q₁, hinner, hq₁, hadd⟩
  · rw [hhoisted] at hc
    cases hc
  · rw [hhoisted] at hinner
    cases hinner
    rw [← asking_own ((inner.hoist false).run {}).1] at hq₁
    exact ⟨_, q₁, hq₁, hadd⟩

end Select

namespace Nest

variable {κ : Type} {c : Collection} {ks : List κ} {s : Select} {paths : String → Prop}

/-- If a nest is accepted after hoisting, whatever fields the outermost level asks for, then the
    levels that keep their keys have fields for keys. -/
theorem accepted_kept {P : κ → Select → Prop} (h : Nest c P ks s) :
    ∀ {outermost within : Bool} {fields : List (String × Expr)} {q : QueryObject},
      (((s.hoist outermost).run {}).1.asking fields).queryObjectWithin within = .ok q →
      ∀ (i : Nat) (l : Select), s.levels[i]? = some l → l.keepsKeys (outermost && i == 0) = true →
        ∀ key ∈ l.order, ∃ f, key.2.asField? = some f := by
  -- From the outermost level inward: a level that is accepted has an accepted one inside.
  induction h with
  | @innermost k s source level =>
      intro outermost within fields q hq i l hl hkeeps
      rw [Select.levels, Select.inside_of_collection source] at hl
      cases i with
      | zero =>
          cases hl
          rw [beq_self_eq_true, Bool.and_true] at hkeeps
          exact Select.fields_of_accepted hkeeps hq
      | succ i => cases hl
  | @around k ks inner s source inside level ih =>
      intro outermost within fields q hq i l hl hkeeps
      rw [Select.levels, Select.inside_of_select source] at hl
      cases i with
      | zero =>
          cases hl
          rw [beq_self_eq_true, Bool.and_true] at hkeeps
          exact Select.fields_of_accepted hkeeps hq
      | succ i =>
          rcases Select.addClauses_of_select source hq with ⟨declared, q₁, hq₁, _⟩
          have hsucc : (outermost && (i + 1 == 0)) = false := Bool.and_false outermost
          rw [hsucc, ← Bool.false_and (i == 0)] at hkeeps
          exact ih hq₁ i l hl hkeeps

/-- A level of which a nest is made whose keys are fields with paths of some kind. -/
structure LevelOver (paths : String → Prop) (s : Select) : Prop where
  plain : s.Plain
  filter : ∀ e ∈ s.filter, e.Tidy
  keys : KeysOver paths s.order

/-- If all keys are fields then what is gathered and what is sorted by are fields with the
    paths of the keys. -/
theorem accepted_over (h : Nest c (fun _ => LevelOver paths) ks s) :
    ∀ {outermost within : Bool} {fields : List (String × Expr)} {q : QueryObject},
      (((s.hoist outermost).run {}).1.asking fields).queryObjectWithin within = .ok q →
      KeysOver paths (((s.hoist outermost).run {}).2.keys.getD []) ∧
        ∀ path ∈ q.order.keys, paths path := by
  -- From the inside outward: what a level takes on was gathered inside, or is its own.
  induction h with
  | @innermost k s source level =>
      intro outermost within fields q hq
      have hfilter := Select.levelFree_filter_of_accepted level.filter hq
      have hinside : KeysOver paths (((hoistOption false s.source).run {}).2.keys.getD []) := by
        rw [source, hoistOption_collection]
        exact List.forall_mem_nil _
      rcases Select.hoist_over level.plain hfilter level.keys hinside outermost with
        ⟨horder, hgathered⟩
      have hadd := Select.addClauses_of_collection source hq
      exact ⟨hgathered, (addClauses_fields paths hadd).2 horder (List.forall_mem_nil _)⟩
  | @around k ks inner s source inside level ih =>
      intro outermost within fields q hq
      have hfilter := Select.levelFree_filter_of_accepted level.filter hq
      rcases Select.addClauses_of_select source hq with ⟨declared, q₁, hq₁, hadd⟩
      rcases ih hq₁ with ⟨hpassed, hpaths⟩
      have hinside : KeysOver paths (((hoistOption false s.source).run {}).2.keys.getD []) := by
        rw [source, hoistOption_select]
        exact hpassed
      rcases Select.hoist_over level.plain hfilter level.keys hinside outermost with
        ⟨horder, hgathered⟩
      exact ⟨hgathered, (addClauses_fields paths hadd).2 horder hpaths⟩

end Nest

/-! ### Levels before folding and after binding -/

/-- What folding and binding make of a level. -/
def Select.ReducesTo (store : Option Store) (s s' : Select) : Prop :=
  ∃ folded, s.FoldsTo folded ∧ folded.BindsTo store s' ∧ folded.sourceRows = s.sourceRows

namespace Select.ReducesTo

variable {store : Option Store} {s s' : Select}

theorem keepsKeys_eq (h : s.ReducesTo store s') (outermost : Bool) :
    s'.keepsKeys outermost = s.keepsKeys outermost := by
  rcases h with ⟨folded, hfold, hbind, _⟩
  unfold keepsKeys
  rw [isSome_eq_of_rel hfold.related.take, isSome_eq_of_rel hbind.related.take,
    isSome_eq_of_rel hfold.related.skip, isSome_eq_of_rel hbind.related.skip]

/-- The keys are reduced one by one, for the rows of the source. -/
theorem order (h : s.ReducesTo store s') :
    NamedRelated (Expr.ReducesTo store s.sourceRows) s.order s'.order := by
  rcases h with ⟨folded, hfold, hbind, hrows⟩
  have hbound := hbind.related.order
  rw [hrows] at hbound
  exact forall₂_comp (fun hkey hkey' => ⟨hkey.1.trans hkey'.1, _, hkey.2, hkey'.2⟩)
    hfold.related.order hbound

theorem tidy (h : s.ReducesTo store s') (hfilter : ∀ e ∈ s.filter, e.Tidy) :
    ∀ e ∈ s'.filter, e.Tidy := by
  rcases h with ⟨folded, hfold, hbind, _⟩
  have hfolded := forall_of_rel hfold.related.filter fun e he _ hstep => (hfilter e he).fold hstep
  exact forall_of_rel hbind.related.filter fun e he _ hstep => (hfolded e he).bind hstep

/-- A key that reads a field is one in the end. -/
theorem keysOver {paths : String → Prop} (h : s.ReducesTo store s')
    (hkeys : ∀ key ∈ s.order, ∃ path, key.2.ReadsField store s.sourceRows path ∧ paths path) :
    KeysOver paths s'.order := by
  intro key' hkey'
  rcases exists_left_of_forall₂ h.order hkey' with ⟨key, hkey, _, hreduce⟩
  rcases hkeys key hkey with ⟨path, ⟨e, f, hreduce', hf, rfl⟩, hpath⟩
  rw [hreduce'.unique hreduce] at hf
  exact ⟨f, hf, hpath⟩

/-- A key that is a field in the end reads it. -/
theorem readsField (h : s.ReducesTo store s')
    (hkeys : ∀ key ∈ s'.order, ∃ f, key.2.asField? = some f) :
    ∀ key ∈ s.order, ∃ path, key.2.ReadsField store s.sourceRows path := by
  intro key hkey
  rcases exists_right_of_forall₂ h.order hkey with ⟨key', hkey', _, hreduce⟩
  rcases hkeys key' hkey' with ⟨f, hf⟩
  exact ⟨f.path, key'.2, f, hreduce, hf, rfl⟩

end Select.ReducesTo

namespace Nest

variable {κ : Type} {c : Collection} {P : κ → Select → Prop} {ks : List κ} {s s' : Select}

/-- A step on a nest is one on every level, and keeps what the rows of the sources are. -/
theorem levels_step {T : Select → Select → Prop} (hT : KeepsSource T) (h : Nest c P ks s) :
    ∀ {s' : Select}, T s s' → s'.documentClass? = c.documentType.className? ∧
      List.Forall₂ (fun l l' => T l l' ∧ l'.sourceRows = l.sourceRows) s.levels s'.levels := by
  -- The class of the rows comes from the collection, their label from the level inside.
  induction h with
  | @innermost k s source level =>
      intro s' hs
      have source' := hT.collection hs source
      have hclass : s'.documentClass? = c.documentType.className? := by
        rw [Expr.documentClass?_eq_bind, source']
        rfl
      have hrows : s'.sourceRows = s.sourceRows := by
        rw [Select.sourceRows, Select.sourceRows, Select.sourceLabel?, Select.sourceLabel?, source,
          source', hclass, (Nest.innermost source level).documentClass?_eq]
      rw [Select.levels, Select.levels, Select.inside_of_collection source,
        Select.inside_of_collection source']
      exact ⟨hclass, .cons ⟨hs, hrows⟩ .nil⟩
  | @around k ks inner s source inside level ih =>
      intro s' hs
      rcases hT.select hs source with ⟨inner', source', hinner⟩
      rcases ih hinner with ⟨hinside, hlevels⟩
      have hclass : s'.documentClass? = c.documentType.className? := by
        rw [Expr.documentClass?_eq_bind, source']
        exact hinside
      have hlabel : s'.sourceLabel? = s.sourceLabel? := by
        rw [Select.sourceLabel?, Select.sourceLabel?, source, source', Option.bind_some,
          Option.bind_some, Expr.rowsLabel?, Expr.rowsLabel?, hT.label hinner]
      have hrows : s'.sourceRows = s.sourceRows := by
        rw [Select.sourceRows, Select.sourceRows, hlabel, hclass,
          (Nest.around source inside level).documentClass?_eq]
      rw [Select.levels, Select.levels, Select.inside_of_select source,
        Select.inside_of_select source']
      exact ⟨hclass, .cons ⟨hs, hrows⟩ hlevels⟩

end Nest

/-- A step that leaves constants alone leaves a level plain. -/
theorem Select.Plain.of_related {T : Expr → Expr → Prop} {s s' : Select} (h : s.Plain)
    (hT : ∀ {e e'}, e.isConstant = true → T e e' → e' = e) (hrel : Select.Related T s s') :
    s'.Plain where
  undeclaring := undeclaring_related h.undeclaring hrel
  skip := forall_of_rel hrel.skip fun e he _ hstep => hT (h.skip e he) hstep ▸ h.skip e he
  take := forall_of_rel hrel.take fun e he _ hstep => hT (h.take e he) hstep ▸ h.take e he

section

variable {database name : String} {documentType : MemberType} {operators : List Operator}
  {store : Option Store}

/-- All levels that operators build are plain. -/
theorem nest_operated_plain (database name : String) (documentType : MemberType)
    (operators : List Operator) :
    ∃ levels : List Unit, Nest ⟨label 0, database, name, documentType⟩ (fun _ => Select.Plain)
      levels (operated database name documentType operators).level := by
  have hnone : ∀ e ∈ (none : Option Expr), e.isConstant = true := by
    intro e he
    cases he
  have hcount (n : Int32) : ∀ e ∈ some (Expr.constant (.int32 n)), e.isConstant = true :=
    fun e he => Option.some.inj he ▸ rfl
  refine nest_of_operators (fun _ _ => ⟨⟨rfl, rfl⟩, hnone, hnone⟩) operators fun o ho q hlevel => ?_
  cases o with
  | filter predicate | orderBy direction key | distinct => exact ⟨⟨rfl, rfl⟩, hnone, hnone⟩
  | thenBy direction key => exact ⟨hlevel.undeclaring, hlevel.skip, hlevel.take⟩
  | skip count => exact ⟨⟨rfl, rfl⟩, hcount count, hnone⟩
  | take count => exact ⟨⟨rfl, rfl⟩, hnone, hcount count⟩
  | select shape => exact hlevel

/-- Folding and binding make plain levels of those that operators build, one of each. -/
theorem reduced_operated {s₁ s₂ : Select}
    (hfold : (operated database name documentType operators).level.FoldsTo s₁)
    (hbind : s₁.BindsTo store s₂) :
    (∃ levels : List Unit, Nest ⟨label 0, database, name, documentType⟩ (fun _ => Select.Plain)
      levels s₂) ∧
    List.Forall₂ (Select.ReducesTo store)
      (operated database name documentType operators).level.levels s₂.levels := by
  rcases nest_operated_plain database name documentType operators with ⟨_, hbuilt⟩
  rcases hbuilt.step (R := fun _ _ => True) (Q := fun (_ : Unit) => Select.Plain) keepsSource_folds
    (fun hplain hstep _ _ =>
      ⟨(), trivial, hplain.of_related (Expr.eq_of_isConstant Expr.FoldsTo.eq_of_isLeaf)
        hstep.related⟩) hfold
    with ⟨_, _, hfolded⟩
  rcases hfolded.step (R := fun _ _ => True) (Q := fun (_ : Unit) => Select.Plain)
    (keepsSource_binds store) (fun hplain hstep _ _ =>
      ⟨(), trivial, hplain.of_related (Expr.eq_of_isConstant Expr.BindsTo.eq_of_isLeaf)
        hstep.related⟩) hbind
    with ⟨levels, _, hbound⟩
  refine ⟨⟨levels, hbound⟩, ?_⟩
  have hlevels := (hbuilt.levels_step keepsSource_folds hfold).2
  have hlevels' := (hfolded.levels_step (keepsSource_binds store) hbind).2
  exact forall₂_comp (fun hstep hstep' => ⟨_, hstep.1, hstep'.1, hstep.2⟩) hlevels hlevels'

theorem Select.inside_withOrder (s : Select) (order : List (Direction × Expr)) :
    (s.withOrder order).inside = s.inside := by
  rcases s with ⟨label, fields, source, filter, order', group, distinct, skip, take⟩
  cases source with
  | none => rfl
  | some e => cases e <;> rfl

theorem restrict_eq_asking (s : Select) (p : RowProjection) :
    ∃ fields, s.restrict p = s.asking fields := by
  unfold Select.restrict
  split
  · exact ⟨p.declarations, rfl⟩
  · exact ⟨s.fields, s.asking_own.symm⟩

/-- An accepted query has levels whose query object has its sort document. -/
theorem exists_accepted {q : QueryObject}
    (h : (operated database name documentType operators).compile store = .ok q) :
    ∃ s₁ s₂ fields q₁, (operated database name documentType operators).level.FoldsTo s₁ ∧
      s₁.BindsTo store s₂ ∧ (((s₂.hoist true).run {}).1.asking fields).queryObject = .ok q₁ ∧
      q.order = q₁.order := by
  rw [QueryBuilder.compile, QueryBuilder.toExpr] at h
  split at h
  next projector _ =>
    rcases compile_projection_eq_ok.mp h with ⟨s₁, s₂, e₁, e₂, q₁, hfold, hbind, _, _, hq₁, hq⟩
    rcases restrict_eq_asking ((s₂.hoist true).run {}).1
      ((e₂.hoist true).run ((s₂.hoist true).run {}).2).1.project with ⟨fields, hfields⟩
    rw [hfields] at hq₁
    exact ⟨s₁, s₂, fields, q₁, hfold, hbind, hq₁, by rw [addGrouping_order hq]⟩
  next =>
    rcases compile_select_eq_ok.mp h with ⟨s₁, s₂, q₁, hfold, hbind, hq₁, hq⟩
    rw [← Select.asking_own ((s₂.hoist true).run {}).1] at hq₁
    exact ⟨s₁, s₂, _, q₁, hfold, hbind, hq₁, by rw [addGrouping_order hq]⟩

end

/-! ### The keys of calls -/

/-- The key that an operator sorts by, if its function is given a row. -/
def Operator.key? (row : Expr) : Operator → Option (Direction × Expr)
  | orderBy direction key | thenBy direction key => some (direction, key row)
  | _ => none

/-- A key is that of one of the operators, whose function is given what the rows are there. -/
def KeyGiven (database name : String) (documentType : MemberType) (operators : List Operator)
    (key : Direction × Expr) : Prop :=
  ∃ before o after, operators = before ++ o :: after ∧
    o.key? (operated database name documentType before).row = some key

/-- An operator adds its own key to those on the levels. -/
theorem mem_order_extend {o : Operator} {q : QueryBuilder} {s : Select} {key : Direction × Expr}
    (hs : s ∈ (o.extend q).level.levels) (hkey : key ∈ s.order) :
    o.key? q.row = some key ∨ ∃ s' ∈ q.level.levels, key ∈ s'.order := by
  -- All operators but two put a level around the query, and differ in what keys it has.
  have hwrap : ∀ outermost : Select, outermost.source = some (.select q.level) →
      (∀ key ∈ outermost.order, o.key? q.row = some key) → s ∈ outermost.levels →
      o.key? q.row = some key ∨ ∃ s' ∈ q.level.levels, key ∈ s'.order := by
    intro outermost hsource hown hs
    rw [Select.levels, Select.inside_of_select hsource] at hs
    rcases List.mem_cons.mp hs with rfl | hs
    · exact .inl (hown key hkey)
    · exact .inr ⟨s, hs, hkey⟩
  cases o with
  | filter predicate | skip count | take count | distinct =>
      exact hwrap _ rfl (List.forall_mem_nil _) hs
  | orderBy direction key' =>
      refine hwrap _ rfl ?_ hs
      intro key hkey
      rw [List.mem_singleton.mp hkey]
      rfl
  | select shape => exact .inr ⟨s, hs, hkey⟩
  | thenBy direction key' =>
      rcases List.mem_cons.mp hs with rfl | hs
      · rcases List.mem_append.mp hkey with hkey | hkey
        · exact .inr ⟨q.level, List.mem_cons_self, hkey⟩
        · rw [List.mem_singleton.mp hkey]
          exact .inl rfl
      · have hinside := Select.inside_withOrder q.level (q.level.order ++ [(direction, key' q.row)])
        exact .inr ⟨s, List.mem_cons_of_mem _ (hinside ▸ hs), hkey⟩

/-- The keys on the levels of a query are those of its operators. -/
theorem keyGiven_of_mem_order {database name : String} {documentType : MemberType}
    {operators : List Operator} {s : Select} {key : Direction × Expr}
    (hs : s ∈ (operated database name documentType operators).level.levels) (hkey : key ∈ s.order) :
    KeyGiven database name documentType operators key := by
  -- Each operator adds its own key, and what the operators before it built is inside.
  induction operators using List.reverseRecOn generalizing s with
  | nil =>
      rw [Select.levels, Select.inside_of_collection rfl] at hs
      rw [List.mem_singleton.mp hs] at hkey
      cases hkey
  | append_singleton operators o ih =>
      rw [operated_concat] at hs
      rcases mem_order_extend hs hkey with hown | ⟨s', hs', hkey'⟩
      · exact ⟨operators, o, [], rfl, hown⟩
      · rcases ih hs' hkey' with ⟨before, o', after, rfl, hgiven⟩
        exact ⟨before, o', after ++ [o], by rw [List.append_assoc, List.cons_append], hgiven⟩

/-! ### Queries -/

/-- The keys of a query that is accepted. On the outermost level and on those that skip or
    take rows each of them is a field after folding and binding. If all other keys are too,
    then the paths in the sort document are those of keys that were given to its operators. -/
theorem QueryBuilder.order_reads_fields {database name : String} {documentType : MemberType}
    {operators : List Operator} {store : Option Store} {q : QueryObject}
    (h : (operated database name documentType operators).compile store = .ok q) :
    let levels := (operated database name documentType operators).level.levels
    (∀ (i : Nat) (s : Select), levels[i]? = some s → s.keepsKeys (i == 0) = true →
      ∀ key ∈ s.order, ∃ path, key.2.ReadsField store s.sourceRows path) ∧
    ((∀ s ∈ levels, ∀ f ∈ s.filter, f.Tidy) →
      (∀ s ∈ levels, ∀ key ∈ s.order, ∃ path, key.2.ReadsField store s.sourceRows path) →
      ∀ path ∈ q.order.keys, ∃ s ∈ levels, ∃ key ∈ s.order,
        key.2.ReadsField store s.sourceRows path ∧
          KeyGiven database name documentType operators key) := by
  intro levels
  rcases exists_accepted h with ⟨s₁, s₂, fields, q₁, hfold, hbind, hq₁, horder⟩
  rcases reduced_operated hfold hbind with ⟨⟨nested, hnest⟩, hreduced⟩
  constructor
  · -- A level is accepted with its bound keys, and these are what its own are reduced to.
    intro i s hs hkeeps
    have hrel := rel_getElem? hreduced i
    rw [hs] at hrel
    generalize hs' : s₂.levels[i]? = level at hrel
    cases hrel with
    | some hlevel =>
        have hkept := hnest.accepted_kept hq₁ i _ hs'
        rw [Bool.true_and, hlevel.keepsKeys_eq] at hkept
        exact hlevel.readsField (hkept hkeeps)
  · -- The paths that the given keys read are those that are gathered.
    intro htidy hreads
    obtain ⟨paths, hpaths⟩ : ∃ paths : String → Prop, paths = fun path =>
        ∃ s ∈ levels, ∃ key ∈ s.order, key.2.ReadsField store s.sourceRows path := ⟨_, rfl⟩
    have hover : Nest ⟨label 0, database, name, documentType⟩
        (fun _ => Nest.LevelOver paths) nested s₂ := by
      refine hnest.imp_of_levels fun level hlevel _ hplain => ?_
      rcases exists_left_of_forall₂ hreduced hlevel with ⟨s, hs, hreduce⟩
      refine ⟨hplain, hreduce.tidy (htidy s hs), hreduce.keysOver fun key hkey => ?_⟩
      rcases hreads s hs key hkey with ⟨path, hpath⟩
      exact ⟨path, hpath, hpaths ▸ ⟨s, hs, key, hkey, hpath⟩⟩
    rw [horder]
    intro path hpath
    have hgiven := (hover.accepted_over hq₁).2 path hpath
    rw [hpaths] at hgiven
    rcases hgiven with ⟨s, hs, key, hkey, hread⟩
    exact ⟨s, hs, key, hkey, hread, keyGiven_of_mem_order hs hkey⟩

namespace Computed

/-- Whoever is of age. -/
def adults (row : Expr) : Expr :=
  .binary .greater (.member row "Age") (.constant (.int32 17))

/-- The age in a year. -/
def nextAge (row : Expr) : Expr :=
  .binary .add (.member row "Age") (.constant (.int32 1))

theorem tidy_adults (label : String) : (adults (.parameter label)).Tidy :=
  .binary .greater (.member (.parameter label) "Age") (.constant (.int32 17))

/-- The first five adults by name and age. -/
def byName : List Operator :=
  [.orderBy .descending fun row => .member (.member row "Name") "First",
    .thenBy .ascending fun row => .member row "Age", .filter adults, .take 5]

/-- The keys are fields, and the sort document has the paths that were given. -/
theorem order_of_members :
    ∃ q, (operated "db" "people" .document byName).compile none = .ok q ∧
      q.order.keys = ["Name.First", "Age"] ∧
      ∀ path ∈ q.order.keys, ∃ s ∈ (operated "db" "people" .document byName).level.levels,
        ∃ key ∈ s.order, key.2.ReadsField none s.sourceRows path ∧
          KeyGiven "db" "people" .document byName key := by
  have hcompile : QueryObject.order <$> (operated "db" "people" .document byName).compile none =
      .ok ⟨[("Name.First", .int32 (-1)), ("Age", .int32 1)]⟩ := by rfl
  rcases Except.map_eq_ok.mp hcompile with ⟨q, hq, horder⟩
  have hlevels : (operated "db" "people" .document byName).level.levels.map (fun s =>
      (s.filter, s.sourceRows, s.order)) =
        [(none, ⟨"t3", none⟩, []), (some (adults (.parameter "t2")), ⟨"t2", none⟩, []),
          (none, ⟨"t1", none⟩, [(.descending, .member (.member (.parameter "t1") "Name") "First"),
            (.ascending, .member (.parameter "t2") "Age")]), (none, ⟨"t0", none⟩, [])] := rfl
  have hclauses : ∀ s ∈ (operated "db" "people" .document byName).level.levels,
      (s.filter, s.sourceRows, s.order) ∈ _ := fun s hs => hlevels ▸ List.mem_map_of_mem hs
  simp only [List.mem_cons, List.not_mem_nil, or_false, Prod.mk.injEq] at hclauses
  refine ⟨q, hq, by rw [horder]; rfl, (QueryBuilder.order_reads_fields hq).2 ?_ ?_⟩
  · intro s hs f hf
    rcases hclauses s hs with ⟨hs, _⟩ | ⟨hs, _⟩ | ⟨hs, _⟩ | ⟨hs, _⟩ <;> rw [hs] at hf <;> cases hf
    exact tidy_adults "t2"
  · intro s hs key hkey
    rcases hclauses s hs with ⟨_, _, hs⟩ | ⟨_, _, hs⟩ | ⟨_, hrows, hs⟩ | ⟨_, _, hs⟩ <;>
      rw [hs] at hkey
    case inr.inr.inl =>
      simp only [List.mem_cons, List.not_mem_nil, or_false] at hkey
      rw [hrows]
      rcases hkey with rfl | rfl
      · exact ⟨_, _, _, ⟨_, ⟨0, 0, rfl⟩, rfl⟩, rfl, rfl⟩
      · exact ⟨_, _, _, ⟨_, ⟨0, 0, rfl⟩, rfl⟩, rfl, rfl⟩
    all_goals cases hkey

/-- The age in a year as the key of a query that filters. -/
def byNextAge : List Operator :=
  [.orderBy .ascending nextAge, .filter adults]

/-- A computed key of a level that only hands its keys on is accepted, and the sort document
    has the name that was made up for it. -/
theorem order_of_computed_key :
    ∃ q, (operated "db" "people" .document byNextAge).compile none = .ok q ∧
      q.order.keys = ["_$f0"] ∧
      ∃ s ∈ (operated "db" "people" .document byNextAge).level.levels, ∃ key ∈ s.order,
        KeyGiven "db" "people" .document byNextAge key ∧
          ∀ path, ¬ key.2.ReadsField none s.sourceRows path := by
  have hcompile : QueryObject.order <$> (operated "db" "people" .document byNextAge).compile none =
      .ok ⟨[("_$f0", .int32 1)]⟩ := by rfl
  rcases Except.map_eq_ok.mp hcompile with ⟨q, hq, horder⟩
  have hlevel : ∃ s, (operated "db" "people" .document byNextAge).level.levels[1]? = some s ∧
      s.sourceRows = ⟨"t1", none⟩ ∧ s.order = [(.ascending, nextAge (.parameter "t1"))] :=
    ⟨_, rfl, rfl, rfl⟩
  rcases hlevel with ⟨s, hs, hrows, hkeys⟩
  have hkey : (Direction.ascending, nextAge (.parameter "t1")) ∈ s.order := by
    rw [hkeys]
    exact List.mem_cons_self
  refine ⟨q, hq, by rw [horder]; rfl, s, List.mem_of_getElem? hs, _, hkey, ?_, ?_⟩
  · exact keyGiven_of_mem_order (List.mem_of_getElem? hs) hkey
  · -- What it is reduced to is still a sum.
    rintro path ⟨e, f, hreduce, hf, _⟩
    have hsum : (nextAge (.parameter "t1")).ReducesTo none s.sourceRows
        (.binary .add (.field ⟨"t1", "Age"⟩) (.constant (.int32 1))) := by
      rw [hrows]
      exact ⟨_, ⟨0, 0, rfl⟩, rfl⟩
    rw [hreduce.unique hsum] at hf
    cases hf

end Computed

end DocumentMapper
