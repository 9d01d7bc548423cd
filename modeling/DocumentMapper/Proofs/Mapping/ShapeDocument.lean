import DocumentMapper.Mapping.Lowering
import DocumentMapper.Proofs.Data.Except
import DocumentMapper.Proofs.Data.List
import DocumentMapper.Proofs.Value.Document

/-!
# The document of a shape

A shape is lowered name by name: the discriminator first, if there is one, and then the
parts under their names. Where these names are different and none is the discriminator's,
nothing is left out and nothing replaced, so the document is the discriminator followed by
the parts (`lower_eq`). What is left for each form of objects is what stands under one
name.

Two shapes with the same names have documents that are as close to each other as what they
have under each name (`lower_follows`), whether the names are different or not.

Documents and samples have their parts under keys. Which key is asked for under a stored
name, and as what its content is declared, depends on the class map only (`partSource`), so
these shapes differ in what stands for the absent and in nothing else (`partValue`).

## Main definitions

* `Shape.lowerPart`: A part under its name.
* `partSource`: The key and the declared type of what is stored under a name.
* `partValue`: What an object with keys has under a stored name.

## Theorems

* `propertyNames_eq`: The names of a shape.
* `lower_eq`, `lower_eq_ok_iff`: The document of a shape.
* `get?_of_lower`: What its document has under a name.
* `lower_follows`, `partValue_follows`: The documents of two shapes that are alike under each
  name, and objects that are alike under each key.
* `lowerPart_document`, `lowerPart_mapped`, `lowerPart_sample`: The parts of objects with keys.
* `Value.lower_plain`: What no class map interprets is stored as it is.
* `Document.lower_ofClass`, `lowerSample_ofClass`: Which shape an object with keys has.
-/

namespace DocumentMapper

namespace Shape

/-- What a shape has under a name apart from its discriminator. -/
def lowerPart (sh : Shape Lowering) (name : String) : Except MappingError (String × Value) := do
  let (type, content) ← sh.partProperty name
  return (name, ← content.lower type)

variable {sh : Shape Lowering} {name : String} {names : List String}

theorem fst_of_lowerProperty {field : String × Value} (h : sh.lowerProperty name = .ok field) :
    field.1 = name := by
  unfold lowerProperty at h
  rcases Except.bind_eq_ok.mp h with ⟨property, _, h⟩
  rcases Except.bind_eq_ok.mp h with ⟨v, _, hpair⟩
  rw [← Except.ok.inj hpair]

/-- Under a name that is not the discriminator's, the parts are asked. -/
theorem lowerProperty_eq_lowerPart (h : ∀ tag ∈ sh.discriminator?, tag.1 ≠ name) :
    sh.lowerProperty name = sh.lowerPart name := by
  unfold lowerProperty lowerPart property
  cases hd : sh.discriminator? with
  | none => rfl
  | some tag =>
      dsimp only
      rw [if_neg (h tag hd)]

theorem lowerProperty_discriminator {tag : String × Value} (h : sh.discriminator? = some tag) :
    sh.lowerProperty tag.1 = .ok tag := by
  unfold lowerProperty property
  rw [h]
  dsimp only
  rw [if_pos rfl]
  rfl

/-- The names of the parts stand as they are if none of them is the discriminator's. -/
theorem propertyNames_eq (hnames : sh.partNames = .ok names)
    (htag : ∀ tag ∈ sh.discriminator?, tag.1 ∉ names) :
    sh.propertyNames = .ok (sh.discriminator?.toList.map Prod.fst ++ names) := by
  unfold propertyNames
  rw [hnames]
  cases hd : sh.discriminator? with
  | none => rfl
  | some tag =>
      refine Except.bind_eq_ok.mpr ⟨_, rfl, ?_⟩
      dsimp only
      rw [List.filter_eq_self.mpr]
      · rfl
      · intro other hother
        rw [bne_iff_ne]
        rintro rfl
        exact htag tag hd hother

/-- Different names are different with that of a discriminator that is none of them. -/
theorem nodup_tag_names {discriminator : Option (String × Value)} (hnodup : names.Nodup)
    (htag : ∀ tag ∈ discriminator, tag.1 ∉ names) :
    (discriminator.toList.map Prod.fst ++ names).Nodup := by
  cases discriminator with
  | none => exact hnodup
  | some tag => exact List.nodup_cons.mpr ⟨htag tag rfl, hnodup⟩

/-- A shape whose parts have different names, none of which is the discriminator's, is
    lowered to its discriminator and its parts. -/
theorem lower_eq (hnames : sh.partNames = .ok names) (hnodup : names.Nodup)
    (htag : ∀ tag ∈ sh.discriminator?, tag.1 ∉ names) :
    sh.lower =
      (fun fields => ⟨sh.discriminator?.toList ++ fields⟩) <$> names.mapM sh.lowerPart := by
  have htags : (sh.discriminator?.toList.map Prod.fst).mapM sh.lowerProperty =
      .ok sh.discriminator?.toList := by
    cases hd : sh.discriminator? with
    | none => rfl
    | some tag =>
        refine Except.mapM_eq_ok.mpr (.cons ?_ .nil)
        exact lowerProperty_discriminator hd
  have hparts : names.mapM sh.lowerProperty = names.mapM sh.lowerPart := by
    refine Except.mapM_congr fun other hother => lowerProperty_eq_lowerPart fun tag hd heq => ?_
    exact htag tag hd (heq ▸ hother)
  unfold lower
  rw [propertyNames_eq hnames htag, Except.ok_bind, List.mapM_append, htags, Except.ok_bind,
    ← hparts]
  cases hfields : names.mapM sh.lowerProperty with
  | error e => rfl
  | ok fields =>
      -- Parts keep their names, so the names of the fields are those asked for and differ.
      have hfst : names = fields.map Prod.fst := by
        have hsame := map_eq_map_of_forall₂ (Except.mapM_eq_ok.mp hfields)
          (f := id) (g := Prod.fst) fun _ _ hfield => (fst_of_lowerProperty hfield).symm
        rw [← hsame, List.map_id]
      have hdistinct := nodup_tag_names hnodup htag
      rw [hfst, ← List.map_append] at hdistinct
      have hlist := Fields.ofList_of_nodup hdistinct
      exact congrArg (fun all => (.ok ⟨all⟩ : Except MappingError Document)) hlist

/-- The document of such a shape, part by part. -/
theorem lower_eq_ok_iff (hnames : sh.partNames = .ok names) (hnodup : names.Nodup)
    (htag : ∀ tag ∈ sh.discriminator?, tag.1 ∉ names) {d : Document} :
    sh.lower = .ok d ↔
      ∃ fields, List.Forall₂ (fun part field => sh.lowerPart part = .ok field) names fields ∧
        d = ⟨sh.discriminator?.toList ++ fields⟩ := by
  rw [lower_eq hnames hnodup htag, Except.map_eq_ok]
  constructor
  · rintro ⟨fields, hfields, rfl⟩
    exact ⟨fields, Except.mapM_eq_ok.mp hfields, rfl⟩
  · rintro ⟨fields, hfields, rfl⟩
    exact ⟨fields, Except.mapM_eq_ok.mpr hfields, rfl⟩

/-- A name of a shape is the discriminator's or that of a part. -/
theorem mem_propertyNames {all : List String} (hnames : sh.partNames = .ok names)
    (hall : sh.propertyNames = .ok all) (hname : name ∈ all) :
    (∃ tag, sh.discriminator? = some tag ∧ tag.1 = name) ∨
      name ∈ names ∧ ∀ tag ∈ sh.discriminator?, tag.1 ≠ name := by
  unfold propertyNames at hall
  rw [hnames, Except.ok_bind] at hall
  cases hd : sh.discriminator? with
  | none =>
      rw [hd] at hall
      rw [← Except.ok.inj hall] at hname
      refine .inr ⟨hname, ?_⟩
      intro tag htag
      cases htag
  | some tag =>
      rw [hd] at hall
      rw [← Except.ok.inj hall] at hname
      rcases List.mem_cons.mp hname with hfirst | hpart
      · exact .inl ⟨tag, rfl, hfirst.symm⟩
      · rcases List.mem_filter.mp hpart with ⟨hpart, hne⟩
        refine .inr ⟨hpart, ?_⟩
        rintro _ ⟨⟩
        exact (bne_iff_ne.mp hne).symm

/-- Under the name of a part that is not the discriminator's there is a property. -/
theorem exists_propertyNames (hnames : sh.partNames = .ok names) (hname : name ∈ names)
    (hne : ∀ tag ∈ sh.discriminator?, tag.1 ≠ name) :
    ∃ all, sh.propertyNames = .ok all ∧ name ∈ all := by
  unfold propertyNames
  rw [hnames, Except.ok_bind]
  cases hd : sh.discriminator? with
  | none => exact ⟨names, rfl, hname⟩
  | some tag =>
      refine ⟨_, rfl, List.mem_cons_of_mem _ (List.mem_filter.mpr ⟨hname, ?_⟩)⟩
      exact bne_iff_ne.mpr (hne tag hd).symm

/-- What is under a name in the document of a shape depends on the name only, even if the
    name stands twice. -/
theorem get?_of_lower {d : Document} (hnames : sh.propertyNames = .ok names)
    (hd : sh.lower = .ok d) (hname : name ∈ names) :
    ∃ v, sh.lowerProperty name = .ok (name, v) ∧ d.get? name = some v := by
  unfold lower at hd
  rw [hnames, Except.ok_bind] at hd
  rcases Except.bind_eq_ok.mp hd with ⟨fields, hfields, hd⟩
  have hitems := Except.mapM_eq_ok.mp hfields
  rcases exists_right_of_forall₂ hitems hname with ⟨⟨key, v⟩, hmem, hv⟩
  have hkey : key = name := fst_of_lowerProperty hv
  subst hkey
  refine ⟨v, hv, ?_⟩
  rw [← Except.ok.inj hd]
  refine Fields.lookup_ofList hmem ?_
  -- A name may be asked for twice, but then it is lowered to the same value both times.
  intro other hother
  rcases exists_left_of_forall₂ hitems hother with ⟨name', _, hother'⟩
  have hname' : key = name' := fst_of_lowerProperty hother'
  rw [← hname', hv] at hother'
  exact (Prod.mk.inj (Except.ok.inj hother')).2.symm

/-- Two shapes with one discriminator and the same names of parts are lowered alike if their
    parts are. -/
theorem lower_follows {exact : Prop} {sh' : Shape Lowering}
    (hd : sh.discriminator? = sh'.discriminator?) (hnames : sh.partNames = .ok names)
    (hnames' : sh'.partNames = .ok names)
    (hparts : ∀ part ∈ names, Except.Follows exact (sh.lowerPart part) (sh'.lowerPart part)) :
    Except.Follows exact sh.lower sh'.lower := by
  have hsame : sh.propertyNames = sh'.propertyNames := by
    unfold propertyNames
    rw [hnames, hnames', hd]
  unfold lower
  rw [← hsame]
  refine (Except.Follows.of_eq rfl).bind fun all hall => ?_
  refine (Except.Follows.mapM fun part hpart => ?_).bind fun _ _ => .of_eq rfl
  rcases mem_propertyNames hnames hall hpart with ⟨tag, htag, rfl⟩ | ⟨hpart, hne⟩
  · rw [lowerProperty_discriminator htag, lowerProperty_discriminator (hd ▸ htag)]
    exact .of_eq rfl
  · rw [lowerProperty_eq_lowerPart hne, lowerProperty_eq_lowerPart (hd ▸ hne)]
    exact hparts part hpart

end Shape

/-! ### Objects with keys -/

/-- The key that the part under a stored name has in its object, and what it is declared as: the
    name and type of the member that is stored so, or the stored name without expectation. -/
def partSource (c : Option ClassMap) (name : String) : String × MemberType :=
  match c.bind (·.memberStoredAs? name) with
  | some m => (m.name, m.type)
  | none => (name, .any)

/-- What an object with keys has under a stored name. -/
def partValue (c : Option ClassMap) (absent : String → Except MappingError Value)
    (fields : List (String × Lowering)) (name : String) : Except MappingError Value :=
  (fields.lookup (partSource c name).1).getD (fun _ => absent name) (partSource c name).2

/-- Two objects with the same keys are as close to each other under a stored name as the
    contents that are asked for. -/
theorem partValue_follows {α : Type} {exact : Prop} {c : Option ClassMap} {name : String}
    {absent absent' : String → Except MappingError Value} {fields : List (String × α)}
    {f g : α → Lowering} (habsent : Except.Follows exact (absent name) (absent' name))
    (hcontents : ∀ a, fields.lookup (partSource c name).1 = some a →
      Except.Follows exact (f a (partSource c name).2) (g a (partSource c name).2)) :
    Except.Follows exact
      (partValue c absent (fields.map fun field => (field.1, f field.2)) name)
      (partValue c absent' (fields.map fun field => (field.1, g field.2)) name) := by
  unfold partValue
  rw [Fields.lookup_map fun _ => f, Fields.lookup_map fun _ => g]
  cases hlookup : fields.lookup (partSource c name).1 with
  | none => exact habsent
  | some a => exact hcontents a hlookup

/-- A document that is declared as a class has null for the members that it has not. -/
def absentMember (c : ClassMap) (name : String) : Except MappingError Value :=
  if (c.memberStoredAs? name).isSome then .ok .null else .error (.memberNotFound c.name name)

namespace Shape

theorem lowerPart_document (fields : List (String × Lowering)) (name : String) :
    (document fields).lowerPart name = (name, ·) <$>
      partValue none (fun name => .error (.memberNotFound "document" name)) fields name := by
  unfold lowerPart partValue partSource
  rw [partProperty, Option.bind_none]
  dsimp only [partUnder]
  cases fields.lookup name <;> rfl

theorem lowerPart_mapped (c : ClassMap) (fields : List (String × Lowering)) (name : String) :
    (mapped c fields).lowerPart name =
      (name, ·) <$> partValue (some c) (absentMember c) fields name := by
  unfold lowerPart partValue partSource absentMember
  rw [partProperty, Option.bind_some]
  cases c.memberStoredAs? name with
  | some m =>
      dsimp only
      cases fields.lookup m.name <;> rfl
  | none =>
      dsimp only [partUnder]
      cases fields.lookup name <;> rfl

theorem lowerPart_sample (c : Option ClassMap) (fields : List (String × Lowering)) (name : String) :
    (sample c fields).lowerPart name = (name, ·) <$>
      partValue c (fun name => .error (.memberNotFound "example object" name)) fields name := by
  unfold lowerPart partValue partSource
  rw [partProperty]
  cases c.bind (·.memberStoredAs? name) with
  | some m =>
      dsimp only
      cases fields.lookup m.name <;> rfl
  | none =>
      dsimp only [partUnder]
      cases fields.lookup name <;> rfl

end Shape

/-! ### Values, and the lowerings of fields -/

theorem MemberType.involvesClass_elementType {type : MemberType}
    (htype : type.involvesClass = false) : type.elementType.involvesClass = false := by
  cases type with
  | collection element => exact htype
  | _ => rfl

/-- A value that no class map interprets is stored as it is. -/
theorem Value.lower_plain (s : Store) (v : Value) {type : MemberType}
    (htype : type.involvesClass = false) : v.lower s type = .ok v := by
  unfold lower
  rw [htype]
  exact if_neg Bool.false_ne_true

theorem Value.lower_null (s : Store) (type : MemberType) : null.lower s type = .ok .null := by
  unfold lower
  cases type.involvesClass <;> rfl

theorem valueLowerings_eq_map (s : Store) (fields : List (String × Value)) :
    valueLowerings s fields =
      fields.map fun field => (field.1, fun type => field.2.lower s type) := by
  induction fields with
  | nil => rfl
  | cons field rest ih => rw [valueLowerings, ih, List.map_cons]

theorem instanceLowerings_eq_map (s : Store) (members : List (String × Instance)) :
    instanceLowerings s members =
      members.map fun member => (member.1, fun type => member.2.lower s type) := by
  induction members with
  | nil => rfl
  | cons member rest ih => rw [instanceLowerings, ih, List.map_cons]

theorem lowerValues_eq_mapM (s : Store) (values : List Value) (type : MemberType) :
    lowerValues s values type = values.mapM fun v => v.lower s type := by
  induction values with
  | nil => rfl
  | cons v rest ih => rw [lowerValues, ih, List.mapM_cons]

theorem lowerInstances_eq_mapM (s : Store) (items : List Instance) (type : MemberType) :
    lowerInstances s items type = items.mapM fun i => i.lower s type := by
  induction items with
  | nil => rfl
  | cons i rest ih => rw [lowerInstances, ih, List.mapM_cons]

section Class

variable {s : Store} {name : String} {c : ClassMap}

/-- A document that is declared as a class has the shape of the class. -/
theorem Document.lower_ofClass (hc : s.find? name = some c) (d : Document) :
    d.lower s (.ofClass name) = (Shape.mapped c (valueLowerings s d.fields)).lower := by
  rcases d with ⟨fields⟩
  rw [Document.lower, lowerFields, Store.classMapOf?, Store.classMap, hc]
  rfl

theorem lowerSample_ofClass (hc : s.find? name = some c) (members : List (String × Lowering)) :
    lowerSample s members (.ofClass name) = (Shape.sample (some c) members).lower := by
  rw [lowerSample, Store.classMapOf?, Store.classMap, hc]
  rfl

end Class

end DocumentMapper
