import DocumentMapper.Proofs.Mapping.ShapeDocument
import DocumentMapper.Proofs.Value.Canonical
import DocumentMapper.Proofs.Value.Keyed

/-!
# The document of an entity

The document of an entity is its discriminator, its members and its further fields, in
this order, provided that these are stored under different names (`ClassMap.Separates`).
Nothing is then left out and nothing replaced, so the fields of the document are known one
by one (`lower_fields`): the value under the name of a member is what its content lowers
to. What has to hold besides, if the entity is to come back, is `ClassMap.Stores`.

## Main definitions

* `Entity.content`: What an entity holds in a field.
* `ClassMap.Separates`: Members and further fields have different names.
* `ClassMap.Stores`: A class stores an entity under different names.
* `ClassMap.tagFields`: The field of the discriminator, if documents carry one.
* `StoredAs`: A field of the document holds a member.

## Theorems

* `memberStoredAs?_of_mem`: A member is found by its stored name.
* `lowerPart_entity`, `lowerPart_member`, `lowerPart_further`: One name.
* `lower_entity`: An entity is lowered through its class map.
* `lower_fields`: The fields of the document of an entity.
* `get?_lower`: What the document of an entity has under the name of a member.
-/

namespace DocumentMapper

/-- What an entity holds in a field; nothing in a field that it has not. -/
def Entity.content (e : Entity) (name : String) : Instance :=
  (e.get? name).getD .null

/-- A class stores an entity, with its further fields, under different names: its members
    are fields of the entity's own class, and their stored names differ from each other,
    from the names of the further fields, and from that of the discriminator. The further
    fields are read with the subtypes that they have. -/
structure ClassMap.Stores (c : ClassMap) (e : Entity) (further : KeyedDocument) : Prop where
  owned : ∀ m ∈ c.allMembers, m.owner = e.className
  differentNames : (c.allMembers.map Member.storedName).Nodup
  noTag : c.isPolymorphic = true → ∀ m ∈ c.allMembers, m.storedName ≠ c.discriminatorName
  readable : c.further e = .ok further.toDocument
  furtherCanonical : further.IsCanonical
  furtherNew : ∀ key ∈ further.keys, key ∉ c.allMembers.map Member.storedName
  furtherNoTag : c.isPolymorphic = true → ∀ key ∈ further.keys, key ≠ c.discriminatorName

/-- The members of a class and some further fields are stored under different names, none
    of which is that of the discriminator. -/
structure ClassMap.Separates (c : ClassMap) (further : KeyedDocument) : Prop where
  differentNames : (c.allMembers.map Member.storedName).Nodup
  noTag : c.isPolymorphic = true → ∀ m ∈ c.allMembers, m.storedName ≠ c.discriminatorName
  furtherNew : ∀ key ∈ further.keys, key ∉ c.allMembers.map Member.storedName
  furtherNoTag : c.isPolymorphic = true → ∀ key ∈ further.keys, key ≠ c.discriminatorName

theorem ClassMap.Stores.separates {c : ClassMap} {e : Entity} {further : KeyedDocument}
    (h : c.Stores e further) : c.Separates further where
  differentNames := h.differentNames
  noTag := h.noTag
  furtherNew := h.furtherNew
  furtherNoTag := h.furtherNoTag

/-- The field of the discriminator, if documents of the class carry one. -/
def ClassMap.tagFields (c : ClassMap) : List (String × Value) :=
  c.persistedDiscriminator?.toList

/-- A field of a document holds what a member of an entity lowers to. -/
def StoredAs (s : Store) (e : Entity) (m : Member) (field : String × Value) : Prop :=
  field.1 = m.storedName ∧ (e.content m.name).lower s m.type = .ok field.2

theorem ClassMap.persistedDiscriminator?_eq_some {c : ClassMap} {name : String} {v : Value}
    (h : c.persistedDiscriminator? = some (name, v)) :
    c.isPolymorphic = true ∧ name = c.discriminatorName ∧
      ∃ d, c.discriminator = some d ∧ v = d.toValue := by
  unfold persistedDiscriminator? at h
  cases hpoly : c.isPolymorphic with
  | false =>
      rw [hpoly] at h
      cases h
  | true =>
      rw [hpoly, if_pos rfl] at h
      rcases Option.map_eq_some_iff.mp h with ⟨d, hd, hpair⟩
      rcases Prod.mk.inj hpair with ⟨hname, hv⟩
      exact ⟨rfl, hname.symm, d, hd, hv.symm⟩

/-- A member is found by its stored name where no other member has it. -/
theorem ClassMap.memberStoredAs?_of_mem {c : ClassMap}
    (h : (c.allMembers.map Member.storedName).Nodup) {m : Member} (hm : m ∈ c.allMembers) :
    c.memberStoredAs? m.storedName = some m :=
  find?_of_nodup h hm

theorem ClassMap.memberStoredAs?_eq_none {c : ClassMap} {name : String}
    (h : name ∉ c.allMembers.map Member.storedName) : c.memberStoredAs? name = none :=
  find?_key_eq_none.mpr h

theorem lookup_instanceLowerings (s : Store) (fields : List (String × Instance)) (name : String) :
    (instanceLowerings s fields).lookup name =
      (fields.lookup name).map fun i type => i.lower s type := by
  rw [instanceLowerings_eq_map]
  exact Fields.lookup_map (fun _ i type => Instance.lower s i type) fields name

/-- The discriminator is stored under a name that is not one of the given ones. -/
theorem ClassMap.notMem_of_persisted {c : ClassMap} {names : List String}
    (h : c.isPolymorphic = true → c.discriminatorName ∉ names) :
    ∀ tag ∈ c.persistedDiscriminator?, tag.1 ∉ names := by
  rintro ⟨name, v⟩ htag
  rcases persistedDiscriminator?_eq_some htag with ⟨hpoly, rfl, _⟩
  exact h hpoly

/-! ### One name -/

section Property

variable {s : Store} {c : ClassMap} {e : Entity} {further : Document}

/-- The shape of an entity whose further fields were read. -/
def entityShape (s : Store) (c : ClassMap) (e : Entity) (further : Document) : Shape Lowering :=
  .entity c e.className (instanceLowerings s e.fields) (.ok further)

theorem partNames_entityShape :
    (entityShape s c e further).partNames =
      .ok (c.allMembers.map Member.storedName ++ further.keys) := by
  rfl

/-- Under a stored name, what the entity holds in the member is lowered, provided that it has
    the member. -/
theorem lowerPart_entity {name : String} {m : Member} (hm : c.memberStoredAs? name = some m) :
    (entityShape s c e further).lowerPart name =
      (do m.check ⟨e.className, []⟩
          (name, ·) <$> (e.content m.name).lower s m.type) := by
  unfold Shape.lowerPart
  rw [entityShape, Shape.partProperty, hm]
  dsimp only
  rw [lookup_instanceLowerings]
  unfold Entity.content Entity.get?
  cases m.check ⟨e.className, []⟩ with
  | error err => rfl
  | ok _ =>
      -- A field that the entity does not have is stored as null.
      cases e.fields.lookup m.name with
      | none =>
          rw [Option.map_none, Option.getD_none, Instance.lower]
          rfl
      | some i => rfl

theorem lowerPart_member (hnames : (c.allMembers.map Member.storedName).Nodup) {m : Member}
    (hm : m ∈ c.allMembers) {field : String × Value}
    (hfield : (entityShape s c e further).lowerPart m.storedName = .ok field) :
    StoredAs s e m field := by
  rw [lowerPart_entity (ClassMap.memberStoredAs?_of_mem hnames hm)] at hfield
  rcases Except.bind_eq_ok.mp hfield with ⟨_, _, hlower⟩
  rcases Except.map_eq_ok.mp hlower with ⟨v, hv, rfl⟩
  exact ⟨rfl, hv⟩

theorem lowerPart_further {further : KeyedDocument} (h : c.Separates further)
    {field : String × Value} (hfield : field ∈ further.fields) :
    (entityShape s c e further).lowerPart field.1 = .ok field := by
  have hkey : field.1 ∈ further.keys := List.mem_map.mpr ⟨field, hfield, rfl⟩
  have hget : further.get? field.1 = some field.2 :=
    Fields.lookup_of_mem further.nodup_keys hfield
  unfold Shape.lowerPart
  rw [entityShape, Shape.partProperty, ClassMap.memberStoredAs?_eq_none (h.furtherNew field.1 hkey)]
  dsimp only
  refine Except.bind_eq_ok.mpr ⟨(.any, .stored field.2), ?_, rfl⟩
  refine Except.bind_eq_ok.mpr ⟨further.toDocument, rfl, ?_⟩
  rw [hget]
  rfl

end Property

/-! ### All names -/

section Separate

variable {c : ClassMap} {further : KeyedDocument}

/-- The parts of an entity are stored under different names. -/
theorem ClassMap.Separates.nodup (h : c.Separates further) :
    (c.allMembers.map Member.storedName ++ further.keys).Nodup := by
  refine List.nodup_append.mpr ⟨h.differentNames, further.nodup_keys, ?_⟩
  intro name hname key hkey heq
  exact h.furtherNew key hkey (heq ▸ hname)

/-- None of these names is the discriminator's. -/
theorem ClassMap.Separates.notMem_tag (h : c.Separates further) :
    ∀ tag ∈ c.persistedDiscriminator?,
      tag.1 ∉ c.allMembers.map Member.storedName ++ further.keys := by
  refine ClassMap.notMem_of_persisted fun hpoly hmem => ?_
  rcases List.mem_append.mp hmem with hmem | hmem
  · rcases List.mem_map.mp hmem with ⟨m, hm, heq⟩
    exact h.noTag hpoly m hm heq
  · exact h.furtherNoTag hpoly _ hmem rfl

/-- The names under which an entity is stored are different. -/
theorem ClassMap.Separates.nodup_names (h : c.Separates further) :
    (c.tagFields.map Prod.fst ++ (c.allMembers.map Member.storedName ++ further.keys)).Nodup :=
  Shape.nodup_tag_names h.nodup h.notMem_tag

end Separate

/-- The class of an entity that is lowered is in the store. -/
theorem exists_class_of_lower {s : Store} {e : Entity} {d : Document} (hd : e.lower s = .ok d) :
    ∃ c, s.find? e.className = some c := by
  rcases e with ⟨className, fields⟩
  rw [Entity.lower, lowerEntity] at hd
  rcases Except.bind_eq_ok.mp hd with ⟨c, hc, _⟩
  unfold Store.classMap at hc
  cases hfound : s.find? className with
  | some found => exact ⟨found, rfl⟩
  | none =>
      dsimp only at hc
      rw [hfound] at hc
      cases hc

/-- An entity is lowered through the class map of its class. -/
theorem lower_entity {s : Store} {c : ClassMap} {e : Entity} (hc : s.find? e.className = some c) :
    e.lower s =
      (Shape.entity c e.className (instanceLowerings s e.fields) (c.further e)).lower := by
  rcases e with ⟨className, fields⟩
  rw [Entity.lower, lowerEntity, Store.classMap, hc]
  rfl

/-- Its further fields are read first. -/
theorem lower_eq_shape {s : Store} {c : ClassMap} {e : Entity} {d : Document}
    (hc : s.find? e.className = some c) (hd : e.lower s = .ok d) :
    ∃ further, c.further e = .ok further ∧ (entityShape s c e further).lower = .ok d := by
  rw [lower_entity hc] at hd
  cases hfurther : c.further e with
  | error err =>
      rw [hfurther] at hd
      cases hd
  | ok further =>
      rw [hfurther] at hd
      exact ⟨further, rfl, hd⟩

/-- The document of an entity: its discriminator, its members, and its further fields. -/
theorem lower_fields {s : Store} {c : ClassMap} {e : Entity} {further : KeyedDocument}
    {d : Document} (hc : s.find? e.className = some c) (h : c.Separates further)
    (hreadable : c.further e = .ok further.toDocument) (hd : e.lower s = .ok d) :
    ∃ memberFields, List.Forall₂ (StoredAs s e) c.allMembers memberFields ∧
      d.fields = c.tagFields ++ (memberFields ++ further.fields) := by
  rcases lower_eq_shape hc hd with ⟨further', hfurther', hd⟩
  rw [hreadable] at hfurther'
  rw [← Except.ok.inj hfurther'] at hd
  -- Further elements have names of their own and are stored as they are.
  have hfurther : further.keys.mapM (entityShape s c e further).lowerPart = .ok further.fields := by
    refine Except.mapM_eq_ok.mpr (List.forall₂_map_left_iff.mpr (List.forall₂_same.mpr ?_))
    intro field hfield
    exact lowerPart_further h hfield
  rw [Shape.lower_eq partNames_entityShape h.nodup h.notMem_tag, List.mapM_append, hfurther] at hd
  rcases Except.map_eq_ok.mp hd with ⟨fields, hfields, rfl⟩
  rcases Except.bind_eq_ok.mp hfields with ⟨memberFields, hmembers, hfields⟩
  have hstored := (List.forall₂_and_left _ _).mpr
    ⟨fun m hm => hm, List.forall₂_map_left_iff.mp (Except.mapM_eq_ok.mp hmembers)⟩
  refine ⟨memberFields, hstored.imp fun m field hfield => ?_, ?_⟩
  · exact lowerPart_member h.differentNames hfield.1 hfield.2
  · rw [← Except.ok.inj hfields]
    rfl

/-- Every member of an entity is in its document, whatever else is stored beside it. -/
theorem get?_lower {s : Store} {c : ClassMap} {e : Entity} {d : Document}
    (hc : s.find? e.className = some c) (hnames : (c.allMembers.map Member.storedName).Nodup)
    {m : Member} (hm : m ∈ c.allMembers) (htag : m.storedName ≠ c.discriminatorName)
    (hd : e.lower s = .ok d) :
    ∃ v, (e.content m.name).lower s m.type = .ok v ∧ d.get? m.storedName = some v := by
  rcases lower_eq_shape hc hd with ⟨further, _, hd⟩
  have hname : m.storedName ∈ c.allMembers.map Member.storedName ++ further.keys :=
    List.mem_append_left _ (List.mem_map.mpr ⟨m, hm, rfl⟩)
  -- A stored name that the discriminator has as well would be read as the discriminator.
  have hne : ∀ tag ∈ (entityShape s c e further).discriminator?, tag.1 ≠ m.storedName := by
    rintro ⟨name, v⟩ hpersisted rfl
    exact htag (ClassMap.persistedDiscriminator?_eq_some hpersisted).2.1
  rcases Shape.exists_propertyNames partNames_entityShape hname hne with ⟨names, hproperties, hname⟩
  rcases Shape.get?_of_lower hproperties hd hname with ⟨v, hv, hget⟩
  rw [Shape.lowerProperty_eq_lowerPart hne] at hv
  exact ⟨v, (lowerPart_member hnames hm hv).2, hget⟩

end DocumentMapper
