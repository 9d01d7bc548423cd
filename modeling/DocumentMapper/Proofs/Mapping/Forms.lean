import DocumentMapper.Proofs.Mapping.EntityDocument
import DocumentMapper.Proofs.Mapping.Store

/-!
# Entities, samples and documents of one content

An object of a class has three forms. An entity is stored through the class map of its
own class, a sample that lists the members through that of the type it is declared as, and
a document with the names of members as its keys likewise. The content of an entity can be
restated in the other two forms (`Entity.asSample`, `Entity.asDocument`), and so can the
entities that it contains, alone or in lists.

What is stored is the same for all three, if every entity inside is of the very class that
it is declared as (`Declared`): the other two forms know the class from the declaration
only. The members of each class need different names, since a sample and a document are
asked by name, and the entity may have no further fields. Stored names may coincide.

A sample inside an entity stays a sample in one form and becomes a document in the other.
A document has null for the members that it lacks where a sample is refused, so with
samples inside the document succeeds at least where the entity does; otherwise they fail
together, in the same way.

## Main definitions

* `Entity.asSample`, `Entity.asDocument`: The other forms of an entity.
* `ClassMap.Lists`: The members of a class are all that is stored of an entity.
* `Declared`: An instance whose entities are of the classes they are declared as.
* `Crates.store`: A store of two classes, for a check of all conditions.

## Theorems

* `Entity.lower_follows`: An object that lists the members of an entity is stored like it.
* `Declared.lower_asSample`, `Declared.lower_asValue`: Restated instances of any form.
* `forms_lower_alike`: An entity in its three forms.
-/

namespace DocumentMapper

/-- The members of a class by name, in the order of storage, with what some fields hold. -/
def Store.listed {α : Type} (s : Store) (className : String) (absent : α)
    (fields : List (String × α)) : List (String × α) :=
  match s.find? className with
  | some c => c.allMembers.map fun m => (m.name, (fields.lookup m.name).getD absent)
  | none => []

mutual

/-- An instance with samples in the place of entities. -/
def Instance.asSample (s : Store) : Instance → Instance
  | .null => .null
  | .value v => .value v
  | .entity e => .sample (e.asSample s)
  | .sample members => .sample (fieldsAsSamples s members)
  | .array items => .array (itemsAsSamples s items)

/-- The sample that lists the members of an entity. -/
def Entity.asSample (s : Store) : Entity → List (String × Instance)
  | ⟨className, fields⟩ => s.listed className .null (fieldsAsSamples s fields)

def itemsAsSamples (s : Store) : List Instance → List Instance
  | [] => []
  | i :: rest => i.asSample s :: itemsAsSamples s rest

def fieldsAsSamples (s : Store) : List (String × Instance) → List (String × Instance)
  | [] => []
  | (name, i) :: rest => (name, i.asSample s) :: fieldsAsSamples s rest

end

mutual

/-- An instance as a value, with documents in the place of entities and samples. -/
def Instance.asValue (s : Store) : Instance → Value
  | .null => .null
  | .value v => v
  | .entity e => .document (e.asDocument s)
  | .sample members => .document ⟨fieldsAsValues s members⟩
  | .array items => .array (itemsAsValues s items)

/-- The document that has the members of an entity under their names. -/
def Entity.asDocument (s : Store) : Entity → Document
  | ⟨className, fields⟩ => ⟨s.listed className .null (fieldsAsValues s fields)⟩

def itemsAsValues (s : Store) : List Instance → List Value
  | [] => []
  | i :: rest => i.asValue s :: itemsAsValues s rest

def fieldsAsValues (s : Store) : List (String × Instance) → List (String × Value)
  | [] => []
  | (name, i) :: rest => (name, i.asValue s) :: fieldsAsValues s rest

end

/-- The members of a class can be listed by name, and nothing else is stored of an entity. An
    entity holds nothing in members of other owners. -/
structure ClassMap.Lists (c : ClassMap) (e : Entity) : Prop where
  owned : ∀ m ∈ c.allMembers, m.owner = e.className
  differentNames : (c.allMembers.map Member.name).Nodup
  nothingFurther : c.further e = .ok .empty

/-- Every entity inside an instance of a declared type is of the class that it is declared
    as, and there are samples inside only if these are admitted. -/
inductive Declared (s : Store) (samples : Prop) : MemberType → Instance → Prop
  | null {type : MemberType} : Declared s samples type .null
  | value {type : MemberType} {v : Value} : Declared s samples type (.value v)
  | entity {c : ClassMap} {e : Entity} : s.find? e.className = some c → c.Lists e →
      (∀ m ∈ c.allMembers, Declared s samples m.type (e.content m.name)) →
      Declared s samples (.ofClass e.className) (.entity e)
  | sample {type : MemberType} {members : List (String × Instance)} : samples →
      (members.map Prod.fst).Nodup →
      (∀ c, s.classMapOf? type = .ok c → ∀ name i,
        members.lookup (partSource c name).1 = some i →
        Declared s samples (partSource c name).2 i) →
      Declared s samples type (.sample members)
  | array {type : MemberType} {items : List Instance} :
      (∀ i ∈ items, Declared s samples type.elementType i) →
      Declared s samples type (.array items)

/-! ### Restated contents -/

section Restated

variable (s : Store)

theorem itemsAsSamples_eq_map (items : List Instance) :
    itemsAsSamples s items = items.map (·.asSample s) := by
  induction items with
  | nil => rfl
  | cons i rest ih => rw [itemsAsSamples, ih, List.map_cons]

theorem fieldsAsSamples_eq_map (fields : List (String × Instance)) :
    fieldsAsSamples s fields = fields.map fun field => (field.1, field.2.asSample s) := by
  induction fields with
  | nil => rfl
  | cons field rest ih => rw [fieldsAsSamples, ih, List.map_cons]

theorem itemsAsValues_eq_map (items : List Instance) :
    itemsAsValues s items = items.map (·.asValue s) := by
  induction items with
  | nil => rfl
  | cons i rest ih => rw [itemsAsValues, ih, List.map_cons]

theorem fieldsAsValues_eq_map (fields : List (String × Instance)) :
    fieldsAsValues s fields = fields.map fun field => (field.1, field.2.asValue s) := by
  induction fields with
  | nil => rfl
  | cons field rest ih => rw [fieldsAsValues, ih, List.map_cons]

variable {s} {c : ClassMap} {e : Entity}

/-- What stands for the absent may be restated with the fields. -/
theorem Store.listed_map {α : Type} (hc : s.find? e.className = some c) {f : Instance → α} :
    s.listed e.className (f .null) (e.fields.map fun field => (field.1, f field.2)) =
      c.allMembers.map fun m => (m.name, f (e.content m.name)) := by
  unfold listed
  rw [hc]
  refine List.map_congr_left fun m _ => ?_
  rw [Fields.lookup_map fun _ => f]
  exact congrArg (m.name, ·) (Option.getD_map f .null (e.fields.lookup m.name))

theorem Entity.asSample_eq (hc : s.find? e.className = some c) :
    e.asSample s = c.allMembers.map fun m => (m.name, (e.content m.name).asSample s) := by
  rcases e with ⟨className, fields⟩
  rw [asSample, fieldsAsSamples_eq_map]
  exact Store.listed_map (f := (·.asSample s)) hc

theorem Entity.asDocument_eq (hc : s.find? e.className = some c) :
    e.asDocument s = ⟨c.allMembers.map fun m => (m.name, (e.content m.name).asValue s)⟩ := by
  rcases e with ⟨className, fields⟩
  rw [asDocument, fieldsAsValues_eq_map]
  exact congrArg Document.mk (Store.listed_map (f := (·.asValue s)) hc)

end Restated

/-! ### One entity -/

section Listed

variable {s : Store} {c : ClassMap} {e : Entity}

theorem ClassMap.storedNameOf_of_mem (h : (c.allMembers.map Member.name).Nodup) {m : Member}
    (hm : m ∈ c.allMembers) : c.storedNameOf m.name = m.storedName := by
  have hnamed : c.memberNamed? m.name = some m := find?_of_nodup h hm
  unfold storedNameOf
  rw [hnamed]
  rfl

/-- An object that has the members of a class under their names, with contents that are
    stored like those of an entity, is stored like the entity. -/
theorem Entity.lower_follows {exact : Prop} (hc : s.find? e.className = some c) (h : c.Lists e)
    {sh : Shape Lowering} {absent : String → Except MappingError Value}
    {fields : List (String × Lowering)} (contents : Member → Lowering)
    (hd : sh.discriminator? = c.persistedDiscriminator?)
    (hnames : sh.partNames = .ok (fields.map fun field => c.storedNameOf field.1))
    (hparts : ∀ name, sh.lowerPart name = (name, ·) <$> partValue (some c) absent fields name)
    (hfields : fields = c.allMembers.map fun m => (m.name, contents m))
    (hcontents : ∀ m ∈ c.allMembers,
      Except.Follows exact ((e.content m.name).lower s m.type) (contents m m.type)) :
    Except.Follows exact (e.lower s) sh.lower := by
  have hstored : fields.map (fun field => c.storedNameOf field.1) =
      c.allMembers.map Member.storedName ++ Document.empty.keys := by
    rw [hfields, List.map_map]
    refine Eq.trans (List.map_congr_left fun m hm => ?_) (List.append_nil _).symm
    exact ClassMap.storedNameOf_of_mem h.differentNames hm
  have hentity : e.lower s = (entityShape s c e .empty).lower := by
    rw [lower_entity hc, h.nothingFurther]
    rfl
  rw [hentity]
  refine Shape.lower_follows hd.symm partNames_entityShape (hstored ▸ hnames) fun name hname => ?_
  -- Of several members with one stored name all forms take the first.
  have hfound : ∃ m, c.memberStoredAs? name = some m := by
    rw [show Document.empty.keys = [] from rfl, List.append_nil] at hname
    cases hm : c.memberStoredAs? name with
    | some m => exact ⟨m, rfl⟩
    | none => exact absurd hname (find?_key_eq_none.mp hm)
  rcases hfound with ⟨m, hm⟩
  have hmem : m ∈ c.allMembers := (mem_of_find?_key hm).1
  have hcheck : m.check ⟨e.className, []⟩ = .ok () := if_pos (h.owned m hmem).symm
  have hlookup : fields.lookup m.name = some (contents m) := by
    have hnodup : (fields.map Prod.fst).Nodup := by
      rw [hfields, List.map_map]
      exact h.differentNames
    exact Fields.lookup_of_mem hnodup (hfields ▸ List.mem_map_of_mem hmem)
  rw [lowerPart_entity hm, hcheck, Except.ok_bind, hparts, partValue, partSource, Option.bind_some,
    hm, hlookup]
  exact (hcontents m hmem).map _

/-- An entity as a sample. -/
theorem Entity.lower_asSample (hc : s.find? e.className = some c) (h : c.Lists e)
    (hcontents : ∀ m ∈ c.allMembers,
      ((e.content m.name).asSample s).lower s m.type = (e.content m.name).lower s m.type) :
    lowerSample s (instanceLowerings s (e.asSample s)) (.ofClass e.className) = e.lower s := by
  rw [lowerSample_ofClass hc, Entity.asSample_eq hc, instanceLowerings_eq_map, List.map_map]
  have hfollows : Except.Follows True _ _ := Entity.lower_follows hc h
    (fun m type => ((e.content m.name).asSample s).lower s type) rfl rfl
    (Shape.lowerPart_sample _ _) rfl fun m hm => .of_eq (hcontents m hm).symm
  exact (hfollows.same trivial).symm

/-- An entity as a document. -/
theorem Entity.lower_asDocument {exact : Prop} (hc : s.find? e.className = some c)
    (h : c.Lists e) (hcontents : ∀ m ∈ c.allMembers, Except.Follows exact
      ((e.content m.name).lower s m.type) (((e.content m.name).asValue s).lower s m.type)) :
    Except.Follows exact (e.lower s) ((e.asDocument s).lower s (.ofClass e.className)) := by
  rw [Document.lower_ofClass hc, Entity.asDocument_eq hc, valueLowerings_eq_map, List.map_map]
  exact Entity.lower_follows hc h
    (fun m type => ((e.content m.name).asValue s).lower s type) rfl rfl
    (Shape.lowerPart_mapped c _) rfl hcontents

end Listed

/-! ### Objects with the same keys -/

section Keyed

variable {s : Store} {members : List (String × Instance)} {f g : Instance → Lowering}

/-- The keys of a sample do not depend on its contents. -/
theorem partNames_sample_map (c : Option ClassMap) (f : Instance → Lowering) :
    (Shape.sample c (members.map fun member => (member.1, f member.2))).partNames =
      .ok (members.map fun member => (c.map (·.storedNameOf member.1)).getD member.1) := by
  cases c <;> rw [Shape.partNames, List.map_map] <;> rfl

theorem lowerSample_follows {exact : Prop} {type : MemberType}
    (hcontents : ∀ c, s.classMapOf? type = .ok c → ∀ name i,
      members.lookup (partSource c name).1 = some i →
      Except.Follows exact (f i (partSource c name).2) (g i (partSource c name).2)) :
    Except.Follows exact
      (lowerSample s (members.map fun member => (member.1, f member.2)) type)
      (lowerSample s (members.map fun member => (member.1, g member.2)) type) := by
  unfold lowerSample
  refine (Except.Follows.of_eq rfl).bind fun c hc => ?_
  refine Shape.lower_follows rfl (partNames_sample_map c f) (partNames_sample_map c g) ?_
  intro name _
  rw [Shape.lowerPart_sample, Shape.lowerPart_sample]
  exact (partValue_follows (.of_eq rfl) (hcontents c hc name)).map _

/-- A document is refused less often than a sample with its contents. -/
theorem lowerFields_follows {exact : Prop} (hexact : ¬ exact) {type : MemberType}
    (hcontents : ∀ c, s.classMapOf? type = .ok c → ∀ name i,
      members.lookup (partSource c name).1 = some i →
      Except.Follows exact (f i (partSource c name).2) (g i (partSource c name).2)) :
    Except.Follows exact
      (lowerSample s (members.map fun member => (member.1, f member.2)) type)
      (lowerFields s (members.map fun member => (member.1, g member.2)) type) := by
  unfold lowerSample lowerFields
  refine (Except.Follows.of_eq rfl).bind fun c hc => ?_
  -- Without a class map the names are those of the members; with one it maps them to stored names.
  cases c with
  | none =>
      refine Shape.lower_follows rfl (partNames_sample_map none f) ?_ fun name _ => ?_
      · rw [Shape.partNames, List.map_map]
        rfl
      · rw [Shape.lowerPart_sample, Shape.lowerPart_document]
        exact (partValue_follows (.error hexact _ _) (hcontents none hc name)).map _
  | some c =>
      refine Shape.lower_follows rfl (partNames_sample_map (some c) f) ?_ fun name _ => ?_
      · rw [Shape.partNames, List.map_map]
        rfl
      · rw [Shape.lowerPart_sample, Shape.lowerPart_mapped]
        exact (partValue_follows (.error hexact _ _) (hcontents (some c) hc name)).map _

/-- Without a class a sample is stored with all its contents under their own names. -/
theorem lowerSample_plain {type : MemberType} (htype : s.classMapOf? type = .ok none)
    (hnodup : (members.map Prod.fst).Nodup) {value : Instance → Value}
    (hcontents : ∀ name i, members.lookup name = some i → f i .any = .ok (value i)) :
    lowerSample s (members.map fun member => (member.1, f member.2)) type =
      .ok ⟨members.map fun member => (member.1, value member.2)⟩ := by
  rw [lowerSample, htype, Except.ok_bind]
  have hnames : (Shape.sample none (members.map fun member => (member.1, f member.2))).partNames =
      .ok (members.map Prod.fst) := partNames_sample_map none f
  have htag : ∀ tag ∈ (none : Option (String × Value)), tag.1 ∉ members.map Prod.fst := by
    intro tag htag
    cases htag
  refine (Shape.lower_eq_ok_iff hnames hnodup htag).mpr ⟨_, ?_, rfl⟩
  rw [List.forall₂_map_left_iff, List.forall₂_map_right_iff, List.forall₂_same]
  intro member hmember
  have hlookup : members.lookup member.1 = some member.2 := Fields.lookup_of_mem hnodup hmember
  rw [Shape.lowerPart_sample, partValue, partSource, Option.bind_none]
  dsimp only
  rw [Fields.lookup_map fun _ => f, hlookup, Option.map_some, Option.getD_some,
    hcontents member.1 member.2 hlookup]
  rfl

end Keyed

/-! ### All instances -/

theorem Store.classMapOf?_eq_none (s : Store) {type : MemberType}
    (htype : type.involvesClass = false) : s.classMapOf? type = .ok none := by
  cases type with
  | ofClass name => cases htype
  | _ => rfl

namespace Declared

variable {s : Store} {samples : Prop} {type : MemberType} {i : Instance}

/-- The class that an entity is declared as. -/
theorem exists_class {e : Entity} (h : Declared s samples type (.entity e)) :
    ∃ c, s.find? e.className = some c ∧ c.Lists e ∧
      ∀ m ∈ c.allMembers, Declared s samples m.type (e.content m.name) := by
  cases h with
  | entity hc hlists hcontents => exact ⟨_, hc, hlists, hcontents⟩

/-- Samples in the place of entities make no difference. -/
theorem lower_asSample (h : Declared s samples type i) :
    (i.asSample s).lower s type = i.lower s type := by
  -- The declared type goes down with the recursion, so the induction is on the declaration.
  induction h with
  | null => rfl
  | value => rfl
  | entity hc hlists _ ih =>
      rw [Instance.asSample, Instance.lower, Instance.lower, Entity.lower_asSample hc hlists ih]
  | sample _ _ _ ih =>
      rw [Instance.asSample, Instance.lower, Instance.lower, fieldsAsSamples_eq_map,
        instanceLowerings_eq_map, instanceLowerings_eq_map, List.map_map]
      have hfollows : Except.Follows True _ _ := lowerSample_follows
        (f := fun i type => (i.asSample s).lower s type) (g := fun i type => i.lower s type)
        fun c hc name i hi => .of_eq (ih c hc name i hi)
      exact congrArg (Value.document <$> ·) (hfollows.same trivial)
  | array _ ih =>
      rw [Instance.asSample, Instance.lower, Instance.lower, itemsAsSamples_eq_map,
        lowerInstances_eq_mapM, lowerInstances_eq_mapM, List.mapM_map]
      exact congrArg (Value.array <$> ·) (Except.mapM_congr ih)

/-- What no class map interprets is stored as it is. -/
theorem lower_plain (h : Declared s samples type i) (htype : type.involvesClass = false) :
    i.lower s type = .ok (i.asValue s) := by
  induction h with
  | null => rfl
  | value =>
      rw [Instance.lower, Instance.asValue, Value.lower_plain s _ htype]
  | entity => cases htype
  | sample _ hnodup _ ih =>
      have hnone := s.classMapOf?_eq_none htype
      rw [Instance.lower, Instance.asValue, instanceLowerings_eq_map, fieldsAsValues_eq_map,
        lowerSample_plain (f := fun i type => i.lower s type) hnone hnodup
          fun name i hi => ih none hnone name i hi rfl]
      rfl
  | array _ ih =>
      have helement := MemberType.involvesClass_elementType htype
      have hitems := Except.mapM_eq_ok.mpr
        (List.forall₂_map_right_iff.mpr (List.forall₂_same.mpr fun i hi => ih i hi helement))
      rw [Instance.lower, Instance.asValue, lowerInstances_eq_mapM, itemsAsValues_eq_map, hitems]
      rfl

/-- What an instance is stored as, its value is stored as, too. Without samples they fail
    together. -/
theorem lower_asValue (h : Declared s samples type i) :
    Except.Follows (¬ samples) (i.lower s type) ((i.asValue s).lower s type) := by
  induction h with
  | null =>
      refine .of_eq ?_
      rw [Instance.lower, Instance.asValue, Value.lower_null]
  | value =>
      refine .of_eq ?_
      rw [Instance.lower, Instance.asValue]
  | entity hc hlists _ ih =>
      rw [Instance.lower, Instance.asValue, Value.lower]
      exact (Entity.lower_asDocument hc hlists ih).map _
  | @sample type members hsamples hnodup hcontents ih =>
      -- Where no class is expected the document is not looked into, so its parts say nothing.
      cases htype : type.involvesClass with
      | false =>
          refine .of_eq ?_
          rw [(sample hsamples hnodup hcontents).lower_plain htype, Value.lower_plain s _ htype]
      | true =>
          rw [Instance.lower, Instance.asValue, Value.lower, htype, if_pos rfl, Document.lower,
            instanceLowerings_eq_map, valueLowerings_eq_map, fieldsAsValues_eq_map, List.map_map]
          exact (lowerFields_follows (f := fun i type => i.lower s type)
            (g := fun i type => (i.asValue s).lower s type) (not_not_intro hsamples) ih).map _
  | @array type items hitems ih =>
      cases htype : type.involvesClass with
      | false =>
          refine .of_eq ?_
          rw [(array hitems).lower_plain htype, Value.lower_plain s _ htype]
      | true =>
          rw [Instance.lower, Instance.asValue, Value.lower, htype, if_pos rfl,
            lowerInstances_eq_mapM, lowerValues_eq_mapM, itemsAsValues_eq_map, List.mapM_map]
          exact (Except.Follows.mapM ih).map _

end Declared

/-- An entity without further fields, such that every entity inside is of the class that it
    is declared as. The sample that lists its members, with samples for the entities inside,
    is stored as the same document, or refused in the same way, at every depth. The document
    that has its members under their names is stored as the same document whenever the
    entity is stored, and refused in the same way unless there are samples inside. -/
theorem forms_lower_alike {s : Store} {samples : Prop} {e : Entity}
    (h : Declared s samples (.ofClass e.className) (.entity e)) :
    (Instance.sample (e.asSample s)).toDocument s (.ofClass e.className) =
        (Instance.entity e).toDocument s (.ofClass e.className) ∧
      (∀ d, (Instance.entity e).toDocument s (.ofClass e.className) = .ok d →
        (Instance.value (.document (e.asDocument s))).toDocument s (.ofClass e.className) =
          .ok d) ∧
      (¬ samples →
        (Instance.value (.document (e.asDocument s))).toDocument s (.ofClass e.className) =
          (Instance.entity e).toDocument s (.ofClass e.className)) := by
  rcases h.exists_class with ⟨c, hc, hlists, hcontents⟩
  have hsample := Entity.lower_asSample hc hlists fun m hm => (hcontents m hm).lower_asSample
  have hdocument := Entity.lower_asDocument hc hlists fun m hm => (hcontents m hm).lower_asValue
  exact ⟨hsample, hdocument.refines, fun hnone => (hdocument.same hnone).symm⟩

/-! ### Crates

A class below another one. A crate holds things of the classes that they are declared as, one
of them alone and others in a list. -/

namespace Crates

/-- The upper class. -/
def parcel : ClassMap :=
  { ClassMap.concrete "Parcel" ⟨"Parcel", [("Label", .value (.string ""))]⟩ with
    members := [⟨"Label", "l", .native, "Parcel", .scalar .string⟩] }

/-- The class below it, which stores the label, too. -/
def crate : ClassMap :=
  { ClassMap.concrete "Crate"
      ⟨"Crate", [("Inner", .null), ("Label", .value (.string "")), ("Parts", .array [])]⟩ with
    base := some "Parcel"
    members := [⟨"Inner", "i", .ofClass "Crate", "Crate", .optionalEntity "Crate"⟩,
      ⟨"Label", "label", .native, "Crate", .scalar .string⟩,
      ⟨"Parts", "p", .collection (.ofClass "Parcel"), "Crate", .entityList "Parcel"⟩] }

def placedParcel : ClassMap :=
  parcel.place ["Parcel"] true

def placedCrate : ClassMap :=
  (crate.inherit placedParcel).place ["Parcel", "Crate"] false

def store : Store where
  classes := [⟨placedParcel, "Parcel"⟩, ⟨placedCrate, "Parcel"⟩]

def parcelNamed (label : String) : Entity where
  className := "Parcel"
  fields := [("Label", .value (.string label))]

def crateOf (label : String) (inner : Instance) (parts : List Entity) : Entity where
  className := "Crate"
  fields := [("Inner", inner), ("Label", .value (.string label)),
    ("Parts", .array (parts.map .entity))]

/-- A crate with a crate and two parcels. -/
def full : Entity :=
  crateOf "a" (.entity (crateOf "b" .null [])) [parcelNamed "c", parcelNamed "d"]

/-- What it is stored as: the inherited member first, and a tag in each document. -/
def fullLowered : Document :=
  ⟨[("_t", .string "Crate"), ("l", .string "a"),
    ("i", .document ⟨[("_t", .string "Crate"), ("l", .string "b"), ("i", .null),
      ("p", .array [])]⟩),
    ("p", .array [.document ⟨[("_t", .string "Parcel"), ("l", .string "c")]⟩,
      .document ⟨[("_t", .string "Parcel"), ("l", .string "d")]⟩])]⟩

theorem declared_parcel (label : String) :
    Declared store False (.ofClass "Parcel") (.entity (parcelNamed label)) := by
  refine .entity (e := parcelNamed label) (c := placedParcel) rfl ⟨?_, by decide, rfl⟩ ?_
  · exact List.forall_mem_singleton.mpr rfl
  · exact List.forall_mem_singleton.mpr .value

/-- A crate is listed with what is inside. -/
theorem declared_crate (label : String) {inner : Instance} {parts : List Entity}
    (hinner : Declared store False (.ofClass "Crate") inner)
    (hparts : ∀ e ∈ parts, Declared store False (.ofClass "Parcel") (.entity e)) :
    Declared store False (.ofClass "Crate") (.entity (crateOf label inner parts)) := by
  refine .entity (e := crateOf label inner parts) (c := placedCrate) rfl ⟨?_, by decide, rfl⟩ ?_
  · exact List.forall_mem_cons.mpr ⟨rfl, List.forall_mem_cons.mpr ⟨rfl,
      List.forall_mem_singleton.mpr rfl⟩⟩
  · refine List.forall_mem_cons.mpr ⟨.value, List.forall_mem_cons.mpr ⟨hinner,
      List.forall_mem_singleton.mpr (.array ?_)⟩⟩
    exact List.forall_mem_map.mpr hparts

theorem full_forms :
    Store.build [crate, parcel] = .ok store ∧
      (Instance.entity full).toDocument store (.ofClass "Crate") = .ok fullLowered ∧
      (Instance.sample (full.asSample store)).toDocument store (.ofClass "Crate") =
        .ok fullLowered ∧
      (Instance.value (.document (full.asDocument store))).toDocument store (.ofClass "Crate") =
        .ok fullLowered := by
  have hbuild : Store.build [crate, parcel] = .ok store :=
    Store.build_of_entries [(parcel, ["Parcel"]), (crate, ["Parcel", "Crate"])]
      (List.reverse_perm [crate, parcel]) rfl (by decide)
  have hlowered : (Instance.entity full).toDocument store (.ofClass "Crate") = .ok fullLowered := by
    rfl
  have hinner : Declared store False (.ofClass "Crate") (.entity (crateOf "b" .null [])) :=
    declared_crate "b" .null (List.forall_mem_nil _)
  have hparts : ∀ e ∈ [parcelNamed "c", parcelNamed "d"],
      Declared store False (.ofClass "Parcel") (.entity e) :=
    List.forall_mem_cons.mpr ⟨declared_parcel "c", List.forall_mem_singleton.mpr
      (declared_parcel "d")⟩
  have hfull : Declared store False (.ofClass full.className) (.entity full) :=
    declared_crate "a" hinner hparts
  rcases forms_lower_alike hfull with ⟨hsample, hdocument, _⟩
  exact ⟨hbuild, hlowered, hsample.trans hlowered, hdocument _ hlowered⟩

end Crates

end DocumentMapper
