import DocumentMapper.Mapping.Serialize
import DocumentMapper.Proofs.Mapping.EntityDocument
import DocumentMapper.Proofs.Mapping.Resolution
import DocumentMapper.Proofs.Wire.RoundTrip

/-!
# Entities and back

An entity is stored under the class map of its own class and read where any class above
it is expected. What comes back is a new entity of the class that has received what was
stored of the old one (`Store.renewed`): the members and the further fields. Fields
that are stored under no name hold what they hold in every new entity.

When an entity can be stored and read in this way is a property of what it holds
(`Restorable`), defined together with what is handed to the setter of a field whose
content was stored (`Returns`). A nested entity must be declared as a class it is
assignable to, alone or in a list; everything else is a stored value that no class map
interprets, and that is what its bytes stand for. A member is restored if its setter takes
what returns for its content and leaves the same content.

## Main definitions

* `Entity.overlay`: An entity with some contents of another one.
* `Store.renewed`: A new entity with what is stored of another one.
* `Returns`: What is handed to a setter for a stored content.
* `Restorable`: An entity whose contents are all restored.
* `Cats.store`: A store of two classes, for a check of all conditions.

## Theorems

* `lower_of_stored`: A value that no class map interprets is stored as it is.
* `materializeFields_members`: The members are set one after another.
* `throughout_of_fields`: What holds at every depth of what an entity is stored as.
* `materialize_lowered`: The document of an entity is read as its renewal.
* `deserialize_serialize`: The bytes of an entity are read as its renewal.
-/

namespace DocumentMapper

/-! ### Renewed entities -/

/-- The entity with what another one holds in some fields. -/
def Entity.overlay (fresh e : Entity) (names : List String) : Entity where
  className := fresh.className
  fields := fresh.fields.map fun field =>
    (field.1, if field.1 ∈ names then e.content field.1 else field.2)

/-- The fields whose contents are stored: those of the members, and that of the further
    fields. -/
def ClassMap.storedFields (c : ClassMap) : List String :=
  c.allMembers.map Member.name ++ c.extension.toList.map Member.name

/-- A new entity of the class of an entity, with what is stored of that entity. -/
def Store.renewed (s : Store) (e : Entity) : Entity :=
  match s.find? e.className with
  | none => e
  | some c =>
    match c.prototype with
    | none => e
    | some fresh => fresh.overlay e c.storedFields

theorem Store.renewed_eq {s : Store} {e fresh : Entity} {c : ClassMap}
    (hc : s.find? e.className = some c) (hfresh : c.prototype = some fresh) :
    s.renewed e = fresh.overlay e c.storedFields := by
  unfold renewed
  rw [hc]
  dsimp only
  rw [hfresh]

/-- An entity has the class and the fields of another one. -/
structure Entity.Like (e fresh : Entity) : Prop where
  className : fresh.className = e.className
  names : fresh.fields.map Prod.fst = e.fields.map Prod.fst
  different : (e.fields.map Prod.fst).Nodup

namespace Entity

theorem overlay_nil (fresh e : Entity) : fresh.overlay e [] = fresh := by
  rcases fresh with ⟨className, fields⟩
  unfold overlay
  simp

/-- Setting a field to the other entity's content extends the overlay. -/
theorem set_overlay (fresh e : Entity) (names : List String) (name : String) :
    (fresh.overlay e names).set name (e.content name) = fresh.overlay e (names ++ [name]) := by
  unfold overlay set
  dsimp only
  rw [List.map_map]
  congr 1
  refine List.map_congr_left ?_
  intro field _
  dsimp only [Function.comp]
  by_cases h : field.1 = name
  · rw [if_pos h, if_pos (by rw [h]; exact List.mem_append_right _ List.mem_cons_self), h]
  · rw [if_neg h]
    by_cases hmem : field.1 ∈ names
    · rw [if_pos hmem, if_pos (List.mem_append_left _ hmem)]
    · rw [if_neg hmem, if_neg]
      intro hc
      rcases List.mem_append.mp hc with hc | hc
      · exact hmem hc
      · exact h (List.mem_singleton.mp hc)

/-- The overlay holds what the other entity holds in the fields it names. -/
theorem get?_overlay {e fresh : Entity} (hlike : e.Like fresh) {names : List String}
    {name : String} (h : name ∈ names) : (fresh.overlay e names).get? name = e.get? name := by
  unfold overlay get?
  dsimp only
  rw [Fields.lookup_map fun n i => if n ∈ names then e.content n else i]
  -- Both entities have the same fields, so the name is one of both or of neither.
  by_cases hmem : name ∈ e.fields.map Prod.fst
  · rcases List.mem_map.mp hmem with ⟨field, hfield, rfl⟩
    have hfound := Fields.lookup_of_mem hlike.different hfield
    rw [← hlike.names] at hmem
    rcases List.mem_map.mp hmem with ⟨field', hfield', hname⟩
    have hnodup : (fresh.fields.map Prod.fst).Nodup := hlike.names ▸ hlike.different
    rw [← hname, Fields.lookup_of_mem hnodup hfield', hname, hfound, Option.map_some, if_pos h]
    unfold content get?
    rw [hfound]
    rfl
  · rw [Fields.lookup_eq_none hmem, Fields.lookup_eq_none (hlike.names ▸ hmem)]
    rfl

/-- In all other fields the overlay holds what it was laid over. -/
theorem get?_overlay_of_notMem (fresh e : Entity) {names : List String} {name : String}
    (h : name ∉ names) : (fresh.overlay e names).get? name = fresh.get? name := by
  unfold overlay get?
  dsimp only
  rw [Fields.lookup_map fun n i => if n ∈ names then e.content n else i]
  cases fresh.fields.lookup name with
  | none => rfl
  | some i => rw [Option.map_some, if_neg h]

theorem names_overlay (fresh e : Entity) (names : List String) :
    (fresh.overlay e names).fields.map Prod.fst = fresh.fields.map Prod.fst := by
  unfold overlay
  dsimp only
  rw [List.map_map]
  rfl

/-- Where the fields that are not named agree already, the overlay is the other entity. -/
theorem overlay_eq {e fresh : Entity} (hlike : e.Like fresh) {names : List String}
    (h : ∀ name, name ∉ names → fresh.get? name = e.get? name) : fresh.overlay e names = e := by
  have hfields : (fresh.overlay e names).fields = e.fields := by
    refine Fields.ext_of_lookup ?_ ?_ ?_
    · rw [names_overlay, hlike.names]
    · rw [names_overlay, hlike.names]
      exact hlike.different
    · intro name
      by_cases hmem : name ∈ names
      · exact get?_overlay hlike hmem
      · exact (get?_overlay_of_notMem fresh e hmem).trans (h name hmem)
  have hclass : (fresh.overlay e names).className = e.className := hlike.className
  rcases e with ⟨className, fields⟩
  exact congrArg₂ Entity.mk hclass hfields

end Entity

/-! ### What returns for a content -/

mutual

/-- What is handed to the setter of a field of a declared type, after what the field
    held was stored and read. -/
inductive Returns (s : Store) : MemberType → Instance → Instance → Prop
  | null {type : MemberType} {i : Instance} : i.isNull = true → Returns s type i .null
  /-- A value of a type without a class is stored as it is, and read as it is if its binaries
      are of the subtypes that their bytes stand for. -/
  | stored {type : MemberType} {i : Instance} {v : KeyedValue} : type.involvesClass = false →
      i.stored = .ok v.toValue → v.toValue.IsCanonical →
      (∀ d element, v.toValue = .document d → type ≠ .collection element) →
      Returns s type i (.ofValue v)
  | entity {base : String} {e : Entity} : s.isAssignable base e.className = true →
      Restorable s e → Returns s (.ofClass base) (.entity e) (.entity (s.renewed e))
  | array {element : MemberType} {items items' : List Instance} :
      element.involvesClass = true → ReturnsAll s element items items' →
      Returns s (.collection element) (.array items) (.array items')

/-- The same for the items of a list. -/
inductive ReturnsAll (s : Store) : MemberType → List Instance → List Instance → Prop
  | nil {type : MemberType} : ReturnsAll s type [] []
  | cons {type : MemberType} {i i' : Instance} {rest rest' : List Instance} :
      Returns s type i i' → ReturnsAll s type rest rest' →
      ReturnsAll s type (i :: rest) (i' :: rest')

/-- An entity of a class of which there are entities, stored under different names, such
    that every setter restores what its field held. -/
inductive Restorable (s : Store) : Entity → Prop
  | mk {e fresh : Entity} {c : ClassMap} {further : KeyedDocument}
      (returned : Member → Instance) :
      s.find? e.className = some c → c.prototype = some fresh → e.Like fresh →
      c.Stores e further →
      (∀ m ∈ c.allMembers, Returns s m.type (e.content m.name) (returned m)) →
      (∀ m ∈ c.allMembers, m.kind.extract (returned m) = .ok (e.content m.name)) →
      (∀ m, c.extension = some m → m.owner = e.className ∧
        m.kind.extract (.value (.document further)) = .ok (e.content m.name)) →
      Restorable s e

end

theorem Restorable.fields {s : Store} {e : Entity} (h : Restorable s e) :
    ∃ c fresh, s.find? e.className = some c ∧ c.prototype = some fresh ∧ e.Like fresh := by
  cases h with
  | mk _ hc hfresh hlike => exact ⟨_, _, hc, hfresh, hlike⟩

/-! ### Stored values -/

theorem lower_of_isNull (s : Store) {i : Instance} (h : i.isNull = true) {type : MemberType} :
    i.lower s type = .ok .null := by
  cases i with
  | null => rw [Instance.lower]
  | value v =>
      cases v with
      | null => rw [Instance.lower, Value.lower_null]
      | _ => cases h
  | _ => cases h

mutual

/-- A value that no class map interprets is stored as it is. -/
theorem lower_of_stored (s : Store) : ∀ (i : Instance) (v : Value) (type : MemberType),
    type.involvesClass = false → i.stored = .ok v → i.lower s type = .ok v
  | .null, v, type, _, h => by
      rw [Instance.stored] at h
      rw [Instance.lower, h]
  | .value w, v, type, htype, h => by
      rw [Instance.stored] at h
      rw [Instance.lower, Value.lower_plain s w htype, h]
  | .entity e, v, type, _, h => by
      rw [Instance.stored] at h
      cases h
  | .sample members, v, type, _, h => by
      rw [Instance.stored] at h
      cases h
  | .array items, v, type, htype, h => by
      rw [Instance.stored] at h
      rcases Except.map_eq_ok.mp h with ⟨values, hvalues, rfl⟩
      have helement := MemberType.involvesClass_elementType htype
      rw [Instance.lower, lowerInstances_of_stored s items values _ helement hvalues]
      rfl

/-- The same for the items of a list. -/
theorem lowerInstances_of_stored (s : Store) : ∀ (items : List Instance) (values : List Value)
    (type : MemberType), type.involvesClass = false → storedItems items = .ok values →
    lowerInstances s items type = .ok values
  | [], values, type, _, h => by
      rw [storedItems] at h
      rw [lowerInstances, h]
  | i :: rest, values, type, htype, h => by
      rw [storedItems] at h
      rcases Except.bind_eq_ok.mp h with ⟨v, hv, h⟩
      rcases Except.bind_eq_ok.mp h with ⟨vs, hvs, h⟩
      rw [lowerInstances, lower_of_stored s i v type htype hv,
        lowerInstances_of_stored s rest vs type htype hvs, ← Except.ok.inj h]
      rfl

end

/-- Read as a type without a class, a value is handed over as it is. -/
theorem materialize_of_not_involvesClass (s : Store) {v : Value} {type : MemberType}
    (htype : type.involvesClass = false)
    (hcollection : ∀ d element, v = .document d → type ≠ .collection element) :
    v.materialize s type = .ok (.ofValue v) := by
  cases v with
  | document d =>
      rcases d with ⟨fields⟩
      cases type with
      | ofClass name => cases htype
      | collection element => exact absurd rfl (hcollection _ element rfl)
      | _ => rfl
  | array items =>
      rw [Value.materialize, htype, if_neg (by decide)]
      rfl
  | _ => rfl

/-! ### Setting members and gathering the rest -/

section Materialize

variable {s : Store} {c : ClassMap} {e fresh : Entity} {further : KeyedDocument}

theorem holdsDiscriminator_eq_false {name : String}
    (h : c.isPolymorphic = true → name ≠ c.discriminatorName) :
    c.holdsDiscriminator name = false := by
  unfold ClassMap.holdsDiscriminator
  cases hpoly : c.isPolymorphic with
  | false => rfl
  | true => exact beq_eq_false_iff_ne.mpr (h hpoly)

/-- The discriminator is passed over. -/
theorem materializeFields_tag (rest : List (String × Value)) (entity : Entity) (done : Document) :
    materializeFields s c (c.tagFields ++ rest) entity done =
      materializeFields s c rest entity done := by
  unfold ClassMap.tagFields
  cases htag : c.persistedDiscriminator? with
  | none => rfl
  | some tag =>
      rcases tag with ⟨name, v⟩
      rcases ClassMap.persistedDiscriminator?_eq_some htag with ⟨hpoly, rfl, _⟩
      have hholds : c.holdsDiscriminator c.discriminatorName = true := by
        unfold ClassMap.holdsDiscriminator
        rw [hpoly, beq_self_eq_true]
        rfl
      change materializeFields s c ((c.discriminatorName, v) :: rest) entity done = _
      rw [materializeFields, if_pos hholds]

/-- One field under the name of a member sets this member. -/
theorem materializeFields_cons_member {name : String} {v : Value} {m : Member}
    {returned : Instance} {entity entity' : Entity} (hname : c.holdsDiscriminator name = false)
    (hm : c.memberStoredAs? name = some m) (hv : v.materialize s m.type = .ok returned)
    (hset : m.set returned entity = .ok entity') (rest : List (String × Value)) (done : Document) :
    materializeFields s c ((name, v) :: rest) entity done =
      materializeFields s c rest entity' done := by
  rw [materializeFields, hname, if_neg (by decide), hm]
  dsimp only
  rw [hv, Except.ok_bind, hset, Except.ok_bind]

/-- A field restores a member: its value is handed to the setter as an instance that
    leaves the content. -/
def Restores (s : Store) (e : Entity) (m : Member) (field : String × Value) : Prop :=
  field.1 = m.storedName ∧ ∃ returned, field.2.materialize s m.type = .ok returned ∧
    m.kind.extract returned = .ok (e.content m.name)

/-- The fields of members set these members, one after another. -/
theorem materializeFields_members (h : c.Stores e further) (hlike : e.Like fresh)
    (rest : List (String × Value)) {members : List Member} {fields : List (String × Value)}
    (hfields : List.Forall₂ (Restores s e) members fields) (hmembers : members ⊆ c.allMembers) :
    ∀ names : List String,
      materializeFields s c (fields ++ rest) (fresh.overlay e names) .empty =
        materializeFields s c rest (fresh.overlay e (names ++ members.map Member.name)) .empty := by
  induction hfields with
  | nil =>
      intro names
      rw [List.map_nil, List.append_nil, List.nil_append]
  | @cons m field members fields hfield _ ih =>
      intro names
      rcases field with ⟨name, v⟩
      rcases hfield with ⟨rfl, returned, hmaterialize, hextract⟩
      have hm : m ∈ c.allMembers := hmembers List.mem_cons_self
      -- Setting what comes back overlays one more name, which carries the induction.
      have hset : m.set returned (fresh.overlay e names) =
          .ok (fresh.overlay e (names ++ [m.name])) := by
        unfold Member.set Member.check
        rw [if_pos (by rw [h.owned m hm]; exact hlike.className), ← Entity.set_overlay]
        exact Except.bind_eq_ok.mpr ⟨(), rfl, Except.bind_eq_ok.mpr ⟨_, hextract, rfl⟩⟩
      rw [List.cons_append,
        materializeFields_cons_member (holdsDiscriminator_eq_false fun hpoly => h.noTag hpoly m hm)
          (ClassMap.memberStoredAs?_of_mem h.differentNames hm) hmaterialize hset,
        ih (fun m' hm' => hmembers (List.mem_cons_of_mem m hm')), List.append_assoc,
        List.map_cons, List.singleton_append]

/-- The further fields are gathered in order. -/
theorem materializeFields_further (h : c.Stores e further) (entity : Entity)
    (fields : List (String × Value)) :
    ∀ done : List (String × Value), (∀ field ∈ fields, field.1 ∈ further.keys) →
      ((done ++ fields).map Prod.fst).Nodup →
      materializeFields s c fields entity ⟨done⟩ = .ok (entity, ⟨done ++ fields⟩) := by
  induction fields with
  | nil =>
      intro done _ _
      rw [materializeFields, List.append_nil]
  | cons field rest ih =>
      intro done hkeys hnodup
      rcases field with ⟨name, v⟩
      have hkey : name ∈ further.keys := hkeys (name, v) List.mem_cons_self
      -- The name is new to what is gathered, so it is appended and the order is kept.
      have hnew : name ∉ done.map Prod.fst := by
        intro hmem
        rw [List.map_append, List.map_cons] at hnodup
        exact (List.nodup_append.mp hnodup).2.2 _ hmem _ List.mem_cons_self rfl
      rw [materializeFields,
        holdsDiscriminator_eq_false fun hpoly => h.furtherNoTag hpoly name hkey,
        if_neg (by decide), ClassMap.memberStoredAs?_eq_none (h.furtherNew name hkey)]
      dsimp only
      unfold Document.insert
      rw [Fields.insert_of_notMem hnew, List.append_cons done (name, v) rest]
      refine ih _ (fun f hf => hkeys f (List.mem_cons_of_mem _ hf)) ?_
      rw [← List.append_cons]
      exact hnodup

/-- The document of an entity, read into a new entity of its class. -/
theorem materializeFields_document (h : c.Stores e further) (hlike : e.Like fresh)
    {memberFields : List (String × Value)}
    (hfields : List.Forall₂ (Restores s e) c.allMembers memberFields) :
    materializeFields s c (c.tagFields ++ (memberFields ++ further.fields)) fresh .empty =
      .ok (fresh.overlay e (c.allMembers.map Member.name), further.toDocument) := by
  have hmembers := materializeFields_members h hlike further.fields hfields
    (List.Subset.refl _) []
  have hfurther := materializeFields_further (s := s) h
    (fresh.overlay e (c.allMembers.map Member.name)) further.fields []
    (fun field hfield => List.mem_map.mpr ⟨field, hfield, rfl⟩)
    further.nodup_keys
  rw [Entity.overlay_nil, List.nil_append] at hmembers
  rw [materializeFields_tag, hmembers]
  rcases further with ⟨⟨furtherFields⟩, _⟩
  exact hfurther

theorem setFurther_overlay (hlike : e.Like fresh)
    (hextension : ∀ m, c.extension = some m → m.owner = e.className ∧
      m.kind.extract (.value (.document further)) = .ok (e.content m.name)) :
    c.setFurther further (fresh.overlay e (c.allMembers.map Member.name)) =
      .ok (fresh.overlay e c.storedFields) := by
  unfold ClassMap.setFurther ClassMap.storedFields
  cases hc : c.extension with
  | none => rw [Option.toList_none, List.map_nil, List.append_nil]
  | some m =>
      rcases hextension m hc with ⟨howner, hextract⟩
      dsimp only
      unfold Member.set Member.check
      rw [if_pos (by rw [howner]; exact hlike.className), Option.toList_some, List.map_singleton,
        ← Entity.set_overlay]
      exact Except.bind_eq_ok.mpr ⟨(), rfl, Except.bind_eq_ok.mpr ⟨_, hextract, rfl⟩⟩

end Materialize

/-! ### Entities -/

section Entities

variable {s : Store} {c : ClassMap} {e fresh : Entity} {further : KeyedDocument} {d : Document}

/-- The document of an entity carries the discriminator of its class. -/
theorem get?_discriminatorName (hs : s.Hierarchical) {p : Placed} (hp : p ∈ s.classes)
    (hfresh : p.map.prototype = some fresh) {rest : List (String × Value)}
    (hfields : d.fields = p.map.tagFields ++ rest) (hpoly : p.map.isPolymorphic = true) :
    ∃ disc, p.map.discriminator = some disc ∧
      d.get? p.map.discriminatorName = some disc.toValue := by
  have hconcrete : p.map.isAbstract = false := by
    unfold ClassMap.isAbstract
    rw [hfresh]
    rfl
  rcases Option.isSome_iff_exists.mp (hs.tagged p hp hpoly hconcrete) with ⟨disc, hdisc⟩
  have htag : p.map.tagFields = [(p.map.discriminatorName, disc.toValue)] := by
    unfold ClassMap.tagFields ClassMap.persistedDiscriminator?
    rw [hpoly, hdisc]
    rfl
  refine ⟨disc, hdisc, ?_⟩
  unfold Document.get?
  rw [hfields, htag, List.singleton_append, List.lookup_cons, beq_self_eq_true]

theorem materialize_of_restores (hs : s.Hierarchical) (hd : s.Distinguishable)
    (hc : s.find? e.className = some c) (hfresh : c.prototype = some fresh)
    (hlike : e.Like fresh) (h : c.Stores e further)
    (hextension : ∀ m, c.extension = some m → m.owner = e.className ∧
      m.kind.extract (.value (.document further)) = .ok (e.content m.name))
    {memberFields : List (String × Value)}
    (hmembers : List.Forall₂ (Restores s e) c.allMembers memberFields)
    (hfields : d.fields = c.tagFields ++ (memberFields ++ further.fields)) {base : String}
    (hbase : s.isAssignable base e.className = true) :
    d.materialize s (.ofClass base) = .ok (.entity (s.renewed e)) := by
  rcases Store.exists_placed_of_find? hc with ⟨p, hp, rfl, hname⟩
  rw [← hname] at hbase
  have hresolve := Store.resolve_of_tagged hs hd hp hbase d
    (get?_discriminatorName hs hp hfresh hfields)
  have hcreate : p.map.create = .ok fresh := by
    unfold ClassMap.create
    rw [hfresh]
  have hrenewed := Store.renewed_eq hc hfresh
  have hset := materializeFields_document (s := s) h hlike hmembers
  rw [← hfields] at hset
  rcases d with ⟨fields⟩
  rw [Document.materialize, hresolve, Except.ok_bind, hcreate, Except.ok_bind, hset, hrenewed]
  refine Except.bind_eq_ok.mpr ⟨_, rfl, ?_⟩
  exact Except.bind_eq_ok.mpr ⟨_, setFurther_overlay hlike hextension, rfl⟩

theorem throughout_toValue {P : Value → Prop} {K : List String → Prop}
    (hP : ∀ tag, P (.string tag)) (disc : Discriminator) : disc.toValue.Throughout P K := by
  cases disc with
  | single tag => exact hP tag
  | chain tags =>
      unfold Discriminator.toValue
      rw [Value.Throughout]
      induction tags with
      | nil => exact trivial
      | cons tag rest ih => exact ⟨hP tag, ih⟩

/-- The values of the document of an entity have a property at every depth if those of its
    members and of its further fields have, and the texts of the discriminator. -/
theorem throughout_of_fields {P : Value → Prop} {K : List String → Prop} {members : List Member}
    (hP : ∀ tag, P (.string tag)) {memberFields : List (String × Value)}
    (hmembers : List.Forall₂ (fun _ field => field.2.Throughout P K) members memberFields)
    (hfurther : ∀ field ∈ further.fields, field.2.Throughout P K)
    (hfields : d.fields = c.tagFields ++ (memberFields ++ further.fields)) :
    ∀ field ∈ d.fields, field.2.Throughout P K := by
  intro field hfield
  rw [hfields] at hfield
  -- The three parts of a document: the discriminator, the members and the further fields.
  rcases List.mem_append.mp hfield with hfield | hfield
  · unfold ClassMap.tagFields at hfield
    rw [Option.mem_toList] at hfield
    rcases ClassMap.persistedDiscriminator?_eq_some hfield with ⟨_, _, disc, _, hvalue⟩
    rw [hvalue]
    exact throughout_toValue hP disc
  · rcases List.mem_append.mp hfield with hfield | hfield
    · rcases exists_left_of_forall₂ hmembers hfield with ⟨_, _, hthroughout⟩
      exact hthroughout
    · exact hfurther field hfield

/-- The document of an entity is keyed if its members are. -/
theorem distinct_of_fields (h : c.Stores e further) {memberFields : List (String × Value)}
    (hmembers : List.Forall₂ (fun m field => field.1 = m.storedName ∧ field.2.Distinct)
      c.allMembers memberFields)
    (hfields : d.fields = c.tagFields ++ (memberFields ++ further.fields)) : d.Distinct := by
  have hnames : c.allMembers.map Member.storedName = memberFields.map Prod.fst :=
    map_eq_map_of_forall₂ hmembers fun _ _ hfield => hfield.1.symm
  refine Document.throughout_iff.mpr ⟨?_, ?_⟩
  · have hnodup := h.separates.nodup_names
    unfold Document.keys
    rw [hfields, List.map_append, List.map_append, ← hnames]
    exact hnodup
  · exact throughout_of_fields (fun _ => trivial) (hmembers.imp fun _ _ hfield => hfield.2)
      (fun _ => further.distinct_of_mem) hfields

/-- It is canonical if its members are. -/
theorem isCanonical_of_fields (h : c.Stores e further) {members : List Member}
    {memberFields : List (String × Value)}
    (hmembers : List.Forall₂ (fun _ field => field.2.IsCanonical) members memberFields)
    (hfields : d.fields = c.tagFields ++ (memberFields ++ further.fields)) : d.IsCanonical :=
  Document.throughout_iff.mpr ⟨trivial, throughout_of_fields (fun _ => trivial) hmembers
    (Document.throughout_iff.mp h.furtherCanonical).2 hfields⟩

end Entities

mutual

/-- What was stored for an instance of a declared type is keyed and canonical, and it is read
    as what returns for it. -/
theorem materialize_lowered {s : Store} (hs : s.Hierarchical) (hd : s.Distinguishable) :
    ∀ {type : MemberType} {i i' : Instance}, Returns s type i i' → ∀ v, i.lower s type = .ok v →
      v.Distinct ∧ v.IsCanonical ∧ v.materialize s type = .ok i'
  | type, i, _, .null hnull, v, h => by
      rw [lower_of_isNull s hnull] at h
      rw [← Except.ok.inj h]
      exact ⟨trivial, trivial, rfl⟩
  | type, i, _, @Returns.stored _ _ _ stored htype hstored hcanonical hcollection, v, h => by
      rw [lower_of_stored s i _ type htype hstored] at h
      rw [← Except.ok.inj h]
      exact ⟨stored.distinct, hcanonical, materialize_of_not_involvesClass s htype hcollection⟩
  | _, _, _, .entity hbase he, v, h => by
      rw [Instance.lower] at h
      rcases Except.map_eq_ok.mp h with ⟨d, hlower, rfl⟩
      rcases materialize_lowered_entity hs hd he d hlower with ⟨hdistinct, hcanonical, hmaterialize⟩
      refine ⟨hdistinct, hcanonical, ?_⟩
      rw [Value.materialize]
      exact hmaterialize _ hbase
  | _, _, _, .array helement hitems, v, h => by
      rw [Instance.lower] at h
      rcases Except.map_eq_ok.mp h with ⟨values, hlower, rfl⟩
      rcases materialize_lowered_items hs hd hitems values hlower with
        ⟨hdistinct, hcanonical, hmaterialize⟩
      refine ⟨hdistinct, hcanonical, ?_⟩
      rw [Value.materialize, MemberType.involvesClass, helement, if_pos rfl]
      exact Except.map_eq_ok.mpr ⟨_, hmaterialize, rfl⟩

/-- The same for the items of a list. -/
theorem materialize_lowered_items {s : Store} (hs : s.Hierarchical) (hd : s.Distinguishable) :
    ∀ {type : MemberType} {items items' : List Instance}, ReturnsAll s type items items' →
      ∀ values, lowerInstances s items type = .ok values →
        (Value.array values).Distinct ∧ (Value.array values).IsCanonical ∧
          materializeItems s values type = .ok items'
  | _, _, _, .nil, values, h => by
      rw [lowerInstances] at h
      rw [← Except.ok.inj h, materializeItems]
      exact ⟨trivial, trivial, rfl⟩
  | _, _, _, .cons hi hrest, values, h => by
      rw [lowerInstances] at h
      rcases Except.bind_eq_ok.mp h with ⟨v, hv, h⟩
      rcases Except.bind_eq_ok.mp h with ⟨vs, hvs, h⟩
      rcases materialize_lowered hs hd hi v hv with ⟨hdistinct, hcanonical, hmaterialize⟩
      rcases materialize_lowered_items hs hd hrest vs hvs with
        ⟨hdistinct', hcanonical', hmaterialize'⟩
      rw [← Except.ok.inj h, materializeItems, hmaterialize, Except.ok_bind, hmaterialize']
      exact ⟨⟨hdistinct, hdistinct'⟩, ⟨hcanonical, hcanonical'⟩, rfl⟩

/-- The document of an entity is read as its renewal wherever a class above its own is
    expected. -/
theorem materialize_lowered_entity {s : Store} (hs : s.Hierarchical) (hd : s.Distinguishable) :
    ∀ {e : Entity}, Restorable s e → ∀ d, e.lower s = .ok d →
      d.Distinct ∧ d.IsCanonical ∧ ∀ base, s.isAssignable base e.className = true →
        d.materialize s (.ofClass base) = .ok (.entity (s.renewed e))
  | e, .mk returned hc hfresh hlike h hreturns hextract hextension, d, hlower => by
      rcases lower_fields hc h.separates h.readable hlower with ⟨memberFields, hmembers, hfields⟩
      have hread : ∀ m ∈ _, ∀ field, StoredAs s e m field → field.2.Distinct ∧
          field.2.IsCanonical ∧ field.2.materialize s m.type = .ok (returned m) :=
        fun m hm field hfield => materialize_lowered hs hd (hreturns m hm) field.2 hfield.2
      have hstored := (List.forall₂_and_left _ _).mpr ⟨fun m hm => hm, hmembers⟩
      refine ⟨distinct_of_fields h (hstored.imp ?_) hfields,
        isCanonical_of_fields h (hstored.imp ?_) hfields, ?_⟩
      · intro m field hfield
        exact ⟨hfield.2.1, (hread m hfield.1 field hfield.2).1⟩
      · intro m field hfield
        exact (hread m hfield.1 field hfield.2).2.1
      · intro base hbase
        refine materialize_of_restores hs hd hc hfresh hlike h hextension
          (hstored.imp ?_) hfields hbase
        intro m field hfield
        exact ⟨hfield.2.1, returned m, (hread m hfield.1 field hfield.2).2.2, hextract m hfield.1⟩

end

/-- What a serialized entity was lowered to and encoded as. -/
theorem serialize_entity {s : Store} {options : CodecOptions} {e : Entity} {type : MemberType}
    {bytes : List UInt8} (h : (Instance.entity e).serialize s options type = .ok bytes) :
    ∃ d, e.lower s = .ok d ∧ d.encode options = .ok bytes := by
  unfold Instance.serialize at h
  rcases Except.bind_eq_ok.mp h with ⟨d, hd, hencode⟩
  refine ⟨d, hd, ?_⟩
  cases henc : d.encode options with
  | ok bytes' =>
      rw [henc] at hencode
      exact congrArg Except.ok (Except.ok.inj hencode)
  | error cause =>
      rw [henc] at hencode
      cases hencode

/-- An entity that was serialized as a class above its own is deserialized as an entity of
    its own class with the same members and further fields. Every other field holds what
    it holds in a new entity; where the first entity agrees with that, the two are equal. -/
theorem deserialize_serialize {maps : List ClassMap} {s : Store}
    (hbuild : Store.build maps = .ok s) (hd : s.Distinguishable) {e : Entity}
    (he : Restorable s e) {base : String} (hbase : s.isAssignable base e.className = true)
    {options : CodecOptions} {bytes : List UInt8}
    (h : (Instance.entity e).serialize s options (.ofClass base) = .ok bytes) :
    ∃ e', Instance.deserialize s options bytes (.ofClass base) = .ok (.entity e') ∧
      e'.className = e.className ∧
      ∀ c fresh, s.find? e.className = some c → c.prototype = some fresh →
        (∀ name ∈ c.storedFields, e'.get? name = e.get? name) ∧
        (∀ name, name ∉ c.storedFields → e'.get? name = fresh.get? name) ∧
        ((∀ name, name ∉ c.storedFields → fresh.get? name = e.get? name) → e' = e) := by
  have hs := Store.build_hierarchical hbuild
  rcases serialize_entity h with ⟨d, hlower, hencode⟩
  rcases materialize_lowered_entity hs hd he d hlower with ⟨hdistinct, hcanonical, hmaterialize⟩
  rcases he.fields with ⟨c, fresh, hc, hfresh, hlike⟩
  have hrenewed := Store.renewed_eq hc hfresh
  refine ⟨s.renewed e, ?_, ?_, ?_⟩
  · unfold Instance.deserialize
    rw [KeyedDocument.decode_of_encode (d := ⟨d, hdistinct⟩) hencode hcanonical]
    exact hmaterialize base hbase
  · rw [hrenewed]
    exact hlike.className
  · intro c' fresh' hc' hfresh'
    rw [hc] at hc'
    rw [← Option.some.inj hc', hfresh] at hfresh'
    rw [← Option.some.inj hc', ← Option.some.inj hfresh', hrenewed]
    exact ⟨fun name hname => Entity.get?_overlay hlike hname,
      fun name hname => Entity.get?_overlay_of_notMem fresh e hname,
      fun hnew => Entity.overlay_eq hlike hnew⟩

/-! ### A cat and its mate

Two classes, of which the lower one holds an entity declared as the upper one. -/

namespace Cats

/-- The root of the hierarchy, of which there are no entities. -/
def animal : ClassMap :=
  .abstractType "Animal"

/-- The class below it. -/
def cat : ClassMap :=
  { ClassMap.concrete "Cat" ⟨"Cat", [("name", .value (.string "")), ("mate", .null)]⟩ with
    base := some "Animal"
    members := [⟨"name", "n", .native, "Cat", .scalar .string⟩,
      ⟨"mate", "m", .ofClass "Animal", "Cat", .optionalEntity "Cat"⟩] }

/-- The class of cats with its place below the root. -/
def placedCat : ClassMap :=
  (cat.inherit animal).place ["Animal", "Cat"] false

/-- The store of the two classes. -/
def store : Store where
  classes := [⟨animal.place ["Animal"] true, "Animal"⟩, ⟨placedCat, "Animal"⟩]

/-- A cat of a name with or without a mate. -/
def named (name : String) (mate : Instance) : Entity where
  className := "Cat"
  fields := [("name", .value (.string name)), ("mate", mate)]

theorem distinguishable : store.Distinguishable := by
  refine ⟨?_, ?_, ?_⟩
  · intro p hp q hq _
    simp only [store, List.mem_cons, List.not_mem_nil, or_false] at hp hq
    rcases hp with rfl | rfl <;> rcases hq with rfl | rfl <;> rfl
  · intro p hp q hq _ d e hd he _
    simp only [store, List.mem_cons, List.not_mem_nil, or_false] at hp hq
    rcases hp with rfl | rfl <;> rcases hq with rfl | rfl <;>
      first | rfl | (cases hd; done) | cases he
  · intro p hp
    simp only [store, List.mem_cons, List.not_mem_nil, or_false] at hp
    rcases hp with rfl | rfl <;> decide

theorem stores (name : String) (mate : Instance) : placedCat.Stores (named name mate) .empty where
  owned m hm := by
    change m ∈ cat.members at hm
    rw [cat, List.mem_cons, List.mem_singleton] at hm
    rcases hm with rfl | rfl <;> rfl
  differentNames := by decide
  noTag _ m hm := by
    change m ∈ cat.members at hm
    rw [cat, List.mem_cons, List.mem_singleton] at hm
    rcases hm with rfl | rfl <;> decide
  readable := rfl
  furtherCanonical := by decide
  furtherNew key hkey := by cases hkey
  furtherNoTag _ key hkey := by cases hkey

/-- A cat is restored if its mate is. -/
theorem restorable {name : String} {mate : Instance}
    (hmate : Returns store (.ofClass "Animal") mate mate)
    (hextract : (FieldKind.optionalEntity "Cat").extract mate = .ok mate) :
    Restorable store (named name mate) := by
  refine .mk (fun m => if m.name = "mate" then mate else .value (.string name))
    (c := placedCat) rfl rfl ⟨rfl, rfl, by simp [named]⟩ (stores name mate) ?_ ?_ ?_
  · intro m hm
    change m ∈ cat.members at hm
    rw [cat, List.mem_cons, List.mem_singleton] at hm
    rcases hm with rfl | rfl
    · refine .stored (v := ⟨.string name, trivial⟩) rfl rfl trivial ?_
      intro d element h
      cases h
    · exact hmate
  · intro m hm
    change m ∈ cat.members at hm
    rw [cat, List.mem_cons, List.mem_singleton] at hm
    rcases hm with rfl | rfl
    · rfl
    · exact hextract
  · intro m hm
    cases hm

def tom : Entity :=
  named "Tom" (.entity (named "Kit" .null))

/-- The bytes of the cat: its tag, its name, and its mate with its own tag. -/
def tomBytes : List UInt8 :=
  [62, 0, 0, 0, 2, 95, 116, 0, 4, 0, 0, 0, 67, 97, 116, 0, 2, 110, 0, 4, 0, 0, 0, 84, 111, 109,
    0, 3, 109, 0, 31, 0, 0, 0, 2, 95, 116, 0, 4, 0, 0, 0, 67, 97, 116, 0, 2, 110, 0, 4, 0, 0, 0,
    75, 105, 116, 0, 10, 109, 0, 0, 0]

theorem tom_comes_back :
    Store.build [cat, animal] = .ok store ∧ store.isAssignable "Animal" tom.className = true ∧
      (Instance.entity tom).serialize store {} (.ofClass "Animal") = .ok tomBytes ∧
      Instance.deserialize store {} tomBytes (.ofClass "Animal") = .ok (.entity tom) := by
  have hbuild : Store.build [cat, animal] = .ok store :=
    Store.build_of_entries [(animal, ["Animal"]), (cat, ["Animal", "Cat"])]
      (List.reverse_perm [cat, animal]) rfl (by decide)
  have hassign : store.isAssignable "Animal" tom.className = true := by decide
  have hbytes : (Instance.entity tom).serialize store {} (.ofClass "Animal") = .ok tomBytes := by
    rfl
  have hkit : Restorable store (named "Kit" .null) := restorable (.null rfl) rfl
  have htom : Restorable store tom := restorable (.entity hassign hkit) rfl
  rcases deserialize_serialize hbuild distinguishable htom hassign hbytes with
    ⟨e', hread, _, hfields⟩
  have hsame := (hfields placedCat _ rfl rfl).2.2
  refine ⟨hbuild, hassign, hbytes, ?_⟩
  rw [hread, hsame]
  intro name hname
  -- Both fields of a cat are stored.
  have hfresh : (named "" .null).get? name = none :=
    Fields.lookup_eq_none hname
  have htom' : tom.get? name = none := Fields.lookup_eq_none hname
  exact hfresh.trans htom'.symm

end Cats

end DocumentMapper
