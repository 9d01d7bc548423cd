import DocumentMapper.Mapping.Materialize
import DocumentMapper.Proofs.Mapping.Lineage

/-!
# Reading stays in the hierarchy

What a document says of its class is not trusted: the class it names is looked up in the
hierarchy of the expected class, and it is held against the expected class again before
it is used. So the class of a document is the expected one or a descendant of it, and
its tag is the last one that the document stores (`resolve_descends`).

Reading a value reads parts of it, each as a declared type: the items of a list as what
the list is declared to hold, and the fields of a document as what the members are
declared as that they are stored under. One step to a part is `Store.Hands`. A value is
only read if the parts it hands over are (`materialize_handed`), and so is, by induction
on the steps, every part at any depth (`materialize_reads`). Reading a document as a class
always gives an entity of that class or of one below it, wherever it happens.

## Main definitions

* `Value.LastTag`: The last tag of a stored discriminator.
* `Store.Hands`, `Store.Reads`: The parts that are read along with a value.
* `Litter.store`: A hierarchy of three levels whose lowest class holds a list of the root.

## Theorems

* `resolve_eq_ok`: How the class of a document is chosen.
* `resolve_descends`: The class of a document and its tag.
* `materialize_entity`: A document read as a class is an entity of a class below it.
* `materialize_reads`: What is read along with a value is read.
* `materialize_within_hierarchy`: All of this, for every document and every depth.
-/

namespace DocumentMapper

/-- A stored discriminator, a tag or a list of tags, ends with a tag. -/
def Value.LastTag (v : Value) (tag : String) : Prop :=
  v = .string tag ∨ ∃ above : List String, v = .array ((above ++ [tag]).map .string)

namespace Discriminator

theorem eq_map_of_mapM_tagOfValue? {items : List Value} :
    ∀ {tags : List String}, items.mapM tagOfValue? = some tags → items = tags.map .string := by
  induction items with
  | nil =>
      intro tags h
      rw [List.mapM_nil] at h
      rw [← Option.some.inj h]
      rfl
  | cons item rest ih =>
      intro tags h
      rw [List.mapM_cons] at h
      rcases Option.bind_eq_some_iff.mp h with ⟨tag, htag, h⟩
      rcases Option.bind_eq_some_iff.mp h with ⟨rest', hrest, htags⟩
      rw [← Option.some.inj htags, ih hrest, List.map_cons]
      cases item <;> cases htag
      rfl

/-- The tag that decides is the last one that is stored. -/
theorem lastTag_of_ofValue? {v : Value} {d : Discriminator} (h : ofValue? v = some d) :
    v.LastTag d.concreteTag := by
  unfold ofValue? at h
  split at h
  case h_1 tag =>
    rw [← Option.some.inj h]
    exact .inl rfl
  case h_2 items =>
    split at h
    case h_1 tag tags htags =>
      have hne : tag :: tags ≠ [] := List.cons_ne_nil tag tags
      have hlast : d.concreteTag = (tag :: tags).getLast hne := by
        rw [← Option.some.inj h]
        unfold concreteTag
        dsimp only
        rw [List.getLast?_eq_some_getLast hne]
        rfl
      refine .inr ⟨(tag :: tags).dropLast, ?_⟩
      rw [hlast, List.dropLast_append_getLast hne, eq_map_of_mapM_tagOfValue? htags]
    case h_2 => cases h
  case h_3 => cases h

end Discriminator

namespace Store

variable {maps : List ClassMap} {s : Store}

/-! ### The class of a document -/

theorem find?_of_classMap {name : String} {c : ClassMap} (h : s.classMap name = .ok c) :
    s.find? name = some c := by
  unfold classMap at h
  split at h
  case h_1 c' hfound => rw [hfound, Except.ok.inj h]
  case h_2 => cases h

/-- What a tag leads to is registered, is below the expected class, and has the tag. -/
theorem forDiscriminator_eq_ok (hs : s.Hierarchical) {base tag : String} {c : ClassMap}
    (h : s.forDiscriminator base tag = .ok c) :
    s.find? c.name = some c ∧ s.isAssignable base c.name = true ∧
      c.discriminator.map Discriminator.concreteTag = some tag := by
  unfold forDiscriminator at h
  dsimp only at h
  split at h
  case h_1 found hfound =>
    by_cases hbase : s.isAssignable base found.name = true
    · rw [if_pos hbase] at h
      rcases Option.bind_eq_some_iff.mp hfound with ⟨p, _, htagged⟩
      unfold tagged? at htagged
      rcases Option.map_eq_some_iff.mp htagged with ⟨q, hq, rfl⟩
      -- The class found carries the tag, and its entry in the store is the one of its name.
      have hcarries := List.find?_some hq
      rw [Bool.and_eq_true, beq_iff_eq, beq_iff_eq] at hcarries
      have hmem : q ∈ s.classes := List.mem_reverse.mp (List.mem_of_find?_eq_some hq)
      rw [← Except.ok.inj h]
      exact ⟨find?_of_mem hs hmem, hbase, hcarries.2⟩
    · rw [if_neg hbase] at h
      cases h
  case h_2 => cases h

/-- The class of a document is the expected one, if there is no choice or nothing is stored
    to choose by; or what is stored says which class it is, by the tag of the expected class
    or by a tag that is looked up below it. -/
theorem resolve_eq_ok {name : String} {d : Document} {c : ClassMap}
    (h : s.resolve name d = .ok c) :
    ∃ expected, s.find? name = some expected ∧
      (expected = c ∧
          (expected.isPolymorphic = true → d.get? expected.discriminatorName = none) ∨
        ∃ stored discriminator, d.get? expected.discriminatorName = some stored ∧
          Discriminator.ofValue? stored = some discriminator ∧
          (expected = c ∧
              c.discriminator.map Discriminator.concreteTag = some discriminator.concreteTag ∨
            s.forDiscriminator name discriminator.concreteTag = .ok c)) := by
  unfold resolve at h
  rcases Except.bind_eq_ok.mp h with ⟨expected, hexpected, h⟩
  refine ⟨expected, find?_of_classMap hexpected, ?_⟩
  -- The discriminator is only looked at in a hierarchy, and decides only if it is there.
  cases hpoly : expected.isPolymorphic with
  | false =>
      rw [hpoly] at h
      exact .inl ⟨Except.ok.inj h, fun hfalse => absurd hfalse Bool.false_ne_true⟩
  | true =>
      rw [hpoly, if_neg (by decide)] at h
      cases hget : d.get? expected.discriminatorName with
      | none =>
          rw [hget] at h
          exact .inl ⟨Except.ok.inj h, fun _ => rfl⟩
      | some stored =>
          rw [hget] at h
          dsimp only at h
          cases hread : Discriminator.ofValue? stored with
          | none =>
              rw [hread] at h
              cases h
          | some discriminator =>
              rw [hread] at h
              dsimp only at h
              refine .inr ⟨stored, discriminator, rfl, hread, ?_⟩
              split at h
              case isTrue hown =>
                have hsame : expected = c := Except.ok.inj h
                rw [hsame] at hown
                exact .inl ⟨hsame, beq_iff_eq.mp hown⟩
              case isFalse => exact .inr h

/-- The class of a document is registered and is the expected class or below it. If the
    document says what it holds where a class of a hierarchy is expected, the tag of the
    class is the last one that is stored. -/
theorem resolve_descends (hbuild : build maps = .ok s) {name : String} {d : Document}
    {c : ClassMap} (h : s.resolve name d = .ok c) :
    s.find? c.name = some c ∧ s.Descends c.name name ∧
      ∀ expected, s.find? name = some expected → expected.isPolymorphic = true →
        ∀ stored, d.get? expected.discriminatorName = some stored →
          ∃ tag, stored.LastTag tag ∧ c.discriminator.map Discriminator.concreteTag = some tag := by
  have hs := build_hierarchical hbuild
  rcases resolve_eq_ok h with ⟨expected, hfound, hcases⟩
  have hself : expected = c → s.find? c.name = some c ∧ s.Descends c.name name := by
    rintro rfl
    rcases exists_placed_of_find? hfound with ⟨_, _, _, hname⟩
    rw [hname]
    exact ⟨hfound, Relation.ReflTransGen.refl⟩
  rcases hcases with ⟨hsame, hnothing⟩ | ⟨stored, discriminator, hstored, hread, hclass⟩
  · -- Nothing is stored that could say otherwise.
    refine ⟨(hself hsame).1, (hself hsame).2, fun expected' hfound' hpoly stored hstored => ?_⟩
    rw [Option.some.inj (hfound'.symm.trans hfound)] at hpoly hstored
    rw [hnothing hpoly] at hstored
    cases hstored
  · have hbelow : s.find? c.name = some c ∧ s.Descends c.name name ∧
        c.discriminator.map Discriminator.concreteTag = some discriminator.concreteTag := by
      rcases hclass with ⟨hsame, htag⟩ | hclass
      · -- The tag of the expected class: the tables are not asked.
        exact ⟨(hself hsame).1, (hself hsame).2, htag⟩
      · rcases forDiscriminator_eq_ok hs hclass with ⟨hregistered, hbase, htag⟩
        exact ⟨hregistered, (isAssignable_iff_descends hbuild).mp hbase, htag⟩
    refine ⟨hbelow.1, hbelow.2.1, fun expected' hfound' _ stored' hstored' => ?_⟩
    rw [Option.some.inj (hfound'.symm.trans hfound), hstored] at hstored'
    rw [← Option.some.inj hstored']
    exact ⟨_, Discriminator.lastTag_of_ofValue? hread, hbelow.2.2⟩

end Store

/-! ### One document -/

theorem Member.className_set {m : Member} {content : Instance} {e e' : Entity}
    (h : m.set content e = .ok e') : e'.className = e.className := by
  unfold Member.set at h
  rcases Except.bind_eq_ok.mp h with ⟨_, _, h⟩
  rcases Except.bind_eq_ok.mp h with ⟨extracted, _, h⟩
  rw [← Except.ok.inj h]
  rfl

theorem ClassMap.className_setFurther {c : ClassMap} {further : Document} {e e' : Entity}
    (h : c.setFurther further e = .ok e') : e'.className = e.className := by
  unfold ClassMap.setFurther at h
  split at h
  case h_1 extension _ => exact Member.className_set h
  case h_2 => rw [Except.ok.inj h]

theorem ClassMap.prototype_of_create {c : ClassMap} {fresh : Entity} (h : c.create = .ok fresh) :
    c.prototype = some fresh := by
  unfold ClassMap.create at h
  split at h
  case h_1 entity hentity => rw [hentity, Except.ok.inj h]
  case h_2 => cases h

/-- What becomes of the field at the front: it says which class it is, a member is set to it,
    or it belongs to no member and is gathered. -/
theorem materializeFields_cons_eq_ok {s : Store} {c : ClassMap} {name : String} {v : Value}
    {rest : List (String × Value)} {e : Entity} {further : Document}
    {result : Entity × Document}
    (h : materializeFields s c ((name, v) :: rest) e further = .ok result) :
    c.holdsDiscriminator name = true ∧ materializeFields s c rest e further = .ok result ∨
      c.holdsDiscriminator name = false ∧
        ((∃ m content set, c.memberStoredAs? name = some m ∧
            v.materialize s m.type = .ok content ∧ m.set content e = .ok set ∧
            materializeFields s c rest set further = .ok result) ∨
          c.memberStoredAs? name = none ∧
            materializeFields s c rest e (further.insert name v) = .ok result) := by
  rw [materializeFields] at h
  cases hholds : c.holdsDiscriminator name with
  | true =>
      rw [hholds, if_pos rfl] at h
      exact .inl ⟨rfl, h⟩
  | false =>
      rw [hholds, if_neg (by decide)] at h
      refine .inr ⟨rfl, ?_⟩
      cases hmember : c.memberStoredAs? name with
      | some m =>
          rw [hmember] at h
          rcases Except.bind_eq_ok.mp h with ⟨content, hcontent, h⟩
          rcases Except.bind_eq_ok.mp h with ⟨set, hset, h⟩
          exact .inl ⟨m, content, set, rfl, hcontent, hset, h⟩
      | none =>
          rw [hmember] at h
          exact .inr ⟨rfl, h⟩

/-- Setting members keeps the class of an entity. -/
theorem className_materializeFields {s : Store} {c : ClassMap} (fields : List (String × Value)) :
    ∀ {e e' : Entity} {further further' : Document},
      materializeFields s c fields e further = .ok (e', further') → e'.className = e.className := by
  induction fields with
  | nil =>
      intro e e' further further' h
      rw [materializeFields] at h
      rw [(Prod.mk.inj (Except.ok.inj h)).1]
  | cons field rest ih =>
      intro e e' further further' h
      rcases materializeFields_cons_eq_ok h with
        ⟨_, h⟩ | ⟨_, ⟨m, content, set, _, _, hset, h⟩ | ⟨_, h⟩⟩
      · exact ih h
      · exact (ih h).trans (Member.className_set hset)
      · exact ih h

/-- A document that is read as a class has a class, of which a new entity receives the
    fields and then those that belong to no member. -/
theorem materialize_ofClass {s : Store} {name : String} {d : Document} {i : Instance}
    (h : d.materialize s (.ofClass name) = .ok i) :
    ∃ c fresh e further e', s.resolve name d = .ok c ∧ c.prototype = some fresh ∧
      materializeFields s c d.fields fresh .empty = .ok (e, further) ∧
      c.setFurther further e = .ok e' ∧ i = .entity e' := by
  rcases d with ⟨fields⟩
  rw [Document.materialize] at h
  rcases Except.bind_eq_ok.mp h with ⟨c, hresolve, h⟩
  rcases Except.bind_eq_ok.mp h with ⟨fresh, hfresh, h⟩
  rcases Except.bind_eq_ok.mp h with ⟨⟨e, further⟩, hfields, h⟩
  rcases Except.bind_eq_ok.mp h with ⟨e', hfurther, h⟩
  exact ⟨c, fresh, e, further, e', hresolve, ClassMap.prototype_of_create hfresh, hfields, hfurther,
    (Except.ok.inj h).symm⟩

namespace Store

variable {maps : List ClassMap} {s : Store}

/-- A class of the store makes its new entities as its class map does. -/
theorem className_of_prototype (hbuild : build maps = .ok s)
    (hfactories : ∀ c ∈ maps, ∀ fresh, c.prototype = some fresh → fresh.className = c.name)
    {c : ClassMap} (hc : s.find? c.name = some c) {fresh : Entity}
    (hfresh : c.prototype = some fresh) : fresh.className = c.name := by
  rcases build_made hbuild with ⟨entries, hperm, _, hmade⟩
  rcases exists_placed_of_find? hc with ⟨p, hp, rfl, _⟩
  rcases exists_left_of_forall₂ hmade hp with ⟨entry, hentry, hfrom⟩
  have hmem : entry.1 ∈ latest maps := hperm.mem_iff.mp (List.mem_map.mpr ⟨entry, hentry, rfl⟩)
  rw [hfrom.prototype] at hfresh
  rw [hfrom.name]
  exact hfactories entry.1 (latest_subset maps hmem) fresh hfresh

/-- A document that is read as a class is an entity of that class or of one below it. -/
theorem materialize_entity (hbuild : build maps = .ok s)
    (hfactories : ∀ c ∈ maps, ∀ fresh, c.prototype = some fresh → fresh.className = c.name)
    {name : String} {d : Document} {i : Instance}
    (h : d.materialize s (.ofClass name) = .ok i) :
    ∃ e, i = .entity e ∧ s.isAssignable name e.className = true := by
  rcases materialize_ofClass h with
    ⟨c, fresh, e, further, e', hresolve, hfresh, hfields, hfurther, rfl⟩
  rcases resolve_descends hbuild hresolve with ⟨hregistered, hdescends, _⟩
  have hclass : e'.className = c.name := by
    rw [ClassMap.className_setFurther hfurther, className_materializeFields _ hfields]
    exact className_of_prototype hbuild hfactories hregistered hfresh
  refine ⟨e', rfl, ?_⟩
  rw [hclass]
  exact (isAssignable_iff_descends hbuild).mpr hdescends

/-! ### What is read along with a value -/

/-- Reading a value as a type reads a part of it as a type: an item of a list whose type
    involves a class, or the field of a document that a member is stored under. -/
inductive Hands (s : Store) : Value × MemberType → Value × MemberType → Prop
  | item {items : List Value} {type : MemberType} {v : Value} :
      type.involvesClass = true → v ∈ items → Hands s (.array items, type) (v, type.elementType)
  | member {d : Document} {name : String} {c : ClassMap} {field : String × Value} {m : Member} :
      s.resolve name d = .ok c → field ∈ d.fields → c.holdsDiscriminator field.1 = false →
      c.memberStoredAs? field.1 = some m → Hands s (.document d, .ofClass name) (field.2, m.type)

/-- The same at any depth. -/
def Reads (s : Store) : Value × MemberType → Value × MemberType → Prop :=
  Relation.ReflTransGen s.Hands

theorem materialize_item {items : List Value} {type : MemberType} {v : Value} (hv : v ∈ items) :
    ∀ {results : List Instance}, materializeItems s items type = .ok results →
      ∃ i, v.materialize s type = .ok i := by
  induction items with
  | nil => cases hv
  | cons head rest ih =>
      intro results h
      rw [materializeItems] at h
      rcases Except.bind_eq_ok.mp h with ⟨i, hi, h⟩
      rcases Except.bind_eq_ok.mp h with ⟨results', hrest, _⟩
      rcases List.mem_cons.mp hv with rfl | hv
      · exact ⟨i, hi⟩
      · exact ih hv hrest

theorem materialize_field {c : ClassMap} {field : String × Value} {m : Member}
    (htag : c.holdsDiscriminator field.1 = false) (hm : c.memberStoredAs? field.1 = some m)
    {fields : List (String × Value)} (hfield : field ∈ fields) :
    ∀ {e : Entity} {further : Document} {result : Entity × Document},
      materializeFields s c fields e further = .ok result →
        ∃ i, field.2.materialize s m.type = .ok i := by
  induction fields with
  | nil => cases hfield
  | cons head rest ih =>
      intro e further result h
      rcases List.mem_cons.mp hfield with rfl | hrest
      · -- It is neither the discriminator nor a field of no member.
        rcases materializeFields_cons_eq_ok h with
          ⟨hholds, _⟩ | ⟨_, ⟨m', content, _, hmember, hcontent, _, _⟩ | ⟨hnone, _⟩⟩
        · exact absurd hholds (Bool.eq_false_iff.mp htag)
        · rw [Option.some.inj (hm.symm.trans hmember)]
          exact ⟨content, hcontent⟩
        · cases hm.symm.trans hnone
      · rcases materializeFields_cons_eq_ok h with ⟨_, h⟩ | ⟨_, ⟨_, _, _, _, _, _, h⟩ | ⟨_, h⟩⟩
        · exact ih hrest h
        · exact ih hrest h
        · exact ih hrest h

/-- A value is only read if the parts it hands over are. -/
theorem materialize_handed {whole part : Value × MemberType} (hpart : s.Hands whole part)
    {i : Instance} (h : whole.1.materialize s whole.2 = .ok i) :
    ∃ i', part.1.materialize s part.2 = .ok i' := by
  cases hpart with
  | item hclass hv =>
      rw [Value.materialize, if_pos hclass] at h
      rcases Except.map_eq_ok.mp h with ⟨results, hresults, _⟩
      exact materialize_item hv hresults
  | member hresolve hfield htag hm =>
      rw [Value.materialize] at h
      rcases materialize_ofClass h with ⟨c, fresh, e, further, e', hresolve', _, hfields, _, _⟩
      rw [hresolve] at hresolve'
      rw [← Except.ok.inj hresolve'] at hfields
      exact materialize_field htag hm hfield hfields

/-- A value is only read if everything is that is read along with it. -/
theorem materialize_reads {whole part : Value × MemberType} (hpart : s.Reads whole part)
    {i : Instance} (h : whole.1.materialize s whole.2 = .ok i) :
    ∃ i', part.1.materialize s part.2 = .ok i' := by
  induction hpart with
  | refl => exact ⟨i, h⟩
  | tail _ hstep ih =>
      rcases ih with ⟨i', hi'⟩
      exact materialize_handed hstep hi'

end Store

/-- Reading never leaves the hierarchy of the class it was asked for. The class of a
    document is registered, is the expected class or a descendant, and has the last tag
    that the document stores. So, if every class makes entities of its own, a document read
    as a class is an entity assignable to that class, and so is every document that is
    read as a class on the way, as a member or as an item of a list. -/
theorem materialize_within_hierarchy {maps : List ClassMap} {s : Store}
    (hbuild : Store.build maps = .ok s)
    (hfactories : ∀ c ∈ maps, ∀ fresh, c.prototype = some fresh → fresh.className = c.name) :
    (∀ (name : String) (d : Document) (c : ClassMap), s.resolve name d = .ok c →
      s.find? c.name = some c ∧ s.Descends c.name name ∧
        ∀ expected, s.find? name = some expected → expected.isPolymorphic = true →
          ∀ stored, d.get? expected.discriminatorName = some stored →
            ∃ tag, stored.LastTag tag ∧
              c.discriminator.map Discriminator.concreteTag = some tag) ∧
    (∀ (name : String) (d : Document) (i : Instance), d.materialize s (.ofClass name) = .ok i →
      ∃ e, i = .entity e ∧ s.isAssignable name e.className = true) ∧
    (∀ (v : Value) (type : MemberType) (i : Instance), v.materialize s type = .ok i →
      ∀ (name : String) (d : Document), s.Reads (v, type) (.document d, .ofClass name) →
        ∃ e, d.materialize s (.ofClass name) = .ok (.entity e) ∧
          s.isAssignable name e.className = true) := by
  refine ⟨?_, ?_, ?_⟩
  · intro name d c hresolve
    exact Store.resolve_descends hbuild hresolve
  · intro name d i h
    exact Store.materialize_entity hbuild hfactories h
  · intro v type i h name d hreads
    rcases Store.materialize_reads hreads h with ⟨i', hi'⟩
    rw [Value.materialize] at hi'
    rcases Store.materialize_entity hbuild hfactories hi' with ⟨e, rfl, hassignable⟩
    exact ⟨e, hi', hassignable⟩

/-! ### A cat and its litter

A list that is declared to hold the root of a hierarchy of three levels and holds the class
at its bottom. -/

namespace Litter

/-- The root, of which there are no entities. -/
def animal : ClassMap :=
  .abstractType "Animal"

def pet : ClassMap :=
  { ClassMap.concrete "Pet" ⟨"Pet", []⟩ with base := some "Animal" }

def cat : ClassMap :=
  { ClassMap.concrete "Cat" ⟨"Cat", [("litter", .null)]⟩ with
    base := some "Pet"
    members := [⟨"litter", "l", .collection (.ofClass "Animal"), "Cat", .anything⟩] }

def maps : List ClassMap :=
  [cat, pet, animal]

/-- The class of cats with its place below the others. -/
def placedCat : ClassMap :=
  (cat.inherit (pet.inherit animal)).place ["Animal", "Pet", "Cat"] false

def store : Store where
  classes := [⟨animal.place ["Animal"] true, "Animal"⟩,
    ⟨(pet.inherit animal).place ["Animal", "Pet"] true, "Animal"⟩, ⟨placedCat, "Animal"⟩]

/-- The tags of a cat: those of the classes on the way down, and its own. -/
def tags : Value :=
  .array [.string "Pet", .string "Cat"]

def kitten : Document :=
  ⟨[("_t", tags)]⟩

def mother : Document :=
  ⟨[("_t", tags), ("l", .array [.document kitten])]⟩

theorem reads_kitten :
    store.Reads (.document mother, .ofClass "Animal") (.document kitten, .ofClass "Animal") := by
  have hlist : store.Hands (.document mother, .ofClass "Animal")
      (.array [.document kitten], .collection (.ofClass "Animal")) :=
    @Store.Hands.member store mother "Animal" placedCat ("l", .array [.document kitten])
      ⟨"litter", "l", .collection (.ofClass "Animal"), "Cat", .anything⟩
      rfl (List.mem_cons_of_mem _ List.mem_cons_self) rfl rfl
  have hitem : store.Hands (.array [.document kitten], .collection (.ofClass "Animal"))
      (.document kitten, .ofClass "Animal") :=
    .item rfl List.mem_cons_self
  exact .head hlist (.single hitem)

theorem kitten_is_an_animal :
    Store.build maps = .ok store ∧ store.resolve "Animal" kitten = .ok placedCat ∧
      store.Descends "Cat" "Animal" ∧
      ∃ e, kitten.materialize store (.ofClass "Animal") = .ok (.entity e) ∧
        store.isAssignable "Animal" e.className = true := by
  have hbuild : Store.build maps = .ok store :=
    Store.build_of_entries
      [(animal, ["Animal"]), (pet, ["Animal", "Pet"]), (cat, ["Animal", "Pet", "Cat"])]
      (List.reverse_perm [cat, pet, animal]) rfl (by decide)
  have hfactories : ∀ c ∈ maps, ∀ fresh, c.prototype = some fresh → fresh.className = c.name := by
    intro c hc fresh hfresh
    simp only [maps, List.mem_cons, List.not_mem_nil, or_false] at hc
    rcases hc with rfl | rfl | rfl <;> cases hfresh <;> rfl
  have hresolve : store.resolve "Animal" kitten = .ok placedCat := rfl
  have hmother : (Value.document mother).materialize store (.ofClass "Animal") = .ok
      (.entity ⟨"Cat", [("litter", .array [.entity ⟨"Cat", [("litter", .null)]⟩])]⟩) := rfl
  rcases materialize_within_hierarchy hbuild hfactories with ⟨hclass, _, hwithin⟩
  refine ⟨hbuild, hresolve, (hclass _ _ _ hresolve).2.1, ?_⟩
  exact hwithin _ _ _ hmother _ _ reads_kitten

end Litter

end DocumentMapper
