import DocumentMapper.Proofs.Mapping.EntityDocument
import DocumentMapper.Proofs.Mapping.Hierarchy

/-!
# Fields that no member is stored under

Which fields of a document are unknown to a class is decided three times: when it is read,
when the names of its entity are listed, and when the value under a name is fetched. The
three agree. Reading gathers the unknown fields in order (`materializeFields_gathers`) and
leaves the class and the fields of the entity as they are, so the member that is given what
was gathered gives it back, and what was gathered is separate from the members and from the
discriminator (`separates_unknown`), as writing wants it.

A document that is read and written again without a change therefore consists of the
discriminator, the members, and the unknown fields as they were.

## Main definitions

* `ClassMap.isUnknown`: A name that belongs neither to a member nor to the discriminator.
* `Member.Keeps`: A member gives back the document that it was given.
* `Guests.store`: A class that keeps unknown fields, below an abstract one.

## Theorems

* `materializeFields_gathers`: What reading sets aside.
* `separates_unknown`: Unknown fields and members have different names.
* `unknown_fields_survive`: The fields of a document that was read and written again.
-/

namespace DocumentMapper

/-- A name that no member is stored under and that does not hold the discriminator. -/
def ClassMap.isUnknown (c : ClassMap) (name : String) : Bool :=
  decide (name ∉ c.allMembers.map Member.storedName) && !c.holdsDiscriminator name

/-- In the entities of a class, which have the fields of a new one, a member gives back the
    document that it was given. -/
def Member.Keeps (m : Member) (fresh : Entity) : Prop :=
  ∀ (e e' : Entity) (d : Document), e.className = fresh.className →
    e.fields.map Prod.fst = fresh.fields.map Prod.fst →
    m.set (.value (.document d)) e = .ok e' → m.get e' = .ok (.value (.document d))

theorem ClassMap.isUnknown_iff {c : ClassMap} {name : String} :
    c.isUnknown name = true ↔
      name ∉ c.allMembers.map Member.storedName ∧ c.holdsDiscriminator name = false := by
  unfold isUnknown
  rw [Bool.and_eq_true, decide_eq_true_iff, Bool.not_eq_true']

/-! ### Reading -/

theorem Entity.names_set (e : Entity) (name : String) (content : Instance) :
    (e.set name content).fields.map Prod.fst = e.fields.map Prod.fst := by
  unfold set
  rw [List.map_map]
  refine List.map_congr_left fun field _ => ?_
  dsimp only [Function.comp]
  split
  case isTrue hname => exact hname.symm
  case isFalse => rfl

theorem Member.names_set {m : Member} {content : Instance} {e e' : Entity}
    (h : m.set content e = .ok e') : e'.fields.map Prod.fst = e.fields.map Prod.fst := by
  unfold set at h
  rcases Except.bind_eq_ok.mp h with ⟨_, _, h⟩
  rcases Except.bind_eq_ok.mp h with ⟨extracted, _, h⟩
  rw [← Except.ok.inj h]
  exact e.names_set m.name extracted

theorem Entity.get?_set {e : Entity} {name : String} (h : name ∈ e.fields.map Prod.fst)
    (content : Instance) : (e.set name content).get? name = some content := by
  rcases e with ⟨className, fields⟩
  unfold set get?
  dsimp only at h ⊢
  induction fields with
  | nil => cases h
  | cons field rest ih =>
      rcases field with ⟨n, i⟩
      rw [List.map_cons, List.lookup_cons]
      by_cases hn : n = name
      · rw [if_pos hn, beq_self_eq_true]
      · rw [if_neg hn, beq_eq_false_iff_ne.mpr (Ne.symm hn)]
        exact ih ((List.mem_cons.mp h).resolve_left (Ne.symm hn))

/-- A member keeps documents if it has a field and the kind of the field takes documents as
    they are. -/
theorem Member.keeps_of_extract {m : Member} {fresh : Entity}
    (hfield : m.name ∈ fresh.fields.map Prod.fst)
    (hextract : ∀ d, m.kind.extract (.value (.document d)) = .ok (.value (.document d))) :
    m.Keeps fresh := by
  intro e e' d _ hnames h
  unfold set at h
  rcases Except.bind_eq_ok.mp h with ⟨_, hcheck, h⟩
  rw [hextract, Except.ok_bind] at h
  rw [← hnames] at hfield
  rw [← Except.ok.inj h]
  unfold get
  refine Except.bind_eq_ok.mpr ⟨_, hcheck, ?_⟩
  rw [Entity.get?_set hfield]
  rfl

/-- Only entities of the owner can be set. -/
theorem Member.owner_of_set {m : Member} {content : Instance} {e e' : Entity}
    (h : m.set content e = .ok e') : e.className = m.owner := by
  unfold set check at h
  by_cases howner : e.className = m.owner
  · exact howner
  · rw [if_neg howner] at h
    cases h

section Gathering

variable {s : Store} {c : ClassMap}

/-- Setting members keeps the fields of an entity, and what no member is set to is gathered
    in order. -/
theorem materializeFields_gathers (fields : List (String × Value)) :
    ∀ {e e' : Entity} {done : List (String × Value)} {further : Document},
      ((done ++ fields).map Prod.fst).Nodup →
      materializeFields s c fields e ⟨done⟩ = .ok (e', further) →
        e'.fields.map Prod.fst = e.fields.map Prod.fst ∧
          further.fields = done ++ fields.filter fun field => c.isUnknown field.1 := by
  induction fields with
  | nil =>
      intro e e' done further _ h
      rw [materializeFields] at h
      rcases Prod.mk.inj (Except.ok.inj h) with ⟨rfl, rfl⟩
      exact ⟨rfl, (List.append_nil done).symm⟩
  | cons field rest ih =>
      intro e e' done further hnodup h
      rcases field with ⟨name, v⟩
      -- Without the field at the front the names still differ.
      have hrest : ((done ++ rest).map Prod.fst).Nodup := by
        refine hnodup.sublist (List.Sublist.map _ ?_)
        exact List.Sublist.append_left (List.sublist_cons_self _ _) _
      rcases materializeFields_cons_eq_ok h with
        ⟨hholds, h⟩ | ⟨hholds, ⟨m, content, set, hmember, _, hset, h⟩ | ⟨hmember, h⟩⟩
      · have hknown : ¬ c.isUnknown name = true := fun hunknown => by
          rw [(ClassMap.isUnknown_iff.mp hunknown).2] at hholds
          cases hholds
        rw [List.filter_cons, if_neg hknown]
        exact ih hrest h
      · have hstored : name ∈ c.allMembers.map Member.storedName := by
          rcases mem_of_find?_key hmember with ⟨hm, hname⟩
          exact List.mem_map.mpr ⟨m, hm, hname⟩
        have hknown : ¬ c.isUnknown name = true := fun hunknown =>
          (ClassMap.isUnknown_iff.mp hunknown).1 hstored
        rcases ih hrest h with ⟨hnames, hfields⟩
        rw [List.filter_cons, if_neg hknown]
        exact ⟨hnames.trans (Member.names_set hset), hfields⟩
      · have hunknown : c.isUnknown name = true :=
          ClassMap.isUnknown_iff.mpr ⟨find?_key_eq_none.mp hmember, hholds⟩
        have hnew : name ∉ done.map Prod.fst := by
          intro hmem
          rw [List.map_append, List.map_cons] at hnodup
          exact (List.nodup_append.mp hnodup).2.2 _ hmem _ List.mem_cons_self rfl
        -- A name that is new goes to the end of what was gathered.
        unfold Document.insert at h
        rw [Fields.insert_of_notMem hnew] at h
        rw [List.append_cons] at hnodup
        rcases ih hnodup h with ⟨hnames, hfields⟩
        refine ⟨hnames, ?_⟩
        rw [List.filter_cons, if_pos hunknown, hfields, ← List.append_cons]

/-- The fields of a document that are unknown to a class. -/
def ClassMap.unknownFields (c : ClassMap) (d : KeyedDocument) : KeyedDocument :=
  d.filter c.isUnknown

/-- They are separate from what the class stores. -/
theorem separates_unknown (hnames : (c.allMembers.map Member.storedName).Nodup)
    (htag : c.isPolymorphic = true → ∀ m ∈ c.allMembers, m.storedName ≠ c.discriminatorName)
    (d : KeyedDocument) : c.Separates (c.unknownFields d) := by
  have hunknown : ∀ key ∈ (c.unknownFields d).keys, c.isUnknown key = true := by
    intro key hkey
    rcases List.mem_map.mp hkey with ⟨field, hfield, rfl⟩
    exact (List.mem_filter.mp hfield).2
  refine ⟨hnames, htag, ?_, ?_⟩
  · intro key hkey
    exact (ClassMap.isUnknown_iff.mp (hunknown key hkey)).1
  · intro hpoly key hkey heq
    have hholds := (ClassMap.isUnknown_iff.mp (hunknown key hkey)).2
    unfold ClassMap.holdsDiscriminator at hholds
    rw [hpoly, heq, beq_self_eq_true] at hholds
    cases hholds

end Gathering

/-! ### Reading and writing -/

/-- Documents of a class of which there are entities carry its discriminator if the class
    belongs to a hierarchy. -/
theorem tagFields_names {s : Store} (hs : s.Hierarchical) {c : ClassMap}
    (hc : s.find? c.name = some c) {fresh : Entity} (hfresh : c.prototype = some fresh) :
    c.tagFields.map Prod.fst = if c.isPolymorphic then [c.discriminatorName] else [] := by
  unfold ClassMap.tagFields ClassMap.persistedDiscriminator?
  cases hpoly : c.isPolymorphic with
  | false => rfl
  | true =>
      rcases Store.exists_placed_of_find? hc with ⟨p, hp, rfl, _⟩
      have hconcrete : p.map.isAbstract = false := by
        unfold ClassMap.isAbstract
        rw [hfresh]
        rfl
      rcases Option.isSome_iff_exists.mp (hs.tagged p hp hpoly hconcrete) with ⟨d, hd⟩
      rw [hd]
      rfl

/-- An entity that was read from a document holds its unknown fields. -/
theorem further_of_materialize {s : Store} {c : ClassMap} {fresh : Entity} {m : Member}
    (hfresh : c.prototype = some fresh) (hextension : c.extension = some m) (hkeeps : m.Keeps fresh)
    {name : String} {d : KeyedDocument} (hclass : s.resolve name d = .ok c)
    {e : Entity} (hread : d.materialize s (.ofClass name) = .ok (.entity e)) :
    e.className = m.owner ∧ c.further e = .ok (c.unknownFields d).toDocument := by
  rcases materialize_ofClass hread with
    ⟨c', fresh', set, further, e', hresolve, hfresh', hfields, hfurther, hentity⟩
  rw [hclass] at hresolve
  rcases Except.ok.inj hresolve with rfl
  rw [hfresh] at hfresh'
  rcases Option.some.inj hfresh' with rfl
  rcases Instance.entity.inj hentity with rfl
  have hnodup : (([] ++ d.fields).map Prod.fst).Nodup := d.nodup_keys
  rcases materializeFields_gathers d.fields hnodup hfields with ⟨hnames, hunknown⟩
  have hfurther' : further = (c.unknownFields d).toDocument := by
    rcases further with ⟨gathered⟩
    exact congrArg Document.mk hunknown
  unfold ClassMap.setFurther at hfurther
  rw [hextension] at hfurther
  dsimp only at hfurther
  -- The extension member returns what it was given, as it keeps documents.
  have hget := hkeeps set e further (className_materializeFields _ hfields) hnames hfurther
  refine ⟨(Member.className_set hfurther).trans (Member.owner_of_set hfurther), ?_⟩
  unfold ClassMap.further
  rw [hextension, ← hfurther']
  dsimp only
  rw [hget]
  rfl

/-- The fields that are unknown to a class survive reading and writing. A document of a
    class is read as an entity of the class, whose members have different stored names, none
    of them that of the discriminator, and which gives the further fields to a member of its
    own that keeps them. If that entity can be written, it is written as the discriminator,
    if there is one, the members, and then those fields of the document that were stored
    under no member's name and did not hold the discriminator, with their values and in
    their order. -/
theorem unknown_fields_survive {maps : List ClassMap} {s : Store}
    (hbuild : Store.build maps = .ok s) {c : ClassMap} (hc : s.find? c.name = some c)
    {fresh : Entity} (hfresh : c.prototype = some fresh)
    (hnames : (c.allMembers.map Member.storedName).Nodup)
    (htag : ∀ m ∈ c.allMembers, m.storedName ≠ c.discriminatorName) {m : Member}
    (hextension : c.extension = some m) (howner : m.owner = c.name) (hkeeps : m.Keeps fresh)
    {d : KeyedDocument} (hclass : s.resolve c.name d = .ok c) {e : Entity}
    (hread : d.materialize s (.ofClass c.name) = .ok (.entity e)) {d' : Document}
    (hwritten : (Instance.entity e).toDocument s (.ofClass c.name) = .ok d') :
    e.className = c.name ∧
      ∃ tags members : List (String × Value),
        d'.fields = tags ++ (members ++ d.fields.filter fun field => c.isUnknown field.1) ∧
        tags.map Prod.fst = (if c.isPolymorphic then [c.discriminatorName] else []) ∧
        members.map Prod.fst = c.allMembers.map Member.storedName := by
  have hs := Store.build_hierarchical hbuild
  rcases further_of_materialize hfresh hextension hkeeps hclass hread with ⟨howned, hfurther⟩
  have hclassName : e.className = c.name := howned.trans howner
  have hfound : s.find? e.className = some c := by
    rw [hclassName]
    exact hc
  have hlower : e.lower s = .ok d' := hwritten
  rcases lower_fields hfound (separates_unknown hnames (fun _ => htag) d) hfurther hlower with
    ⟨members, hmembers, hfields⟩
  refine ⟨hclassName, c.tagFields, members, hfields, tagFields_names hs hc hfresh, ?_⟩
  exact (map_eq_map_of_forall₂ hmembers fun _ _ hfield => hfield.1.symm).symm

/-! ### A guest with more fields than it has members -/

namespace Guests

/-- The root of the hierarchy, of which there are no entities. -/
def party : ClassMap :=
  .abstractType "Party"

/-- The field for what no member is stored under. -/
def rest : Member :=
  ⟨"rest", "rest", .document, "Guest", .scalar .document⟩

def fresh : Entity :=
  ⟨"Guest", [("name", .value (.string "")), ("rest", .value (.document .empty))]⟩

def guest : ClassMap :=
  { ClassMap.concrete "Guest" fresh with
    base := some "Party"
    members := [⟨"name", "n", .native, "Guest", .scalar .string⟩]
    extension := some rest }

/-- The class of guests with its place below the root. -/
def placedGuest : ClassMap :=
  (guest.inherit party).place ["Party", "Guest"] false

def store : Store where
  classes := [⟨party.place ["Party"] true, "Party"⟩, ⟨placedGuest, "Party"⟩]

/-- A guest as it is stored, with two fields of which the class knows nothing. -/
def ann : KeyedDocument :=
  ⟨⟨[("nick", .string "A"), ("_t", .string "Guest"), ("n", .string "Ann"), ("age", .int32 30)]⟩,
    by decide⟩

/-- The guest that is read from it. -/
def annRead : Entity :=
  ⟨"Guest", [("name", .value (.string "Ann")),
    ("rest", .value (.document ⟨[("nick", .string "A"), ("age", .int32 30)]⟩))]⟩

/-- The guest as it is stored again. -/
def annWritten : Document :=
  ⟨[("_t", .string "Guest"), ("n", .string "Ann"), ("nick", .string "A"), ("age", .int32 30)]⟩

theorem ann_keeps_her_fields :
    Store.build [guest, party] = .ok store ∧ store.resolve "Guest" ann = .ok placedGuest ∧
      ann.materialize store (.ofClass "Guest") = .ok (.entity annRead) ∧
      (Instance.entity annRead).toDocument store (.ofClass "Guest") = .ok annWritten ∧
      ∃ tags members : List (String × Value),
        annWritten.fields =
          tags ++ (members ++ [("nick", .string "A"), ("age", .int32 30)]) ∧
        tags.map Prod.fst = ["_t"] ∧ members.map Prod.fst = ["n"] := by
  have hbuild : Store.build [guest, party] = .ok store :=
    Store.build_of_entries [(party, ["Party"]), (guest, ["Party", "Guest"])]
      (List.reverse_perm [guest, party]) rfl (by decide)
  have hfound : store.find? placedGuest.name = some placedGuest := rfl
  have hkeeps : rest.Keeps fresh := Member.keeps_of_extract (by decide) fun _ => rfl
  have hclass : store.resolve placedGuest.name ann = .ok placedGuest := rfl
  have hread : ann.materialize store (.ofClass placedGuest.name) = .ok (.entity annRead) := rfl
  have hwritten : (Instance.entity annRead).toDocument store (.ofClass placedGuest.name) =
      .ok annWritten := rfl
  have htag : ∀ m ∈ placedGuest.allMembers, m.storedName ≠ placedGuest.discriminatorName := by
    decide
  rcases unknown_fields_survive hbuild hfound rfl (by decide) htag rfl rfl hkeeps
    hclass hread hwritten with ⟨_, tags, members, hfields, htags, hmembers⟩
  exact ⟨hbuild, hclass, hread, hwritten, tags, members, hfields, htags, hmembers⟩

end Guests

end DocumentMapper
