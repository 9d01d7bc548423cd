import DocumentMapper.Proofs.Text.Pieces

/-!
# Feeding a carry

Bytes of any origin are fed to one carry in fills of any sizes, and what each fill
completes goes to an output. A fill that is refused leaves the carry and the output as
they were, so a run is described by the fills that were accepted: the output and the held
bytes are what the look back makes of the bytes of these fills taken at once
(`Feeding.Sound`). One fill keeps this, since bytes in two pieces are read like the bytes
at once (`cut?_append`), and so does a run of fills.

The lengths that leading bytes announce are too generous: some begin an overlong form or a
surrogate, and the bytes that follow them are held and handed on before anything is
decided. That nothing ill formed passes in this way is not a matter of the lengths. What
is held is followed by other bytes or by the end, and then the strict decoder sees it or
the carry is not empty.

## Main definitions

* `Feeding`: A carry with its output and the fills that were accepted.
* `Feeding.feedAll`: One fill after another.
* `Feeding.Sound`: Output and held bytes are those of the accepted fills.

## Theorems

* `Sound.feed`, `Sound.feedAll`: What a fill keeps, and what a run keeps.
* `accepted_feedAll`: Every fill is accepted if the bytes of all of them can be read.
* `feeding_decodes_utf8`: A run accepts the bytes of texts and gives these texts.
-/

namespace DocumentMapper

/-- A carry that is fed, with the text decoded so far. -/
structure Feeding where
  carry : Carry
  text : String
  /-- The fills that were not refused. -/
  accepted : List (List UInt8)

namespace Feeding

/-- Nothing has been fed. -/
def start (capacity : Nat) : Feeding where
  carry := .ofCapacity capacity
  text := ""
  accepted := []

/-- Commits a fill. A refused one changes nothing. -/
def feed (f : Feeding) (fill : List UInt8) : Feeding :=
  match f.carry.commit? fill with
  | some decoded => ⟨decoded.carry, f.text ++ decoded.text, f.accepted ++ [fill]⟩
  | none => f

/-- Commits one fill after another. -/
def feedAll (f : Feeding) (fills : List (List UInt8)) : Feeding :=
  fills.foldl feed f

/-- The output and the held bytes are what can be read of the accepted fills at once. -/
def Sound (f : Feeding) : Prop :=
  Utf8.cut? f.accepted.flatten = some (f.text, f.carry.held)

theorem sound_start (capacity : Nat) : (start capacity).Sound :=
  Utf8.cut?_eq_some.mpr ⟨Utf8.encode_empty.symm, .inl rfl⟩

/-- What can be read of the accepted fills and one more. -/
theorem cut?_flatten_concat {f : Feeding} (hf : f.Sound) (fill : List UInt8) :
    Utf8.cut? (f.accepted ++ [fill]).flatten =
      (Utf8.cut? (f.carry.held ++ fill)).map fun cut => (f.text ++ cut.1, cut.2) := by
  have hread : Utf8.cut? f.accepted.flatten = some (f.text, f.carry.held) := hf
  rw [List.flatten_concat, Utf8.cut?_append, hread, Option.bind_some]

theorem Sound.feed {f : Feeding} (hf : f.Sound) (fill : List UInt8) : (f.feed fill).Sound := by
  unfold Feeding.feed
  cases hcommit : f.carry.commit? fill with
  | none => exact hf
  | some decoded =>
      rw [f.carry.commit?_eq_map] at hcommit
      rcases Option.map_eq_some_iff.mp hcommit with ⟨cut, hcut, rfl⟩
      have hread := cut?_flatten_concat hf fill
      rw [hcut] at hread
      exact hread

theorem Sound.feedAll {f : Feeding} (hf : f.Sound) (fills : List (List UInt8)) :
    (f.feedAll fills).Sound := by
  induction fills generalizing f with
  | nil => exact hf
  | cons fill fills ih => exact ih (hf.feed fill)

/-- The bytes of the accepted fills are those of the output and the held ones. -/
theorem Sound.bytes {f : Feeding} (hf : f.Sound) :
    Utf8.encode f.text ++ f.carry.held = f.accepted.flatten :=
  (Utf8.cut?_eq_some.mp hf).1.symm

/-- A fill is accepted if it can be read together with the fills before it. -/
theorem accepted_feed {f : Feeding} (hf : f.Sound) {fill : List UInt8}
    (hread : (Utf8.cut? (f.accepted ++ [fill]).flatten).isSome = true) :
    (f.feed fill).accepted = f.accepted ++ [fill] := by
  rw [cut?_flatten_concat hf, Option.isSome_map] at hread
  rcases Option.isSome_iff_exists.mp hread with ⟨cut, hcut⟩
  unfold feed
  rw [f.carry.commit?_eq_map, hcut]
  rfl

/-- Where bytes can be read at once, all their beginnings can be read. -/
theorem isSome_cut?_of_append {xs ys : List UInt8} (h : (Utf8.cut? (xs ++ ys)).isSome = true) :
    (Utf8.cut? xs).isSome = true := by
  rw [Utf8.cut?_append] at h
  exact Option.isSome_of_isSome_bind h

/-- Every fill is accepted if the bytes of all of them can be read at once. -/
theorem accepted_feedAll (fills : List (List UInt8)) :
    ∀ {f : Feeding}, f.Sound → (Utf8.cut? (f.accepted ++ fills).flatten).isSome = true →
      (f.feedAll fills).accepted = f.accepted ++ fills := by
  induction fills with
  | nil =>
      intro f _ _
      exact (List.append_nil _).symm
  | cons fill fills ih =>
      intro f hf hread
      rw [List.append_cons] at hread ⊢
      -- What is valid with all the fills is valid with the first one only, which is so accepted.
      have hfirst : (Utf8.cut? (f.accepted ++ [fill]).flatten).isSome = true := by
        rw [List.flatten_append] at hread
        exact isSome_cut?_of_append hread
      have haccepted := accepted_feed hf hfirst
      rw [← haccepted] at hread ⊢
      exact ih (hf.feed fill) hread

end Feeding

/-- A carry decodes exactly UTF-8, whatever its capacity is and however the bytes are cut
    into fills. All fills are accepted and nothing is held in the end exactly if the bytes
    are those of a text, and then the output is this text. After every fill, the bytes of
    the output and the held ones are the bytes of the fills that were accepted so far. -/
theorem feeding_decodes_utf8 (capacity : Nat) (fills : List (List UInt8)) :
    (((Feeding.start capacity).feedAll fills).accepted = fills ∧
        ((Feeding.start capacity).feedAll fills).carry.isEmpty = true ↔
      ∃ s, Utf8.encode s = fills.flatten) ∧
    (∀ s, Utf8.encode s = fills.flatten →
      ((Feeding.start capacity).feedAll fills).text = s) ∧
    Utf8.encode ((Feeding.start capacity).feedAll fills).text ++
        ((Feeding.start capacity).feedAll fills).carry.held =
      ((Feeding.start capacity).feedAll fills).accepted.flatten := by
  have hstart := Feeding.sound_start capacity
  have hsound := hstart.feedAll fills
  -- The bytes of a text can be read at once and leave nothing.
  have hwhole : ∀ s, Utf8.encode s = fills.flatten →
      ((Feeding.start capacity).feedAll fills).accepted = fills ∧
        s = ((Feeding.start capacity).feedAll fills).text ∧
        [] = ((Feeding.start capacity).feedAll fills).carry.held := by
    intro s hs
    have hread : Utf8.cut? fills.flatten = some (s, []) :=
      Utf8.cut?_eq_some.mpr ⟨by rw [hs, List.append_nil], .inl rfl⟩
    have haccepted := Feeding.accepted_feedAll fills hstart (by
      rw [Feeding.start, List.nil_append, hread, Option.isSome_some])
    have hall : ((Feeding.start capacity).feedAll fills).accepted = fills := haccepted
    rw [Feeding.Sound, hall, hread] at hsound
    exact ⟨hall, Prod.mk.inj (Option.some.inj hsound)⟩
  refine ⟨⟨?_, ?_⟩, fun s hs => (hwhole s hs).2.1.symm, hsound.bytes⟩
  · rintro ⟨haccepted, hempty⟩
    have hbytes := hsound.bytes
    rw [List.isEmpty_iff.mp hempty, List.append_nil, haccepted] at hbytes
    exact ⟨_, hbytes⟩
  · rintro ⟨s, hs⟩
    exact ⟨(hwhole s hs).1, List.isEmpty_iff.mpr (hwhole s hs).2.2.symm⟩

/-- A character that two fills share. -/
example : ((Feeding.start 4).feedAll [[0x61, 0xe2, 0x82], [0xac, 0x62]]).text = "a€b" := by
  rfl

end DocumentMapper
