import DocumentMapper.Proofs.Text.Utf8

/-!
# Bytes that may be no text

What arrives under the name of a text may be anything. Cut anywhere, it is decoded piece
by piece, and it is not enough to know that nothing of a text is lost (`exists_cut`): it
has to be known as well that what is refused in one piece is refused in several, and the
other way round. Both follow from one description of what a look back leaves behind. It
stops before a leading byte that is not followed by as many bytes as it announces, or not
at all, so that the rest is always partial, whatever the bytes are
(`isPartial_drop_stop`).

Hence bytes can be read as far as they are complete exactly if they are the bytes of a
text with a partial rest, and then in one way only (`cut?_eq_some`). Bytes of this form
are of this form in all their beginnings, so that reading them at once and reading them
in two pieces comes to the same (`cut?_append`), refusals included. The buffer that holds
back the rest plays no part in this.

## Main definitions

* `Utf8.cut?`: The complete characters of bytes as a text, and what follows them.

## Theorems

* `isPartial_drop_stop`: What follows the complete characters is partial.
* `cut?_eq_some`: Which bytes can be read as far as they are complete.
* `cut?_append`: Bytes in two pieces.
* `commit?_eq_map`: A commit reads the held bytes and the fill together.
-/

namespace DocumentMapper

namespace Utf8

/-- A leading byte that announces more than what follows it is the beginning of a
    character, at least as far as the look back can tell. -/
theorem isPartial_cons {lead : UInt8} {tail : List UInt8}
    (hneeded : tail.length + 1 < sequenceLength lead) (htail : ∀ b ∈ tail, sequenceLength b = 0) :
    IsPartial (lead :: tail) := by
  have hmax : sequenceLength lead ≤ 4 := by
    unfold sequenceLength
    split_ifs <;> decide
  -- Any continuation bytes could follow.
  let more : List UInt8 := List.replicate (sequenceLength lead - 1 - tail.length) 0x80
  have hlength : (tail ++ more).length + 1 = sequenceLength lead := by
    rw [List.length_append, List.length_replicate]
    omega
  have hmore : more ≠ [] := by
    intro hnil
    rw [hnil, List.append_nil] at hlength
    omega
  refine .inr ⟨lead, tail, more, rfl, hmore, hlength.symm, by omega, ?_⟩
  intro b hb
  rcases List.mem_append.mp hb with hb | hb
  · exact htail b hb
  · rw [List.eq_of_mem_replicate hb]
    decide

/-- The beginning of a partial character is partial. -/
theorem IsPartial.of_append {xs ys : List UInt8} (h : IsPartial (xs ++ ys)) : IsPartial xs := by
  rcases h with hnil | ⟨lead, tail, more, hbytes, hmore, hshape⟩
  · exact .inl (List.append_eq_nil_iff.mp hnil).1
  · cases xs with
    | nil => exact .inl rfl
    | cons b xs =>
        rw [List.cons_append] at hbytes
        rcases List.cons.inj hbytes with ⟨rfl, rfl⟩
        have hrest : ys ++ more ≠ [] := List.append_ne_nil_of_right_ne_nil ys hmore
        rw [List.append_assoc] at hshape
        exact .inr ⟨b, xs, ys ++ more, rfl, hrest, hshape⟩

/-- The look back goes over bytes that begin no character and stops at the first that
    does. Before it stand `rest`, which it does not look at. -/
theorem isPartial_drop_stopBefore (rest window : List UInt8) :
    ∀ tail : List UInt8, (∀ b ∈ tail, sequenceLength b = 0) →
      IsPartial (((window ++ rest).reverse ++ tail).drop
        (stopBefore ((window ++ rest).reverse ++ tail).length (tail.length + 1) window)) := by
  induction window with
  | nil =>
      intro tail _
      rw [stopBefore, List.drop_length]
      exact .inl rfl
  | cons b window ih =>
      intro tail htail
      have hbytes : (b :: window ++ rest).reverse ++ tail =
          (window ++ rest).reverse ++ b :: tail := by
        simp
      rw [hbytes, stopBefore]
      by_cases hzero : sequenceLength b = 0
      · -- The byte begins nothing, and the look back goes on before it.
        have hlonger : ∀ b' ∈ b :: tail, sequenceLength b' = 0 := by
          intro b' hb'
          rcases List.mem_cons.mp hb' with rfl | hb'
          · exact hzero
          · exact htail b' hb'
        rw [if_pos hzero]
        exact ih (b :: tail) hlonger
      · rw [if_neg hzero]
        by_cases hshort : tail.length + 1 < sequenceLength b
        · have hstop : ((window ++ rest).reverse ++ b :: tail).length - (tail.length + 1) =
              (window ++ rest).reverse.length := by
            rw [List.length_append, List.length_cons]
            omega
          rw [if_pos hshort, hstop, List.drop_left]
          exact isPartial_cons hshort htail
        · rw [if_neg hshort, List.drop_length]
          exact .inl rfl

/-- Whatever the bytes are, what follows their complete characters is partial. -/
theorem isPartial_drop_stop (bytes : List UInt8) :
    IsPartial (bytes.drop (lastFullCharStop bytes)) := by
  have h := isPartial_drop_stopBefore (bytes.reverse.drop 4) (bytes.reverse.take 4) []
    (List.forall_mem_nil _)
  rw [List.take_append_drop, List.reverse_reverse, List.append_nil] at h
  exact h

/-- The complete characters of bytes, if they are well formed, and the bytes that follow
    them. -/
def cut? (bytes : List UInt8) : Option (String × List UInt8) :=
  (decode? (bytes.take (lastFullCharStop bytes))).map fun text =>
    (text, bytes.drop (lastFullCharStop bytes))

theorem lastFullCharStop_encode (s : String) {part : List UInt8} (hpart : IsPartial part) :
    lastFullCharStop (encode s ++ part) = (encode s).length := by
  rw [encode_eq_flatMap]
  exact lastFullCharStop_cut s.toList part hpart

/-- Bytes are read as far as they are complete exactly if they are those of a text with a
    partial rest. -/
theorem cut?_eq_some {bytes part : List UInt8} {s : String} :
    cut? bytes = some (s, part) ↔ bytes = encode s ++ part ∧ IsPartial part := by
  unfold cut?
  constructor
  · intro h
    rcases Option.map_eq_some_iff.mp h with ⟨text, htext, hcut⟩
    rcases Prod.mk.inj hcut with ⟨rfl, rfl⟩
    refine ⟨?_, isPartial_drop_stop bytes⟩
    rw [← decode?_eq_some.mp htext, List.take_append_drop]
  · rintro ⟨rfl, hpart⟩
    rw [lastFullCharStop_encode s hpart, List.take_left, List.drop_left, decode?_encode]
    rfl

/-- A text with a partial rest is of this form in all its beginnings, and what is left
    behind a beginning goes on from its rest. -/
theorem exists_cut_append {xs ys part : List UInt8} {s : String}
    (h : xs ++ ys = encode s ++ part) (hpart : IsPartial part) :
    ∃ (first second : String) (rest : List UInt8), s = first ++ second ∧
      xs = encode first ++ rest ∧ IsPartial rest ∧ rest ++ ys = encode second ++ part := by
  rcases List.append_eq_append_iff.mp h with ⟨gap, htext, hys⟩ | ⟨after, hxs, hafter⟩
  · -- The beginning ends within the text.
    rw [encode_eq_flatMap] at htext
    rcases exists_cut s.toList xs gap htext.symm with
      ⟨whole, left, rest, hs, hxs, hrest, hpartial, _⟩
    refine ⟨String.ofList whole, String.ofList left, rest, ?_, ?_, hpartial, ?_⟩
    · rw [← String.ofList_append, ← hs, String.ofList_toList]
    · rw [encode_ofList]
      exact hxs
    · rw [encode_ofList, ← hrest, hys, List.append_assoc]
  · -- The beginning has the whole text and a part of the rest.
    refine ⟨s, "", after, String.append_empty.symm, hxs, ?_, ?_⟩
    · rw [hafter] at hpart
      exact hpart.of_append
    · rw [encode_empty, List.nil_append, hafter]

/-- Reading bytes at once is reading a first piece, and then what it left together with
    the second one. -/
theorem cut?_append (xs ys : List UInt8) :
    cut? (xs ++ ys) =
      (cut? xs).bind fun first =>
        (cut? (first.2 ++ ys)).map fun second => (first.1 ++ second.1, second.2) := by
  cases hwhole : cut? (xs ++ ys) with
  | some cut =>
      rcases cut with ⟨s, part⟩
      rcases cut?_eq_some.mp hwhole with ⟨hbytes, hpart⟩
      rcases exists_cut_append hbytes hpart with ⟨first, second, rest, rfl, hxs, hrest, hsecond⟩
      have hfirst := cut?_eq_some.mpr ⟨hxs, hrest⟩
      have hnext := cut?_eq_some.mpr ⟨hsecond, hpart⟩
      rw [hfirst, Option.bind_some, hnext]
      rfl
  | none =>
      -- Two pieces that can be read make up bytes that can be read.
      cases hfirst : cut? xs with
      | none => rfl
      | some first =>
          rcases first with ⟨s, rest⟩
          cases hsecond : cut? (rest ++ ys) with
          | none => simp only [Option.bind_some, hsecond, Option.map_none]
          | some second =>
              rcases second with ⟨t, part⟩
              rcases cut?_eq_some.mp hfirst with ⟨hxs, _⟩
              rcases cut?_eq_some.mp hsecond with ⟨hrest, hpart⟩
              have hbytes : xs ++ ys = encode (s ++ t) ++ part := by
                rw [hxs, List.append_assoc, hrest, encode_append, List.append_assoc]
              rw [cut?_eq_some.mpr ⟨hbytes, hpart⟩] at hwhole
              cases hwhole

end Utf8

/-- A commit reads the held bytes and the fill together, and holds what is left. -/
theorem Carry.commit?_eq_map (c : Carry) (fill : List UInt8) :
    c.commit? fill = (Utf8.cut? (c.held ++ fill)).map fun cut =>
      ⟨cut.1, Utf8.lastFullCharStop (c.held ++ fill), { c with held := cut.2 }⟩ := by
  have hshort := (Utf8.isPartial_drop_stop (c.held ++ fill)).length_lt
  unfold commit? Utf8.cut?
  dsimp only
  cases Utf8.decode? ((c.held ++ fill).take (Utf8.lastFullCharStop (c.held ++ fill))) with
  | none => rfl
  | some text => exact if_neg (Nat.not_le.mpr hshort)

end DocumentMapper
