import DocumentMapper.Text.Utf8
import Mathlib.Tactic.SplitIfs

/-!
# UTF-8 in pieces

Text that was cut anywhere is decoded piece by piece without loss. The argument
rests on the shape of one character: a leading byte that announces how many bytes
there are, and at most three continuation bytes, none of which announces a
character. So the look back over four bytes always meets the leading byte of the
last character, complete or not, and the place it finds is where the last complete
character ends.

A cut of a text therefore has one form only (`exists_cut`): some complete
characters, and a `IsPartial` rest that the next piece continues. What a carry
does with a fill (`commit?_of_encode`) is read off that form. The statement is
about the bytes held, the fill and all bytes still to come at once, because that
is what a loop over fills keeps: together they are always the bytes of the text
that is still missing.

## Main definitions

* `IsSequence`: A leading byte with the continuation bytes it announces.
* `IsPartial`: Nothing, or the beginning of a character.

## Theorems

* `encode_eq_flatMap`: The bytes of a text are those of its characters.
* `encode_append`: Texts are encoded one after the other.
* `encode_injective`: A text is known from its bytes.
* `length_encode`: The number of bytes of a text.
* `decode?_eq_some`: What decodes to a text are its bytes and nothing else.
* `exists_sequence`: The bytes of a character are a sequence.
* `lastFullCharStop_sequence`: The look back finds the last leading byte.
* `exists_cut`: A cut text is complete characters and a partial one.
* `lastFullCharStop_cut`: The look back finds the end of the complete characters.
* `commit?_of_encode`: A commit decodes a piece of the text and holds the rest.
-/

namespace DocumentMapper

namespace Utf8

theorem encode_eq_flatMap (s : String) :
    encode s = s.toList.flatMap String.utf8EncodeChar := by
  have h : s.toByteArray = s.toList.utf8Encode := by
    rw [← String.toByteArray_ofList, String.ofList_toList]
  unfold encode
  rw [String.toUTF8_eq_toByteArray, h, List.utf8Encode]
  simp

theorem encode_ofList (cs : List Char) :
    encode (String.ofList cs) = cs.flatMap String.utf8EncodeChar := by
  rw [encode_eq_flatMap, String.toList_ofList]

@[simp] theorem encode_empty : encode "" = [] := by
  rw [encode_eq_flatMap]
  rfl

@[simp] theorem encode_append (s t : String) : encode (s ++ t) = encode s ++ encode t := by
  simp only [encode_eq_flatMap, String.toList_append, List.flatMap_append]

@[simp] theorem length_encode (s : String) : (encode s).length = s.utf8ByteSize := by
  rfl

theorem encode_injective {s t : String} (h : encode s = encode t) : s = t := by
  unfold encode at h
  rw [String.toUTF8_eq_toByteArray, String.toUTF8_eq_toByteArray] at h
  refine String.toByteArray_inj.mp (ByteArray.ext ?_)
  exact Array.toList_inj.mp h

theorem decode?_eq_some {bytes : List UInt8} {s : String} :
    decode? bytes = some s ↔ bytes = encode s := by
  unfold decode? String.fromUTF8?
  constructor
  · intro h
    split at h
    · cases h
      rfl
    · cases h
  · intro h
    -- A string carries the proof that its bytes are valid, and the bytes alone decide the test.
    have hb : (⟨bytes.toArray⟩ : ByteArray) = s.toByteArray := by
      rw [h]
      unfold encode
      rw [String.toUTF8_eq_toByteArray, Array.toArray_toList]
    rw [hb, dif_pos s.isValidUTF8]
    rfl

theorem decode?_encode (s : String) : decode? (encode s) = some s :=
  decode?_eq_some.mpr rfl

/-! ### The shape of a character -/

/-- A leading byte and the continuation bytes it announces. -/
structure IsSequence (lead : UInt8) (tail : List UInt8) : Prop where
  announced : sequenceLength lead = tail.length + 1
  short : tail.length ≤ 3
  continues : ∀ b ∈ tail, sequenceLength b = 0

/-- Nothing, or a leading byte with fewer continuation bytes than it announces. -/
def IsPartial (bytes : List UInt8) : Prop :=
  bytes = [] ∨ ∃ lead tail more, bytes = lead :: tail ∧ more ≠ [] ∧ IsSequence lead (tail ++ more)

theorem sequenceLength_ofNat {n : Nat} (h : n < 256) :
    sequenceLength (UInt8.ofNat n) =
      if n ≤ 0x7f then 1
      else if 0xc2 ≤ n ∧ n ≤ 0xdf then 2
      else if 0xe0 ≤ n ∧ n ≤ 0xef then 3
      else if 0xf0 ≤ n ∧ n ≤ 0xf4 then 4
      else 0 := by
  have hn : (UInt8.ofNat n).toNat = n := by
    rw [UInt8.toNat_ofNat', Nat.mod_eq_of_lt h]
  unfold sequenceLength
  simp only [UInt8.le_iff_toNat_le, hn]
  rfl

theorem sequenceLength_continuation (n : Nat) :
    sequenceLength (UInt8.ofNat (n % 0x40 + 0x80)) = 0 := by
  rw [sequenceLength_ofNat (by omega)]
  split_ifs <;> omega

theorem exists_sequence (c : Char) :
    ∃ lead tail, String.utf8EncodeChar c = lead :: tail ∧ IsSequence lead tail := by
  -- The last code point ends what a leading byte of four announces.
  have hmax : c.val.toNat < 0x110000 := by
    rcases c.valid with h | h
    · exact Nat.lt_trans h (by decide)
    · exact h.2
  unfold String.utf8EncodeChar
  dsimp only
  split_ifs with h1 h2 h3
  · refine ⟨_, _, rfl, ?_, by decide, by simp⟩
    rw [sequenceLength_ofNat (by omega), if_pos h1]
    rfl
  · refine ⟨_, _, rfl, ?_, by simp, ?_⟩
    · rw [sequenceLength_ofNat (by omega), if_neg (by omega), if_pos (by omega)]
      rfl
    · intro b hb
      rw [List.mem_singleton.mp hb]
      exact sequenceLength_continuation _
  · refine ⟨_, _, rfl, ?_, by simp, ?_⟩
    · rw [sequenceLength_ofNat (by omega), if_neg (by omega), if_neg (by omega),
        if_pos (by omega)]
      rfl
    · intro b hb
      simp only [List.mem_cons, List.not_mem_nil, or_false] at hb
      rcases hb with rfl | rfl
      all_goals exact sequenceLength_continuation _
  · refine ⟨_, _, rfl, ?_, by simp, ?_⟩
    · rw [sequenceLength_ofNat (by omega), if_neg (by omega), if_neg (by omega),
        if_neg (by omega), if_pos (by omega)]
      rfl
    · intro b hb
      simp only [List.mem_cons, List.not_mem_nil, or_false] at hb
      rcases hb with rfl | rfl | rfl
      all_goals exact sequenceLength_continuation _

/-! ### The look back -/

/-- Continuation bytes are passed over on the way back. -/
theorem stopBefore_continues (length : Nat) :
    ∀ (tail : List UInt8) (back : Nat) (before : List UInt8),
      (∀ b ∈ tail, sequenceLength b = 0) →
      stopBefore length back (tail ++ before) = stopBefore length (back + tail.length) before := by
  intro tail
  induction tail with
  | nil =>
      intro back before _
      rfl
  | cons b tail ih =>
      intro back before h
      rw [List.cons_append, stopBefore, if_pos (h b List.mem_cons_self),
        ih (back + 1) before (fun x hx => h x (List.mem_cons_of_mem b hx)), List.length_cons,
        Nat.add_assoc, Nat.add_comm 1]

theorem lastFullCharStop_sequence (before : List UInt8) (lead : UInt8) (tail : List UInt8)
    (needed : Nat) (hlead : sequenceLength lead = needed) (hpos : 0 < needed)
    (hshort : tail.length ≤ 3) (htail : ∀ b ∈ tail, sequenceLength b = 0) :
    lastFullCharStop (before ++ lead :: tail) =
      if tail.length + 1 < needed then before.length else before.length + tail.length + 1 := by
  -- The scan goes back over four bytes, and a sequence is no longer: it finds the lead byte.
  have hlast : ((before ++ lead :: tail).reverse.take 4) =
      tail.reverse ++ lead :: (before.reverse.take (3 - tail.length)) := by
    rw [List.reverse_append, List.reverse_cons, List.append_assoc, List.take_append,
      List.length_reverse, List.take_of_length_le (by rw [List.length_reverse]; omega),
      show 4 - tail.length = (3 - tail.length) + 1 by omega]
    rfl
  have hlen : (before ++ lead :: tail).length = before.length + tail.length + 1 := by
    rw [List.length_append, List.length_cons, Nat.add_assoc]
  unfold lastFullCharStop
  rw [hlast, stopBefore_continues _ _ _ _ (fun b hb => htail b (List.mem_reverse.mp hb)),
    stopBefore, hlead, if_neg (by omega), hlen, List.length_reverse]
  -- What is left is arithmetic: whether the sequence that the lead byte announces is all there.
  split_ifs <;> omega

/-! ### Cutting a text -/

/-- A cut text is some complete characters and the beginning of at most one more. -/
theorem exists_cut (cs : List Char) :
    ∀ (bytes more : List UInt8), bytes ++ more = cs.flatMap String.utf8EncodeChar →
      ∃ whole rest part, cs = whole ++ rest ∧
        bytes = whole.flatMap String.utf8EncodeChar ++ part ∧
        part ++ more = rest.flatMap String.utf8EncodeChar ∧
        IsPartial part ∧ (more = [] → part = []) := by
  induction cs with
  | nil =>
      intro bytes more h
      rcases List.append_eq_nil_iff.mp h with ⟨rfl, rfl⟩
      exact ⟨[], [], [], rfl, rfl, rfl, Or.inl rfl, fun _ => rfl⟩
  | cons c cs ih =>
      intro bytes more h
      rw [List.flatMap_cons] at h
      by_cases hlen : (String.utf8EncodeChar c).length ≤ bytes.length
      · -- The first character is complete, and the rest is cut in turn.
        rcases List.append_eq_append_iff.mp h with ⟨gap, hc, hrest⟩ | ⟨after, hb, hafter⟩
        · have hgap : gap = [] := by
            rw [hc, List.length_append] at hlen
            exact List.length_eq_zero_iff.mp (by omega)
          subst hgap
          rcases ih [] more hrest with ⟨whole, rest, part, hcs, hnil, hmore, hpart, hend⟩
          refine ⟨c :: whole, rest, part, by rw [hcs, List.cons_append], ?_, hmore, hpart, hend⟩
          rw [List.flatMap_cons, List.append_assoc, ← hnil, hc, List.append_nil, List.append_nil]
        · rcases ih after more hafter.symm with ⟨whole, rest, part, hcs, hb', hmore, hpart, hend⟩
          refine ⟨c :: whole, rest, part, by rw [hcs, List.cons_append], ?_, hmore, hpart, hend⟩
          rw [hb, hb', List.flatMap_cons, List.append_assoc]
      · -- The cut is inside the first character, or before it.
        rcases List.append_eq_append_iff.mp h with ⟨gap, hc, hmore⟩ | ⟨after, hb, _⟩
        · refine ⟨[], c :: cs, bytes, rfl, rfl, ?_, ?_, ?_⟩
          · rw [h, List.flatMap_cons]
          · cases bytes with
            | nil => exact Or.inl rfl
            | cons lead tail =>
                rcases exists_sequence c with ⟨lead', tail', hsequence, hshape⟩
                rw [hsequence, List.cons_append] at hc
                rcases List.cons.inj hc with ⟨rfl, rfl⟩
                refine Or.inr ⟨lead', tail, gap, rfl, ?_, hshape⟩
                intro hgap
                rw [hsequence, hgap, List.append_nil] at hlen
                exact hlen (Nat.le_refl _)
          · intro hnil
            rw [hnil] at hmore
            have hgap : gap = [] := (List.append_eq_nil_iff.mp hmore.symm).1
            rw [hc, hgap, List.append_nil] at hlen
            exact absurd (Nat.le_refl _) hlen
        · rw [hb, List.length_append] at hlen
          omega

/-- The look back finds the end of the complete characters. -/
theorem lastFullCharStop_cut (whole : List Char) (part : List UInt8) (hpart : IsPartial part) :
    lastFullCharStop (whole.flatMap String.utf8EncodeChar ++ part) =
      (whole.flatMap String.utf8EncodeChar).length := by
  -- No byte of a next character: the last whole character decides. Else its lead byte does.
  rcases hpart with rfl | ⟨lead, tail, more, rfl, hmore, hshape⟩
  · rw [List.append_nil]
    rcases List.eq_nil_or_concat whole with rfl | ⟨before, c, rfl⟩
    · rfl
    · rcases exists_sequence c with ⟨lead, tail, hsequence, hshape⟩
      rw [List.concat_eq_append, List.flatMap_append, List.flatMap_singleton, hsequence,
        lastFullCharStop_sequence _ lead tail _ hshape.announced (by omega) hshape.short
          hshape.continues,
        if_neg (by omega), List.length_append, List.length_cons, Nat.add_assoc]
  · have hpos : 0 < more.length := List.length_pos_iff.mpr hmore
    have hneeded := hshape.announced
    have hshort := hshape.short
    rw [List.length_append] at hneeded hshort
    rw [lastFullCharStop_sequence _ lead tail _ hneeded (by omega) (by omega)
        (fun b hb => hshape.continues b (List.mem_append_left more hb)),
      if_pos (by omega)]

theorem IsPartial.length_lt {part : List UInt8} (h : IsPartial part) : part.length < 4 := by
  rcases h with rfl | ⟨lead, tail, more, rfl, hmore, hshape⟩
  · decide
  · have hpos : 0 < more.length := List.length_pos_iff.mpr hmore
    have hshort := hshape.short
    rw [List.length_append] at hshort
    rw [List.length_cons]
    omega

end Utf8

namespace Carry

/-- A fill that continues a text is committed: with `more` still to come, the text is
    what was decoded and what the held bytes begin. Where nothing more comes, nothing
    is held. -/
theorem commit?_of_encode (c : Carry) (fill more : List UInt8) (s : String)
    (h : c.held ++ fill ++ more = Utf8.encode s) :
    ∃ (d : Decoded) (rest : String), c.commit? fill = some d ∧ s = d.text ++ rest ∧
      d.carry.held ++ more = Utf8.encode rest ∧ d.carry.capacity = c.capacity ∧
      d.carry.held.length < minCapacity ∧ (more = [] → d.carry.held = []) := by
  rw [Utf8.encode_eq_flatMap] at h
  rcases Utf8.exists_cut s.toList _ _ h with
    ⟨whole, rest, part, hcs, hbytes, hmore, hpart, hend⟩
  have hstop := Utf8.lastFullCharStop_cut whole part hpart
  have hlt := hpart.length_lt
  refine ⟨⟨String.ofList whole, Utf8.lastFullCharStop (c.held ++ fill), { c with held := part }⟩,
    String.ofList rest, ?_, ?_, ?_, rfl, hlt, hend⟩
  · -- The whole characters are what the scan cuts off, and they are valid, being an encoding.
    unfold commit?
    simp only []
    rw [hbytes, hstop, List.take_left, List.drop_left, ← Utf8.encode_ofList,
      Utf8.decode?_encode]
    exact if_neg (Nat.not_le.mpr hlt)
  · rw [← String.ofList_append, ← hcs, String.ofList_toList]
  · rw [Utf8.encode_ofList, ← hmore]

/-- A new carry holds nothing and has room for a whole character. -/
theorem ofCapacity_wellFormed (capacity : Nat) :
    (ofCapacity capacity).held = [] ∧ minCapacity ≤ (ofCapacity capacity).capacity := by
  refine ⟨rfl, ?_⟩
  exact Nat.le_max_right _ _

end Carry

end DocumentMapper
