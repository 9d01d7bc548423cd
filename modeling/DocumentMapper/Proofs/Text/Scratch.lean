import DocumentMapper.Proofs.Text.Pieces

/-!
# The scratch buffer behind a carry

A carry is the held bytes and a capacity. The bytes are held in a buffer of fixed length: the
first ones are those that are held, a fill writes behind them, and a commit moves what is left
to the front. Nothing clears the buffer, so it is full of bytes of earlier fills. A commit is
told how many bytes were filled in and does not know what they are, and while it works it puts
text behind the output before all of its checks are done.

All that could go wrong in this depends on one number. If the rest that a commit holds back is
shorter than a character, the next fill has room, and the check that comes after the text was
put out never fails, so a commit that fails has changed nothing. That the rest is so short is
not a property of text. It holds of all bytes, because the look back stops at the last
byte that can begin a character and finds that too few follow it (`isPartial_drop_stop`). So
it is an invariant of all operations in any order (`Ready`), with commits that fail among
them, and all else is read off one equation for a commit (`commit_eq`).

## Main definitions

* `Scratch`: A buffer with all of its bytes.
* `Scratch.fill`, `Scratch.commit`, `Scratch.finish`, `Scratch.reset`: What is done with it.
* `Scratch.Operation`, `Scratch.run`: One operation after another.
* `Scratch.Ready`: Less than a character is held.
* `Scratch.carry`: What a buffer is as a carry.

## Theorems

* `commit_eq`: A commit of as many bytes as there is room for.
* `ready_run`: Every operation leaves room for a fill.
* `outcome_ne_restTooLong`, `unchanged_of_failed`: How commits do not end, and how they fail.
* `carry_commit`, `carry_fill`, `carry_reset`: The operations are those of the carry.
-/

namespace DocumentMapper

/-- A scratch buffer with all of its bytes, and how many of the first ones are held back. -/
structure Scratch where
  buffer : List UInt8
  carried : Nat
deriving DecidableEq, Repr

namespace Scratch

/-- How a commit ends. -/
inductive Outcome where
  /-- The bytes up to a place are decoded. -/
  | decoded (stop : Nat)
  /-- The bytes up to that place are no UTF-8. -/
  | malformed
  /-- What follows is as long as a whole character. -/
  | restTooLong
  /-- There is no room for as many bytes as were filled in. Nothing is done. -/
  | outOfBounds
deriving DecidableEq, Repr

/-- What a commit does: how it ends, the text it puts behind the output, and the buffer it
    leaves. -/
structure Commit where
  outcome : Outcome
  appended : String
  scratch : Scratch

/-- A new buffer. -/
def ofCapacity (capacity : Nat) : Scratch where
  buffer := List.replicate (max capacity Carry.minCapacity) 0
  carried := 0

/-- The bytes behind those that are held, which a fill may overwrite. -/
def slot (s : Scratch) : List UInt8 :=
  s.buffer.drop s.carried

/-- Writes bytes to the front of the slot, as far as they fit. -/
def fill (s : Scratch) (bytes : List UInt8) : Scratch :=
  { s with
    buffer := s.buffer.take s.carried ++
      (bytes.take s.slot.length ++ s.slot.drop bytes.length) }

/-- Holds bytes, which are moved to the front. -/
def keep (s : Scratch) (rest : List UInt8) : Scratch where
  buffer := rest ++ s.buffer.drop rest.length
  carried := rest.length

/-- Decodes the held bytes and as many of the slot as were filled in, up to the last complete
    character, and holds the rest. The text is put out before the rest is looked at. -/
def commit (s : Scratch) (filled : Nat) : Commit :=
  let total := s.carried + filled
  if s.buffer.length < total then ⟨.outOfBounds, "", s⟩
  else
    let stop := Utf8.lastFullCharStop (s.buffer.take total)
    match Utf8.decode? (s.buffer.take stop) with
    | none => ⟨.malformed, "", s⟩
    | some text =>
      let rest := (s.buffer.take total).drop stop
      if Carry.minCapacity ≤ rest.length then ⟨.restTooLong, text, s⟩
      else ⟨.decoded stop, text, s.keep rest⟩

/-- Lets go of the held bytes. -/
def reset (s : Scratch) : Scratch :=
  { s with carried := 0 }

/-- Whether nothing is held back, and the buffer without what is. -/
def finish (s : Scratch) : Bool × Scratch :=
  (s.carried == 0, s.reset)

/-- What can be done with a buffer. -/
inductive Operation where
  | fill (bytes : List UInt8)
  | commit (filled : Nat)
  | finish
  | reset

/-- The buffer after an operation, whether it fails or not. -/
def apply (s : Scratch) : Operation → Scratch
  | .fill bytes => s.fill bytes
  | .commit filled => (s.commit filled).scratch
  | .finish => s.finish.2
  | .reset => s.reset

/-- The buffer after one operation after another. -/
def run (s : Scratch) (operations : List Operation) : Scratch :=
  operations.foldl apply s

/-- What a buffer is as a carry: its length and the bytes it holds. -/
def carry (s : Scratch) : Carry where
  capacity := s.buffer.length
  held := s.buffer.take s.carried

/-- What a commit is for the carry. -/
def Commit.decoded? (done : Commit) : Option Carry.Decoded :=
  match done.outcome with
  | .decoded stop => some ⟨done.appended, stop, done.scratch.carry⟩
  | _ => none

end Scratch

/-! ### The place of the last complete character -/

namespace Utf8

theorem stopBefore_le (length : Nat) (window : List UInt8) :
    ∀ back : Nat, stopBefore length back window ≤ length := by
  induction window with
  | nil => exact fun _ => Nat.le_refl length
  | cons b window ih =>
      intro back
      rw [stopBefore]
      split_ifs
      · exact ih (back + 1)
      · exact Nat.sub_le length back
      · exact Nat.le_refl length

theorem lastFullCharStop_le (bytes : List UInt8) : lastFullCharStop bytes ≤ bytes.length :=
  stopBefore_le _ _ _

end Utf8

theorem Carry.minCapacity_pos : 0 < minCapacity := by
  decide

namespace Scratch

/-! ### One equation for a commit -/

variable {s : Scratch} {filled capacity : Nat}

/-- A commit within the buffer reads its bytes at once and holds what is left. The check of
    its length has no part in this. -/
theorem commit_eq (hfits : s.carried + filled ≤ s.buffer.length) :
    s.commit filled =
      match Utf8.cut? (s.buffer.take (s.carried + filled)) with
      | none => ⟨.malformed, "", s⟩
      | some (text, rest) =>
        ⟨.decoded (Utf8.lastFullCharStop (s.buffer.take (s.carried + filled))), text,
          s.keep rest⟩ := by
  have hstop := Utf8.lastFullCharStop_le (s.buffer.take (s.carried + filled))
  have hshort := (Utf8.isPartial_drop_stop (s.buffer.take (s.carried + filled))).length_lt
  rw [List.length_take, Nat.min_eq_left hfits] at hstop
  unfold commit Utf8.cut?
  dsimp only
  generalize Utf8.lastFullCharStop (s.buffer.take (s.carried + filled)) = stop at hstop hshort ⊢
  rw [if_neg (Nat.not_lt.mpr hfits), List.take_take, Nat.min_eq_left hstop]
  -- What is cut off is less than one character, so the check on its length never fails here.
  cases Utf8.decode? (s.buffer.take stop) with
  | none => rfl
  | some text => exact if_neg (Nat.not_le.mpr hshort)

/-- A commit beyond the buffer does nothing. -/
theorem commit_beyond (hbeyond : s.buffer.length < s.carried + filled) :
    s.commit filled = ⟨.outOfBounds, "", s⟩ := by
  unfold commit
  exact if_pos hbeyond

/-- No commit finds that too much is left, whatever the buffer is. -/
theorem outcome_ne_restTooLong (s : Scratch) (filled : Nat) :
    (s.commit filled).outcome ≠ .restTooLong := by
  rcases Nat.lt_or_ge s.buffer.length (s.carried + filled) with hbeyond | hfits
  · rw [commit_beyond hbeyond]
    exact nofun
  · rw [commit_eq hfits]
    cases Utf8.cut? (s.buffer.take (s.carried + filled)) with
    | none => exact nofun
    | some cut => exact nofun

/-- A commit that fails changes nothing. -/
theorem unchanged_of_failed (hfailed : ∀ stop, (s.commit filled).outcome ≠ .decoded stop) :
    (s.commit filled).scratch = s ∧ (s.commit filled).appended = "" := by
  rcases Nat.lt_or_ge s.buffer.length (s.carried + filled) with hbeyond | hfits
  · rw [commit_beyond hbeyond]
    exact ⟨rfl, rfl⟩
  · rw [commit_eq hfits] at hfailed ⊢
    cases hcut : Utf8.cut? (s.buffer.take (s.carried + filled)) with
    | none => exact ⟨rfl, rfl⟩
    | some cut =>
        rw [hcut] at hfailed
        exact absurd rfl (hfailed _)

/-! ### Less than a character is held -/

/-- The buffer has the length it began with and holds less than a character. -/
structure Ready (capacity : Nat) (s : Scratch) : Prop where
  length : s.buffer.length = max capacity Carry.minCapacity
  short : s.carried < Carry.minCapacity

theorem length_slot (s : Scratch) : s.slot.length = s.buffer.length - s.carried :=
  List.length_drop

theorem length_fill (hcarried : s.carried ≤ s.buffer.length) (bytes : List UInt8) :
    (s.fill bytes).buffer.length = s.buffer.length := by
  have hslot := s.length_slot
  unfold fill
  dsimp only
  rw [List.length_append, List.length_append, List.length_take, List.length_take,
    List.length_drop]
  omega

/-- Held bytes are some of those in the buffer, and its length stays. -/
theorem length_keep {rest : List UInt8} (hrest : rest.length ≤ s.buffer.length) :
    (s.keep rest).buffer.length = s.buffer.length := by
  unfold keep
  dsimp only
  rw [List.length_append, List.length_drop, Nat.add_sub_cancel' hrest]

/-- What is left of bytes of the buffer is not longer than the buffer. -/
theorem length_rest_le {count : Nat} {text : String} {rest : List UInt8}
    (hcut : Utf8.cut? (s.buffer.take count) = some (text, rest)) :
    rest.length ≤ s.buffer.length := by
  have hbytes := congrArg List.length (Utf8.cut?_eq_some.mp hcut).1
  rw [List.length_take, List.length_append] at hbytes
  omega

namespace Ready

theorem minCapacity_le (hs : s.Ready capacity) : Carry.minCapacity ≤ s.buffer.length := by
  rw [hs.length]
  exact Nat.le_max_right _ _

theorem carried_le (hs : s.Ready capacity) : s.carried ≤ s.buffer.length :=
  Nat.le_trans (Nat.le_of_lt hs.short) hs.minCapacity_le

/-- There is always room for a fill. -/
theorem slot_pos (hs : s.Ready capacity) : 0 < s.slot.length := by
  have hshort := hs.short
  have hlength := hs.minCapacity_le
  rw [length_slot]
  omega

end Ready

theorem ready_ofCapacity (capacity : Nat) : (ofCapacity capacity).Ready capacity where
  length := List.length_replicate
  short := Carry.minCapacity_pos

theorem ready_fill (hs : s.Ready capacity) (bytes : List UInt8) :
    (s.fill bytes).Ready capacity where
  length := (length_fill hs.carried_le bytes).trans hs.length
  short := hs.short

/-- After a commit less than a character is held, or as much as before. -/
theorem ready_commit (hs : s.Ready capacity) (filled : Nat) :
    (s.commit filled).scratch.Ready capacity := by
  rcases Nat.lt_or_ge s.buffer.length (s.carried + filled) with hbeyond | hfits
  · rw [commit_beyond hbeyond]
    exact hs
  · rw [commit_eq hfits]
    cases hcut : Utf8.cut? (s.buffer.take (s.carried + filled)) with
    | none => exact hs
    | some cut =>
        rcases cut with ⟨text, rest⟩
        have hkept := length_keep (length_rest_le hcut)
        exact ⟨hkept.trans hs.length, (Utf8.cut?_eq_some.mp hcut).2.length_lt⟩

theorem ready_reset (hs : s.Ready capacity) : s.reset.Ready capacity where
  length := hs.length
  short := Carry.minCapacity_pos

theorem ready_apply (hs : s.Ready capacity) (operation : Operation) :
    (s.apply operation).Ready capacity := by
  cases operation with
  | fill bytes => exact ready_fill hs bytes
  | commit filled => exact ready_commit hs filled
  | finish => exact ready_reset hs
  | reset => exact ready_reset hs

/-- Whatever is done with a buffer, and whatever of it fails, there is room for a fill. -/
theorem ready_run (hs : s.Ready capacity) (operations : List Operation) :
    (s.run operations).Ready capacity := by
  induction operations generalizing s with
  | nil => exact hs
  | cons operation operations ih => exact ih (ready_apply hs operation)

/-- The beginning of a character stays when a commit of more bytes fails. -/
example : (run (ofCapacity 0) [.fill [0xe2, 0x82], .commit 2, .fill [0x28], .commit 1]).carry.held =
    [0xe2, 0x82] := by
  rfl

/-! ### The carry -/

theorem slot_fill (hcarried : s.carried ≤ s.buffer.length) (bytes : List UInt8) :
    (s.fill bytes).slot = bytes.take s.slot.length ++ s.slot.drop bytes.length := by
  have hheld : (s.buffer.take s.carried).length = s.carried := List.length_take_of_le hcarried
  exact List.drop_left' hheld

/-- A fill that fits is what a commit of its length reads. -/
theorem take_slot_fill (hcarried : s.carried ≤ s.buffer.length) {bytes : List UInt8}
    (hfits : bytes.length ≤ s.slot.length) : (s.fill bytes).slot.take bytes.length = bytes := by
  rw [slot_fill hcarried, List.take_of_length_le hfits, List.take_left]

theorem carry_fill (hcarried : s.carried ≤ s.buffer.length) (bytes : List UInt8) :
    (s.fill bytes).carry = s.carry := by
  have hheld : (s.fill bytes).buffer.take s.carried = s.buffer.take s.carried := by
    exact List.take_left' (List.length_take_of_le hcarried)
  unfold carry
  rw [length_fill hcarried, ← hheld]
  rfl

/-- A commit decodes what the carry does, and leaves a buffer that is what the carry is then. -/
theorem carry_commit (hcarried : s.carried ≤ s.buffer.length) (hfits : filled ≤ s.slot.length) :
    s.carry.commit? (s.slot.take filled) = (s.commit filled).decoded? := by
  rw [length_slot] at hfits
  -- The bytes held and the fill are next to each other in the buffer.
  have hbytes : s.carry.held ++ s.slot.take filled = s.buffer.take (s.carried + filled) :=
    List.take_add.symm
  rw [Carry.commit?_eq_map, hbytes, commit_eq (by omega)]
  cases hcut : Utf8.cut? (s.buffer.take (s.carried + filled)) with
  | none => rfl
  | some cut =>
      rcases cut with ⟨text, rest⟩
      have hkept : (s.keep rest).carry = { s.carry with held := rest } := by
        unfold carry
        rw [length_keep (length_rest_le hcut)]
        unfold keep
        dsimp only
        rw [List.take_left]
      unfold Commit.decoded?
      dsimp only [Option.map_some]
      rw [hkept]

theorem length_held (hcarried : s.carried ≤ s.buffer.length) :
    s.carry.held.length = s.carried :=
  List.length_take_of_le hcarried

theorem carry_room (hcarried : s.carried ≤ s.buffer.length) : s.carry.room = s.slot.length := by
  unfold Carry.room
  rw [length_held hcarried, length_slot]
  rfl

/-- Nothing is held in the buffer exactly if nothing is held in the carry. -/
theorem carry_isEmpty (hcarried : s.carried ≤ s.buffer.length) :
    s.carry.isEmpty = (s.carried == 0) := by
  unfold Carry.isEmpty
  rw [Bool.eq_iff_iff, List.isEmpty_iff_length_eq_zero, length_held hcarried, beq_iff_eq]

/-- A buffer that is reset is a new carry, whatever was done with it. -/
theorem carry_reset (hs : s.Ready capacity) : s.reset.carry = .ofCapacity capacity := by
  unfold carry reset Carry.ofCapacity
  dsimp only
  rw [hs.length, List.take_zero]

end Scratch

end DocumentMapper
