import DocumentMapper.Value.Identifier
import DocumentMapper.Wire.LittleEndian

/-!
# Scalars and back

A scalar of fixed width is stored as the little-endian bytes of a number, and the
number is found again because it fits into the width. A length is written as a
natural number and read as a signed one, so its round trip needs the bound that the
writer checks. The sixteen-byte identifiers are stored with three groups reversed,
and reversing them again restores the order.

## Theorems

* `toInt32_encode`: A length is read back as a signed number.
* `toInt32_int32`, `toInt64_int64`: Signed numbers are read back.
* `ofNat_decode_encode`: The bits of a double are read back.
* `ofMillis?_toInt_ofInt`: An instant survives its storage as a signed number.
* `vectorOfList?_toList`: The bytes of a vector are the vector again.
* `length_of_vectorOfList?`: Only that many bytes are a vector.
* `ofStored?_storedBytes`: An identifier is found from its stored bytes.
* `ofStored?_eq_none`: Only sixteen bytes are an identifier.
-/

namespace DocumentMapper

namespace LittleEndian

theorem decode_encode_of_lt {width n : Nat} (h : n < Nat.pow 256 width) :
    decode (encode width n) = n := by
  rw [decode_encode, Nat.mod_eq_of_lt h]

theorem toInt32_int32 (n : Int32) : toInt32 (int32 n) = n := by
  unfold toInt32 int32
  rw [decode_encode_of_lt n.toUInt32.toNat_lt, UInt32.ofNat_toNat]
  rfl

theorem toInt64_int64 (n : Int64) : toInt64 (int64 n) = n := by
  unfold toInt64 int64
  rw [decode_encode_of_lt n.toUInt64.toNat_lt, UInt64.ofNat_toNat]
  rfl

theorem toInt32_encode {n : Nat} (h : n ≤ 2147483647) :
    (toInt32 (encode 4 n)).toInt = n := by
  unfold toInt32
  rw [decode_encode_of_lt (Nat.lt_of_le_of_lt h (by decide))]
  have hn : (UInt32.ofNat n).toInt32 = Int32.ofNat n := by rfl
  rw [hn, Int32.toInt_ofNat_of_lt (by omega)]

theorem ofNat_decode_encode (bits : UInt64) :
    UInt64.ofNat (decode (encode 8 bits.toNat)) = bits := by
  rw [decode_encode_of_lt bits.toNat_lt, UInt64.ofNat_toNat]

end LittleEndian

theorem Instant.ofMillis?_toInt_ofInt (t : Instant) :
    Instant.ofMillis? (Int64.ofInt t.millis).toInt = some t := by
  have hrange := t.inRange
  rw [Int64.toInt_ofInt_of_le (by omega) (by omega)]
  unfold Instant.ofMillis?
  rw [dif_pos hrange]

theorem vectorOfList?_toList {n : Nat} (v : Vector UInt8 n) :
    vectorOfList? n v.toList = some v := by
  unfold vectorOfList?
  rw [dif_pos v.length_toList]
  rfl

theorem vectorOfList?_eq_none {n : Nat} {bytes : List UInt8} (h : bytes.length ≠ n) :
    vectorOfList? n bytes = none := by
  unfold vectorOfList?
  rw [dif_neg h]

theorem length_of_vectorOfList? {n : Nat} {bytes : List UInt8} {v : Vector UInt8 n}
    (h : vectorOfList? n bytes = some v) : bytes.length = n := by
  refine Decidable.by_contra fun hlength => ?_
  rw [vectorOfList?_eq_none hlength] at h
  cases h

namespace Uuid

@[simp] theorem length_toList (u : Uuid) : u.toList.length = 16 :=
  u.bytes.length_toList

theorem length_swapGroups (bytes : List UInt8) :
    (swapGroups bytes).length = bytes.length := by
  unfold swapGroups
  simp only [List.length_append, List.length_reverse, List.length_take, List.length_drop]
  omega

@[simp] theorem length_storedBytes (u : Uuid) : u.storedBytes.length = 16 := by
  unfold storedBytes
  rw [length_swapGroups, length_toList]

/-- Swapping the groups twice changes nothing, for lists that have all three groups. -/
theorem swapGroups_swapGroups {bytes : List UInt8} (h : 8 ≤ bytes.length) :
    swapGroups (swapGroups bytes) = bytes := by
  match bytes, h with
  | a :: b :: c :: d :: e :: f :: g :: i :: rest, _ => rfl

theorem ofStored?_storedBytes (u : Uuid) : ofStored? u.storedBytes = some u := by
  have hswap : swapGroups u.storedBytes = u.bytes.toList :=
    swapGroups_swapGroups (by rw [length_toList]; decide)
  unfold ofStored?
  rw [hswap, vectorOfList?_toList]
  rfl

theorem ofStored?_eq_none {bytes : List UInt8} (h : bytes.length ≠ 16) :
    ofStored? bytes = none := by
  unfold ofStored?
  rw [vectorOfList?_eq_none (by rw [length_swapGroups]; exact h)]
  rfl

end Uuid

namespace Value

/-- The stored form of an identifier is read as the identifier. -/
theorem ofBinary_storedBytes (u : Uuid) :
    ofBinary ⟨.uuidOld, u.storedBytes⟩ = .uuid u := by
  unfold ofBinary
  rw [if_pos rfl]
  simp only [Uuid.ofStored?_storedBytes]

/-- A binary that has not the form of an identifier is read as it is. -/
theorem ofBinary_of_not_isStoredUuid {b : Binary} (h : b.isStoredUuid = false) :
    ofBinary b = .binary b := by
  unfold ofBinary
  by_cases hold : b.subtype = .uuidOld
  · -- Of the old subtype only data of sixteen bytes are an identifier.
    have hlength : b.bytes.length ≠ 16 := by
      intro h16
      unfold Binary.isStoredUuid at h
      simp [hold, h16] at h
    rw [if_pos hold]
    simp only [Uuid.ofStored?_eq_none hlength]
  · rw [if_neg hold]

/-- A binary is read as an identifier, or as it is if it has not the form of one. -/
theorem ofBinary_cases (b : Binary) :
    (∃ u, ofBinary b = .uuid u) ∨ (b.isStoredUuid = false ∧ ofBinary b = .binary b) := by
  cases hstored : b.isStoredUuid with
  | false => exact .inr ⟨rfl, ofBinary_of_not_isStoredUuid hstored⟩
  | true =>
      unfold Binary.isStoredUuid at hstored
      rw [Bool.and_eq_true, decide_eq_true_iff, decide_eq_true_iff] at hstored
      have hlength : (Uuid.swapGroups b.bytes).length = 16 := by
        rw [Uuid.length_swapGroups, hstored.2]
      refine .inl ?_
      unfold ofBinary Uuid.ofStored? vectorOfList?
      rw [if_pos hstored.1, dif_pos hlength]
      exact ⟨_, rfl⟩

end Value

end DocumentMapper
