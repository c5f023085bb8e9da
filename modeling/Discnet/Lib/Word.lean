import Mathlib.Algebra.Ring.Int.Defs
import Mathlib.Algebra.Ring.Nat
import Mathlib.Tactic.Common

/-!
# Fixed-width integers as bytes

A `Word` is an integer type of a fixed number of bytes. `toBytes` and
`ofBytes` are its representation in the memory of a little-endian host, and
`byteSwap` exchanges that for the big-endian one. Nothing here depends on
which integers a program stores.
-/

namespace Discnet.Lib

-- ---------------------------------------------------------------------------
-- Naturals of a given number of bytes
-- ---------------------------------------------------------------------------

/-- The low `k` bytes of `n`, the least significant first. -/
def littleEndian : Nat → Nat → List UInt8
  | 0, _ => []
  | k + 1, n => UInt8.ofNat n :: littleEndian k (n / 256)

/-- The number a list of bytes stands for, the least significant first. -/
def fromLittleEndian : List UInt8 → Nat
  | [] => 0
  | byte :: bytes => byte.toNat + 256 * fromLittleEndian bytes

@[simp] theorem length_littleEndian : (littleEndian k n).length = k := by
  induction k generalizing n with
  | zero => rfl
  | succ k ih => simp [littleEndian, ih]

theorem fromLittleEndian_littleEndian :
    fromLittleEndian (littleEndian k n) = n % 256 ^ k := by
  induction k generalizing n with
  | zero => simp [littleEndian, fromLittleEndian, Nat.mod_one]
  | succ k ih =>
    have hb : (UInt8.ofNat n).toNat = n % 256 := by simp
    rw [littleEndian, fromLittleEndian, ih, hb, Nat.pow_succ, Nat.mul_comm (256 ^ k),
      Nat.mod_mul]

theorem littleEndian_fromLittleEndian (bytes : List UInt8) :
    littleEndian bytes.length (fromLittleEndian bytes) = bytes := by
  induction bytes with
  | nil => rfl
  | cons byte bytes ih =>
    have hb := byte.toNat_lt
    have hd : (byte.toNat + 256 * fromLittleEndian bytes) / 256 = fromLittleEndian bytes := by
      omega
    have hm : UInt8.ofNat (byte.toNat + 256 * fromLittleEndian bytes) = byte := by
      apply UInt8.toNat_inj.mp
      simp only [UInt8.toNat_ofNat']
      omega
    simp only [List.length_cons, fromLittleEndian, littleEndian, hd, hm, ih]

theorem littleEndian_mod : littleEndian k (n % 256 ^ k) = littleEndian k n := by
  have h := littleEndian_fromLittleEndian (littleEndian k n)
  rwa [length_littleEndian, fromLittleEndian_littleEndian] at h

-- ---------------------------------------------------------------------------
-- Words
-- ---------------------------------------------------------------------------

/-- An integer type of `size` bytes, with the unsigned number its bits
stand for. -/
class Word (α : Type) where
  size : Nat
  toNat : α → Nat
  ofNat : Nat → α
  ofNat_toNat : ∀ v, ofNat (toNat v) = v
  toNat_ofNat : ∀ n, toNat (ofNat n) = n % 256 ^ size

instance : Word UInt16 where
  size := 2
  toNat := UInt16.toNat
  ofNat := UInt16.ofNat
  ofNat_toNat := by simp
  toNat_ofNat := by simp

instance : Word UInt32 where
  size := 4
  toNat := UInt32.toNat
  ofNat := UInt32.ofNat
  ofNat_toNat := by simp
  toNat_ofNat := by simp

instance : Word UInt64 where
  size := 8
  toNat := UInt64.toNat
  ofNat := UInt64.ofNat
  ofNat_toNat := by simp
  toNat_ofNat := by simp

instance : Word Int16 where
  size := 2
  toNat v := v.toUInt16.toNat
  ofNat n := (UInt16.ofNat n).toInt16
  ofNat_toNat := by simp
  toNat_ofNat := by simp

instance : Word Int32 where
  size := 4
  toNat v := v.toUInt32.toNat
  ofNat n := (UInt32.ofNat n).toInt32
  ofNat_toNat := by simp
  toNat_ofNat := by simp

instance : Word Int64 where
  size := 8
  toNat v := v.toUInt64.toNat
  ofNat n := (UInt64.ofNat n).toInt64
  ofNat_toNat := by simp
  toNat_ofNat := by simp

@[simp] theorem size_uint16 : Word.size UInt16 = 2 := rfl

@[simp] theorem size_uint32 : Word.size UInt32 = 4 := rfl

namespace Word

variable {α : Type} [Word α]

def toBytes (v : α) : List UInt8 := littleEndian (size α) (toNat v)

def ofBytes (bytes : List UInt8) : α := ofNat (fromLittleEndian bytes)

def toBigEndian (v : α) : List UInt8 := (toBytes v).reverse

def ofBigEndian (bytes : List UInt8) : α := ofBytes bytes.reverse

def byteSwap (v : α) : α := ofBytes (toBigEndian v)

theorem toNat_lt (v : α) : toNat v < 256 ^ size α := by
  rw [← ofNat_toNat v, toNat_ofNat]
  exact Nat.mod_lt _ (Nat.pow_pos (by decide))

@[simp] theorem length_toBytes (v : α) : (toBytes v).length = size α := by simp [toBytes]

@[simp] theorem length_toBigEndian (v : α) : (toBigEndian v).length = size α := by
  simp [toBigEndian]

@[simp] theorem ofBytes_toBytes (v : α) : ofBytes (toBytes v) = v := by
  rw [ofBytes, toBytes, fromLittleEndian_littleEndian, Nat.mod_eq_of_lt (toNat_lt v), ofNat_toNat]

theorem toBytes_ofBytes {bytes : List UInt8} (h : bytes.length = size α) :
    toBytes (ofBytes bytes : α) = bytes := by
  rw [toBytes, ofBytes, toNat_ofNat, littleEndian_mod, ← h, littleEndian_fromLittleEndian]

@[simp] theorem ofBigEndian_toBigEndian (v : α) : ofBigEndian (toBigEndian v) = v := by
  simp [ofBigEndian, toBigEndian]

theorem toBigEndian_ofBigEndian {bytes : List UInt8} (h : bytes.length = size α) :
    toBigEndian (ofBigEndian bytes : α) = bytes := by
  rw [toBigEndian, ofBigEndian, toBytes_ofBytes (by simpa using h), List.reverse_reverse]

@[simp] theorem toBytes_byteSwap (v : α) : toBytes (byteSwap v) = toBigEndian v := by
  rw [byteSwap, toBytes_ofBytes (length_toBigEndian v)]

@[simp] theorem byteSwap_ofBytes {bytes : List UInt8} (h : bytes.length = size α) :
    byteSwap (ofBytes bytes : α) = ofBigEndian bytes := by
  rw [byteSwap, toBigEndian, toBytes_ofBytes h, ofBigEndian]

@[simp] theorem byteSwap_byteSwap (v : α) : byteSwap (byteSwap v) = v := by
  rw [byteSwap, toBigEndian, toBytes_byteSwap, toBigEndian, List.reverse_reverse, ofBytes_toBytes]

end Word

end Discnet.Lib
