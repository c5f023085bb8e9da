import Discnet.Lib.Word

/-!
# Types shared by all components

Bytes, addresses, hop metrics and clock readings, and the conversions
between host and network byte order. The host is little-endian.
-/

namespace Discnet

abbrev Byte := UInt8

/-- The difference of two `size_t` values, which wraps around below zero. -/
def sizeSub (a b : Nat) : Nat := (a + 2 ^ 64 - b) % 2 ^ 64

theorem sizeSub_of_le (h : b ≤ a) (ha : a < 2 ^ 64) : sizeSub a b = a - b := by
  unfold sizeSub
  omega

/-- The difference of two `size_t` values that does not wrap around. -/
def difference (a b : Nat) : Option Nat := if b ≤ a then some (a - b) else none

theorem difference_of_le (h : b ≤ a) : difference a b = some (a - b) := if_pos h

theorem zero_or_difference (h : b ≤ a) :
    (if b ≥ a then some 0 else difference a b) = some (if b ≥ a then 0 else a - b) := by
  rw [difference_of_le h]
  split <;> rfl

/-- An IPv4 address, held as the number `to_uint` gives. -/
structure Address where
  toUInt : UInt32
  deriving DecidableEq, Repr

namespace Address

def any : Address := ⟨0⟩

def toString (address : Address) : String :=
  let n := address.toUInt.toNat
  s!"{n / 2 ^ 24}.{n / 2 ^ 16 % 2 ^ 8}.{n / 2 ^ 8 % 2 ^ 8}.{n % 2 ^ 8}"

end Address

abbrev Metric := UInt16

abbrev Jumps := List Metric

/-- A reading of the system clock, in ticks since the Unix epoch. -/
abbrev TimePoint := Int

def ticksPerSecond : Int := 10000000

def seconds (n : Int) : Int := n * ticksPerSecond

/-- `time_point::min()`, the smallest signed 64-bit tick count. -/
def TimePoint.min : TimePoint := -2 ^ 63

namespace Network

open Lib

variable {α : Type} [Word α]

def nativeToNetwork (v : α) : α := Word.byteSwap v

def networkToNative (v : α) : α := Word.byteSwap v

@[simp] theorem toBytes_nativeToNetwork (v : α) :
    Word.toBytes (nativeToNetwork v) = Word.toBigEndian v := Word.toBytes_byteSwap v

theorem networkToNative_ofBytes {bytes : List Byte} (h : bytes.length = Word.size α) :
    networkToNative (Word.ofBytes bytes : α) = Word.ofBigEndian bytes := Word.byteSwap_ofBytes h

end Network

end Discnet
