import Discnet.AdapterManager
import Discnet.Lib.Columns

/-!
# Bytes as text

A hex string has two digits for each byte and a blank between two of them. It
is written byte by byte into a string of blanks whose size was worked out
before. The bytes can be read off again, so that adapters with different
physical addresses have different mac addresses.
-/

namespace Discnet

open Lib

/-- A number in upper-case digits, with zeros in front up to the width. -/
def formatHex (width n : Nat) : List Char :=
  let digits := (Nat.toDigits 16 n).map Char.toUpper
  List.replicate (width - digits.length) '0' ++ digits

/-- The writes go by position and are not checked. There is no string where
one of them ends outside it. -/
def bytesToHexString (buffer : List Byte) : Option String :=
  if buffer.length ≤ 0 then some ""
  else do
    let resultSize := if buffer.length = 1 then 2 else buffer.length * 3 - 1
    let result ← buffer.zipIdx.foldlM
      (fun result (byte, i) => overwrite result (i * 3) (formatHex 2 byte.toNat))
      (List.replicate resultSize ' ')
    return String.ofList result

-- ---------------------------------------------------------------------------
-- Digits
-- ---------------------------------------------------------------------------

def hexDigits : List Char :=
  ['0', '1', '2', '3', '4', '5', '6', '7', '8', '9', 'A', 'B', 'C', 'D', 'E', 'F']

def hexDigit (d : Fin 16) : Char := hexDigits.get d

def hexValue (c : Char) : Option (Fin 16) := hexDigits.finIdxOf? c

def highDigit (byte : Byte) : Fin 16 :=
  ⟨byte.toNat / 16, by have := byte.toNat_lt; omega⟩

def lowDigit (byte : Byte) : Fin 16 := ⟨byte.toNat % 16, Nat.mod_lt _ (by decide)⟩

def hexPair (byte : Byte) : List Char := [hexDigit (highDigit byte), hexDigit (lowDigit byte)]

def byteOfPair (high low : Char) : Option Byte := do
  let high ← hexValue high
  let low ← hexValue low
  return .ofNat (16 * high + low)

@[simp] theorem length_hexPair (byte : Byte) : (hexPair byte).length = 2 := rfl

@[simp] theorem hexValue_hexDigit (d : Fin 16) : hexValue (hexDigit d) = some d := by
  revert d
  decide

theorem toUpper_digitChar (d : Fin 16) : (Nat.digitChar d).toUpper = hexDigit d := by
  revert d
  decide

theorem toUpper_toDigits (d : Fin 16) : (Nat.toDigits 16 d).map Char.toUpper = [hexDigit d] := by
  rw [Nat.toDigits_of_lt_base d.isLt, List.map_singleton, toUpper_digitChar]

/-- A byte below 16 has one digit, and a zero in front. -/
theorem formatHex_byte (byte : Byte) : formatHex 2 byte.toNat = hexPair byte := by
  have hlow := toUpper_toDigits (lowDigit byte)
  rcases Nat.lt_or_ge byte.toNat 16 with hsmall | hlarge
  · have hhigh : highDigit byte = 0 := Fin.ext (Nat.div_eq_of_lt hsmall)
    have hbyte : (lowDigit byte : Nat) = byte.toNat := Nat.mod_eq_of_lt hsmall
    rw [hbyte] at hlow
    simp [formatHex, hexPair, hlow, hhigh]
    rfl
  · have hhigh := toUpper_toDigits (highDigit byte)
    have hsplit : Nat.toDigits 16 byte.toNat =
        Nat.toDigits 16 (highDigit byte) ++ Nat.toDigits 16 (lowDigit byte) := by
      have hpos : 0 < (highDigit byte : Nat) := Nat.div_pos hlarge (by decide)
      rw [Nat.toDigits_append_toDigits (by decide) hpos (lowDigit byte).isLt]
      exact congrArg _ (Nat.div_add_mod byte.toNat 16).symm
    simp [formatHex, hexPair, hsplit, hhigh, hlow]

@[simp] theorem byteOfPair_hexPair (byte : Byte) :
    byteOfPair (hexDigit (highDigit byte)) (hexDigit (lowDigit byte)) = some byte := by
  have hsum : 16 * (highDigit byte : Nat) + lowDigit byte = byte.toNat :=
    Nat.div_add_mod byte.toNat 16
  simp only [byteOfPair, hexValue_hexDigit]
  change some (UInt8.ofNat (16 * highDigit byte + lowDigit byte)) = some byte
  rw [hsum, UInt8.ofNat_toNat]

-- ---------------------------------------------------------------------------
-- Reading the bytes off again
-- ---------------------------------------------------------------------------

def parsePairs : List Char → Option (List Byte)
  | [high, low] => return [← byteOfPair high low]
  | high :: low :: ' ' :: rest => return (← byteOfPair high low) :: (← parsePairs rest)
  | _ => none

/-- The bytes that a hex string is written for. -/
def parseHexString (text : String) : Option (List Byte) :=
  if text = "" then some [] else parsePairs text.toList

theorem parsePairs_hexPair (byte : Byte) (rest : List Char) :
    parsePairs (hexPair byte ++ [' '] ++ rest) = (parsePairs rest).map (byte :: ·) := by
  simp [hexPair, parsePairs]
  cases parsePairs rest <;> rfl

theorem parsePairs_intercalate {bytes : List Byte} (h : bytes ≠ []) :
    parsePairs ([' '].intercalate (bytes.map hexPair)) = some bytes := by
  induction bytes with
  | nil => exact absurd rfl h
  | cons byte rest ih =>
    cases rest with
    | nil => simp [hexPair, parsePairs]
    | cons next rest =>
      have hrest := ih (List.cons_ne_nil next rest)
      rw [List.map_cons] at hrest
      rw [List.map_cons, List.map_cons, List.intercalate_cons_cons, parsePairs_hexPair, hrest]
      rfl

-- ---------------------------------------------------------------------------
-- The string tells the bytes
-- ---------------------------------------------------------------------------

theorem bytesToHexString_of_ne_nil {bytes : List Byte} (h : bytes ≠ []) :
    bytesToHexString bytes = some (String.ofList ([' '].intercalate (bytes.map hexPair))) := by
  have hsize : (if bytes.length = 1 then 2 else bytes.length * 3 - 1) =
      rowLength bytes.length 2 := by
    unfold rowLength
    split
    case isTrue hone => rw [hone]
    case isFalse => rfl
  have hstart : ([] : List Char).length = 0 * (2 + 1) := rfl
  have hrow := foldlM_overwrite ' ' length_hexPair h hstart
  have hlength : ¬ bytes.length ≤ 0 := by simpa using h
  simp only [bytesToHexString, hlength, ↓reduceIte, hsize, formatHex_byte]
  rw [← List.nil_append (List.replicate _ _), hrow]
  rfl

/-- Reading is the inverse of writing, also where there is nothing to write. -/
theorem parse_bytesToHexString {bytes : List Byte} {text : String}
    (h : bytesToHexString bytes = some text) : parseHexString text = some bytes := by
  cases bytes with
  | nil =>
    obtain rfl : "" = text := Option.some.inj h
    rfl
  | cons byte rest =>
    have hne := List.cons_ne_nil byte rest
    have hparse := parsePairs_intercalate hne
    rw [bytesToHexString_of_ne_nil hne] at h
    obtain rfl := Option.some.inj h
    rw [parseHexString, String.toList_ofList, hparse, if_neg]
    intro hempty
    have hnil : [' '].intercalate ((byte :: rest).map hexPair) = [] := by simpa using hempty
    rw [hnil] at hparse
    cases hparse

/-- The writes stay inside the string, which has two digits for each byte and
a blank between two bytes; the bytes can be read off, and no others have the
same string. -/
theorem hexString_identifies_bytes (bytes : List Byte) (h : bytes ≠ []) :
    ∃ text, bytesToHexString bytes = some text ∧ text.length = 3 * bytes.length - 1 ∧
      text.toList = [' '].intercalate (bytes.map hexPair) ∧ parseHexString text = some bytes ∧
      ∀ other, bytesToHexString other = some text → other = bytes := by
  have htext := bytesToHexString_of_ne_nil h
  have hparse := parse_bytesToHexString htext
  refine ⟨_, htext, ?_, String.toList_ofList, hparse, ?_⟩
  · rw [String.length_ofList, length_intercalate_cells ' ' length_hexPair h, rowLength,
      Nat.mul_comm]
  · intro other hother
    exact Option.some.inj ((parse_bytesToHexString hother).symm.trans hparse)

/-- A hardware address of six bytes. -/
theorem hexString_identifies_address :
    bytesToHexString [0x3C, 0xA9, 0xF4, 0x3C, 0x1F, 0x00] = some "3C A9 F4 3C 1F 00" ∧
      ∀ other, bytesToHexString other = some "3C A9 F4 3C 1F 00" →
        other = [0x3C, 0xA9, 0xF4, 0x3C, 0x1F, 0x00] := by
  have hne : ([0x3C, 0xA9, 0xF4, 0x3C, 0x1F, 0x00] : List Byte) ≠ [] := by decide
  obtain ⟨text, htext, -, -, -, honly⟩ := hexString_identifies_bytes _ hne
  obtain rfl : "3C A9 F4 3C 1F 00" = text := Option.some.inj htext
  exact ⟨htext, honly⟩

/-- Adapters that are fetched with the string of their physical address have
different mac addresses if their physical addresses differ. -/
theorem distinctMacs_of_physicalAddresses {fetched : List Adapter}
    {physicalAddress : Adapter → List Byte}
    (hmac : ∀ adapter ∈ fetched,
      bytesToHexString (physicalAddress adapter) = some adapter.macAddress)
    (hdistinct : (fetched.map physicalAddress).Nodup) : AdapterManager.DistinctMacs fetched := by
  have hparsed : (fetched.map Adapter.macAddress).map parseHexString =
      (fetched.map physicalAddress).map some := by
    rw [List.map_map, List.map_map]
    exact List.map_congr_left fun adapter hadapter =>
      parse_bytesToHexString (hmac adapter hadapter)
  apply List.Nodup.of_map parseHexString
  rw [hparsed]
  exact hdistinct.map fun _ _ => Option.some.inj

end Discnet
