import Mathlib.Data.List.Basic

/-!
# Json

A library for documents: what it offers, what is relied on of it, and what
follows for lists. A program that writes and reads documents is verified for
every library that keeps to this.
-/

namespace Discnet.Lib

class JsonLibrary (J : Type) where
  boolean : Bool → J
  unsigned : UInt64 → J
  string : String → J
  array : List J → J
  object : List (String × J) → J
  /-- The element of an object. Where it is missing there is no result. -/
  field : String → J → Option J
  /-- The element of an object, which is made where it is missing. -/
  fieldOrNew : String → J → Option J
  /-- What a loop over the document goes through. -/
  elements : J → List J
  getBool : J → Option Bool
  getUInt8 : J → Option UInt8
  getUInt16 : J → Option UInt16
  getUInt32 : J → Option UInt32
  getUInt64 : J → Option UInt64
  getString : J → Option String
  dump : (indent : Nat) → J → String
  parse : String → Option J

namespace JsonLibrary

variable {J : Type} [JsonLibrary J]

/-- A document of truth values, unsigned numbers and strings. -/
inductive Made : J → Prop
  | boolean (value : Bool) : Made (boolean value)
  | unsigned (value : UInt64) : Made (unsigned value)
  | string (value : String) : Made (string value)
  | array {elements : List J} (h : ∀ json ∈ elements, Made json) : Made (array elements)
  | object {fields : List (String × J)} (hkeys : (fields.map Prod.fst).Nodup)
    (h : ∀ field ∈ fields, Made field.2) : Made (object fields)

end JsonLibrary

open JsonLibrary in
/-- What was put into a document is found in it, and what was dumped is parsed. -/
class LawfulJson (J : Type) [JsonLibrary J] : Prop where
  field_object {fields : List (String × J)} (hkeys : (fields.map Prod.fst).Nodup)
    (key : String) : field key (object fields) = fields.lookup key
  fieldOrNew_object {fields : List (String × J)} (hkeys : (fields.map Prod.fst).Nodup)
    {key : String} (h : key ∈ fields.map Prod.fst) :
    fieldOrNew key (object fields) = fields.lookup key
  elements_array (list : List J) : elements (array list) = list
  getBool_boolean (value : Bool) : getBool (boolean value : J) = some value
  getUInt8_unsigned (value : UInt8) : getUInt8 (unsigned value.toUInt64 : J) = some value
  getUInt16_unsigned (value : UInt16) : getUInt16 (unsigned value.toUInt64 : J) = some value
  getUInt32_unsigned (value : UInt32) : getUInt32 (unsigned value.toUInt64 : J) = some value
  getUInt64_unsigned (value : UInt64) : getUInt64 (unsigned value : J) = some value
  getString_string (value : String) : getString (string value : J) = some value
  parse_dump {json : J} (h : Made json) (indent : Nat) : parse (dump indent json) = some json

attribute [simp] LawfulJson.elements_array LawfulJson.getBool_boolean
  LawfulJson.getUInt8_unsigned LawfulJson.getUInt16_unsigned LawfulJson.getUInt32_unsigned
  LawfulJson.getUInt64_unsigned LawfulJson.getString_string

namespace JsonLibrary

variable {J α : Type} [JsonLibrary J] {write : α → J} {read : J → Option α}

-- ---------------------------------------------------------------------------
-- Lists
-- ---------------------------------------------------------------------------

def writeList (write : α → J) (l : List α) : J := array (l.map write)

def readList (read : J → Option α) (json : J) : Option (List α) := (elements json).mapM read

theorem made_writeList (h : ∀ a, Made (write a)) (l : List α) : Made (writeList write l) :=
  .array fun _ hjson => by
    obtain ⟨a, -, rfl⟩ := List.mem_map.mp hjson
    exact h a

@[simp] theorem readList_writeList [LawfulJson J] (h : ∀ a, read (write a) = some a)
    (l : List α) : readList read (writeList write l) = some l := by
  rw [readList, writeList, LawfulJson.elements_array]
  induction l with
  | nil => rfl
  | cons a rest ih => simp [h a, ih]

end JsonLibrary

end Discnet.Lib
