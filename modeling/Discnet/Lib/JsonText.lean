import Discnet.Lib.Json
import Mathlib.Data.List.Sort

/-!
# Json as text

A library of trees. They are printed with indentation, and read by two
automata: the lexer makes tokens of characters, the parser makes a tree of
tokens and keeps what is open on a stack.
-/

namespace Discnet.Lib

/-- A document without fractions and negative numbers. The keys of an object
are in order. -/
inductive Json
  | null
  | boolean (value : Bool)
  | unsigned (value : UInt64)
  | string (value : String)
  | array (elements : List Json)
  | object (fields : List (String × Json))

namespace Json

inductive Token
  | openArray
  | closeArray
  | openObject
  | closeObject
  | comma
  | colon
  | atom (json : Json)

-- ---------------------------------------------------------------------------
-- Printing
-- ---------------------------------------------------------------------------

def escape (c : Char) : List Char :=
  if c = '"' then ['\\', '"']
  else if c = '\\' then ['\\', '\\']
  else if c = '\x08' then ['\\', 'b']
  else if c = '\t' then ['\\', 't']
  else if c = '\n' then ['\\', 'n']
  else if c = '\x0c' then ['\\', 'f']
  else if c = '\r' then ['\\', 'r']
  else if c.toNat < 32 then
    ['\\', 'u', '0', '0', (c.toNat / 16).digitChar, (c.toNat % 16).digitChar]
  else [c]

def quoted (s : String) : List Char := '"' :: s.toList.flatMap escape ++ ['"']

def newline (depth : Nat) : List Char := '\n' :: List.replicate depth ' '

mutual

def text (indent depth : Nat) : Json → List Char
  | null => ['n', 'u', 'l', 'l']
  | boolean true => ['t', 'r', 'u', 'e']
  | boolean false => ['f', 'a', 'l', 's', 'e']
  | unsigned value => Nat.toDigits 10 value.toNat
  | string value => quoted value
  | array [] => ['[', ']']
  | array (first :: rest) =>
    '[' :: (newline (depth + indent) ++ (first.text indent (depth + indent) ++
      (laterText indent (depth + indent) rest ++ (newline depth ++ [']']))))
  | object [] => ['{', '}']
  | object ((key, first) :: rest) =>
    '{' :: (newline (depth + indent) ++ (quoted key ++ ':' :: ' ' ::
      (first.text indent (depth + indent) ++
        (laterFields indent (depth + indent) rest ++ (newline depth ++ ['}'])))))

def laterText (indent depth : Nat) : List Json → List Char
  | [] => []
  | json :: rest =>
    ',' :: (newline depth ++ (json.text indent depth ++ laterText indent depth rest))

def laterFields (indent depth : Nat) : List (String × Json) → List Char
  | [] => []
  | (key, json) :: rest =>
    ',' :: (newline depth ++ (quoted key ++ ':' :: ' ' ::
      (json.text indent depth ++ laterFields indent depth rest)))

end

mutual

def tokens : Json → List Token
  | array [] => [.openArray, .closeArray]
  | array (first :: rest) => .openArray :: (first.tokens ++ (laterTokens rest ++ [.closeArray]))
  | object [] => [.openObject, .closeObject]
  | object ((key, first) :: rest) =>
    .openObject :: .atom (string key) :: .colon ::
      (first.tokens ++ (laterFieldTokens rest ++ [.closeObject]))
  | json => [.atom json]

def laterTokens : List Json → List Token
  | [] => []
  | json :: rest => .comma :: (json.tokens ++ laterTokens rest)

def laterFieldTokens : List (String × Json) → List Token
  | [] => []
  | (key, json) :: rest =>
    .comma :: .atom (string key) :: .colon :: (json.tokens ++ laterFieldTokens rest)

end

def print (indent : Nat) (json : Json) : String := .ofList (json.text indent 0)

-- ---------------------------------------------------------------------------
-- The lexer
-- ---------------------------------------------------------------------------

/-- What is being read, and what was read of it. -/
inductive Reading
  | between
  | number (value : Nat)
  | word (letters : List Char)
  | string (chars : List Char)
  | escape (chars : List Char)
  | code (chars : List Char) (value : Nat) (left : Nat)

structure Lexer where
  done : List Token := []
  reading : Reading := .between

namespace Lexer

def literal (letters : List Char) : Option Json :=
  if letters = ['n', 'u', 'l', 'l'] then some .null
  else if letters = ['t', 'r', 'u', 'e'] then some (.boolean true)
  else if letters = ['f', 'a', 'l', 's', 'e'] then some (.boolean false)
  else none

/-- The tokens, if nothing is left open. -/
def finish (s : Lexer) : Option (List Token) :=
  match s.reading with
  | .between => some s.done
  | .number value =>
    if value < UInt64.size then some (s.done ++ [.atom (.unsigned (.ofNat value))]) else none
  | .word letters => (literal letters).map fun json => s.done ++ [.atom json]
  | .string _ | .escape _ | .code .. => none

def mark (c : Char) : Option Token :=
  if c = '[' then some .openArray
  else if c = ']' then some .closeArray
  else if c = '{' then some .openObject
  else if c = '}' then some .closeObject
  else if c = ',' then some .comma
  else if c = ':' then some .colon
  else none

/-- Between two tokens. -/
def start (done : List Token) (c : Char) : Option Lexer :=
  if c.isWhitespace then some { done }
  else if c.isDigit then some { done, reading := .number (c.toNat - '0'.toNat) }
  else if c.isAlpha then some { done, reading := .word [c] }
  else if c = '"' then some { done, reading := .string [] }
  else (mark c).map fun token => { done := done ++ [token] }

def unescape (c : Char) : Option Char :=
  if c = '"' ∨ c = '\\' ∨ c = '/' then some c
  else if c = 'b' then some '\x08'
  else if c = 't' then some '\t'
  else if c = 'n' then some '\n'
  else if c = 'f' then some '\x0c'
  else if c = 'r' then some '\r'
  else none

def hexValue (c : Char) : Option Nat :=
  if c.isDigit then some (c.toNat - '0'.toNat)
  else if 'a' ≤ c ∧ c ≤ 'f' then some (c.toNat - 'a'.toNat + 10)
  else if 'A' ≤ c ∧ c ≤ 'F' then some (c.toNat - 'A'.toNat + 10)
  else none

def read (s : Lexer) (c : Char) : Option Lexer :=
  match s.reading with
  | .between => start s.done c
  | .number value =>
    if c.isDigit then some { s with reading := .number (10 * value + (c.toNat - '0'.toNat)) }
    else s.finish.bind (start · c)
  | .word letters =>
    if c.isAlpha then some { s with reading := .word (letters ++ [c]) }
    else s.finish.bind (start · c)
  | .string chars =>
    if c = '"' then some { done := s.done ++ [.atom (.string (.ofList chars))] }
    else if c = '\\' then some { s with reading := .escape chars }
    else if c.toNat < 32 then none
    else some { s with reading := .string (chars ++ [c]) }
  | .escape chars =>
    if c = 'u' then some { s with reading := .code chars 0 4 }
    else (unescape c).map fun c => { s with reading := .string (chars ++ [c]) }
  | .code chars value left =>
    (hexValue c).map fun digit =>
      if left = 1 then { s with reading := .string (chars ++ [.ofNat (16 * value + digit)]) }
      else { s with reading := .code chars (16 * value + digit) (left - 1) }

end Lexer

def lex (text : List Char) : Option (List Token) := do
  (← text.foldlM Lexer.read {}).finish

-- ---------------------------------------------------------------------------
-- The parser
-- ---------------------------------------------------------------------------

/-- The lexicographic order. -/
def charsLe : List Char → List Char → Bool
  | [], _ => true
  | _ :: _, [] => false
  | c :: chars, c' :: others => c.toNat < c'.toNat || (c.toNat = c'.toNat && charsLe chars others)

def keyLe (field other : String × Json) : Prop := charsLe field.1.toList other.1.toList

instance : DecidableRel keyLe := fun field other =>
  inferInstanceAs (Decidable (charsLe field.1.toList other.1.toList = true))

def ofFields (fields : List (String × Json)) : Json := object (fields.insertionSort keyLe)

/-- Truth values are numbers, too. -/
def number : Json → Option UInt64
  | unsigned value => some value
  | boolean value => some value.toUInt64
  | _ => none

/-- An array or an object that is open. -/
inductive Frame
  | array (done : List Json)
  | object (done : List (String × Json)) (key : String)

/-- What comes next, and what is open. -/
inductive Parser
  | value (stack : List Frame)
  | element (stack : List Frame)
  | firstKey (stack : List Frame)
  | nextKey (done : List (String × Json)) (stack : List Frame)
  | colon (done : List (String × Json)) (key : String) (stack : List Frame)
  | after (json : Json) (stack : List Frame)

namespace Parser

def start (stack : List Frame) : Token → Option Parser
  | .atom json => some (.after json stack)
  | .openArray => some (.element stack)
  | .openObject => some (.firstKey stack)
  | _ => none

def read : Parser → Token → Option Parser
  | .value stack, token => start stack token
  | .element stack, .closeArray => some (.after (.array []) stack)
  | .element stack, token => start (.array [] :: stack) token
  | .firstKey stack, .closeObject => some (.after (.object []) stack)
  | .firstKey stack, .atom (.string key) => some (.colon [] key stack)
  | .nextKey done stack, .atom (.string key) => some (.colon done key stack)
  | .colon done key stack, .colon => some (.value (.object done key :: stack))
  | .after json (.array done :: stack), .comma =>
    some (.value (.array (done ++ [json]) :: stack))
  | .after json (.array done :: stack), .closeArray =>
    some (.after (.array (done ++ [json])) stack)
  | .after json (.object done key :: stack), .comma =>
    some (.nextKey (done ++ [(key, json)]) stack)
  | .after json (.object done key :: stack), .closeObject =>
    some (.after (ofFields (done ++ [(key, json)])) stack)
  | _, _ => none

end Parser

def parse (text : String) : Option Json := do
  match ← (← lex text.toList).foldlM Parser.read (.value []) with
  | .after json [] => return json
  | _ => none

-- ---------------------------------------------------------------------------
-- Reading what was printed
-- ---------------------------------------------------------------------------

/-- The characters are read as the tokens, whatever was read before. -/
def Lexes (chars : List Char) (ts : List Token) : Prop :=
  ∀ done, ∃ s : Lexer, chars.foldlM Lexer.read { done } = some s ∧ s.finish = some (done ++ ts)

/-- A token ends before it. -/
def Delimits (chars : List Char) : Prop :=
  ∀ c ∈ chars.head?, c.isDigit = false ∧ c.isAlpha = false

namespace Lexes

variable {chars rest : List Char} {ts us : List Token} {c : Char}

theorem nil : Lexes [] [] := fun done => ⟨{ done }, rfl, by simp [Lexer.finish]⟩

/-- What is finished starts anew with a character that does not belong to it. -/
theorem read_of_finish {s : Lexer} (h : s.finish = some ts) (hdigit : c.isDigit = false)
    (halpha : c.isAlpha = false) : s.read c = Lexer.start ts c := by
  rw [Lexer.read]
  cases hreading : s.reading with
  | between =>
    rw [Lexer.finish, hreading] at h
    rw [Option.some.inj h]
  | number value => simp [hdigit, h]
  | word letters => simp [halpha, h]
  | string chars => simp [Lexer.finish, hreading] at h
  | escape chars => simp [Lexer.finish, hreading] at h
  | code chars value left => simp [Lexer.finish, hreading] at h

theorem append (h : Lexes chars ts) (hstart : Delimits rest) (hrest : Lexes rest us) :
    Lexes (chars ++ rest) (ts ++ us) := by
  intro done
  obtain ⟨s, hs, hfinish⟩ := h done
  obtain ⟨t, ht, hlast⟩ := hrest (done ++ ts)
  rw [List.append_assoc] at hlast
  cases rest with
  | nil =>
    obtain rfl := Option.some.inj ht
    exact ⟨s, by simpa using hs, hfinish.trans hlast⟩
  | cons c rest =>
    obtain ⟨hdigit, halpha⟩ := hstart c rfl
    refine ⟨t, ?_, hlast⟩
    rw [List.foldlM_append, hs, Option.bind_eq_bind, Option.bind_some, List.foldlM_cons,
      read_of_finish hfinish hdigit halpha]
    exact ht

theorem skip (hc : c.isWhitespace) (hrest : Lexes rest us) : Lexes (c :: rest) us := by
  intro done
  obtain ⟨s, hs, hfinish⟩ := hrest done
  refine ⟨s, ?_, hfinish⟩
  rw [List.foldlM_cons, Lexer.read, Lexer.start, if_pos hc]
  exact hs

theorem mark {token : Token} (hc : ∀ done, Lexer.start done c = some { done := done ++ [token] })
    (hrest : Lexes rest us) : Lexes (c :: rest) (token :: us) := by
  intro done
  obtain ⟨s, hs, hfinish⟩ := hrest (done ++ [token])
  refine ⟨s, ?_, by rwa [List.append_assoc] at hfinish⟩
  rw [List.foldlM_cons, Lexer.read, hc]
  exact hs

theorem newline (depth : Nat) (hrest : Lexes rest us) :
    Lexes (Json.newline depth ++ rest) us := by
  refine skip (by decide) ?_
  induction depth with
  | zero => exact hrest
  | succ depth ih => exact skip (by decide) ih

theorem digits {chars : List Char} (h : ∀ c ∈ chars, c.isDigit) (done : List Token)
    (value : Nat) : chars.foldlM Lexer.read { done, reading := .number value } =
      some { done, reading := .number (Nat.ofDigitChars 10 chars value) } := by
  induction chars generalizing value with
  | nil => rfl
  | cons c rest ih =>
    obtain ⟨hc, hrest⟩ := List.forall_mem_cons.mp h
    rw [List.foldlM_cons, Lexer.read]
    simp only [hc, if_true, Option.bind_eq_bind, Option.bind_some]
    rw [ih hrest, Nat.ofDigitChars_cons]

theorem unsigned (value : UInt64) :
    Lexes (Nat.toDigits 10 value.toNat) [.atom (.unsigned value)] := by
  intro done
  have hdigits : ∀ c ∈ Nat.toDigits 10 value.toNat, c.isDigit := fun c hc =>
    Nat.isDigit_of_mem_toDigits (by decide) (by decide) hc
  have hvalue : Nat.ofDigitChars 10 (Nat.toDigits 10 value.toNat) 0 = value.toNat :=
    Nat.ofDigitChars_toDigits (by decide) (by decide)
  cases hchars : Nat.toDigits 10 value.toNat with
  | nil => exact absurd hchars Nat.toDigits_ne_nil
  | cons c rest =>
    rw [hchars] at hdigits hvalue
    obtain ⟨hc, hrest⟩ := List.forall_mem_cons.mp hdigits
    have hblank : c.isWhitespace = false := by
      by_contra hblank
      simp only [Bool.not_eq_false, Char.isWhitespace, Bool.or_eq_true, decide_eq_true_eq] at hblank
      rcases hblank with ((rfl | rfl) | rfl) | rfl <;> contradiction
    refine ⟨{ done, reading := .number value.toNat }, ?_, ?_⟩
    · rw [List.foldlM_cons, Lexer.read, Lexer.start, if_neg (by simp [hblank]), if_pos hc,
        Option.bind_eq_bind, Option.bind_some, digits hrest]
      rw [Nat.ofDigitChars_cons] at hvalue
      simpa using hvalue
    · rw [Lexer.finish]
      simp [value.toNat_lt]

theorem hexValue_digitChar {n : Nat} (h : n < 16) : Lexer.hexValue n.digitChar = some n := by
  have hall : ∀ n : Fin 16, Lexer.hexValue n.val.digitChar = some n.val := by decide
  exact hall ⟨n, h⟩

/-- A character of a string is read back from what is printed of it. -/
theorem escape (done : List Token) (chars : List Char) (c : Char) :
    (Json.escape c).foldlM Lexer.read { done, reading := .string chars } =
      some { done, reading := .string (chars ++ [c]) } := by
  rw [Json.escape]
  split_ifs with hquote hslash hb ht hn hf hr hcontrol
  · rw [hquote]; rfl
  · rw [hslash]; rfl
  · rw [hb]; rfl
  · rw [ht]; rfl
  · rw [hn]; rfl
  · rw [hf]; rfl
  · rw [hr]; rfl
  · have hhigh := hexValue_digitChar (n := c.toNat / 16) (by omega)
    have hlow := hexValue_digitChar (n := c.toNat % 16) (by omega)
    have hcode : 16 * (c.toNat / 16) + c.toNat % 16 = c.toNat := by omega
    have hzero : Lexer.hexValue '0' = some 0 := by decide
    simp [Lexer.read, hhigh, hlow, hzero, hcode]
  · simp [Lexer.read, hquote, hslash, hcontrol]

theorem quoted (s : String) : Lexes (Json.quoted s) [.atom (.string s)] := by
  intro done
  have hchars : ∀ before chars : List Char, (chars.flatMap Json.escape).foldlM Lexer.read
      { done, reading := .string before } =
        some { done, reading := .string (before ++ chars) } := by
    intro before chars
    induction chars generalizing before with
    | nil => simp
    | cons c rest ih => simp [List.flatMap_cons, List.foldlM_append, escape, ih]
  have hstart : Lexer.start done '"' = some { done, reading := .string [] } := rfl
  refine ⟨{ done := done ++ [.atom (.string s)] }, ?_, by simp [Lexer.finish]⟩
  rw [Json.quoted, List.cons_append, List.foldlM_cons, Lexer.read, hstart, Option.bind_eq_bind,
    Option.bind_some, List.foldlM_append, hchars]
  simp [Lexer.read]

end Lexes

theorem Delimits.of_cons {c : Char} (hc : c.isDigit = false ∧ c.isAlpha = false)
    (rest : List Char) : Delimits (c :: rest) := by
  intro other hother
  rwa [← Option.some.inj hother]

theorem delimits_laterText (indent depth : Nat) {rest : List Char} (h : Delimits rest)
    (elements : List Json) : Delimits (laterText indent depth elements ++ rest) := by
  cases elements with
  | nil => exact h
  | cons json elements => exact .of_cons (by decide) _

theorem delimits_laterFields (indent depth : Nat) {rest : List Char} (h : Delimits rest)
    (fields : List (String × Json)) : Delimits (laterFields indent depth fields ++ rest) := by
  cases fields with
  | nil => exact h
  | cons field fields => exact .of_cons (by decide) _

theorem Lexes.field {rest : List Char} {us : List Token} (key : String) (h : Lexes rest us) :
    Lexes (Json.quoted key ++ ':' :: ' ' :: rest) (.atom (.string key) :: .colon :: us) :=
  (Lexes.quoted key).append (.of_cons (by decide) _)
    (.mark (fun _ => rfl) (.skip (by decide) h))

mutual

/-- What is printed of a document is read as its tokens. -/
theorem lexes_text (indent depth : Nat) (json : Json) :
    Lexes (json.text indent depth) json.tokens := by
  match json with
  | null => exact fun done => ⟨_, rfl, rfl⟩
  | boolean true => exact fun done => ⟨_, rfl, rfl⟩
  | boolean false => exact fun done => ⟨_, rfl, rfl⟩
  | unsigned value => exact .unsigned value
  | string value => exact .quoted value
  | array [] => exact .mark (fun _ => rfl) (.mark (fun _ => rfl) .nil)
  | array (first :: rest) =>
    have hclose : Lexes (newline depth ++ [']']) [.closeArray] :=
      .newline depth (.mark (fun _ => rfl) .nil)
    have hdelimits : Delimits (newline depth ++ [']']) := .of_cons (by decide) _
    refine .mark (fun _ => rfl) (.newline _ ((lexes_text _ _ first).append
      (delimits_laterText _ _ hdelimits rest) ?_))
    exact lexes_laterText _ _ rest hdelimits hclose
  | object [] => exact .mark (fun _ => rfl) (.mark (fun _ => rfl) .nil)
  | object ((key, first) :: rest) =>
    have hclose : Lexes (newline depth ++ ['}']) [.closeObject] :=
      .newline depth (.mark (fun _ => rfl) .nil)
    have hdelimits : Delimits (newline depth ++ ['}']) := .of_cons (by decide) _
    refine .mark (fun _ => rfl) (.newline _ (.field key ((lexes_text _ _ first).append
      (delimits_laterFields _ _ hdelimits rest) ?_)))
    exact lexes_laterFields _ _ rest hdelimits hclose

theorem lexes_laterText (indent depth : Nat) (elements : List Json) {rest : List Char}
    {us : List Token} (hdelimits : Delimits rest) (h : Lexes rest us) :
    Lexes (laterText indent depth elements ++ rest) (laterTokens elements ++ us) := by
  match elements with
  | [] => exact h
  | json :: elements =>
    simp only [laterText, laterTokens, List.cons_append, List.append_assoc]
    exact .mark (fun _ => rfl) (.newline _ ((lexes_text _ _ json).append
      (delimits_laterText _ _ hdelimits elements) (lexes_laterText _ _ elements hdelimits h)))

theorem lexes_laterFields (indent depth : Nat) (fields : List (String × Json))
    {rest : List Char} {us : List Token} (hdelimits : Delimits rest) (h : Lexes rest us) :
    Lexes (laterFields indent depth fields ++ rest) (laterFieldTokens fields ++ us) := by
  match fields with
  | [] => exact h
  | (key, json) :: fields =>
    simp only [laterFields, laterFieldTokens, List.cons_append, List.append_assoc]
    exact .mark (fun _ => rfl) (.newline _ (.field key ((lexes_text _ _ json).append
      (delimits_laterFields _ _ hdelimits fields)
      (lexes_laterFields _ _ fields hdelimits h))))

end

-- ---------------------------------------------------------------------------
-- Putting the tokens together
-- ---------------------------------------------------------------------------

instance : JsonLibrary Json where
  boolean := boolean
  unsigned := unsigned
  string := string
  array := array
  object := ofFields
  field
    | key, object fields => fields.lookup key
    | _, _ => none
  fieldOrNew
    | key, object fields => some ((fields.lookup key).getD null)
    | _, null => some null
    | _, _ => none
  elements
    | array elements => elements
    | object fields => fields.map Prod.snd
    | null => []
    | json => [json]
  getBool
    | boolean value => some value
    | _ => none
  getUInt8 json := json.number.map UInt64.toUInt8
  getUInt16 json := json.number.map UInt64.toUInt16
  getUInt32 json := json.number.map UInt64.toUInt32
  getUInt64 := number
  getString
    | string value => some value
    | _ => none
  dump := print
  parse := parse

theorem charsLe_total (chars others : List Char) : charsLe chars others ∨ charsLe others chars := by
  induction chars generalizing others with
  | nil => exact .inl rfl
  | cons c chars ih =>
    cases others with
    | nil => exact .inr rfl
    | cons c' others =>
      rcases lt_trichotomy c.toNat c'.toNat with hlt | heq | hgt
      · simp [charsLe, hlt]
      · simpa [charsLe, heq] using ih others
      · simp [charsLe, hgt]

theorem charsLe_trans {chars others rest : List Char} (h : charsLe chars others)
    (h' : charsLe others rest) : charsLe chars rest := by
  induction chars generalizing others rest with
  | nil => rfl
  | cons c chars ih =>
    match others, rest with
    | [], _ => simp [charsLe] at h
    | _ :: _, [] => simp [charsLe] at h'
    | c' :: others, c'' :: rest =>
      simp only [charsLe, Bool.or_eq_true, Bool.and_eq_true, decide_eq_true_eq] at h h' ⊢
      rcases h with hlt | ⟨heq, hrest⟩
      · rcases h' with hlt' | ⟨heq', -⟩
        · exact .inl (hlt.trans hlt')
        · exact .inl (heq' ▸ hlt)
      · rcases h' with hlt' | ⟨heq', hrest'⟩
        · exact .inl (heq ▸ hlt')
        · exact .inr ⟨heq.trans heq', ih hrest hrest'⟩

instance : Std.Total keyLe := ⟨fun _ _ => charsLe_total _ _⟩

instance : IsTrans (String × Json) keyLe := ⟨fun _ _ _ h h' => charsLe_trans h h'⟩

/-- The parser gets over the tokens of the document. -/
def Parses (json : Json) : Prop :=
  ∀ stack, json.tokens.foldlM Parser.read (.value stack) = some (.after json stack)

namespace Parses

theorem read_element (json : Json) (stack : List Frame) :
    json.tokens.foldlM Parser.read (.element stack) =
      json.tokens.foldlM Parser.read (.value (.array [] :: stack)) := by
  cases json with
  | array elements => cases elements <;> rfl
  | object fields => cases fields <;> rfl
  | _ => rfl

theorem later {elements : List Json} (h : ∀ json ∈ elements, Parses json) (json : Json)
    (done : List Json) (stack : List Frame) :
    (laterTokens elements ++ [Token.closeArray]).foldlM Parser.read
        (.after json (.array done :: stack)) =
      some (.after (.array (done ++ json :: elements)) stack) := by
  induction elements generalizing json done with
  | nil => rfl
  | cons next elements ih =>
    obtain ⟨hnext, hrest⟩ := List.forall_mem_cons.mp h
    rw [laterTokens, List.cons_append, List.append_assoc, List.foldlM_cons]
    change (next.tokens ++ (laterTokens elements ++ [Token.closeArray])).foldlM Parser.read
      (.value (.array (done ++ [json]) :: stack)) = _
    rw [List.foldlM_append, hnext, Option.bind_eq_bind, Option.bind_some, ih hrest,
      List.append_assoc, List.singleton_append]

theorem laterFields {fields : List (String × Json)} (h : ∀ field ∈ fields, Parses field.2)
    (json : Json) (done : List (String × Json)) (key : String) (stack : List Frame) :
    (laterFieldTokens fields ++ [Token.closeObject]).foldlM Parser.read
        (.after json (.object done key :: stack)) =
      some (.after (ofFields (done ++ (key, json) :: fields)) stack) := by
  induction fields generalizing json done key with
  | nil => rfl
  | cons field fields ih =>
    obtain ⟨hfield, hrest⟩ := List.forall_mem_cons.mp h
    obtain ⟨next, value⟩ := field
    rw [laterFieldTokens, List.cons_append, List.cons_append, List.cons_append, List.append_assoc,
      List.foldlM_cons]
    change (value.tokens ++ (laterFieldTokens fields ++ [Token.closeObject])).foldlM Parser.read
      (.value (.object (done ++ [(key, json)]) next :: stack)) = _
    rw [List.foldlM_append, hfield, Option.bind_eq_bind, Option.bind_some, ih hrest,
      List.append_assoc, List.singleton_append]

theorem array {elements : List Json} (h : ∀ json ∈ elements, Parses json) :
    Parses (.array elements) := by
  intro stack
  cases elements with
  | nil => rfl
  | cons first rest =>
    obtain ⟨hfirst, hrest⟩ := List.forall_mem_cons.mp h
    rw [tokens, List.foldlM_cons]
    change (first.tokens ++ (laterTokens rest ++ [Token.closeArray])).foldlM Parser.read
      (.element stack) = _
    rw [List.foldlM_append, read_element, hfirst, Option.bind_eq_bind, Option.bind_some,
      later hrest, List.nil_append]

theorem object {fields : List (String × Json)} (h : ∀ field ∈ fields, Parses field.2)
    (hsorted : ofFields fields = .object fields) : Parses (.object fields) := by
  intro stack
  cases fields with
  | nil => rfl
  | cons field rest =>
    obtain ⟨hfirst, hrest⟩ := List.forall_mem_cons.mp h
    obtain ⟨key, first⟩ := field
    rw [tokens, List.foldlM_cons]
    change (first.tokens ++ (laterFieldTokens rest ++ [Token.closeObject])).foldlM Parser.read
      (.value (.object [] key :: stack)) = _
    rw [List.foldlM_append, hfirst, Option.bind_eq_bind, Option.bind_some, laterFields hrest,
      List.nil_append, hsorted]

theorem of_made {json : Json} (h : JsonLibrary.Made json) : Parses json := by
  induction h with
  | boolean value => exact fun _ => rfl
  | unsigned value => exact fun _ => rfl
  | string value => exact fun _ => rfl
  | array _ ih => exact array ih
  | @object fields _ _ ih =>
    have hsorted := List.pairwise_insertionSort keyLe fields
    refine object (fun field hfield => ih field ((List.mem_insertionSort _).mp hfield)) ?_
    rw [ofFields, hsorted.insertionSort_eq]

end Parses

theorem parse_print {json : Json} (h : JsonLibrary.Made json) (indent : Nat) :
    parse (json.print indent) = some json := by
  obtain ⟨s, hs, hfinish⟩ := lexes_text indent 0 json []
  have hlex : lex (json.text indent 0) = some json.tokens := by
    rw [lex, hs]
    exact hfinish
  rw [parse, print, String.toList_ofList, hlex]
  simp [Parses.of_made h []]

/-- The fields of an object are in the order of their keys. -/
example : (ofFields [("name", string "\"a\""), ("id", unsigned 12),
      ("list", array [boolean true, array []])]).text 4 0 =
    ("\x7b\n    \"id\": 12,\n    \"list\": [\n        true,\n        []\n    ],\n" ++
      "    \"name\": \"\\\"a\\\"\"\n\x7d").toList := by
  decide +kernel

theorem lookup_of_perm {fields others : List (String × Json)} (h : fields.Perm others)
    (hkeys : (fields.map Prod.fst).Nodup) (key : String) :
    fields.lookup key = others.lookup key := by
  induction h with
  | nil => rfl
  | cons field _ ih =>
    rw [List.lookup_cons, List.lookup_cons, ih (List.nodup_cons.mp hkeys).2]
  | swap field other rest =>
    obtain ⟨name, value⟩ := field
    obtain ⟨name', value'⟩ := other
    have hne : name' ≠ name := by
      rintro rfl
      simp at hkeys
    simp only [List.lookup_cons]
    by_cases hkey : key = name
    · rw [hkey, beq_self_eq_true, beq_false_of_ne hne.symm]
    · rw [beq_false_of_ne hkey]
  | trans hfirst _ ih ih' => rw [ih hkeys, ih' ((hfirst.map _).nodup_iff.mp hkeys)]

instance : LawfulJson Json where
  field_object hkeys key := (lookup_of_perm (List.perm_insertionSort _ _).symm hkeys key).symm
  fieldOrNew_object {fields} hkeys key h := by
    have hsame := lookup_of_perm (List.perm_insertionSort keyLe fields).symm hkeys key
    change some (((fields.insertionSort _).lookup key).getD null) = _
    rw [← hsame]
    cases hlookup : fields.lookup key with
    | none =>
      obtain ⟨field, hfield, rfl⟩ := List.mem_map.mp h
      have hother := List.lookup_eq_none_iff.mp hlookup field hfield
      simp at hother
    | some json => rfl
  elements_array _ := rfl
  getBool_boolean _ := rfl
  getUInt8_unsigned value := by simp [JsonLibrary.getUInt8, JsonLibrary.unsigned, number]
  getUInt16_unsigned value := by simp [JsonLibrary.getUInt16, JsonLibrary.unsigned, number]
  getUInt32_unsigned value := by simp [JsonLibrary.getUInt32, JsonLibrary.unsigned, number]
  getUInt64_unsigned _ := rfl
  getString_string _ := rfl
  parse_dump h indent := parse_print h indent

end Json

end Discnet.Lib
