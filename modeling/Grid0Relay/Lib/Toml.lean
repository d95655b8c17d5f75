import Grid0Relay.Lib.Decimal
import Grid0Relay.Lib.Literal
import Grid0Relay.Lib.Utf8

/-!
# A part of TOML 1.0

Documents of tables, arrays of tables and pairs whose values are basic strings, decimal
integers, booleans and arrays of strings, one to a line. Keys are bare.
-/

namespace Grid0Relay.Lib.Toml

/-! ## Basic strings -/

def hexDigit (b : UInt8) : Option Nat :=
  if 48 ≤ b ∧ b ≤ 57 then some (b.toNat - 48)
  else if 65 ≤ b ∧ b ≤ 70 then some (b.toNat - 55)
  else if 97 ≤ b ∧ b ≤ 102 then some (b.toNat - 87)
  else none

/-- So many hexadecimal digits, behind those of `acc`. -/
def hexNumber : Nat → Nat → Bytes → Option (Nat × Bytes)
  | 0, acc, text => some (acc, text)
  | _ + 1, _, [] => none
  | n + 1, acc, b :: text =>
    match hexDigit b with
    | none => none
    | some d => hexNumber n (acc * 16 + d) text

/-- `\uXXXX` and `\UXXXXXXXX` behind their letter. -/
def unicode (digits : Nat) (text : Bytes) : Option (Bytes × Bytes) :=
  match hexNumber digits 0 text with
  | none => none
  | some (code, rest) =>
    if code.isValidChar then some (String.utf8EncodeChar (Char.ofNat code), rest) else none

def unescape : Bytes → Option (Bytes × Bytes)
  | [] => none
  | b :: text =>
    if b = 34 ∨ b = 92 then some ([b], text)
    else if b = 98 then some ([8], text)
    else if b = 116 then some ([9], text)
    else if b = 110 then some ([10], text)
    else if b = 102 then some ([12], text)
    else if b = 114 then some ([13], text)
    else if b = 117 then unicode 4 text
    else if b = 85 then unicode 8 text
    else none

theorem hexNumber_split {n acc code : Nat} {text rest : Bytes}
    (h : hexNumber n acc text = some (code, rest)) :
    ∃ taken, text = taken ++ rest ∧ taken.length = n ∧ ∀ b ∈ taken, (hexDigit b).isSome := by
  induction n generalizing acc text with
  | zero =>
    obtain ⟨-, rfl⟩ := Prod.mk.inj (Option.some.inj h)
    exact ⟨[], rfl, rfl, by simp⟩
  | succ n ih =>
    cases text with
    | nil => cases h
    | cons b text =>
      rw [hexNumber] at h
      cases hdigit : hexDigit b with
      | none => rw [hdigit] at h; cases h
      | some d =>
        rw [hdigit] at h
        obtain ⟨taken, rfl, hlen, hall⟩ := ih h
        refine ⟨b :: taken, rfl, by rw [List.length_cons, hlen], ?_⟩
        intro c hc
        rcases List.mem_cons.mp hc with rfl | hc
        · rw [hdigit]; rfl
        · exact hall c hc

/-- What an escape takes of the text, and what it stands for. -/
inductive Escape : Bytes → Bytes → Prop
  | itself {b : UInt8} (h : b = 34 ∨ b = 92) : Escape [b] [b]
  | control {b c : UInt8} (h : b ≠ 34 ∧ b ≠ 10) : Escape [b] [c]
  | code {b : UInt8} {digits out : Bytes} (h : b ≠ 34 ∧ b ≠ 10) (hout : out.length ≤ digits.length)
      (hdigits : ∀ b ∈ digits, (hexDigit b).isSome) : Escape (b :: digits) out

theorem unicode_split {digits : Nat} {text out rest : Bytes} (hdigits : 4 ≤ digits)
    (h : unicode digits text = some (out, rest)) :
    ∃ taken, text = taken ++ rest ∧ out.length ≤ taken.length ∧
      ∀ b ∈ taken, (hexDigit b).isSome := by
  rw [unicode] at h
  cases hnumber : hexNumber digits 0 text with
  | none => rw [hnumber] at h; cases h
  | some pair =>
    obtain ⟨code, rest'⟩ := pair
    rw [hnumber] at h
    dsimp only at h
    split_ifs at h
    obtain ⟨rfl, rfl⟩ := Prod.mk.inj (Option.some.inj h)
    obtain ⟨taken, htext, hlen, hall⟩ := hexNumber_split hnumber
    have hfour := length_utf8EncodeChar_le (Char.ofNat code)
    exact ⟨taken, htext, by omega, hall⟩

theorem unescape_split {text out rest : Bytes} (h : unescape text = some (out, rest)) :
    ∃ taken, text = taken ++ rest ∧ Escape taken out := by
  cases text with
  | nil => cases h
  | cons b text =>
    rw [unescape] at h
    split_ifs at h with hself h98 h116 h110 h102 h114 h117 h85
    · obtain ⟨rfl, rfl⟩ := Prod.mk.inj (Option.some.inj h)
      exact ⟨[b], rfl, .itself hself⟩
    all_goals subst b
    · obtain ⟨rfl, rfl⟩ := Prod.mk.inj (Option.some.inj h)
      exact ⟨[98], rfl, .control (by decide)⟩
    · obtain ⟨rfl, rfl⟩ := Prod.mk.inj (Option.some.inj h)
      exact ⟨[116], rfl, .control (by decide)⟩
    · obtain ⟨rfl, rfl⟩ := Prod.mk.inj (Option.some.inj h)
      exact ⟨[110], rfl, .control (by decide)⟩
    · obtain ⟨rfl, rfl⟩ := Prod.mk.inj (Option.some.inj h)
      exact ⟨[102], rfl, .control (by decide)⟩
    · obtain ⟨rfl, rfl⟩ := Prod.mk.inj (Option.some.inj h)
      exact ⟨[114], rfl, .control (by decide)⟩
    · obtain ⟨taken, rfl, hout, hall⟩ := unicode_split (by decide) h
      exact ⟨117 :: taken, rfl, .code (by decide) hout hall⟩
    · obtain ⟨taken, rfl, hout, hall⟩ := unicode_split (by decide) h
      exact ⟨85 :: taken, rfl, .code (by decide) hout hall⟩

/-- The basic strings of TOML: all but control characters, tab apart. -/
def basic : Literal UInt8 where
  quote := 34
  backslash := 92
  distinct := by decide
  admits b := b = 9 ∨ 32 ≤ b ∧ b ≠ 127
  unescape := unescape
  shorter := by
    intro text out rest h
    obtain ⟨taken, rfl, hescape⟩ := unescape_split h
    clear h
    have hpos : 0 < taken.length := by
      cases hescape with
      | itself hb | control hb => exact Nat.one_pos
      | code hb hout hdigits => exact Nat.succ_pos _
    rw [List.length_append]
    omega

theorem basic_thrifty : basic.Thrifty := by
  intro text out rest h
  obtain ⟨taken, htext, hescape⟩ := unescape_split h
  refine ⟨taken, htext, ?_⟩
  clear h htext
  cases hescape with
  | itself hb =>
    rcases hb with rfl | rfl
    · exact Or.inl ⟨rfl, rfl⟩
    · exact Or.inr (by decide)
  | control hb =>
    refine Or.inr ?_
    rw [List.count_cons_of_ne (show _ ≠ basic.quote from hb.1)]
    rfl
  | @code b digits out hb hout hdigits =>
    have hnone : digits.count basic.quote = 0 := by
      rw [List.count_eq_zero]
      intro hmem
      exact absurd (hdigits _ hmem) (by decide)
    refine Or.inr ?_
    rw [List.count_cons_of_ne (show b ≠ basic.quote from hb.1), hnone, List.length_cons]
    omega

theorem basic_forbids_newline : basic.Forbids 10 where
  quote := by decide
  backslash := by decide
  itself := by decide
  escape := by
    intro taken out rest h
    obtain ⟨taken', htext, hescape⟩ := unescape_split h
    rw [List.append_cancel_right htext]
    clear h htext
    cases hescape with
    | itself hb => rcases hb with rfl | rfl <;> decide
    | control hb => simpa using hb.2.symm
    | code hb hout hdigits =>
      rw [List.mem_cons, not_or]
      exact ⟨hb.2.symm, fun hmem => absurd (hdigits _ hmem) (by decide)⟩

/-! ## Documents -/

inductive Value
  | string (value : Bytes)
  | integer (value : Int)
  | boolean (value : Bool)
  | strings (values : List Bytes)
deriving DecidableEq

/-- A line: the header of a table, the header of an element of an array of tables, or a pair. -/
inductive Item
  | table (name : List Bytes)
  | element (name : List Bytes)
  | pair (key : Bytes) (value : Value)
deriving DecidableEq

/-- What follows this token. -/
def expect (token text : Bytes) : Option Bytes :=
  if token <+: text then some (text.drop token.length) else none

/-- The characters of a bare key. -/
def isBare (b : UInt8) : Bool :=
  48 ≤ b ∧ b ≤ 57 ∨ 65 ≤ b ∧ b ≤ 90 ∨ 97 ≤ b ∧ b ≤ 122 ∨ b = 95 ∨ b = 45

def readKey (text : Bytes) : Option (Bytes × Bytes) :=
  if text.takeWhile isBare = [] then none
  else some (text.takeWhile isBare, text.dropWhile isBare)

/-- Keys with dots between them, up to a bracket. -/
def readName (text : Bytes) : Option (List Bytes × Bytes) :=
  if ((text.takeWhile (· ≠ 93)).splitOn 46).all fun key => key ≠ [] ∧ key.all isBare then
    some ((text.takeWhile (· ≠ 93)).splitOn 46, text.dropWhile (· ≠ 93))
  else none

/-- Decimal digits without leading zeros. -/
def readDigits (text : Bytes) : Option (Nat × Bytes) :=
  if text.takeWhile isDigit = [] ∨
      1 < (text.takeWhile isDigit).length ∧ (text.takeWhile isDigit).head? = some 48 then none
  else some (number (text.takeWhile isDigit), text.dropWhile isDigit)

def readInteger (text : Bytes) : Option (Int × Bytes) :=
  match expect [45] text with
  | some text => (readDigits text).map fun (n, rest) => (-(n : Int), rest)
  | none => (readDigits text).map fun (n, rest) => ((n : Int), rest)

def skipSpace (text : Bytes) : Bytes := text.dropWhile fun b => b = 32 ∨ b = 9 ∨ b = 10

/-- The strings of an array behind its opening bracket. -/
def readStrings (text : Bytes) : Option (List Bytes × Bytes) :=
  match expect [93] (skipSpace text) with
  | some rest => some ([], rest)
  | none =>
    match basic.read (skipSpace text) with
    | none => none
    | some (value, rest) =>
      match expect [44] (skipSpace rest) with
      | some rest =>
        if rest.length < text.length then
          (readStrings rest).map fun (values, rest) => (value :: values, rest)
        else none
      | none => (expect [93] (skipSpace rest)).map fun rest => ([value], rest)
termination_by text.length

def readValue (text : Bytes) : Option (Value × Bytes) :=
  match expect [34] text with
  | some _ => (basic.read text).map fun (value, rest) => (.string value, rest)
  | none =>
    match expect [91] text with
    | some rest => (readStrings rest).map fun (values, rest) => (.strings values, rest)
    | none =>
      match expect [116, 114, 117, 101] text with
      | some rest => some (.boolean true, rest)
      | none =>
        match expect [102, 97, 108, 115, 101] text with
        | some rest => some (.boolean false, rest)
        | none => (readInteger text).map fun (value, rest) => (.integer value, rest)

def readEntry (text : Bytes) : Option (Item × Bytes) :=
  match expect [91, 91] text with
  | some text =>
    (readName text).bind fun (name, rest) =>
      (expect [93, 93] rest).map fun rest => (.element name, rest)
  | none =>
    match expect [91] text with
    | some text =>
      (readName text).bind fun (name, rest) =>
        (expect [93] rest).map fun rest => (.table name, rest)
    | none =>
      (readKey text).bind fun (key, rest) =>
        (expect [61] rest).bind fun rest =>
          (readValue rest).map fun (value, rest) => (.pair key value, rest)

/-- A line, and what follows it. -/
def readLine (text : Bytes) : Option (Item × Bytes) :=
  (readEntry text).bind fun (item, rest) => (expect [10] rest).map fun rest => (item, rest)

def readItems (text : Bytes) : Option (List Item) :=
  if text = [] then some []
  else
    match readLine text with
    | none => none
    | some (item, rest) =>
      if rest.length < text.length then (readItems rest).map fun items => item :: items else none
termination_by text.length

/-! ## Names -/

/-- What has been defined so far, and the table that pairs go to. -/
structure Scope where
  table : List Bytes
  keys : List (List Bytes)
  tables : List (List Bytes)
  arrays : List (List Bytes)
deriving DecidableEq

/-- An item must not define again what is there. -/
def Scope.step (s : Scope) : Item → Option Scope
  | .table name =>
    if name ∈ s.tables ∨ name ∈ s.arrays ∨ ∃ key ∈ s.keys, key <+: name then none
    else some { s with table := name, tables := name :: s.tables }
  | .element name =>
    if name ∈ s.tables ∨ ∃ key ∈ s.keys, key <+: name then none
    else some {
      table := name
      keys := s.keys.filter fun key => ¬ name <+: key
      tables := s.tables.filter fun other => ¬ name <+: other
      arrays := if name ∈ s.arrays then s.arrays else name :: s.arrays }
  | .pair key _ =>
    if s.table ++ [key] ∈ s.keys ∨ (∃ other ∈ s.tables, s.table ++ [key] <+: other) ∨
        ∃ other ∈ s.arrays, s.table ++ [key] <+: other then none
    else some { s with keys := (s.table ++ [key]) :: s.keys }

def Scope.run : Scope → List Item → Option Scope
  | s, [] => some s
  | s, item :: items =>
    match s.step item with
    | none => none
    | some s => s.run items

def Scope.start : Scope := ⟨[], [], [], []⟩

/-- The document means these items: it is text, its lines are the items, and none defines
anything twice. -/
structure Reads (doc : Bytes) (items : List Item) : Prop where
  utf8 : Utf8 doc
  lines : readItems doc = some items
  names : (Scope.start.run items).isSome

end Grid0Relay.Lib.Toml
