import Grid0Relay.Lib.Bytes

/-!
# The password table

`JsonAuthProvider`. `read` drops the table, waits for the file and replaces the table by what
was parsed; lookups and further reloads may come while it waits. A read of the file is the event
that settles it, with whatever the file held then.
-/

namespace Grid0Relay.Forwarder.JsonAuth

open Lib

inductive Json
  | null
  | bool (b : Bool)
  | number (text : String)
  | string (s : String)
  | array (items : List Json)
  | object (members : List (String × Json))

/-- The value of `table[username]`. -/
inductive Property
  | undefined
  | value (v : Json)
  /-- A function of the prototype. -/
  | inherited

/-- What the provider gets from the runtime. -/
structure Host where
  /-- `JSON.parse`; `none` is a `SyntaxError`. -/
  parse : String → Option Json
  /-- The names the prototype of a value answers to. `$schema` is none of them. -/
  inherited : Json → String → Bool
  /-- A property of a boolean, a number or a string. -/
  ofPrimitive : Json → String → Property
  sha1 : String → Bytes
  /-- `Buffer.from(v, 'hex')`; `none` is a `TypeError`. -/
  bufferFrom : Json → Option Bytes

/-- How a lookup ends. -/
inductive Answer
  | sha1 (b : Bytes)
  | noSuchUser
  | typeError
deriving DecidableEq

/-- The table of a provider that has read nothing. -/
def emptyTable : Json := .object []

/-- `this.table['$schema'] = undefined`, which throws when the table is no object. A property
that is undefined looks like one that is missing. -/
def clearSchema : Json → Option Json
  | .object members => some (.object (members.filter fun m => m.1 ≠ "$schema"))
  | .array items => some (.array items)
  | _ => none

variable (h : Host)

/-- `this.table[username]`; `none` is a `TypeError`. -/
def property (table : Json) (username : String) : Option Property :=
  let own (v : Option Json) : Property := match v with
    | some v => .value v
    | none => if h.inherited table username then .inherited else .undefined
  match table with
  | .null => none
  | .object members => some (own (members.lookup username))
  | .array items =>
    if username = "length" then some (.value (.number (toString items.length)))
    else some (own ((items.zipIdx.find? fun item => toString item.2 = username).map (·.1)))
  | table => some (h.ofPrimitive table username)

/-- `getUserPasswordSHA1`. -/
def getUserPasswordSHA1 (table : Json) (username : String) : Answer :=
  match property h table username with
  | none => .typeError
  | some .undefined => .noSuchUser
  | some (.value (.string pw)) => .sha1 (h.sha1 pw)
  | some (.value (.object members)) =>
    match members.lookup "sha1" with
    | some v => (h.bufferFrom v).elim .typeError .sha1
    | none => .typeError
  | some (.value _) => .typeError
  | some .inherited => .typeError

/-- `JsonAuthProvider`, and how many calls of `read` wait for the file. -/
structure Provider where
  table : Json
  waiting : Nat

inductive Event
  /-- The watcher fires. -/
  | change
  /-- A read of the file settles; `none` is an error. -/
  | settle (content : Option String)
  | lookup (username : String)

/-- `read` up to its `await`. -/
def Provider.read (p : Provider) : Provider := ⟨emptyTable, p.waiting + 1⟩

/-- The provider its constructor leaves. -/
def Provider.init : Provider := Provider.read ⟨emptyTable, 0⟩

/-- `read` behind its `await`. What was parsed is assigned before it is seen to be no object. -/
def Provider.settle (p : Provider) (content : Option String) : Provider :=
  match content.bind h.parse with
  | none => { p with waiting := p.waiting - 1 }
  | some v => { p with table := (clearSchema v).getD v, waiting := p.waiting - 1 }

def Provider.handle (p : Provider) : Event → Provider
  | .change => p.read
  | .settle content => if p.waiting = 0 then p else p.settle h content
  | .lookup _ => p

/-- The table of a version of the file that is parsed successfully. -/
def version (content : Option String) : Option Json := (content.bind h.parse).bind clearSchema

end Grid0Relay.Forwarder.JsonAuth
