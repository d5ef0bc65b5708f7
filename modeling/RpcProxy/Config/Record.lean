import RpcProxy.Config.Problem

namespace RpcProxy.Config

open Json (Document Ending)

-- A reader follows a document in the order of its text, so the first problem of the text is the one that it reports. It
-- is told how many arrays and objects may still be opened inside each other.
abbrev Reader (α : Type) := Nat → Document → Except Problem α

-- What a reader finds in a value that it cannot use. Only the front of an array or object is looked
-- at.
def found : Document → Except Problem Found
  | .null                => .ok .null
  | .bool b              => .ok (.bool b)
  | .number (.integer n) => .ok (.integer n)
  | .number (.float x)   => .ok (.float x)
  | .text s              => .ok (.text s)
  | .array _ _           => .ok .sequence
  | .object _ _          => .ok .map
  | .keyless _           => .ok .map
  | .valueless           => .error .malformed
  | .broken              => .error .malformed

def mismatch (expected : String) (d : Document) : Except Problem α := do
  let f ← found d
  .error (.content (.invalidType f expected))

namespace Reader

def text : Reader String
  | _, .text s => .ok s
  | _, d       => mismatch "a string" d

def bool : Reader Bool
  | _, .bool b => .ok b
  | _, d       => mismatch "a boolean" d

-- An integer from `low` up to `high`, both included.
def integer (expected : String) (low high : Int) : Reader Int
  | _, .number (.integer n) =>
    if low ≤ n && n ≤ high then .ok n else .error (.content (.invalidValue n expected))
  | _, d                    => mismatch expected d

def signed : Reader Int :=
  integer "i64" (-9223372036854775808) 9223372036854775807

def unsigned : Reader Nat := fun room d =>
  (integer "u32" 0 4294967295 room d).map Int.toNat

def nullable (read : Reader α) : Reader (Option α)
  | _,    .null => .ok none
  | room, d     => (read room d).map some

-- All items in order, after which the array has to be closed.
def items (read : Document → Except Problem α) (ending : Ending) :
    List Document → Except Problem (List α)
  | []      => if ending = .closed then .ok [] else .error .malformed
  | d :: ds => do
    let x ← read d
    let xs ← items read ending ds
    return x :: xs

def list (read : Reader α) : Reader (List α)
  | 0,        .array _ _       => .error .malformed
  | room + 1, .array ds ending => items (read room) ending ds
  | _,        d                => mismatch "a sequence" d

mutual

-- A value of any kind. The last of several members with the same key counts.
def json : Document → Nat → Except Problem Json
  | .null,               _        => .ok .null
  | .bool b,             _        => .ok (.bool b)
  | .number n,           _        => .ok (.number n)
  | .text s,             _        => .ok (.text s)
  | .array ds ending,    room + 1 => do
    let xs ← jsonItems ds ending room
    return .array xs
  | .object ms ending,   room + 1 => do
    let xs ← jsonMembers ms ending room []
    return .object xs
  | .array _ _,          0        => .error .malformed
  | .object _ _,         0        => .error .malformed
  | .keyless _,          _        => .error .malformed
  | .valueless,          _        => .error .malformed
  | .broken,             _        => .error .malformed

def jsonItems : List Document → Ending → Nat → Except Problem (List Json)
  | [],      ending, _    => if ending = .closed then .ok [] else .error .malformed
  | d :: ds, ending, room => do
    let x ← json d room
    let xs ← jsonItems ds ending room
    return x :: xs

def jsonMembers : List (Option String × Document) → Ending → Nat → List (String × Json) →
    Except Problem (List (String × Json))
  | [],                 ending, _,    read => if ending = .closed then .ok read else .error .malformed
  | (none, _) :: _,     _,      _,    _    => .error .malformed
  | (some k, d) :: ms,  ending, room, read => do
    let x ← json d room
    jsonMembers ms ending room (Json.insertMember k x read)

end

end Reader

-- A field of a record that is being read into `σ`.
structure Field (σ : Type) where
  name     : String
  read     : Nat → Document → σ → Except Problem σ
  required : Bool

namespace Field

def of (name : String) (read : Reader α) (put : σ → α → σ) : Field σ where
  name         := name
  read room d s := (read room d).map (put s)
  required     := false

def need (name : String) (read : Reader α) (put : σ → α → σ) : Field σ :=
  { of name read put with required := true }

end Field

structure Record (σ : Type) where
  title  : String
  fields : List (Field σ)
  -- The value before any field is read.
  start  : σ
  -- Whether members that are no fields are passed over.
  lenient : Bool := false

namespace Record

def names (r : Record σ) : List String :=
  r.fields.map (·.name)

def field? (r : Record σ) (name : String) : Option (Field σ) :=
  r.fields.find? (·.name == name)

def elements (n : Nat) : String :=
  if n = 1 then "1 element" else toString n ++ " elements"

-- Reads the members of an object; `seen` are the fields that were read.
def members (r : Record σ) (room : Nat) (ending : Ending) :
    List (Option String × Document) → List String → σ → Except Problem σ
  | [],                seen, s =>
    if ending = .closed then
      match r.fields.find? fun f => f.required && !seen.contains f.name with
      | some f => .error (.content (.missingField f.name))
      | none   => .ok s
    else .error .malformed
  | (none, _) :: _,    _,    _ => .error .malformed
  | (some k, d) :: ms, seen, s =>
    match r.field? k with
    | none   =>
      if !r.lenient then .error (.content (.unknownField k r.names))
      else if d.wellFormed then members r room ending ms seen s
      else .error .malformed
    | some f =>
      if seen.contains k then .error (.content (.duplicateField k))
      else do
        let s ← f.read room d s
        members r room ending ms (k :: seen) s

-- Reads the items of an array as the fields in their order; `count` items were read.
def positions (r : Record σ) (room : Nat) (ending : Ending) :
    List (Field σ) → List Document → Nat → σ → Except Problem σ
  | [],      [],      _,     s => if ending = .closed then .ok s else .error .malformed
  | [],      _ :: _,  _,     _ => .error .malformed
  | f :: fs, [],      count, s =>
    if ending = .broken then .error .malformed
    else if f.required then
      .error (.content (.invalidLength count (r.title ++ " with " ++ elements r.fields.length)))
    else positions r room ending fs [] count s
  | f :: fs, d :: ds, count, s => do
    let s ← f.read room d s
    positions r room ending fs ds (count + 1) s

def read (r : Record σ) : Reader σ
  | 0,        .array _ _        => .error .malformed
  | 0,        .object _ _       => .error .malformed
  | 0,        .keyless _        => .error .malformed
  | room + 1, .array ds ending  => r.positions room ending r.fields ds 0 r.start
  | room + 1, .object ms ending => r.members room ending ms [] r.start
  | _ + 1,    .keyless _        => .error .malformed
  | _,        d                 => mismatch r.title d

end Record

-- What may follow the name of a variant: nothing, or content.
inductive Variant (α : Type)
  | bare (value : α)
  | fields (read : Reader α)

namespace Variant

def lookup (variants : List (String × Variant α)) (name : String) : Except Problem (Variant α) :=
  match variants.find? (·.1 == name) with
  | some v => .ok v.2
  | none   => .error (.content (.unknownVariant name (variants.map (·.1))))

def ofName : Variant α → Except Problem α
  | bare value => .ok value
  | fields _   => .error (.content (.invalidType .unitVariant "struct variant"))

def ofContent (room : Nat) (d : Document) : Variant α → Except Problem α
  | bare value  =>
    match d with
    | .null => .ok value
    | d     => mismatch "unit" d
  | fields read => read room d

-- One of several variants: its name alone, or an object whose only key is the name.
def read (variants : List (String × Variant α)) : Reader α
  | _,        .text name                            => lookup variants name >>= ofName
  | room + 1, .object ((some name, d) :: ms) ending => do
    let x ← lookup variants name >>= ofContent room d
    if ms.isEmpty && ending = .closed then .ok x else .error .malformed
  | _ + 1,    .keyless first                        => mismatch "variant identifier" first
  | _,        _                                     => .error .malformed

end Variant

end RpcProxy.Config
