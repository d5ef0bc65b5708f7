namespace RpcProxy

-- An ordered multimap. Names are kept in lower case, and the values of a name in the order in which they were added.
structure HeaderMap where
  entries : List (String × String) := []
  deriving DecidableEq, Repr, Inhabited

namespace HeaderMap

-- The form in which a name is kept: its ASCII letters are lowered, all else stays.
def normalize (name : String) : String :=
  name.toLower

-- Whether two names differ at most in the case of ASCII letters.
def sameName (a b : String) : Bool :=
  normalize a == normalize b

def add (headers : HeaderMap) (name value : String) : HeaderMap :=
  ⟨headers.entries ++ [(normalize name, value)]⟩

def ofList (pairs : List (String × String)) : HeaderMap :=
  pairs.foldl (fun headers p => headers.add p.1 p.2) {}

-- Puts one value in place of all values of the name; it stands last. Names are kept in lower case, so those
-- in the map are compared as they are.
def set (headers : HeaderMap) (name value : String) : HeaderMap :=
  ⟨headers.entries.filter (·.1 != normalize name) ++ [(normalize name, value)]⟩

-- Drops all values of a name, and tells how many they were.
def remove (headers : HeaderMap) (name : String) : HeaderMap × Nat :=
  let kept := headers.entries.filter fun e => !sameName e.1 name
  (⟨kept⟩, headers.entries.length - kept.length)

def values (headers : HeaderMap) (name : String) : List String :=
  (headers.entries.filter fun e => sameName e.1 name).map (·.2)

def first? (headers : HeaderMap) (name : String) : Option String :=
  (headers.entries.find? fun e => sameName e.1 name).map (·.2)

theorem first?_eq_head? (headers : HeaderMap) (name : String) : headers.first? name = (headers.values name).head? := by
  simp only [first?, values, List.head?_map, List.head?_filter]

-- The values of a name, joined by commas.
def joined? (headers : HeaderMap) (name : String) : Option String :=
  match headers.values name with
  | []     => none
  | values => some (",".intercalate values)

def contains (headers : HeaderMap) (name : String) : Bool :=
  (headers.first? name).isSome

def size (headers : HeaderMap) : Nat :=
  headers.entries.length

def isEmpty (headers : HeaderMap) : Bool :=
  headers.entries.isEmpty

end HeaderMap

end RpcProxy
