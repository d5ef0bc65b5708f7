namespace RpcProxy

namespace Json

inductive Number
  | integer (n : Int)
  | float (x : Float)
  deriving BEq, Repr, Inhabited

end Json

inductive Json
  | null
  | bool (b : Bool)
  | number (n : Json.Number)
  | text (s : String)
  | array (items : List Json)
  | object (members : List (String × Json))
  deriving Inhabited

namespace Json

mutual

def equal : Json → Json → Bool
  | null,      null      => true
  | bool a,    bool b    => a == b
  | number m,  number n  => m == n
  | text s,    text t    => s == t
  | array xs,  array ys  => equalItems xs ys
  | object xs, object ys => equalMembers xs ys
  | _,         _         => false

def equalItems : List Json → List Json → Bool
  | [],      []      => true
  | x :: xs, y :: ys => equal x y && equalItems xs ys
  | _,       _       => false

def equalMembers : List (String × Json) → List (String × Json) → Bool
  | [],           []           => true
  | (k, x) :: xs, (l, y) :: ys => k == l && equal x y && equalMembers xs ys
  | _,            _            => false

end

instance : BEq Json := ⟨equal⟩

-- Puts a member at its place by key in a list of members ordered by key. A key that is there already
-- gets the new value.
def insertMember (key : String) (value : α) : List (String × α) → List (String × α)
  | []             => [(key, value)]
  | (k, v) :: rest =>
    if key < k then (key, value) :: (k, v) :: rest
    else if key = k then (key, value) :: rest
    else (k, v) :: insertMember key value rest

end Json

end RpcProxy
