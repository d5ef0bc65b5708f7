import RpcProxy.Json.Printer

namespace RpcProxy

-- What the endpoints of a cluster have to meet: values by key, in the order of the keys. The proxy hands them to the
-- load balancer and does not look into them.
structure Criteria where
  entries : List (String × Json) := []
  deriving BEq, Inhabited

namespace Criteria

-- Sets the value of a key, in place of the one it has.
def insert (criteria : Criteria) (key : String) (value : Json) : Criteria :=
  ⟨Json.insertMember key value criteria.entries⟩

def ofList (entries : List (String × Json)) : Criteria :=
  entries.foldl (fun criteria e => criteria.insert e.1 e.2) {}

-- Lays `own` over the criteria: for a key that is in both, the value of `own` counts.
def merge (criteria own : Criteria) : Criteria :=
  own.entries.foldl (fun merged e => merged.insert e.1 e.2) criteria

def get? (criteria : Criteria) (key : String) : Option Json :=
  criteria.entries.lookup key

def size (criteria : Criteria) : Nat :=
  criteria.entries.length

def isEmpty (criteria : Criteria) : Bool :=
  criteria.entries.isEmpty

end Criteria

end RpcProxy
