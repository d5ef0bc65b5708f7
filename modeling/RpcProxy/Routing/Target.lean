import RpcProxy.Routing.Error

namespace RpcProxy

-- One of several clusters that share the calls of a route.
structure Share where
  cluster  : String
  weight   : Nat
  -- The criteria of the route with the own criteria of the entry laid over them.
  criteria : Option Criteria
  deriving BEq, Inhabited

namespace Share

def mergedCriteria : (own parent : Option Criteria) → Option Criteria
  | some own, some parent => some (parent.merge own)
  | some own, none        => some own
  | none,     parent      => parent

def ofConfig (config : Config.ClusterWeight) (parent : Option Criteria) :
    Except RouteError Share :=
  if config.name = "" then .error .emptyClusterName
  else if config.weight = 0 then .error (.zeroWeight config.name)
  else .ok ⟨config.name, config.weight, mergedCriteria config.criteria parent⟩

end Share

structure Shares where
  entries : List Share
  deriving BEq, Inhabited

namespace Shares

def ofConfig (config : Config.WeightedClusters) (parent : Option Criteria) :
    Except RouteError Shares :=
  if config.clusters.isEmpty then .error .emptyWeightedClusters
  else (config.clusters.mapM (Share.ofConfig · parent)).map .mk

def total (shares : Shares) : Nat :=
  shares.entries.foldr (·.weight + ·) 0

-- The entry in whose interval a number falls, where the intervals of the entries have the lengths of their
-- weights and lie one after the other from zero on.
def at? (n : Nat) : List Share → Option Share
  | []      => none
  | e :: es => if n < e.weight then some e else at? (n - e.weight) es

def pick? (shares : Shares) (random : Nat) : Option Share :=
  if shares.total = 0 then none else at? (random % shares.total) shares.entries

end Shares

-- The cluster for one call, and the criteria that its endpoints have to meet.
structure Selection where
  cluster  : String
  criteria : Option Criteria
  deriving BEq, Inhabited

-- One cluster, one of several by their weights, or the cluster that a header names.
inductive Target
  | static (cluster : String)
  | weighted (shares : Shares)
  | header (name : String)
  deriving BEq, Inhabited

namespace Target

def ofConfig (action : Config.Action) : Except RouteError Target :=
  match action.cluster, action.weightedClusters, action.clusterHeader with
  | some cluster, none,          none        =>
    if cluster = "" then .error .emptyClusterName else .ok (.static cluster)
  | none,         some clusters, none        =>
    (Shares.ofConfig clusters action.criteria).map .weighted
  | none,         none,          some name   =>
    if name = "" then .error .emptyClusterHeader else .ok (.header name)
  | none,         none,          none        => .error .missingCluster
  | _,            _,             _           => .error .conflictingClusters

-- Of the values of a header only the first one counts, and it must not be empty.
def select? (target : Target) (headers : HeaderMap) (random : Nat)
    (criteria : Option Criteria) : Option Selection :=
  match target with
  | static cluster  => some ⟨cluster, criteria⟩
  | weighted shares => (shares.pick? random).map fun e => ⟨e.cluster, e.criteria⟩
  | header name     =>
    match headers.first? name with
    | some value => if value = "" then none else some ⟨value, criteria⟩
    | none       => none

end Target

end RpcProxy
