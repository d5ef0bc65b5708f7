import RpcProxy.Criteria
import RpcProxy.Leg

namespace RpcProxy.Config

-- The integers from `start` up to `stop`, exclusive.
structure Range where
  start : Int
  stop  : Int
  deriving DecidableEq, Repr, Inhabited

-- A condition on one header. Exactly one of the optional fields is meant to be set.
structure HeaderMatcher where
  name     : String := ""
  exact    : Option String := none
  regex    : Option String := none
  range    : Option Range := none
  present  : Option Bool := none
  start    : Option String := none
  suffix   : Option String := none
  contains : Option String := none
  invert   : Bool := false
  deriving DecidableEq, Repr, Inhabited

-- Which calls a route takes. Exactly one of the two names is meant to be set.
structure Match where
  method  : Option String := none
  service : Option String := none
  invert  : Bool := false
  headers : List HeaderMatcher := []
  deriving DecidableEq, Repr, Inhabited

structure ClusterWeight where
  name     : String := ""
  weight   : Nat := 0
  criteria : Option Criteria := none
  deriving BEq, Inhabited

structure WeightedClusters where
  clusters : List ClusterWeight := []
  deriving BEq, Inhabited

-- What one pair of a rate-limit descriptor is made from.
inductive RateLimitAction
  | sourceCluster
  | destinationCluster
  | requestHeaders (header key : String)
  | genericKey (value : String)
  deriving DecidableEq, Repr, Inhabited

structure RateLimit where
  stage   : Nat := 0
  actions : List RateLimitAction := []
  deriving DecidableEq, Repr, Inhabited

-- Where a route sends its calls. Exactly one of the first three fields is meant to be set.
structure Action where
  cluster          : Option String := none
  weightedClusters : Option WeightedClusters := none
  clusterHeader    : Option String := none
  criteria         : Option Criteria := none
  rateLimits       : List RateLimit := []
  stripService     : Bool := false
  deriving BEq, Inhabited

structure Route where
  takes  : Match := {}
  action : Action := {}
  deriving BEq, Inhabited

structure Routes where
  name   : String := ""
  routes : List Route := []
  deriving BEq, Inhabited

-- A configuration as it is written down. Whether its routes make sense is decided when a table is built from them.
structure Router where
  statPrefix : String := "rpcgate"
  routes     : Routes := {}
  deriving BEq, Inhabited

-- How a cluster wants its leg of a call, where that is not the way of the caller's leg.
structure ProtocolOptions where
  transport : Option Transport := none
  encoding  : Option Encoding := none
  deriving DecidableEq, Repr, Inhabited

end RpcProxy.Config
