import RpcProxy.Header.Matcher

namespace RpcProxy

inductive RouteError
  | emptyInvertedMethod
  | emptyInvertedService
  | missingMatch
  | conflictingMatches
  | missingCluster
  | conflictingClusters
  | emptyClusterName
  | emptyClusterHeader
  | emptyWeightedClusters
  | zeroWeight (cluster : String)
  | header (e : HeaderMatcherError)
  deriving DecidableEq, Repr

namespace RouteError

def message : RouteError → String
  | emptyInvertedMethod   => "cannot have an empty method name with inversion enabled"
  | emptyInvertedService  => "cannot have an empty service name with inversion enabled"
  | missingMatch          => "route match must set one of method_name or service_name"
  | conflictingMatches    => "route match sets both method_name and service_name"
  | missingCluster        =>
    "route action must set one of cluster, weighted_clusters or cluster_header"
  | conflictingClusters   =>
    "route action sets more than one of cluster, weighted_clusters or cluster_header"
  | emptyClusterName      => "cluster name must not be empty"
  | emptyClusterHeader    => "cluster_header must not be empty"
  | emptyWeightedClusters => "weighted_clusters must contain at least one cluster"
  | zeroWeight cluster    => s!"weighted cluster '{cluster}' must have a weight greater than zero"
  | header e              => e.message

end RouteError

-- The first invalid route of a table, by its index, and what is wrong with it.
structure TableError where
  index : Nat
  cause : RouteError
  deriving DecidableEq, Repr

namespace TableError

def message (e : TableError) : String :=
  s!"route {e.index}: " ++ e.cause.message

end TableError

end RpcProxy
