import RpcProxy.Config.Basic

namespace RpcProxy.Config

open Json

-- The member for an optional field. One that is not set is left out; all others are written even when they have their
-- default.
def member? (name : String) (write : α → Json) : Option α → List (String × Json)
  | some x => [(name, write x)]
  | none   => []

def writeList (write : α → Json) (xs : List α) : Json :=
  .array (xs.map write)

def writeInt (n : Int) : Json :=
  .number (.integer n)

def writeCriteria (criteria : Criteria) : Json :=
  .object criteria.entries

def Range.toJson (r : Range) : Json :=
  .object [("start", writeInt r.start), ("end", writeInt r.stop)]

def HeaderMatcher.toJson (m : HeaderMatcher) : Json :=
  .object <|
    [("name", .text m.name)] ++
    member? "exact_match" .text m.exact ++
    member? "regex_match" .text m.regex ++
    member? "range_match" Range.toJson m.range ++
    member? "present_match" .bool m.present ++
    member? "prefix_match" .text m.start ++
    member? "suffix_match" .text m.suffix ++
    member? "contains_match" .text m.contains ++
    [("invert_match", .bool m.invert)]

def Match.toJson (m : Match) : Json :=
  .object <|
    member? "method_name" .text m.method ++
    member? "service_name" .text m.service ++
    [("invert", .bool m.invert), ("headers", writeList HeaderMatcher.toJson m.headers)]

def ClusterWeight.toJson (c : ClusterWeight) : Json :=
  .object <|
    [("name", .text c.name), ("weight", writeInt c.weight)] ++
    member? "metadata_match" writeCriteria c.criteria

def WeightedClusters.toJson (c : WeightedClusters) : Json :=
  .object [("clusters", writeList ClusterWeight.toJson c.clusters)]

def RateLimitAction.toJson : RateLimitAction → Json
  | sourceCluster             => .text "source_cluster"
  | destinationCluster        => .text "destination_cluster"
  | requestHeaders header key =>
    .object [("request_headers",
      .object [("header_name", .text header), ("descriptor_key", .text key)])]
  | genericKey value          => .object [("generic_key", .object [("descriptor_value", .text value)])]

def RateLimit.toJson (l : RateLimit) : Json :=
  .object [("stage", writeInt l.stage), ("actions", writeList RateLimitAction.toJson l.actions)]

def Action.toJson (a : Action) : Json :=
  .object <|
    member? "cluster" .text a.cluster ++
    member? "weighted_clusters" WeightedClusters.toJson a.weightedClusters ++
    member? "cluster_header" .text a.clusterHeader ++
    member? "metadata_match" writeCriteria a.criteria ++
    [("rate_limits", writeList RateLimit.toJson a.rateLimits),
     ("strip_service_name", .bool a.stripService)]

def Route.toJson (r : Route) : Json :=
  .object [("match", r.takes.toJson), ("route", r.action.toJson)]

def Routes.toJson (r : Routes) : Json :=
  .object [("name", .text r.name), ("routes", writeList Route.toJson r.routes)]

def Router.toJson (r : Router) : Json :=
  .object [("stat_prefix", .text r.statPrefix), ("route_config", r.routes.toJson)]

def transportName : Transport → String
  | .framed   => "framed"
  | .unframed => "unframed"
  | .header   => "header"
  | .auto     => "auto"

def encodingName : Encoding → String
  | .binary    => "binary"
  | .laxBinary => "lax_binary"
  | .compact   => "compact"
  | .twitter   => "twitter"
  | .auto      => "auto"

def ProtocolOptions.toJson (o : ProtocolOptions) : Json :=
  .object <|
    member? "transport" (fun t => .text (transportName t)) o.transport ++
    member? "protocol" (fun e => .text (encodingName e)) o.encoding

end RpcProxy.Config
