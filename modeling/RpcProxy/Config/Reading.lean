import RpcProxy.Config.ProtocolOptions
import RpcProxy.Config.Record

namespace RpcProxy.Config

open Reader

-- At most this many arrays and objects are open inside each other.
def maxNesting : Nat :=
  127

-- Reads a whole text. Nothing may follow the value.
def parse (read : Reader α) (text : String) : Except Problem α := do
  let reading := Json.Document.read text
  let x ← read maxNesting reading.document
  if reading.trailing then .error .malformed else .ok x

namespace Reader

-- Members by key; the last of several members with the same key counts.
def criteria : Reader Criteria
  | 0,        .object _ _       => .error .malformed
  | 0,        .keyless _        => .error .malformed
  | room + 1, .object ms ending => (jsonMembers ms ending room []).map Criteria.mk
  | _ + 1,    .keyless _        => .error .malformed
  | _,        d                 => mismatch "a map" d

end Reader

namespace Range

def record : Record Range where
  title   := "struct Int64Range"
  fields  := [.need "start" signed fun r n => { r with start := n },
              .need "end" signed fun r n => { r with stop := n }]
  start   := default
  lenient := true

end Range

namespace HeaderMatcher

def record : Record HeaderMatcher where
  title  := "struct HeaderMatcherConfig"
  fields := [.of "name" text fun m x => { m with name := x },
             .of "exact_match" (nullable text) fun m x => { m with exact := x },
             .of "regex_match" (nullable text) fun m x => { m with regex := x },
             .of "range_match" (nullable Range.record.read) fun m x => { m with range := x },
             .of "present_match" (nullable bool) fun m x => { m with present := x },
             .of "prefix_match" (nullable text) fun m x => { m with start := x },
             .of "suffix_match" (nullable text) fun m x => { m with suffix := x },
             .of "contains_match" (nullable text) fun m x => { m with contains := x },
             .of "invert_match" bool fun m x => { m with invert := x }]
  start  := {}

def parse (s : String) : Except Problem HeaderMatcher :=
  Config.parse record.read s

end HeaderMatcher

namespace Match

def record : Record Match where
  title  := "struct RouteMatchConfig"
  fields := [.of "method_name" (nullable text) fun m x => { m with method := x },
             .of "service_name" (nullable text) fun m x => { m with service := x },
             .of "invert" bool fun m x => { m with invert := x },
             .of "headers" (list HeaderMatcher.record.read) fun m x => { m with headers := x }]
  start  := {}

end Match

namespace ClusterWeight

def record : Record ClusterWeight where
  title  := "struct ClusterWeightConfig"
  fields := [.need "name" text fun c x => { c with name := x },
             .need "weight" unsigned fun c x => { c with weight := x },
             .of "metadata_match" (nullable Reader.criteria) fun c x => { c with criteria := x }]
  start  := {}

end ClusterWeight

namespace WeightedClusters

def record : Record WeightedClusters where
  title  := "struct WeightedClustersConfig"
  fields := [.need "clusters" (list ClusterWeight.record.read) fun c x => { c with clusters := x }]
  start  := {}

def parse (s : String) : Except Problem WeightedClusters :=
  Config.parse record.read s

end WeightedClusters

namespace RateLimitAction

def headersRecord : Record (String × String) where
  title  := "struct variant RateLimitActionConfig::RequestHeaders"
  fields := [.need "header_name" text fun p x => (x, p.2),
             .need "descriptor_key" text fun p x => (p.1, x)]
  start  := ("", "")

def valueRecord : Record String where
  title  := "struct variant RateLimitActionConfig::GenericKey"
  fields := [.need "descriptor_value" text fun _ x => x]
  start  := ""

def variants : List (String × Variant RateLimitAction) :=
  [("source_cluster", .bare .sourceCluster),
   ("destination_cluster", .bare .destinationCluster),
   ("request_headers", .fields fun room d =>
     (headersRecord.read room d).map fun p => .requestHeaders p.1 p.2),
   ("generic_key", .fields fun room d => (valueRecord.read room d).map .genericKey)]

end RateLimitAction

namespace RateLimit

def record : Record RateLimit where
  title  := "struct RateLimitConfig"
  fields := [.of "stage" unsigned fun l x => { l with stage := x },
             .of "actions" (list (Variant.read RateLimitAction.variants))
               fun l x => { l with actions := x }]
  start  := {}

def parseList (s : String) : Except Problem (List RateLimit) :=
  Config.parse (list record.read) s

end RateLimit

namespace Action

def record : Record Action where
  title  := "struct RouteActionConfig"
  fields := [.of "cluster" (nullable text) fun a x => { a with cluster := x },
             .of "weighted_clusters" (nullable WeightedClusters.record.read)
               fun a x => { a with weightedClusters := x },
             .of "cluster_header" (nullable text) fun a x => { a with clusterHeader := x },
             .of "metadata_match" (nullable Reader.criteria) fun a x => { a with criteria := x },
             .of "rate_limits" (list RateLimit.record.read) fun a x => { a with rateLimits := x },
             .of "strip_service_name" bool fun a x => { a with stripService := x }]
  start  := {}

end Action

namespace Route

def record : Record Route where
  title  := "struct RouteConfig"
  fields := [.need "match" Match.record.read fun r x => { r with takes := x },
             .need "route" Action.record.read fun r x => { r with action := x }]
  start  := {}

def parse (s : String) : Except Problem Route :=
  Config.parse record.read s

end Route

namespace Routes

def record : Record Routes where
  title  := "struct RouteConfiguration"
  fields := [.of "name" text fun r x => { r with name := x },
             .of "routes" (list Route.record.read) fun r x => { r with routes := x }]
  start  := {}

def parse (s : String) : Except Problem Routes :=
  Config.parse record.read s

end Routes

namespace Router

def record : Record Router where
  title  := "struct RouterConfig"
  fields := [.of "stat_prefix" text fun r x => { r with statPrefix := x },
             .of "route_config" Routes.record.read fun r x => { r with routes := x }]
  start  := {}

def parse (s : String) : Except Problem Router :=
  Config.parse record.read s

-- What is told about a text that is no configuration.
def problemMessage : Problem → String
  | .malformed     => "invalid router configuration"
  | .content cause => "invalid router configuration: " ++ cause.message

end Router

namespace ProtocolOptions

def transports : List (String × Variant Transport) :=
  [("framed", .bare .framed), ("unframed", .bare .unframed), ("header", .bare .header),
   ("auto", .bare .auto)]

def encodings : List (String × Variant Encoding) :=
  [("binary", .bare .binary), ("lax_binary", .bare .laxBinary), ("compact", .bare .compact),
   ("twitter", .bare .twitter), ("auto", .bare .auto)]

def record : Record ProtocolOptions where
  title  := "struct RawProtocolOptions"
  fields := [.of "transport" (nullable (Variant.read transports)) fun o x => { o with transport := x },
             .of "protocol" (nullable (Variant.read encodings)) fun o x => { o with encoding := x }]
  start  := {}

def reader : Reader ProtocolOptions := fun room d => do
  let o ← record.read room d
  match o.validate with
  | .ok _        => return o
  | .error cause => .error (.content cause)

def parse (s : String) : Except Problem ProtocolOptions :=
  Config.parse reader s

end ProtocolOptions

end RpcProxy.Config
