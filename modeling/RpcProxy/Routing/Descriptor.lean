import RpcProxy.Config.Basic
import RpcProxy.Header.Map

namespace RpcProxy

structure DescriptorPair where
  key   : String
  value : String
  deriving DecidableEq, Repr

abbrev Descriptor := List DescriptorPair

-- What a descriptor may tell about a call.
structure DescriptorContext where
  routeCluster : String
  localCluster : String
  headers      : HeaderMap
  deriving DecidableEq, Repr

namespace RateLimit

open Config (RateLimitAction)

-- The pair that an action adds. There is none if the call lacks the header it asks for.
def pair? (context : DescriptorContext) : RateLimitAction → Option DescriptorPair
  | .sourceCluster             => some ⟨"source_cluster", context.localCluster⟩
  | .destinationCluster        => some ⟨"destination_cluster", context.routeCluster⟩
  | .requestHeaders header key => (context.headers.first? header).map (⟨key, ·⟩)
  | .genericKey value          => some ⟨"generic_key", value⟩

-- A descriptor has a pair for every action, or there is no descriptor.
def descriptor? (context : DescriptorContext) (entry : Config.RateLimit) : Option Descriptor :=
  entry.actions.mapM (pair? context)

end RateLimit

-- The rate-limit entries of a route, in their order.
structure RateLimitPolicy where
  entries : List Config.RateLimit := []
  deriving DecidableEq, Repr, Inhabited

namespace RateLimitPolicy

def atStage (policy : RateLimitPolicy) (stage : Nat) : List Config.RateLimit :=
  policy.entries.filter (·.stage == stage)

def isEmpty (policy : RateLimitPolicy) : Bool :=
  policy.entries.isEmpty

end RateLimitPolicy

end RpcProxy
