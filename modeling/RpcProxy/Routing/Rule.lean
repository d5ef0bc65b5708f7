import RpcProxy.Message
import RpcProxy.Routing.Descriptor
import RpcProxy.Routing.Target

namespace RpcProxy

-- A condition on the method name. An empty name or service takes every call, even one without a method
-- name.
inductive MethodPattern
  | method (name : String)
  -- The front of the method name, up to and including a colon.
  | service (front : String)
  deriving DecidableEq, Repr

namespace MethodPattern

-- The front of the method names of a service.
def serviceFront (service : String) : String :=
  if service = "" || service.toList.getLast? = some ':' then service else service ++ ":"

def takes (pattern : MethodPattern) (method? : Option String) : Bool :=
  match pattern with
  | method name   => name == "" || method? == some name
  | service front => front == "" || method?.any fun m => front.toList.isPrefixOf m.toList

end MethodPattern

structure CallMatcher where
  pattern : MethodPattern
  invert  : Bool
  deriving DecidableEq, Repr

namespace CallMatcher

def ofConfig (config : Config.Match) : Except RouteError CallMatcher :=
  match config.method, config.service with
  | some name, none         =>
    if name = "" && config.invert then .error .emptyInvertedMethod
    else .ok ⟨.method name, config.invert⟩
  | none,      some service =>
    if service = "" && config.invert then .error .emptyInvertedService
    else .ok ⟨.service (MethodPattern.serviceFront service), config.invert⟩
  | none,      none         => .error .missingMatch
  | some _,    some _       => .error .conflictingMatches

def takes (m : CallMatcher) (message : Message) : Bool :=
  m.pattern.takes message.method? != m.invert

end CallMatcher

-- Where a call goes, and how.
structure Destination where
  cluster      : String
  criteria     : Option Criteria
  rateLimits   : RateLimitPolicy
  stripService : Bool
  deriving BEq, Inhabited

-- A rule takes the calls whose headers and method name it accepts, and resolves the cluster they go to.
structure RouteRule where
  matcher      : CallMatcher
  headers      : List HeaderMatcher
  target       : Target
  criteria     : Option Criteria
  rateLimits   : RateLimitPolicy
  stripService : Bool

namespace RouteRule

def headerMatcher (config : Config.HeaderMatcher) : Except RouteError HeaderMatcher :=
  (HeaderMatcher.ofConfig config).mapError .header

def ofConfig (config : Config.Route) : Except RouteError RouteRule := do
  let matcher ← CallMatcher.ofConfig config.takes
  let headers ← config.takes.headers.mapM headerMatcher
  let target ← Target.ofConfig config.action
  return {
    matcher, headers, target
    criteria     := config.action.criteria
    rateLimits   := ⟨config.action.rateLimits⟩
    stripService := config.action.stripService }

def takes (rule : RouteRule) (message : Message) : Bool :=
  HeaderMatcher.allAccept rule.headers message.headers && rule.matcher.takes message

-- The route of a call, if the rule takes it and its cluster can be told.
def resolve? (rule : RouteRule) (message : Message) (random : Nat) : Option Destination :=
  if rule.takes message then
    (rule.target.select? message.headers random rule.criteria).map fun selection =>
      ⟨selection.cluster, selection.criteria, rule.rateLimits, rule.stripService⟩
  else none

end RouteRule

end RpcProxy
