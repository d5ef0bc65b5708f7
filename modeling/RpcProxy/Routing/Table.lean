import RpcProxy.Routing.Rule

namespace RpcProxy

-- The first rule that resolves a call is taken.
structure RouteTable where
  name  : String
  rules : List RouteRule

namespace RouteTable

def ruleAt (index : Nat) (config : Config.Route) : Except TableError RouteRule :=
  (RouteRule.ofConfig config).mapError (⟨index, ·⟩)

def rulesFrom (index : Nat) : List Config.Route → Except TableError (List RouteRule)
  | []              => .ok []
  | config :: rest  => do
    let rule ← ruleAt index config
    let rules ← rulesFrom (index + 1) rest
    return rule :: rules

def ofConfig (config : Config.Routes) : Except TableError RouteTable :=
  (rulesFrom 0 config.routes).map (⟨config.name, ·⟩)

def ofRules (name : String) (rules : List RouteRule) : RouteTable :=
  ⟨name, rules⟩

def size (table : RouteTable) : Nat :=
  table.rules.length

def isEmpty (table : RouteTable) : Bool :=
  table.rules.isEmpty

def route? (table : RouteTable) (message : Message) (random : Nat) : Option Destination :=
  table.rules.findSome? (·.resolve? message random)

end RouteTable

end RpcProxy
