import RpcProxy.Router

namespace RpcProxy

-- A listener makes a router for each caller's connection. The router keeps the table that is current then.
structure Listener where
  table : RouteTable
  -- How many routers were made so far.
  made  : Nat := 0

namespace Listener

def ofConfig (config : Config.Router) : Except TableError Listener :=
  (RouteTable.ofConfig config.routes).map fun table => { table }

-- Replaces the route table. An invalid configuration leaves the listener as it is.
def update (listener : Listener) (config : Config.Routes) : Except TableError Listener :=
  (RouteTable.ofConfig config).map fun table => { listener with table }

-- Takes a caller's connection on.
def accept (listener : Listener) : Router × Listener :=
  ({ id := ⟨listener.made⟩, table := listener.table }, { listener with made := listener.made + 1 })

end Listener

-- A listener with its routers, in the order in which they were made.
structure Gateway where
  listener : Listener
  routers  : List Router := []
  shared   : Shared := {}

namespace Gateway

-- What can happen to a gateway. Routers are told apart by their position.
inductive Step
  | update (config : Config.Routes)
  | create
  | event (router : Nat) (event : RouterEvent)
  | destroy (router : Nat)

-- An invalid update changes nothing, and neither does a step of a router that is not there.
def step (c : Surroundings) (g : Gateway) : Step → Answer × Gateway
  | .update config      =>
    match g.listener.update config with
    | .ok listener => (.none, { g with listener })
    | .error _     => (.none, g)
  | .create             =>
    let (router, listener) := g.listener.accept
    (.none, { g with listener, routers := g.routers ++ [router] })
  | .event index event  =>
    match g.routers[index]? with
    | some router =>
      let (answer, router, shared) := router.apply c event g.shared
      (answer, { g with routers := g.routers.set index router, shared })
    | none        => (.none, g)
  | .destroy index      =>
    match g.routers[index]? with
    | some router =>
      let (router, shared) := router.destroy g.shared
      (.none, { g with routers := g.routers.set index router, shared })
    | none        => (.none, g)

end Gateway

end RpcProxy
