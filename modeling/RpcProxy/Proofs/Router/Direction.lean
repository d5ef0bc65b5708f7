import RpcProxy.Proofs.Call.Continuation
import RpcProxy.Proofs.Router.Conduct

namespace RpcProxy

namespace Destination

-- The message as the cluster is to see it.
def outgoing (route : Destination) (message : Message) : Message :=
  if route.stripService then message.stripService.1 else message

-- What the load balancer is told.
def request (route : Destination) (message : Message) : PoolRequest :=
  ⟨route.cluster, .default, route.criteria, message.headers⟩

end Destination

-- The name of a cluster that is looked up.
def Effect.lookedUp? : Effect → Option String
  | lookedUp name _ => some name
  | _               => none

def Effect.drew? : Effect → Option Nat
  | drew random => some random
  | _           => none

abbrev routings (es : List Effect) : List Effect :=
  es.filter (·.isRouting)

-- A later state, with what is asked and counted for a message until then.
abbrev Shared.Directed (s s' : Shared) (way : List Effect) : Prop :=
  s.Shows (·.isRouting) s' way

namespace Call

variable {c : Surroundings} {call : Call} {s : Shared} {resume : Bool}

-- A connection takes the message over as it is, apart from its sequence id.
theorem connect_directed (c : Surroundings) (call : Call) (id : ConnectionId) (host : Host) (s : Shared) :
    let x := call.connect c id host s
    s.Directed x.2 [] ∧ x.1.isTerminal = false ∧ ∃ n, x.1.message = { call.message with sequenceId := n } := by
  cases ho : call.offered? c id host s
  case some request =>
    rw [connect_of_offer ho]
    exact ⟨⟨_, rfl, by simp⟩, rfl, _, rfl⟩
  case none =>
    obtain ⟨s', ht⟩ := connect_transcript_of_no_offer ho
    refine ⟨⟨_, ht, by simp⟩, ?live, ?message⟩
    case live    => simp [connect_of_no_offer ho, startRequest_fst, isTerminal, CallState.isTerminal]
    case message =>
      rw [connect_of_no_offer ho, startRequest_fst]
      exact ⟨_, rfl⟩

-- The call as it is left by the answer of its pool.
theorem start_directed (c : Surroundings) (call : Call) (s : Shared) (hs : call.state = .acquiring) :
    let x := (call.start c s).2
    s.Directed x.2 [] ∧ ∃ answer, .acquired call.pool answer ∈ s.since x.2 ∧
      ((∀ reason host?, answer ≠ .failed reason host?) →
        x.1.isTerminal = false ∧ ∃ n, x.1.message = { call.message with sequenceId := n }) := by
  have asked (answer : Acquisition) : s.Directed (s.emit (.acquired call.pool answer)) [] := ⟨[_], rfl, rfl⟩
  have acquired {answer : Acquisition} {s' : Shared} (h : (s.emit (.acquired call.pool answer)).Directed s' []) :
      s.Directed s' [] ∧ .acquired call.pool answer ∈ s.since s' := by
    obtain ⟨es, ht, hw⟩ := h
    rw [Shared.emit_transcript, List.append_assoc, List.singleton_append] at ht
    exact ⟨⟨_, ht, hw⟩, Shared.since_eq ht ▸ List.mem_cons_self⟩
  cases ha : c.acquire s.transcript call.pool
  case pending =>
    rw [start_of_pending ha]
    exact ⟨asked .pending, .pending, by simp [Shared.since], fun _ => ⟨by simp [isTerminal, hs, CallState.isTerminal],
      _, rfl⟩⟩
  case ready id host =>
    obtain ⟨way, live, message⟩ := connect_directed c call id host (s.emit (.acquired call.pool (.ready id host)))
    rw [start_of_ready ha]
    exact ⟨(acquired way).1, _, (acquired way).2, fun _ => ⟨live, message⟩⟩
  case failed reason host? =>
    let s' := s.emit (.acquired call.pool (.failed reason host?))
    have way : s'.Directed (call.failToConnect reason host? s').2 [] :=
      ⟨_, fail_transcript, by simp⟩
    rw [start_of_failed ha]
    exact ⟨(acquired way).1, _, (acquired way).2, fun h => absurd rfl (h reason host?)⟩

end Call

namespace Router

-- Why a message does not come to a pool, with what is asked and counted after the draw, and what the caller is told.
inductive Refusal (message : Message) : Option Destination → List Effect → Exception → Prop
  | unrouted : Refusal message none [.counted .routeMissing none]
    (.unknownMethod ("no route for method '" ++ message.method ++ "'"))
  | unknown (route : Destination) : Refusal message (some route)
    [.lookedUp route.cluster none, .counted .unknownCluster none]
    (.internalError ("unknown cluster '" ++ route.cluster ++ "'"))
  | maintained (route : Destination) (cluster : Cluster) (closed : cluster.maintenance) :
    Refusal message (some route)
      [.lookedUp route.cluster (some cluster), .counted (requestCounter message.kind?) (some route.cluster),
        .counted .maintenanceMode none]
      (.internalError ("maintenance mode for cluster '" ++ route.cluster ++ "'"))
  | unhealthy (route : Destination) (cluster : Cluster) (opened : cluster.maintenance = false) :
    Refusal message (some route)
      [.lookedUp route.cluster (some cluster), .counted (requestCounter message.kind?) (some route.cluster),
        .askedForPool (route.request message) none, .counted .noHealthyHost none]
      (.internalError ("no healthy upstream for '" ++ route.cluster ++ "'"))

-- The router without a call, with the route of a message.
def cleared (r : Router) (route? : Option Destination) (passthrough : Bool) : Router :=
  { r with route?, passthrough, call? := none }

-- What becomes of a message for which there is this route.
inductive Directs (r : Router) (message : Message) (n : Nat) (route? : Option Destination) (s : Shared)
    (x : Router × Shared) : Prop
  | refused (refusal : Refusal message route? way e) (directed : s.Directed x.2 (.drew n :: way))
      (told : .replied r.id e true ∈ s.since x.2) (left : ∃ passthrough, x.1 = r.cleared route? passthrough)
  | launched (cluster : Cluster) (opened : cluster.maintenance = false) (route : Destination)
      (routed : route? = some route) (pool : PoolId) (answer : Acquisition)
      (directed : s.Directed x.2 [.drew n, .lookedUp route.cluster (some cluster),
        .counted (requestCounter message.kind?) (some route.cluster),
        .askedForPool (route.request message) (some pool)])
      (acquired : .acquired pool answer ∈ s.since x.2)
      (kept : ∃ passthrough call, x.1 = (r.cleared route? passthrough).keep call)
      (sent : (∀ reason host?, answer ≠ .failed reason host?) →
        ∃ call n, x.1.call? = some call ∧ call.message = { route.outgoing message with sequenceId := n })

variable {r : Router} {message : Message} {n : Nat} {route? : Option Destination} {route : Destination}
  {s s' : Shared} {way : List Effect} {e : Exception} {es : List Effect}

@[simp]
theorem routings_discardEffects : routings r.discardEffects = [] := by
  cases hc : r.call? <;> simp [discardEffects, hc]

theorem reply_directs (p : Bool) (refusal : Refusal message route? way e) (directed : s.Directed s' (.drew n :: way)) :
    r.Directs message n route? s (r.cleared route? p, (r.cleared route? p).reply e s') := by
  have told : s'.Directed ((r.cleared route? p).reply e s') [] := ⟨[_], rfl, rfl⟩
  refine .refused refusal (by simpa using directed.trans told) (directed.mem_since told ?_) ⟨p, rfl⟩
  rw [Shared.since_eq rfl]
  exact List.mem_cons_self

theorem launch_directs (c : Surroundings) (p : Bool) (leg : Leg) (pool : PoolId) (cluster : Cluster)
    (opened : cluster.maintenance = false)
    (directed : s.Directed s' [.drew n, .lookedUp route.cluster (some cluster),
      .counted (requestCounter message.kind?) (some route.cluster),
      .askedForPool (route.request message) (some pool)]) :
    r.Directs message n (some route) s ((r.cleared (some route) p).launch c route leg pool message s').2 := by
  let call : Call := { router := r.id, cluster := route.cluster, pool, leg, message := route.outgoing message }
  let made := s'.emit (.madeCodec r.id leg)
  have begun : s.Directed made _ := directed.pass rfl
  obtain ⟨started, answer, acquired, sent⟩ := call.start_directed c made rfl
  refine .launched cluster opened route rfl pool answer (begun.trans started) (begun.mem_since started acquired)
    ⟨p, (call.start c made).2.1, rfl⟩ fun h => ?_
  obtain ⟨live, n, hm⟩ := sent h
  have kept : ((r.cleared (some route) p).keep (call.start c made).2.1).call? = some (call.start c made).2.1 := by
    simp [keep, live]
  exact ⟨_, n, kept, hm⟩

theorem balance_directs (c : Surroundings) (cluster : Cluster) (opened : cluster.maintenance = false)
    (directed : s.Directed s' [.drew n, .lookedUp route.cluster (some cluster),
      .counted (requestCounter message.kind?) (some route.cluster)]) :
    r.Directs message n (some route) s ((r.cleared (some route) false).balance c route cluster message s').2 := by
  have asked (pool? : Option PoolId) := directed.add (.askedForPool (route.request message) pool?) rfl
  unfold balance
  dsimp only
  cases c.pool? s'.transcript ⟨route.cluster, .default, route.criteria, message.headers⟩
  case none      =>
    exact reply_directs _ (.unhealthy route cluster opened) ((asked none).add (.counted .noHealthyHost none) rfl)
  case some pool => exact launch_directs c _ _ pool cluster opened (asked (some pool))

theorem forward_directs (c : Surroundings) (directed : s.Directed s' [.drew n]) :
    r.Directs message n (some route) s ((r.cleared none false).forward c route message s').2 := by
  have looked (cluster? : Option Cluster) := directed.add (.lookedUp route.cluster cluster?) rfl
  unfold forward
  dsimp only
  cases c.cluster? s'.transcript route.cluster
  case none         =>
    exact reply_directs false (.unknown route) ((looked none).add (.counted .unknownCluster none) rfl)
  case some cluster =>
    have counted := (looked (some cluster)).add (.counted (requestCounter message.kind?) (some route.cluster)) rfl
    dsimp only
    cases hm : cluster.maintenance
    case true  =>
      exact reply_directs false (.maintained route cluster hm) (counted.add (.counted .maintenanceMode none) rfl)
    case false => exact balance_directs c cluster hm counted

-- The route is that of the router's own table, and a call that was under way makes no difference.
theorem beginMessage_directs (c : Surroundings) (r : Router) (message : Message) (s : Shared) :
    let n := c.random (r.discard s).transcript
    r.Directs message n (r.table.route? message n) s (r.beginMessage c message s).2 := by
  have discarded : s.Directed (r.discard s) [] := ⟨_, discard_transcript, routings_discardEffects⟩
  have drawn := discarded.add (.drew (c.random (r.discard s).transcript)) rfl
  unfold beginMessage
  dsimp only
  cases r.table.route? message (c.random (r.discard s).transcript)
  case none       => exact reply_directs false .unrouted (drawn.add (.counted .routeMissing none) rfl)
  case some route => exact forward_directs c drawn

namespace Directs

variable {x : Router × Shared} {request : PoolRequest} {pool? : Option PoolId} {pool : PoolId}

-- Each way that a message can take tells its route.
theorem exists_way (h : r.Directs message n route? s x) : ∃ way, s.Directed x.2 way ∧
    way.filterMap (·.drew?) = [n] ∧ way.filterMap (·.lookedUp?) = (route?.map (·.cluster)).toList ∧
    (.counted .routeMissing none ∈ way ↔ route? = none) := by
  cases h
  case refused refusal directed _ _ =>
    refine ⟨_, directed, ?_⟩
    cases refusal <;> simp [Effect.lookedUp?, Effect.drew?]
  case launched routed _ _ directed _ _ _ =>
    refine ⟨_, directed, ?_⟩
    simp [Effect.lookedUp?, Effect.drew?, routed]

-- The router stays the same, apart from the route that it notes and the call that it has.
theorem exists_cleared (h : r.Directs message n route? s x) :
    ∃ passthrough call?, x.1 = { r.cleared route? passthrough with call? } := by
  cases h
  case refused left      =>
    obtain ⟨p, hx⟩ := left
    exact ⟨p, none, hx⟩
  case launched kept _ =>
    obtain ⟨p, call, hx⟩ := kept
    exact ⟨p, _, hx⟩

theorem draws (h : r.Directs message n route? s x) : (s.since x.2).filterMap (·.drew?) = [n] := by
  obtain ⟨way, directed, draws, _⟩ := h.exists_way
  rw [← draws, ← directed.since,
    filterMap_of_filter fun e he => by cases e <;> simp_all [Effect.drew?]]

theorem lookups (h : r.Directs message n route? s x) :
    (s.since x.2).filterMap (·.lookedUp?) = (route?.map (·.cluster)).toList := by
  obtain ⟨way, directed, _, lookups, _⟩ := h.exists_way
  rw [← lookups, ← directed.since,
    filterMap_of_filter fun e he => by cases e <;> simp_all [Effect.lookedUp?]]

theorem missing_iff (h : r.Directs message n route? s x) :
    .counted .routeMissing none ∈ s.since x.2 ↔ route? = none := by
  obtain ⟨way, directed, _, _, missing⟩ := h.exists_way
  rw [directed.mem_since_iff rfl, missing]

theorem replied_of_unrouted (h : r.Directs message n none s x) :
    .replied r.id (.unknownMethod ("no route for method '" ++ message.method ++ "'")) true ∈ s.since x.2 := by
  cases h
  case refused refusal _ told _     => cases refusal; exact told
  case launched routed _ _ _ _ _ _  => simp at routed

-- A cluster that takes calls is known by what the load balancer is told.
theorem exists_asked {name : String} {cluster : Cluster} (h : r.Directs message n route? s x)
    (known : .lookedUp name (some cluster) ∈ s.since x.2) (opened : cluster.maintenance = false) :
    ∃ route, route? = some route ∧ ∃ pool?, .askedForPool (route.request message) pool? ∈ s.since x.2 := by
  cases h
  case refused refusal directed _ _ =>
    rw [directed.mem_since_iff rfl] at known
    cases refusal
    case unhealthy =>
      refine ⟨_, rfl, none, (directed.mem_since_iff rfl).mpr ?_⟩
      simp
    all_goals simp_all
  case launched route routed pool _ directed _ _ _ =>
    exact ⟨route, routed, some pool, (directed.mem_since_iff rfl).mpr (by simp)⟩

theorem asked (h : r.Directs message n route? s x) (hr : .askedForPool request pool? ∈ s.since x.2) :
    ∃ route, route? = some route ∧ request = route.request message := by
  cases h
  case refused refusal directed _ _ =>
    rw [directed.mem_since_iff rfl] at hr
    cases refusal <;> simp_all
  case launched route routed pool _ directed _ _ _ =>
    rw [directed.mem_since_iff rfl] at hr
    exact ⟨route, routed, by simp_all⟩

theorem sent (h : r.Directs message n route? s x) (hr : .askedForPool request (some pool) ∈ s.since x.2) :
    ∃ route, route? = some route ∧ ∃ answer, .acquired pool answer ∈ s.since x.2 ∧
      ((∀ reason host?, answer ≠ .failed reason host?) →
        ∃ call n, x.1.call? = some call ∧ call.message = { route.outgoing message with sequenceId := n }) := by
  cases h
  case refused refusal directed _ _ =>
    rw [directed.mem_since_iff rfl] at hr
    cases refusal <;> simp at hr
  case launched route routed pool' answer directed acquired _ sent =>
    rw [directed.mem_since_iff rfl] at hr
    obtain rfl : pool = pool' := by simp_all
    exact ⟨route, routed, answer, acquired, sent⟩

end Directs

end Router

end RpcProxy
