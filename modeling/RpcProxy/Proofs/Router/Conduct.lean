import RpcProxy.Router
import RpcProxy.Proofs.Call.Conduct

namespace RpcProxy

-- The codec of a call is made when the call is created.
abbrev Effect.isCreation : Effect → Bool
  | madeCodec .. => true
  | _            => false

-- Chance is asked once for a message, before anything else is done for it.
abbrev Effect.isDraw : Effect → Bool
  | drew _ => true
  | _      => false

-- What is done for a message on its way to a pool.
abbrev Effect.isRouting : Effect → Bool
  | drew _          => true
  | lookedUp ..     => true
  | counted ..      => true
  | askedForPool .. => true
  | _               => false

def creates (es : List Effect) : Bool :=
  es.any (·.isCreation)

section

variable {e : Effect} {es es' : List Effect}

@[simp]
theorem creates_cons : creates (e :: es) = (e.isCreation || creates es) :=
  rfl

@[simp]
theorem creates_append : creates (es ++ es') = (creates es || creates es') :=
  List.any_append

-- Effects of other kinds do not occur on the way.
theorem filter_of_routing {p : Effect → Bool} (hp : ∀ e, e.isRouting → p e = false) (h : ∀ e ∈ es, e.isRouting) :
    es.filter p = [] :=
  List.filter_eq_nil_iff.mpr fun e he => by simp [hp e (h e he)]

theorem aside_of_routing (h : ∀ e ∈ es, e.isRouting) : Aside es where
  silent := filter_of_routing (fun e => by cases e <;> simp) h
  unread := filter_of_routing (fun e => by cases e <;> simp) h

theorem creates_of_routing (h : ∀ e ∈ es, e.isRouting) : creates es = false := by
  refine List.any_eq_false.mpr fun e he => ?_
  cases e <;> first | exact Bool.false_ne_true | cases h _ he

end

-- A later state, up to which a message has only been on its way to a pool.
structure Shared.Routed (s s' : Shared) (es : List Effect) : Prop where
  connections : s'.connections = s.connections
  transcript  : s'.transcript = s.transcript ++ es
  routing     : ∀ e ∈ es, e.isRouting

namespace Shared.Routed

variable {s s' : Shared} {e : Effect} {es : List Effect}

theorem refl (s : Shared) : s.Routed s [] where
  connections := rfl
  transcript  := (List.append_nil _).symm
  routing     := List.forall_mem_nil _

theorem cons (h : (s.emit e).Routed s' es) (he : e.isRouting) : s.Routed s' (e :: es) where
  connections := h.connections
  transcript  := by simp [h.transcript]
  routing     := List.forall_mem_cons.mpr ⟨he, h.routing⟩

end Shared.Routed

-- The same surroundings with other pools.
def Surroundings.withPools (c : Surroundings) (acquire : Transcript → PoolId → Acquisition) : Surroundings :=
  { c with acquire }

namespace Router

variable {c : Surroundings} {r : Router} {call : Call} {s : Shared} {message : Message}
  {id : RouterId} {x : Router × Shared}

-- The event reaches the call, which the router keeps unless it has ended.
def Drives (r : Router) (call : Call) (s : Shared) (x : Router × Shared) : Prop :=
  ∃ y, call.Conduct s y ∧ x = (r.keep y.1, y.2)

theorem isPaused_of_call (h : r.call? = some call) : r.isPaused = call.isPaused := by
  simp [isPaused, h]

theorem withCall_of_call {f : Call → Shared → Call × Shared} (h : r.call? = some call) :
    r.withCall f s = (r.keep (f call s).1, (f call s).2) := by
  simp [withCall, h]

theorem withCall_of_none {f : Call → Shared → Call × Shared} (h : r.call? = none) :
    r.withCall f s = (r, s) := by
  simp [withCall, h]

theorem poolReady_of_call {connection : ConnectionId} {host : Host} (h : r.call? = some call) :
    r.poolReady c connection host s =
      (r.keep (call.connect c connection host s).1, (call.connect c connection host s).2) := by
  simp [poolReady, h]

theorem receive_of_call {data : Bytes} {endStream : Bool} (h : r.call? = some call) :
    (r.receive c data endStream s).2 =
      (r.keep (call.receive c data endStream s).2.1, (call.receive c data endStream s).2.2) := by
  simp [receive, h]

theorem withCall_drives (f : Call → Shared → Call × Shared) (h : r.call? = some call)
    (hc : call.Conduct s (f call s)) : r.Drives call s (r.withCall f s) :=
  ⟨_, hc, withCall_of_call h⟩

theorem poolReady_drives {connection : ConnectionId} {host : Host} (h : r.call? = some call) :
    r.Drives call s (r.poolReady c connection host s) :=
  ⟨_, call.connect_conduct c connection host s, poolReady_of_call h⟩

theorem receive_drives {data : Bytes} {endStream : Bool} (h : r.call? = some call)
    (hl : call.isTerminal = false) (hp : call.pending = false) :
    r.Drives call s (r.receive c data endStream s).2 :=
  ⟨_, Call.receive_conduct c data endStream s hl hp, receive_of_call h⟩

theorem endTransport_of_oneway (h : r.call? = some call) (ho : call.message.isOneway) :
    r.endTransport s = ({ r with call? := none }, (call.finish s).2) := by
  simp [endTransport, h, ho]

theorem endTransport_of_other (h : ∀ call, r.call? = some call → call.message.isOneway = false) :
    r.endTransport s = (r, s) := by
  cases hc : r.call? <;> simp only [endTransport, hc]
  case some call => simp [h call hc]

-- What becomes of a message as far as no pool has a say in it. Either the router answers it, or a pool is asked for
-- a connection.
inductive Reaches (c : Surroundings) (id : RouterId) (message : Message) (s : Shared)
    (begun : (Transcript → PoolId → Acquisition) → Router × Shared) : Prop
  | answer (r : Router) (e : Exception) (s' : Shared) (es : List Effect) (routed : s.Routed s' es)
      (named : r.id = id) (idle : r.call? = none) (hx : ∀ acquire, begun acquire = (r, r.reply e s'))
  | pool (r : Router) (route : Destination) (leg : Leg) (pool : PoolId) (s' : Shared) (es : List Effect)
      (routed : s.Routed s' es) (named : r.id = id) (target : r.route? = some route)
      (hx : ∀ acquire, begun acquire = (r.launch (c.withPools acquire) route leg pool message s').2)

theorem Reaches.emit {e : Effect} {begun : (Transcript → PoolId → Acquisition) → Router × Shared}
    (h : Reaches c id message (s.emit e) begun) (he : e.isRouting) : Reaches c id message s begun := by
  cases h
  case answer r e' s' es routed named idle hx => exact .answer r e' s' (e :: es) (routed.cons he) named idle hx
  case pool r route leg pool s' es routed named target hx =>
    exact .pool r route leg pool s' (e :: es) (routed.cons he) named target hx

theorem reply_reaches {e : Exception} (hc : r.call? = none) (hi : r.id = id) :
    Reaches c id message s fun _ => (r, r.reply e s) :=
  .answer r e s [] (.refl s) hi hc fun _ => rfl

theorem balance_reaches (c : Surroundings) (route : Destination) (cluster : Cluster) (message : Message)
    (s : Shared) (hc : r.call? = none) (hr : r.route? = some route) :
    Reaches c r.id message s fun acquire =>
      (r.balance (c.withPools acquire) route cluster message s).2 := by
  unfold balance
  simp only [Surroundings.withPools]
  let request : PoolRequest := ⟨route.cluster, .default, route.criteria, message.headers⟩
  cases c.pool? s.transcript request
  case none      => exact .emit (.emit (reply_reaches hc rfl) rfl) rfl
  case some pool =>
    have routed : s.Routed (s.emit (.askedForPool request (some pool))) _ := .cons (.refl _) rfl
    refine .pool _ route _ pool _ _ routed ?_ ?_ fun _ => rfl
    · rfl
    · exact hr

theorem forward_reaches (c : Surroundings) (route : Destination) (message : Message) (s : Shared)
    (hc : r.call? = none) :
    Reaches c r.id message s fun acquire => (r.forward (c.withPools acquire) route message s).2 := by
  unfold forward
  simp only [Surroundings.withPools]
  cases c.cluster? s.transcript route.cluster
  case none         => exact .emit (.emit (reply_reaches hc rfl) rfl) rfl
  case some cluster =>
    dsimp only
    cases cluster.maintenance
    case true  => exact .emit (.emit (.emit (reply_reaches hc rfl) rfl) rfl) rfl
    case false =>
      have h := balance_reaches c (r := { r with route? := some route }) route cluster message
        ((s.emit (.lookedUp route.cluster (some cluster))).emit
          (.counted (requestCounter message.kind?) (some route.cluster))) hc rfl
      exact .emit (.emit h rfl) rfl

theorem beginMessage_reaches (c : Surroundings) (r : Router) (message : Message) (s : Shared) :
    Reaches c r.id message ((r.discard s).emit (.drew (c.random (r.discard s).transcript))) fun acquire =>
      (r.beginMessage (c.withPools acquire) message s).2 := by
  unfold beginMessage
  simp only [Surroundings.withPools]
  have hc : { r with route? := none, passthrough := false, call? := none }.call? = none := rfl
  cases r.table.route? message (c.random (r.discard s).transcript)
  case none       => exact .emit (reply_reaches hc rfl) rfl
  case some route => exact forward_reaches c route message _ hc

-- What becomes of a message. Either the router answers it, or there is a call, which may have failed already.
inductive Begins (id : RouterId) (message : Message) (s : Shared) (x : Router × Shared) : Prop
  | refused (named : x.1.id = id) (es : List Effect) (ht : x.2.transcript = s.transcript ++ es)
      (idle : x.1.call? = none) (uncreated : creates es = false)
      (answer : ∃ e, notices es = [.replied id e true])
  | created (r : Router) (named : r.id = id) (call : Call) (y : Call × Shared) (h : call.Conduct s y)
      (hx : x = (r.keep y.1, y.2))
      (router : call.router = id) (kind : call.message.kind? = message.kind?)
      (unread : call.responseStarted = false) (created : creates (s.since y.2))

theorem Begins.transcript (h : Begins id message s x) : ∃ es, x.2.transcript = s.transcript ++ es := by
  cases h
  case refused es ht _ _ _               => exact ⟨es, ht⟩
  case created _ _ _ y h hx _ _ _ _ => exact hx ▸ h.transcript

-- What is done on the way to a pool concerns neither the answer nor a call.
theorem Begins.after {s' : Shared} {es : List Effect} (h : Begins id message s' x)
    (routed : s.Routed s' es) : Begins id message s x := by
  have ha := aside_of_routing routed.routing
  have hc := creates_of_routing routed.routing
  cases h
  case refused named es' ht idle uncreated answer =>
    have ht : x.2.transcript = s.transcript ++ (es ++ es') := by simp [ht, routed.transcript]
    exact .refused named (es ++ es') ht idle (by simp [hc, uncreated]) (by simpa [ha.silent] using answer)
  case created r named call y h hx router kind unread created =>
    have ⟨es', ht⟩ := h.transcript
    have hs : s.since y.2 = es ++ es' := Shared.since_eq (by simp [ht, routed.transcript])
    refine .created r named call y (h.after_aside routed.transcript ha ⟨rfl, rfl, rfl⟩) hx router kind
      unread ?_
    simpa [hs, hc, Shared.since_eq ht] using created

theorem reply_begins {e : Exception} (hc : r.call? = none) (hi : r.id = id) :
    Begins id message s (r, r.reply e s) :=
  .refused hi _ rfl hc rfl ⟨e, hi ▸ rfl⟩

theorem stripService_kind? : message.stripService.1.kind? = message.kind? := by
  unfold Message.stripService
  split <;> rfl

theorem launch_begins (c : Surroundings) (route : Destination) (leg : Leg) (pool : PoolId)
    (message : Message) (s : Shared) (hi : r.id = id) :
    Begins id message s (r.launch c route leg pool message s).2 := by
  let call : Call := {
    router := r.id, cluster := route.cluster, pool, leg,
    message := if route.stripService then message.stripService.1 else message }
  have h : call.Conduct (s.emit (.madeCodec r.id leg)) (call.start c (s.emit (.madeCodec r.id leg))).2 :=
    Call.start_conduct c _ rfl rfl rfl
  have ⟨es, ht⟩ := h.transcript
  have hs : s.since (call.start c (s.emit (.madeCodec r.id leg))).2.2 = .madeCodec r.id leg :: es :=
    Shared.since_eq (by simp [ht])
  refine .created r hi call _ (h.after_aside rfl ?_ ⟨rfl, rfl, rfl⟩) rfl hi ?_ rfl (by rw [hs]; rfl)
  · exact ⟨rfl, rfl⟩
  · show (if _ then _ else _ : Message).kind? = _
    split
    · exact stripService_kind?
    · rfl

-- The effects of abandoning the call under way.
def discardEffects (r : Router) : List Effect :=
  match r.call? with
  | some call => call.releaseEffects true
  | none      => []

@[simp]
theorem discard_transcript : (r.discard s).transcript = s.transcript ++ r.discardEffects := by
  cases hc : r.call? <;> simp [discard, discardEffects, hc]

theorem beginMessage_begins (c : Surroundings) (r : Router) (message : Message) (s : Shared) :
    Begins r.id message ((r.discard s).emit (.drew (c.random (r.discard s).transcript)))
      (r.beginMessage c message s).2 := by
  have he : (r.beginMessage c message s).2 = (r.beginMessage (c.withPools c.acquire) message s).2 := rfl
  rw [he]
  cases beginMessage_reaches c r message s
  case answer r' e s' es routed named idle hx =>
    rw [hx]
    exact (reply_begins idle named).after routed
  case pool r' route leg pool s' es routed named _ hx =>
    rw [hx]
    exact (launch_begins _ route leg pool message s' named).after routed

end Router

end RpcProxy
