import RpcProxy.Proofs.Call.Coherence
import RpcProxy.Proofs.Router.Run

namespace RpcProxy

-- Something that a router is told during a call, or that is done meanwhile.
inductive Incident
  | told (event : RouterEvent)
  | did (effect : Effect)

-- What a call begins with.
structure Origin where
  message : Message
  route   : Destination
  -- The leg between the proxy and the cluster.
  leg     : Leg
  pool    : PoolId
  -- Whether the body is copied as it is.
  passthrough : Bool

namespace Origin

-- The message for the cluster, as long as it has no sequence id.
def sent (o : Origin) : Message :=
  if o.route.stripService then o.message.stripService.1 else o.message

def call (o : Origin) (id : RouterId) : Call where
  router  := id
  cluster := o.route.cluster
  pool    := o.pool
  leg     := o.leg
  message := o.sent

-- The call after its pool was asked for a connection, in the state in which the pool is chosen.
def begin (o : Origin) (c : Surroundings) (id : RouterId) (s : Shared) : Call × Shared :=
  ((o.call id).start c (s.emit (.madeCodec id o.leg))).2

theorem begin_transcript (o : Origin) (c : Surroundings) (id : RouterId) (s : Shared) :
    ∃ es, (o.begin c id s).2.transcript = s.transcript ++ .madeCodec id o.leg :: es := by
  have h : (o.call id).Conduct (s.emit (.madeCodec id o.leg)) (o.begin c id s) := Call.start_conduct c _ rfl rfl rfl
  have ⟨es, ht⟩ := h.transcript
  exact ⟨es, by simp [ht]⟩

end Origin

-- An event that a call takes, with the progress of the decoder and what becomes of the call. The decoder waits for
-- a connection, a pool answers a call that has none, and a connection tells the call that holds it.
inductive Call.Takes (c : Surroundings) (passthrough : Bool) (call : Call) (s : Shared) :
    Phase → RouterEvent → Phase → Call × Shared → Prop
  | transportBegin (ready : call.isPaused = false) :
    Takes c passthrough call s phase .transportBegin phase (call, s)
  | messageBody (ready : call.isPaused = false) :
    Takes c passthrough call s .body (.messageBody body) .body (call.writeBody c body passthrough s)
  | messageEnd (ready : call.isPaused = false) :
    Takes c passthrough call s .body .messageEnd .ended (call.endRequest c s)
  | transportEnd (ready : call.isPaused = false) (twoway : call.message.isOneway = false) :
    Takes c passthrough call s .ended .transportEnd .between (call, s)
  | finish (ready : call.isPaused = false) (oneway : call.message.isOneway) :
    Takes c passthrough call s .ended .transportEnd .between (call.finish s)
  | poolReady (pending : call.pending) :
    Takes c passthrough call s phase (.poolReady connection host) phase (call.connect c connection host s)
  | poolFailure {host? : Option Host} (pending : call.pending) :
    Takes c passthrough call s phase (.poolFailure reason host?) phase (call.failToConnect reason host? s)
  | clusterData (connected : call.connection?.isSome) :
    Takes c passthrough call s phase (.clusterData data endStream) phase (call.receive c data endStream s).2
  | remoteClose (connected : call.connection?.isSome) :
    Takes c passthrough call s phase .remoteClose phase (call.lose .remoteClose s)
  | localClose (connected : call.connection?.isSome) :
    Takes c passthrough call s phase .localClose phase (call.lose .localClose s)

-- A call with the log of all that has happened since its message began. Between any two events the other routers may
-- have changed what is shared in any way.
inductive Life (c : Surroundings) (id : RouterId) (o : Origin) : Phase → List Incident → Call → Prop
  | begins (s : Shared) (routing : List Effect) (routed : ∀ e ∈ routing, e.isRouting) :
    Life c id o .body (.told (.messageBegin o.message) :: (routing ++ s.since (o.begin c id s).2).map .did)
      (o.begin c id s).1
  | takes (life : Life c id o phase log call) (live : call.isTerminal = false)
      (takes : call.Takes c o.passthrough s phase event phase' y) :
    Life c id o phase' (log ++ .told event :: (s.since y.2).map .did) y.1

namespace Router

-- What a legal callback comes to.
inductive Moves (c : Surroundings) (r : Router) (s : Shared) (phase : Phase) :
    Callback → Phase → Router × Shared → Prop
  | answers (r' : Router) (e : Exception) (s' : Shared) (es : List Effect)
      (routed : ((r.discard s).emit (.drew (c.random (r.discard s).transcript))).Routed s' es)
      (named : r'.id = r.id) (idle : r'.call? = none) :
    Moves c r s phase (.event (.messageBegin message)) .body (r', r'.reply e s')
  | launches (r' : Router) (o : Origin) (s' : Shared) (es : List Effect)
      (routed : ((r.discard s).emit (.drew (c.random (r.discard s).transcript))).Routed s' es)
      (target : r'.route? = some o.route) (verbatim : r'.passthrough = o.passthrough) :
    Moves c r s phase (.event (.messageBegin o.message)) .body
      (r'.keep (o.begin c r.id s').1, (o.begin c r.id s').2)
  | takes (hc : r.call? = some call) (h : call.Takes c r.passthrough s phase event phase' y) :
    Moves c r s phase (.event event) phase' (r.keep y.1, y.2)
  | idles (hc : r.call? = none) (hd : event.isDecode) (he : ∀ message, event ≠ .messageBegin message) :
    Moves c r s phase (.event event) phase' (r, s)
  | destroys : Moves c r s phase .destroy .between (r.destroy s)

variable {c : Surroundings} {r : Router} {call : Call} {s : Shared} {id : RouterId}

theorem keep_of_call (hc : r.call? = some call) (hl : call.isTerminal = false) : r.keep call = r := by
  simp [keep, hl, ← hc]

theorem beginMessage_moves (c : Surroundings) (r : Router) (message : Message) (s : Shared) (phase : Phase) :
    Moves c r s phase (.event (.messageBegin message)) .body (r.beginMessage c message s).2 := by
  have he : (r.beginMessage c message s).2 = (r.beginMessage (c.withPools c.acquire) message s).2 := rfl
  rw [he]
  cases beginMessage_reaches c r message s
  case answer r' e s' es routed named idle hx =>
    rw [hx]
    exact .answers r' e s' es routed named idle
  case pool r' route leg pool s' es routed named target hx =>
    let o : Origin := { message, route, leg, pool, passthrough := r'.passthrough }
    have ho : (r'.launch (c.withPools c.acquire) route leg pool message s').2 =
        (r'.keep (o.begin c r'.id s').1, (o.begin c r'.id s').2) := rfl
    rw [hx, ho, named]
    exact .launches r' o s' es routed target rfl

-- An event that a call takes without being changed.
theorem Moves.of_unchanged (h : r.Serves id) (hc : r.call? = some call)
    (ht : call.Takes c r.passthrough s phase event phase' (call, s)) :
    Moves c r s phase (.event event) phase' (r, s) := by
  have hm : Moves c r s phase (.event event) phase' (r.keep call, s) := .takes hc ht
  rwa [keep_of_call hc (h.live hc)] at hm

theorem decode_moves_of_call (h : r.Serves id) (hc : r.call? = some call) (ready : r.isPaused = false)
    (order : phase.next? event = some phase') :
    Moves c r s phase (.event event) phase' (r.apply c event s).2 := by
  have ready : call.isPaused = false := isPaused_of_call hc ▸ ready
  cases event <;> simp only [Phase.next?, reduceCtorEq] at order
  case transportBegin =>
    obtain rfl := Option.some.inj order
    exact .of_unchanged h hc (.transportBegin ready)
  case messageBegin message =>
    obtain rfl := Option.some.inj order
    exact beginMessage_moves c r message s phase
  case messageBody body =>
    cases phase <;> simp only [reduceCtorEq, Option.some.injEq] at order
    subst order
    simpa only [apply, withCall_of_call hc] using .takes hc (.messageBody ready)
  case messageEnd =>
    cases phase <;> simp only [reduceCtorEq, Option.some.injEq] at order
    subst order
    simpa only [apply, withCall_of_call hc] using .takes hc (.messageEnd ready)
  case transportEnd =>
    cases phase <;> simp only [reduceCtorEq, Option.some.injEq] at order
    subst order
    cases ho : call.message.isOneway
    case false =>
      have hn : ∀ call, r.call? = some call → call.message.isOneway = false := by simp [hc, ho]
      simpa only [apply, endTransport_of_other hn] using .of_unchanged h hc (.transportEnd ready ho)
    case true  =>
      have hk : r.keep (call.finish s).1 = { r with call? := none } := by simp [keep, Call.finish_isTerminal]
      simpa only [apply, endTransport_of_oneway hc ho, ← hk] using .takes hc (.finish ready ho)

theorem decode_moves_of_none (hc : r.call? = none) (order : phase.next? event = some phase') :
    Moves c r s phase (.event event) phase' (r.apply c event s).2 := by
  cases event <;> simp only [Phase.next?, reduceCtorEq] at order
  case messageBegin message =>
    obtain rfl := Option.some.inj order
    exact beginMessage_moves c r message s phase
  case transportBegin => exact .idles hc rfl (by simp)
  case messageBody    => simpa only [apply, withCall_of_none hc] using .idles hc rfl (by simp)
  case messageEnd     => simpa only [apply, withCall_of_none hc] using .idles hc rfl (by simp)
  case transportEnd   => simpa only [apply, endTransport, hc] using .idles hc rfl (by simp)

-- A legal callback begins a call, is taken by the call under way, or ends it.
theorem moves (h : r.Serves id) (hl : Legal r phase callback phase') :
    Moves c r s phase callback phase' (r.handle c callback s) := by
  cases hl
  case decode event ready order =>
    cases hc : r.call?
    case none      => exact decode_moves_of_none hc order
    case some call => exact decode_moves_of_call h hc ready order
  case poolReady hp =>
    obtain ⟨call, hc, hp⟩ := exists_of_isPending hp
    simpa only [handle, apply, poolReady_of_call hc] using .takes hc (.poolReady hp)
  case poolFailure hp =>
    obtain ⟨call, hc, hp⟩ := exists_of_isPending hp
    simpa only [handle, apply, withCall_of_call hc] using .takes hc (.poolFailure hp)
  case clusterData hi =>
    obtain ⟨call, hc, hi⟩ := exists_of_isConnected hi
    simpa only [handle, apply, receive_of_call hc] using .takes hc (.clusterData hi)
  case remoteClose hi =>
    obtain ⟨call, hc, hi⟩ := exists_of_isConnected hi
    simpa only [handle, apply, withCall_of_call hc] using .takes hc (.remoteClose hi)
  case localClose hi =>
    obtain ⟨call, hc, hi⟩ := exists_of_isConnected hi
    simpa only [handle, apply, withCall_of_call hc] using .takes hc (.localClose hi)
  case destroy => exact .destroys

end Router

end RpcProxy
