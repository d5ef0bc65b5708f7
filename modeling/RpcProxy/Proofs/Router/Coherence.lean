import RpcProxy.Proofs.Call.Coherence
import RpcProxy.Proofs.Router.Run

namespace RpcProxy

-- A callback in the state in which it finds what the routers share.
structure Encounter where
  callback : Callback
  shared   : Shared

namespace Router

-- A call under way is in order, and the route that the router keeps leads to the cluster of the call.
def Coherent (r : Router) : Prop :=
  ∀ call, r.call? = some call → call.Coherent ∧ ∃ route, r.route? = some route ∧ route.cluster = call.cluster

def handleAll (c : Surroundings) (r : Router) : List Encounter → Router
  | []      => r
  | x :: xs => handleAll c (r.handle c x.callback x.shared).1 xs

variable {c : Surroundings} {r : Router} {call call' : Call} {s : Shared} {event : RouterEvent}

theorem Coherent.of_idle (h : r.call? = none) : r.Coherent := by
  simp [Coherent, h]

-- A router that keeps a call as an operation leaves it.
theorem Coherent.of_keep (hr : ∃ route, r.route? = some route ∧ route.cluster = call.cluster)
    (h : call.Leaves call') : (r.keep call').Coherent := by
  intro call'' hk
  cases hl : call'.isTerminal <;> simp only [keep_call?, hl, if_true, Bool.false_eq_true, if_false, reduceCtorEq,
    Option.some.injEq] at hk
  case false =>
    have ⟨hc, hn⟩ := h hl
    have ⟨route, hr, he⟩ := hr
    exact ⟨hk ▸ hc, route, hr, hk ▸ he.trans hn.symm⟩

theorem Coherent.keep (h : r.Coherent) (hc : r.call? = some call) (hl : call.Leaves call') :
    (r.keep call').Coherent :=
  .of_keep (h call hc).2 hl

theorem Coherent.withCall {f : Call → Shared → Call × Shared} (h : r.Coherent)
    (hf : ∀ call : Call, call.Coherent → call.Leaves (f call s).1) : (r.withCall f s).1.Coherent := by
  cases hc : r.call?
  case none      => exact withCall_of_none hc ▸ h
  case some call => exact withCall_of_call hc ▸ h.keep hc (hf call (h call hc).1)

theorem beginMessage_coherent (c : Surroundings) (r : Router) (message : Message) (s : Shared) :
    (r.beginMessage c message s).2.1.Coherent := by
  have he : (r.beginMessage c message s).2 = (r.beginMessage (c.withPools c.acquire) message s).2 := rfl
  rw [he]
  cases beginMessage_reaches c r message s
  case answer r' e s' es routed named idle hx =>
    rw [hx]
    exact .of_idle idle
  case pool r' route leg pool s' es routed named target hx =>
    rw [hx]
    exact .of_keep ⟨route, target, rfl⟩ (Call.start_leaves _ _ rfl rfl rfl rfl rfl rfl)

theorem endTransport_coherent (s : Shared) (h : r.Coherent) : (r.endTransport s).1.Coherent := by
  by_cases ho : ∃ call, r.call? = some call ∧ call.message.isOneway
  case pos =>
    have ⟨call, hc, ho⟩ := ho
    rw [endTransport_of_oneway hc ho]
    exact .of_idle rfl
  case neg =>
    have hn : ∀ call, r.call? = some call → call.message.isOneway = false := by simpa using ho
    rw [endTransport_of_other hn]
    exact h

theorem poolReady_coherent (c : Surroundings) (id : ConnectionId) (host : Host) (s : Shared) (h : r.Coherent) :
    (r.poolReady c id host s).1.Coherent := by
  cases hc : r.call?
  case none      => simpa [poolReady, hc] using h
  case some call =>
    obtain ⟨ho, _⟩ := h call hc
    exact poolReady_of_call hc ▸ h.keep hc (Call.connect_leaves c id host s ho.incomplete ho.untimed)

theorem receive_coherent (c : Surroundings) (data : Bytes) (endStream : Bool) (s : Shared) (h : r.Coherent) :
    (r.receive c data endStream s).2.1.Coherent := by
  cases hc : r.call?
  case none      => simpa [receive, hc] using h
  case some call =>
    rw [receive_of_call hc]
    exact h.keep hc (Call.receive_leaves c data endStream s (h call hc).1)

theorem apply_coherent (c : Surroundings) (event : RouterEvent) (s : Shared) (h : r.Coherent) :
    (r.apply c event s).2.1.Coherent := by
  cases event
  case transportBegin           => exact h
  case messageBegin message     => exact beginMessage_coherent c r message s
  case messageBody body         => exact h.withCall fun _ hc => Call.writeBody_leaves c body r.passthrough s hc
  case messageEnd               => exact h.withCall fun _ hc => Call.endRequest_leaves c s hc
  case transportEnd             => exact endTransport_coherent s h
  case poolReady id host        => exact poolReady_coherent c id host s h
  case poolFailure reason host? => exact h.withCall fun call _ => call.failToConnect_leaves reason host? s
  case clusterData data ended   => exact receive_coherent c data ended s h
  case remoteClose              => exact h.withCall fun _ _ => .of_isTerminal Call.lose_isTerminal
  case localClose               => exact h.withCall fun _ _ => .of_isTerminal Call.lose_isTerminal

theorem handle_coherent (c : Surroundings) (callback : Callback) (s : Shared) (h : r.Coherent) :
    (r.handle c callback s).1.Coherent := by
  cases callback
  case event event => exact apply_coherent c event s h
  case destroy     => exact .of_idle rfl

theorem Coherent.handleAll (h : r.Coherent) (xs : List Encounter) : (r.handleAll c xs).Coherent := by
  induction xs generalizing r
  case nil          => exact h
  case cons x xs ih => exact ih (handle_coherent c x.callback x.shared h)

-- However a new router is called, and whatever it is answered, a call that it keeps is in order.
theorem handleAll_coherent (c : Surroundings) (id : RouterId) (table : RouteTable) (xs : List Encounter) :
    (handleAll c { id, table } xs).Coherent :=
  Coherent.handleAll (.of_idle rfl) xs

end Router

end RpcProxy
