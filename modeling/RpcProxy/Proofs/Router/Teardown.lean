import RpcProxy.Proofs.Router.Coherence
import RpcProxy.Proofs.Exchange.Table

namespace RpcProxy

-- The caller, the host or the statistics are told something.
abbrev Effect.isTold : Effect → Bool
  | counted ..         => true
  | sampled ..         => true
  | judged ..          => true
  | replied ..         => true
  | resetDownstream _  => true
  | _                  => false

-- What a call gives up that is torn down: the acquisition that its pool has left pending, or its connection.
inductive Call.Yields (call : Call) (s s' : Shared) : Prop
  | acquisition (acquiring : call.state = .acquiring) (effects : s'.transcript = s.transcript ++ [.cancelled call.pool])
      (kept : s'.connections = s.connections)
  | connection (id : ConnectionId) (connected : call.state ≠ .acquiring) (held : call.connection? = some id)
      (effects : s'.transcript = s.transcript ++ [.closed id .noFlush, .released id])
      (evicted : s'.connections.find? id = none)
      (others : ∀ id', id' ≠ id → s'.connections.find? id' = s.connections.find? id')
      (states : s'.connections.states = s.connections.states)

-- The teardown of a call, which leaves `s'` of what the routers share.
structure Router.TearsDown (c : Surroundings) (r : Router) (call : Call) (s s' : Shared) : Prop where
  yields    : call.Yields s s'
  silent    : ∀ e ∈ s.since s', e.isTold = false
  destroyed : r.handle c .destroy s = ({ r with call? := none, route? := none }, s')
  -- The end of a router that has ended already does nothing.
  once      : ∀ s'', (r.handle c .destroy s).1.handle c .destroy s'' = ((r.handle c .destroy s).1, s'')
  -- A message begins as it does on any router of that table that has no call.
  replaced  : ∀ (message : Message) (idle : Router), idle.id = r.id → idle.table = r.table → idle.call? = none →
    r.apply c (.messageBegin message) s = idle.apply c (.messageBegin message) s'

variable {c : Surroundings} {r idle : Router} {call : Call} {s s' : Shared}

namespace Call

-- A call in order holds either of the two things, but not both.
theorem Coherent.yields (h : call.Coherent) (s : Shared) : call.Yields s (call.abandon s).2 := by
  by_cases ha : call.state = .acquiring
  case pos =>
    have hi : call.connection? = none := h.unconnected.mpr ha
    have hp : call.pending := h.pending.mpr ha
    refine .acquisition ha ?_ ?_
    · simp [releaseEffects, cancelEffects, hi, hp]
    · simp [abandon, release, hi, hp]
  case neg =>
    have hp : call.pending = false := by simpa using mt h.pending.mp ha
    obtain ⟨id, hi⟩ := Option.ne_none_iff_exists'.mp (mt h.unconnected.mp ha)
    have ht : (call.abandon s).2.connections = s.connections.remove id := by simp [abandon, release, hi, hp]
    refine .connection id ha hi ?_ ?_ (fun id' hn => ?_) ?_
    · simp [releaseEffects, cancelEffects, hi, hp]
    · rw [ht, ConnectionTable.find?_remove_self]
    · rw [ht, ConnectionTable.find?_remove_ne hn]
    · rw [ht, ConnectionTable.remove]

theorem Yields.silent (h : call.Yields s s') : ∀ e ∈ s.since s', e.isTold = false := by
  cases h
  case acquisition ha effects kept            =>
    rw [Shared.since_eq effects]
    exact List.forall_mem_singleton.mpr rfl
  case connection id _ _ effects _ _ _        =>
    rw [Shared.since_eq effects]
    exact List.forall_mem_cons.mpr ⟨rfl, List.forall_mem_singleton.mpr rfl⟩

end Call

namespace Router

theorem discard_of_call (h : r.call? = some call) : r.discard s = (call.abandon s).2 := by
  simp [discard, h]

theorem discard_of_none (h : r.call? = none) : r.discard s = s := by
  simp [discard, h]

-- A message takes nothing over from the message before it, but for what the routers share.
theorem beginMessage_congr (c : Surroundings) (message : Message) (hi : idle.id = r.id) (ht : idle.table = r.table)
    (hs : r.discard s = idle.discard s') : r.beginMessage c message s = idle.beginMessage c message s' := by
  have he : { r with route? := none, passthrough := false, call? := none } =
      { idle with route? := none, passthrough := false, call? := none } := by
    simp [hi, ht]
  rw [beginMessage, beginMessage, hs, he, ht]

theorem Coherent.tearsDown (h : r.Coherent) (hc : r.call? = some call) (s : Shared) :
    r.TearsDown c call s (call.abandon s).2 where
  yields    := (h call hc).1.yields s
  silent    := ((h call hc).1.yields s).silent
  destroyed := by rw [handle, destroy, discard_of_call hc]
  once s''  := rfl
  replaced message idle hi ht hn := by
    have hs : r.discard s = idle.discard (call.abandon s).2 := by rw [discard_of_call hc, discard_of_none hn]
    rw [apply, apply, beginMessage_congr c message hi ht hs]

-- However a router was called before, a call that it gives up is torn down without a word.
theorem handleAll_tearsDown (c : Surroundings) (id : RouterId) (table : RouteTable) (xs : List Encounter)
    (hc : (handleAll c { id, table } xs).call? = some call) (s : Shared) :
    ∃ s', (handleAll c { id, table } xs).TearsDown c call s s' :=
  ⟨_, (handleAll_coherent c id table xs).tearsDown hc s⟩

-- A second connection was handed to the call, which nobody had asked for.
theorem handleAll_tearsDown_unasked :
    let c := Surroundings.plain fun _ _ => .pending
    let xs : List Encounter := [
      ⟨.event (.messageBegin (.call "ping")), {}⟩,
      ⟨.event (.poolReady ⟨7⟩ ⟨"10.0.0.1:9090"⟩), {}⟩,
      ⟨.event (.poolReady ⟨8⟩ ⟨"10.0.0.2:9090"⟩), {}⟩]
    ∃ call s', (handleAll c { id := ⟨0⟩, table := .toCluster "a" } xs).call? = some call ∧
      call.connection? = some ⟨8⟩ ∧ (handleAll c { id := ⟨0⟩, table := .toCluster "a" } xs).TearsDown c call {} s' := by
  intro c xs
  have hc : (handleAll c { id := ⟨0⟩, table := .toCluster "a" } xs).call? = some _ := rfl
  obtain ⟨s', tearsDown⟩ := handleAll_tearsDown c ⟨0⟩ (.toCluster "a") xs hc {}
  exact ⟨_, s', hc, rfl, tearsDown⟩

end Router

end RpcProxy
