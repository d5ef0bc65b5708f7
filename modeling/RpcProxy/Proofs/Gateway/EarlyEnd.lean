import RpcProxy.Proofs.Router.EndOfStream
import RpcProxy.Proofs.Gateway.Sequence

namespace RpcProxy

namespace ConnectionTable

variable {t t' t'' : ConnectionTable} {f : ConnectionState → ConnectionState} {ref : StateRef}

-- A later table with the same entries, in which no upgrade is undone.
structure Retains (t t' : ConnectionTable) : Prop where
  entries  : ∀ id, t'.find? id = t.find? id
  upgraded : ∀ ref, (t.state ref).upgraded → (t'.state ref).upgraded

theorem Retains.refl : t.Retains t where
  entries _    := rfl
  upgraded _ h := h

theorem Retains.trans (h₁ : t.Retains t') (h₂ : t'.Retains t'') : t.Retains t'' where
  entries id     := (h₂.entries id).trans (h₁.entries id)
  upgraded ref h := h₂.upgraded ref (h₁.upgraded ref h)

-- A state that was never made cannot be changed.
theorem modify_of_unknown (h : ¬ ref.index < t.states.length) : t.modify ref f = t := by
  simp only [modify, List.modify_eq_self (Nat.le_of_not_lt h)]

theorem Retains.modify (hf : ∀ x, x.upgraded → (f x).upgraded) : t.Retains (t.modify ref f) where
  entries _        := find?_modify
  upgraded ref' hu := by
    by_cases hr : ref' = ref
    case neg => rwa [state_modify_ne hr]
    case pos =>
      subst hr
      by_cases hb : ref'.index < t.states.length
      case pos => exact state_modify_self hb ▸ hf _ hu
      case neg => rwa [modify_of_unknown hb]

end ConnectionTable

-- The stream ends with these bytes, and whoever reads them still waits for more of the response.
def Call.EndsEarly (c : Surroundings) (call : Call) (data : Bytes) (s : Shared) : Prop :=
  if call.upgradeReply then (c.readUpgrade s.transcript call.router data).outcome = true
  else (c.readResponse (call.opened s).transcript call.router data).outcome = .more

namespace Call

variable {c : Surroundings} {call : Call} {s : Shared} {data : Bytes}

theorem EndsEarly.not_awaitsUpgrade (h : call.EndsEarly c data s) : ¬ call.AwaitsUpgrade c data s := by
  rintro ⟨hu, hd⟩
  simp [EndsEarly, hu, hd] at h

theorem startRequest_retains (c : Surroundings) (call : Call) (resume : Bool) (s : Shared) :
    s.connections.Retains (call.startRequest c resume s).2.connections := by
  cases hr : call.stateRef?
  case none     => cases resume <;> simpa [startRequest, hr] using .refl
  case some ref => exact startRequest_connections hr ▸ .modify fun _ h => h

theorem upgraded_retains (c : Surroundings) (call : Call) (s : Shared) :
    s.connections.Retains (call.upgraded c s).connections := by
  cases hr : call.stateRef?
  case none     => simpa [upgraded, hr] using .refl
  case some ref =>
    cases upgraded_connections (c := c) (s := s) hr
    case inl hc => exact hc ▸ .refl
    case inr hc => exact hc ▸ .modify fun _ _ => rfl

-- The request begins, in vain, before the call is cut short.
theorem readUpgrade_retains (h : (c.readUpgrade s.transcript call.router data).outcome = true) :
    s.connections.Retains (call.readUpgrade c data true s).2.2.connections := by
  rw [readUpgrade_of_done h]
  simp only [if_true, cutShort_connections]
  exact (upgraded_retains c call (s.emit (.readUpgrade call.router data true))).trans
    (startRequest_retains ..)

theorem readResponse_retains (h : (c.readResponse (call.opened s).transcript call.router data).outcome = .more) :
    s.connections.Retains (call.readResponse c data true s).2.2.connections := by
  rw [readResponse_eq]
  simp only [h, if_true, cutShort_connections]
  exact .refl

theorem EndsEarly.retains (h : call.EndsEarly c data s) :
    s.connections.Retains (call.receive c data true s).2.2.connections := by
  unfold receive
  dsimp only
  split
  case isTrue hu  => exact readUpgrade_retains (by simpa [EndsEarly, hu] using h)
  case isFalse hu =>
    have hm : (c.readResponse (call.opened s).transcript call.router data).outcome = .more := by
      simpa [EndsEarly, hu] using h
    exact readResponse_retains hm

end Call

namespace Gateway

variable {c : Surroundings} {g : Gateway} {r : Router} {call : Call} {index : Nat} {id : ConnectionId}
  {data : Bytes} {endStream : Bool} {ids : ConnectionId → List Int}

theorem step_clusterData (hr : g.routers[index]? = some r) (hc : r.call? = some call) :
    (g.step c (.event index (.clusterData data endStream))).2 =
      g.turned index (r.keep (call.receive c data endStream g.shared).2.1,
        (call.receive c data endStream g.shared).2.2) := by
  simp only [step, hr, Router.apply_clusterData, Router.receive_of_call hc]
  rfl

-- Bytes of a cluster bring no connection with them.
theorem Sound.permits_clusterData (h : g.Sound ids) (hr : g.routers[index]? = some r)
    (hc : r.call? = some call) : g.Permits c (.event index (.clusterData data endStream)) := by
  have hl := h.linked (List.mem_of_getElem? hr)
  obtain ⟨es, _, _, hh, ht⟩ :=
    call.receive_trades c data endStream g.shared (hl.linked hc) (hl.live hc)
  have he : g.effects c (.event index (.clusterData data endStream)) = es := by
    apply Shared.since_eq
    rw [step_clusterData hr hc]
    exact ht.transcript
  rintro turn htn id hid
  have hcb : turn.2.2 = .event (.clusterData data endStream) := by
    simp only [turn?, hr, Option.map_some, Option.mem_def, Option.some.injEq] at htn
    rw [← htn]
  rw [hcb, he] at hid
  simp [Callback.handed?, hh] at hid

-- A router without a call has nothing to do with a connection that closes.
theorem step_close_of_idle {event : RouterEvent} (hr : g.routers[index]? = some r)
    (hc : r.call? = none) (he : event = .remoteClose ∨ event = .localClose) :
    (g.step c (.event index event)).2 = g := by
  have hx : (r.apply c event g.shared).2 = (r, g.shared) := by
    cases he <;> subst event <;> simp [Router.apply, Router.withCall_of_none hc]
  obtain ⟨hl, hg⟩ := List.getElem?_eq_some_iff.mp hr
  simp only [step, hr, hx]
  rw [← hg, List.set_getElem_self]

-- The call lets go of the connection before it fails, so the failure does not see it, and the close that follows finds
-- no call. The entry stays, and the sequence ids on the connection go on.
theorem Run.early_end_keeps_entry {listener : Listener} (run : Run c listener g ids)
    (hr : g.routers[index]? = some r) (hc : r.call? = some call) (hi : call.connection? = some id)
    (he : call.EndsEarly c data g.shared) :
    let step := Step.event index (.clusterData data true)
    let g' := (g.step c step).2
    g'.connection? index = none ∧
    (∃ ref, g.shared.connections.find? id = some ref ∧ g'.shared.connections.find? id = some ref ∧
      (g'.shared.connections.state ref).nextSequence =
        (g.note c step ids id).length % ConnectionTable.period ∧
      ((g.shared.connections.state ref).upgraded → (g'.shared.connections.state ref).upgraded)) ∧
    ∀ event, event = .remoteClose ∨ event = .localClose → (g'.step c (.event index event)).2 = g' := by
  intro step g'
  have hs := run.sound
  have hl := hs.linked (List.mem_of_getElem? hr)
  let x := call.receive c data true g.shared
  have hg : g' = g.turned index (r.keep x.2.1, x.2.2) := step_clusterData hr hc
  have hk : (r.keep x.2.1).call? = none := by
    simp [Router.keep_call?, x, Call.receive_end_isTerminal he.not_awaitsUpgrade]
  have ⟨hlt, _⟩ := List.getElem?_eq_some_iff.mp hr
  have hr' : g'.routers[index]? = some (r.keep x.2.1) := by simp [hg, turned, hlt]
  have ht : g.shared.connections.Retains g'.shared.connections := hg ▸ he.retains
  have hs' := (run.step step (hs.permits_clusterData hr hc)).sound
  obtain ⟨ref, _, hf⟩ := hs.exists_state (List.mem_of_getElem? hr) hc hi
  have hf' : g'.shared.connections.find? id = some ref := (ht.entries id).trans hf
  refine ⟨?_, ⟨ref, hf, hf', hs'.agrees.next hf', ht.upgraded ref⟩, fun event => step_close_of_idle hr' hk⟩
  simp [connection?, hr', Router.connection?, hk]

namespace EarlyEnd

-- There is one connection, and no response on it ever comes to its end.
def surroundings : Surroundings :=
  { Surroundings.plain fun _ _ => .ready ⟨7⟩ ⟨"10.0.0.1:9090"⟩ with readResponse _ _ _ := ⟨.more, []⟩ }

def begun : Router × Shared :=
  Router.handle surroundings { id := ⟨0⟩, table := .toCluster "a" }
    (.event (.messageBegin (.call "ping"))) {}

-- The response is awaited.
def sent : Router × Shared :=
  begun.1.handle surroundings (.event .messageEnd) begun.2

-- The stream has ended in the middle of the response.
def ended : Router × Shared :=
  sent.1.handle surroundings (.event (.clusterData [0x78] true)) sent.2

def closed : Router × Shared :=
  ended.1.handle surroundings (.event .remoteClose) ended.2

-- The next call on a connection of the same id.
def next : Router × Shared :=
  closed.1.handle surroundings (.event (.messageBegin (.call "pong"))) closed.2

theorem sent_run : ∃ turns, RpcProxy.Run surroundings ⟨0⟩ (.toCluster "a") sent.1 .ended turns :=
  ⟨_, .turn (.turn .start (.decode rfl rfl) begun.eta.symm) (.decode rfl rfl) sent.eta.symm⟩

end EarlyEnd

open EarlyEnd in
theorem Run.early_end_of_response :
    ∃ g ids r call, Run surroundings { table := .toCluster "a" } g ids ∧ g.routers[0]? = some r ∧
      r.call? = some call ∧ call.connection? = some ⟨7⟩ ∧
      call.EndsEarly surroundings [0x78] g.shared ∧
      let step := Step.event 0 (.clusterData [0x78] true)
      let g' := (g.step surroundings step).2
      g'.connection? 0 = none ∧
      (∃ ref, g.shared.connections.find? ⟨7⟩ = some ref ∧ g'.shared.connections.find? ⟨7⟩ = some ref ∧
        (g'.shared.connections.state ref).nextSequence =
          (g.note surroundings step ids ⟨7⟩).length % ConnectionTable.period ∧
        ((g.shared.connections.state ref).upgraded → (g'.shared.connections.state ref).upgraded)) ∧
      ∀ event, event = .remoteClose ∨ event = .localClose →
        (g'.step surroundings (.event 0 event)).2 = g' := by
  have run₁ : Run surroundings { table := .toCluster "a" } _ _ := .step .start .create (by decide +kernel)
  have run₂ := run₁.step (.event 0 (.messageBegin (.call "ping"))) (by decide +kernel)
  exact ⟨_, _, _, _, run₂, rfl, rfl, rfl, rfl, run₂.early_end_keeps_entry rfl rfl rfl rfl⟩

-- The entry outlives the connection, and the next connection of the same id goes on with its sequence ids.
open EarlyEnd in
theorem Run.early_end_not_forgotten : ∃ turns call,
    RpcProxy.Run surroundings ⟨0⟩ (.toCluster "a") sent.1 .ended turns ∧
    sent.1.call? = some call ∧ call.connection? = some ⟨7⟩ ∧
    call.EndsEarly surroundings [0x78] sent.2 ∧ ended.1.isActive = false ∧
    ended.2.connections.find? ⟨7⟩ ≠ none ∧ closed.2.connections.find? ⟨7⟩ ≠ none ∧
    next.1.connection? = some ⟨7⟩ ∧ next.1.call?.map (·.message.sequenceId) = some 1 := by
  have ⟨turns, run⟩ := sent_run
  exact ⟨turns, _, run, rfl, rfl, rfl, rfl, by decide +kernel, by decide +kernel, rfl, rfl⟩

end Gateway

end RpcProxy
