import RpcProxy.Proofs.Router.Outcome
import RpcProxy.Proofs.Router.LateEvents

namespace RpcProxy

-- The reply to the upgrade request is not complete with these bytes.
def Call.AwaitsUpgrade (c : Surroundings) (call : Call) (data : Bytes) (s : Shared) : Prop :=
  call.upgradeReply ∧ (c.readUpgrade s.transcript call.router data).outcome = false

-- The call ends with its stream. The caller hears of it once, unless the response was complete.
structure Router.EndsWithStream (c : Surroundings) (r : Router) (id : RouterId) (data : Bytes)
    (s : Shared) : Prop where
  ended : (r.apply c (.clusterData data true) s).2.1.isActive = false
  told  : (Callback.ending (s.since (r.apply c (.clusterData data true) s).2.2)
    (.event (.clusterData data true))).Tells id (s.since (r.apply c (.clusterData data true) s).2.2)

variable {c : Surroundings} {r : Router} {call : Call} {s : Shared} {id : RouterId} {data : Bytes}

namespace Call

theorem receive_of_awaitsUpgrade (h : call.AwaitsUpgrade c data s) (endStream : Bool) :
    (call.receive c data endStream s).2 =
      ({ call with responseSize := call.responseSize + data.length },
        s.emit (.readUpgrade call.router data false)) := by
  simp only [receive, h.1, if_true]
  exact readUpgrade_of_waiting h.2

theorem readUpgrade_end_isTerminal (h : (c.readUpgrade s.transcript call.router data).outcome = true) :
    (call.readUpgrade c data true s).2.1.isTerminal := by
  rw [readUpgrade_of_done h]
  exact cutShort_isTerminal

theorem readResponse_end_isTerminal : (call.readResponse c data true s).2.1.isTerminal := by
  rw [readResponse_eq]
  dsimp only
  split
  case h_1 => exact respond_isTerminal
  case h_2 => exact breakOff_isTerminal
  case h_3 => exact cutShort_isTerminal

-- Wherever else the bytes go, the end of the stream is the end of the call.
theorem receive_end_isTerminal (h : ¬ call.AwaitsUpgrade c data s) :
    (call.receive c data true s).2.1.isTerminal := by
  unfold receive
  dsimp only
  split
  case isTrue hu =>
    have hd : (c.readUpgrade s.transcript call.router data).outcome = true := by
      simpa [AwaitsUpgrade, hu] using h
    exact readUpgrade_end_isTerminal hd
  case isFalse => exact readResponse_end_isTerminal

-- An operation that ends a call tells the caller what its ending calls for.
theorem Conduct.tells {y : Call × Shared} {event : RouterEvent} (h : call.Conduct s y)
    (he : y.1.isTerminal) (hv : event ≠ .transportEnd) :
    (Callback.ending (s.since y.2) (.event event)).Tells call.router (s.since y.2) := by
  have hx (es : List Effect) : Callback.ending es (.event event) =
      if completes es then .responded else .failed := by
    cases event <;> first | rfl | exact absurd rfl hv
  rw [hx]
  cases h
  case goesOn live _ => simp [live] at he
  case finishes es ht hf complete =>
    simp only [Shared.since_eq ht, complete, if_true]
    exact hf.silent
  case fails es ht hf incomplete =>
    simp only [Shared.since_eq ht, incomplete, Bool.false_eq_true, if_false]
    cases hf.notice
    case inl hn => exact .inr hn
    case inr hn => exact .inl hn.1

end Call

-- The end of the stream goes unnoticed while the reply to the upgrade request is incomplete, and only then.
theorem Run.endsWithStream_iff {table : RouteTable} (run : Run c id table r phase turns)
    (hc : r.call? = some call) (hi : call.connection?.isSome) (data : Bytes) (s : Shared) :
    (r.EndsWithStream c id data s ↔ ¬ call.AwaitsUpgrade c data s) ∧
    (call.AwaitsUpgrade c data s → (r.apply c (.clusterData data true) s).2 =
      ({ r with call? := some { call with responseSize := call.responseSize + data.length } },
        s.emit (.readUpgrade id data false))) := by
  have hr := run.serves
  have hw : call.AwaitsUpgrade c data s → (r.apply c (.clusterData data true) s).2 =
      ({ r with call? := some { call with responseSize := call.responseSize + data.length } },
        s.emit (.readUpgrade id data false)) := by
    intro hw
    have hl : call.state.isTerminal = false := hr.live hc
    rw [Router.apply_clusterData, Router.receive_of_call hc, call.receive_of_awaitsUpgrade hw,
      ← hr.router hc]
    simp [Router.keep, Call.isTerminal, hl]
  refine ⟨⟨fun h ha => ?mp, fun hn => ?mpr⟩, hw⟩
  case mp =>
    have he := h.ended
    simp [hw ha, Router.isActive] at he
  case mpr =>
    have ht := Call.receive_end_isTerminal hn
    have hd := Call.receive_conduct c data true s (hr.live hc) (hr.not_pending hc hi)
    constructor
    case ended =>
      simp [Router.apply_clusterData, Router.receive_of_call hc, Router.isActive, Router.keep_call?, ht]
    case told =>
      rw [Router.apply_clusterData, Router.receive_of_call hc, ← hr.router hc]
      exact hd.tells ht (by simp)

-- The response is complete with the last bytes.
open Replacement in
theorem Run.endsWithStream_of_response : ∃ turns call,
    Run surroundings ⟨0⟩ (.toCluster "a") before.1 .body turns ∧
    before.1.call? = some call ∧ call.connection?.isSome ∧
    before.1.EndsWithStream surroundings ⟨0⟩ [0x78] before.2 := by
  have ⟨turns, run⟩ := before_run
  have h := (run.endsWithStream_iff rfl rfl [0x78] before.2).1
  exact ⟨turns, _, run, rfl, rfl, h.mpr fun ha => Bool.noConfusion ha.1⟩

namespace Negotiation

-- Each connection needs an upgrade, and the reply to the request for it never completes.
def surroundings : Surroundings :=
  { Surroundings.plain fun _ _ => .ready ⟨7⟩ ⟨"10.0.0.1:9090"⟩ with
    downstream _ _          := ⟨.framed, .twitter⟩
    upgradeRequest? _ _ _ _ := some [0x75]
    readUpgrade _ _ _       := ⟨false, []⟩ }

-- A call that negotiates the upgrade.
def begun : Router × Shared :=
  Router.handle surroundings { id := ⟨0⟩, table := .toCluster "a" }
    (.event (.messageBegin (.call "ping"))) {}

theorem begun_run : ∃ turns, Run surroundings ⟨0⟩ (.toCluster "a") begun.1 .body turns :=
  ⟨_, .turn .start (.decode rfl rfl) begun.eta.symm⟩

end Negotiation

-- The call outlives its stream, and nobody will ever tell it.
open Negotiation in
theorem Run.not_endsWithStream : ∃ turns call,
    Run surroundings ⟨0⟩ (.toCluster "a") begun.1 .body turns ∧
    begun.1.call? = some call ∧ call.connection? = some ⟨7⟩ ∧
    (begun.1.apply surroundings (.clusterData [0x78] true) begun.2).2.1.isActive ∧
    ¬ begun.1.EndsWithStream surroundings ⟨0⟩ [0x78] begun.2 := by
  have ⟨turns, run⟩ := begun_run
  exact ⟨turns, _, run, rfl, rfl, rfl, fun h => Bool.noConfusion h.ended⟩

end RpcProxy
