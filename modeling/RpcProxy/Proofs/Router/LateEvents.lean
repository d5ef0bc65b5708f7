import RpcProxy.Proofs.Router.Run

namespace RpcProxy

-- What the caller, a host or the statistics are told.
abbrev Effect.isAnnouncement : Effect → Bool
  | replied ..         => true
  | resetDownstream .. => true
  | judged ..          => true
  | counted ..         => true
  | sampled ..         => true
  | _                  => false

-- The call under way is not touched, nobody is told anything, and the state of its connection is kept.
structure Harmless (c : Surroundings) (r : Router) (event : RouterEvent) (s : Shared) : Prop where
  unchanged : (r.apply c event s).2.1 = r
  silent    : ∀ e ∈ s.since (r.apply c event s).2.2, e.isAnnouncement = false
  kept      : ∀ call id, r.call? = some call → call.connection? = some id →
    (r.apply c event s).2.2.connections.find? id = s.connections.find? id

-- A call ignores bytes of the cluster only if there are none, and whoever reads them still waits for more.
def Call.Ignores (c : Surroundings) (call : Call) (data : Bytes) (endStream : Bool) (s : Shared) : Prop :=
  data = [] ∧
    if call.upgradeReply then (c.readUpgrade s.transcript call.router data).outcome = false
    else call.responseStarted ∧ endStream = false ∧
      (c.readResponse s.transcript call.router data).outcome = .more

variable {c : Surroundings} {r : Router} {call call' : Call} {s : Shared} {id : RouterId} {data : Bytes}
  {endStream : Bool}

theorem Shared.since_self : s.since s = [] :=
  Shared.since_eq (List.append_nil _).symm

-- Without a call nobody is touched.
theorem Harmless.of_idle {event : RouterEvent} (h : (r.apply c event s).2 = (r, s))
    (hc : r.call? = none) : Harmless c r event s where
  unchanged := by rw [h]
  silent    := by simp [h, Shared.since_self]
  kept      := by simp [hc]

theorem Router.keep_eq_iff (hc : r.call? = some call) :
    r.keep call' = r ↔ call'.isTerminal = false ∧ call' = call := by
  cases r
  subst hc
  cases ht : call'.isTerminal <;> simp [keep, ht]

namespace Call

theorem receive_nil : call.receive c [] endStream s =
    if call.upgradeReply then call.readUpgrade c [] endStream s
    else call.readResponse c [] endStream s :=
  rfl

theorem opened_of_started (h : call.responseStarted) : call.opened s = s := by
  simp [opened, openEffects, h]

-- The reading of bytes that a call ignores.
theorem receive_of_ignores (h : call.Ignores c data endStream s) : ∃ e, e.isAnnouncement = false ∧
    (call.receive c data endStream s).2 = (call, s.emit e) := by
  obtain ⟨rfl, h⟩ := h
  rw [receive_nil]
  cases hu : call.upgradeReply <;> simp only [hu, Bool.false_eq_true, if_false, if_true] at h ⊢
  case true  => exact ⟨_, rfl, readUpgrade_of_waiting h⟩
  case false =>
    have ⟨hs, he, ho⟩ := h
    refine ⟨.readResponse call.router [] .more, rfl, ?_⟩
    rw [readResponse_eq]
    simp only [opened_of_started hs, ho, he, Bool.false_eq_true, if_false]
    rw [← hs]

theorem readUpgrade_live (ht : (call.readUpgrade c data endStream s).2.1.isTerminal = false) :
    ((c.readUpgrade s.transcript call.router data).outcome = false ∧
      (call.readUpgrade c data endStream s).2.1 = call) ∨
    (call.readUpgrade c data endStream s).2.1.upgradeReply = false := by
  cases hd : (c.readUpgrade s.transcript call.router data).outcome
  case false => exact .inl ⟨rfl, by rw [readUpgrade_of_waiting hd]⟩
  case true  =>
    rw [readUpgrade_of_done hd] at ht ⊢
    dsimp only at ht ⊢
    split at ht
    case isTrue  => simp [cutShort_isTerminal] at ht
    case isFalse h => simp [h, startRequest_fst]

theorem readResponse_live (ht : (call.readResponse c data endStream s).2.1.isTerminal = false) :
    endStream = false ∧ (c.readResponse (call.opened s).transcript call.router data).outcome = .more ∧
      (call.readResponse c data endStream s).2.1 = { call with responseStarted := true } := by
  rw [readResponse_eq] at ht ⊢
  cases ho : (c.readResponse (call.opened s).transcript call.router data).outcome <;>
    simp only [ho] at ht ⊢
  case complete => simp [respond_isTerminal] at ht
  case broken   => simp [breakOff_isTerminal] at ht
  case more     =>
    cases he : endStream <;> simp only [he, if_true] at ht
    case false => simp
    case true  => simp [cutShort_isTerminal] at ht

-- The reading of bytes after which a call is as it was before.
theorem ignores_of_receive (ht : call.isTerminal = false)
    (hc : (call.receive c data endStream s).2.1 = call) : call.Ignores c data endStream s := by
  have ht : (call.receive c data endStream s).2.1.isTerminal = false := by rw [hc, ht]
  have hn : data.length = 0 → data = [] := List.eq_nil_of_length_eq_zero
  unfold receive at hc ht
  cases hu : call.upgradeReply <;> simp only [hu, Bool.false_eq_true, if_false, if_true] at hc ht
  case true  =>
    have h := readUpgrade_live ht
    rw [hc] at h
    cases h
    case inl h =>
      have hs := congrArg responseSize h.2
      exact ⟨hn (by simpa using hs), by simpa [hu] using h.1⟩
    case inr h => simp [hu] at h
  case false =>
    have ⟨he, ho, h⟩ := readResponse_live ht
    rw [hc] at h
    have hs := congrArg responseSize h
    have hr := congrArg responseStarted h
    simp only [Nat.left_eq_add] at hs hr
    have ho : (c.readResponse (call.opened s).transcript call.router data).outcome = .more := ho
    rw [opened_of_started hr] at ho
    exact ⟨hn hs, by simpa [hu] using ⟨hr, he, ho⟩⟩

end Call

-- The call takes the close of another connection for that of its own.
theorem Router.localClose_ends (c : Surroundings) (s : Shared) (hc : r.call? = some call) :
    (r.apply c .localClose s).2.1.call? = none := by
  simp [apply, withCall_of_call hc, keep_call?, Call.lose_isTerminal]

theorem Router.apply_clusterData :
    (r.apply c (.clusterData data endStream) s).2 = (r.receive c data endStream s).2 :=
  rfl

-- An event does not tell the connection that it comes from, so an event of a connection that was closed for a new call
-- reaches the new call.
theorem late_events_harmless_iff (c : Surroundings) (s : Shared) (hr : r.Serves id) :
    (Harmless c r .localClose s ↔ r.isActive = false) ∧
    ∀ data endStream, Harmless c r (.clusterData data endStream) s ↔
      ∀ call, r.call? = some call → call.Ignores c data endStream s := by
  cases hc : r.call?
  case none =>
    refine ⟨iff_of_true (.of_idle ?_ hc) ?_, fun data endStream => iff_of_true (.of_idle ?_ hc) (by simp)⟩
    · simp [Router.apply, Router.withCall_of_none hc]
    · simp [Router.isActive, hc]
    · simp [Router.apply, Router.receive, hc]
  case some call =>
    refine ⟨iff_of_false (fun h => ?_) ?_, fun data endStream => ⟨fun h => ?_, fun h => ?_⟩⟩
    · have he := Router.localClose_ends c s hc
      simp [h.unchanged, hc] at he
    · simp [Router.isActive, hc]
    · have hu := h.unchanged
      rw [Router.apply_clusterData, Router.receive_of_call hc, Router.keep_eq_iff hc] at hu
      simpa using Call.ignores_of_receive (hr.live hc) hu.2
    · obtain ⟨e, he, hx⟩ := Call.receive_of_ignores (h call rfl)
      have hx : (r.apply c (.clusterData data endStream) s).2 = (r, s.emit e) := by
        rw [Router.apply_clusterData, Router.receive_of_call hc, hx]
        simp [(Router.keep_eq_iff hc).mpr ⟨hr.live hc, rfl⟩]
      have hs : s.since (s.emit e) = [e] := Shared.since_eq rfl
      exact { unchanged := by rw [hx], silent := by simp [hx, hs, he], kept := by simp [hx] }

namespace Replacement

-- Each call is given another connection at once.
def surroundings : Surroundings :=
  .plain fun transcript _ => .ready ⟨transcript.length⟩ ⟨"10.0.0.1:9090"⟩

-- A call that holds a connection.
def before : Router × Shared :=
  Router.handle surroundings { id := ⟨0⟩, table := .toCluster "a" }
    (.event (.messageBegin (.call "ping"))) {}

-- A new message has closed the connection, and its call holds another one.
def after : Router × Shared :=
  before.1.handle surroundings (.event (.messageBegin (.call "pong"))) before.2

theorem before_run : ∃ turns, Run surroundings ⟨0⟩ (.toCluster "a") before.1 .body turns :=
  ⟨_, .turn .start (.decode rfl rfl) before.eta.symm⟩

theorem after_serves : after.1.Serves ⟨0⟩ :=
  have ⟨_, run⟩ := before_run
  (run.turn (.decode rfl rfl) after.eta.symm).serves

end Replacement

open Replacement in
theorem late_events_of_replaced : after.1.Serves ⟨0⟩ ∧
    (Harmless surroundings after.1 .localClose after.2 ↔ after.1.isActive = false) ∧
    ∀ data endStream, Harmless surroundings after.1 (.clusterData data endStream) after.2 ↔
      ∀ call, after.1.call? = some call → call.Ignores surroundings data endStream after.2 :=
  ⟨after_serves, late_events_harmless_iff surroundings after.2 after_serves⟩

-- The new call goes down with the connection of the one before it, or is answered in its place.
open Replacement in
theorem late_events_not_harmless : ∃ turns old call,
    Run surroundings ⟨0⟩ (.toCluster "a") before.1 .body turns ∧
    before.1.call? = some old ∧ after.1.call? = some call ∧
    old.connection?.isSome ∧ call.connection?.isSome ∧ old.connection? ≠ call.connection? ∧
    ¬ Harmless surroundings after.1 .localClose after.2 ∧
    ¬ Harmless surroundings after.1 (.clusterData [0x78] false) after.2 := by
  have ⟨turns, run⟩ := before_run
  refine ⟨turns, _, _, run, rfl, rfl, rfl, rfl, by decide, fun h => ?_, fun h => ?_⟩
  · exact Bool.false_ne_true (congrArg Router.isActive h.unchanged)
  · exact Bool.false_ne_true (congrArg Router.isActive h.unchanged)

end RpcProxy
