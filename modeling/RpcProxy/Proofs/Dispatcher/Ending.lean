import RpcProxy.Proofs.Dispatcher.Order
import RpcProxy.Proofs.Router.Run

namespace RpcProxy

namespace Dispatcher

variable {c : Surroundings} {d : Dispatcher}

theorem applications_eq_nil_iff {x : Delivery} : d.applications c x = [] ↔
    x.event.isDecode ∧ (d.router.isPaused ∨ d.held ≠ []) := by
  have hw : (d.router.isPaused ∨ d.held ≠ []) ↔ (d.router.isPaused || !d.held.isEmpty) = true := by simp
  rw [hw, ← Bool.and_eq_true_iff]
  unfold applications
  split
  case isTrue h  => exact iff_of_true rfl h
  case isFalse h => exact iff_of_false (List.cons_ne_nil _ _) h

theorem dispatch_of_held {x : Delivery} (h : d.applications c x = []) :
    d.dispatch c x.event x.shared = ({ d with held := d.held ++ [x.event] }, x.shared) := by
  have ⟨hd, hw⟩ := applications_eq_nil_iff.mp h
  have hw : (d.router.isPaused || !d.held.isEmpty) = true := by simpa using hw
  simp [dispatch, hd, hw]

-- Events that are all held back are events of the decoder, and the first of them finds a reason for it.
theorem applied_eq_nil_iff {xs : List Delivery} : d.applied c xs = [] ↔
    ∀ x ∈ xs, x.event.isDecode ∧ (d.router.isPaused ∨ d.held ≠ []) := by
  induction xs generalizing d
  case nil => simp [applied]
  case cons x xs ih =>
    rw [applied, List.append_eq_nil_iff, List.forall_mem_cons, ih, applications_eq_nil_iff]
    refine and_congr_right fun hx => forall₂_congr fun y _ => ?_
    have hd := dispatch_of_held (c := c) (applications_eq_nil_iff.mpr hx)
    simp [hd, hx.2]

end Dispatcher

namespace Worker

-- What the router is called with in the next turn of its worker.
def callbacks (c : Surroundings) (w : Worker) (s : Shared) : List Callback :=
  match w.queue with
  | event :: _ => (events (w.dispatcher.applications c ⟨event, s⟩)).map .event
  | []         => [.destroy]

-- The turns of a worker until there is nothing to do, with all that its router is called with. Other routers may
-- change what is shared between two turns.
inductive Settles (c : Surroundings) : Worker → List Callback → Worker → Prop
  | rest (h : ∀ s, w.turn? c s = none) : Settles c w [] w
  | turn (h : w.turn? c s = some (w', s')) (hs : Settles c w' cs w'') :
    Settles c w (w.callbacks c s ++ cs) w''

variable {c : Surroundings} {w w' : Worker} {s : Shared} {event : RouterEvent} {queue : List RouterEvent}
  {cs : List Callback}

theorem turn?_of_event (hr : w.running) (hq : w.queue = event :: queue) : w.turn? c s =
    some ({ w with dispatcher := (w.dispatcher.dispatch c event s).1, queue },
      (w.dispatcher.dispatch c event s).2) := by
  simp [turn?, hr, hq]

-- With no event left, a worker that accepts no more of them ends.
theorem turn?_of_end (hr : w.running) (hq : w.queue = []) (ha : w.accepts = false) :
    w.turn? c s = some (w.finish s) := by
  simp [turn?, hr, hq, ha]

theorem turn?_of_stopped (hr : w.running = false) : w.turn? c s = none := by
  simp [turn?, hr]

theorem settleWithin_of_stopped (hr : w.running = false) (n : Nat) : settleWithin c n w s = (w, s) := by
  cases n
  case zero   => rfl
  case succ n => simp [settleWithin, turn?_of_stopped hr]

theorem settleWithin_settles (hq : w.queue = queue) (hr : w.running) (ha : w.accepts = false)
    (hn : queue.length < n) : ∃ cs, w.Settles c cs (settleWithin c n w s).1 := by
  induction queue generalizing w s n
  case nil =>
    obtain ⟨n, rfl⟩ := Nat.exists_eq_add_one_of_ne_zero (Nat.ne_of_gt hn)
    have ht : w.turn? c s = some (w.finish s) := turn?_of_end hr hq ha
    have hs : (w.finish s).1.running = false := rfl
    refine ⟨w.callbacks c s ++ [], .turn ht ?_⟩
    simp only [settleWithin, ht, settleWithin_of_stopped hs]
    exact .rest fun _ => turn?_of_stopped hs
  case cons event queue ih =>
    obtain ⟨n, rfl⟩ := Nat.exists_eq_add_one_of_ne_zero (Nat.ne_of_gt (Nat.zero_lt_of_lt hn))
    have ht := turn?_of_event (c := c) (s := s) hr hq
    have ⟨cs, hs⟩ := ih (w := { w with dispatcher := (w.dispatcher.dispatch c event s).1, queue })
      (s := (w.dispatcher.dispatch c event s).2) rfl hr ha (Nat.lt_of_succ_lt_succ hn)
    refine ⟨w.callbacks c s ++ cs, .turn ht ?_⟩
    simpa only [settleWithin, ht] using hs

-- A worker that has something to do takes a turn.
theorem Settles.exists_turn {f : Shared → Worker × Shared} (h : w.Settles c cs w')
    (ht : ∀ s, w.turn? c s = some (f s)) :
    ∃ s cs', cs = w.callbacks c s ++ cs' ∧ (f s).1.Settles c cs' w' := by
  cases h
  case rest hn     => cases (hn {}).symm.trans (ht {})
  case turn ht' hs =>
    have hf := Option.some.inj ((ht _).symm.trans ht')
    exact ⟨_, _, rfl, hf ▸ hs⟩

theorem Settles.of_stopped (h : w.Settles c cs w') (hr : w.running = false) : cs = [] ∧ w' = w := by
  cases h
  case rest      => exact ⟨rfl, rfl⟩
  case turn ht _ => simp [turn?_of_stopped hr] at ht

-- All that is queued is fed to the dispatcher, whatever the other routers do meanwhile.
theorem Settles.drains (h : w.Settles c cs w') (hq : w.queue = queue) (hr : w.running)
    (ha : w.accepts = false) :
    ∃ xs : List Delivery, xs.map (·.event) = queue ∧
      cs = (events (w.dispatcher.applied c xs)).map .event ++ [.destroy] ∧
      w'.queue = [] ∧ w'.running = false := by
  induction queue generalizing w cs
  case nil =>
    obtain ⟨s, cs, rfl, hs⟩ := h.exists_turn fun _ => turn?_of_end hr hq ha
    obtain ⟨rfl, rfl⟩ := hs.of_stopped rfl
    exact ⟨[], rfl, by simp [callbacks, hq, Dispatcher.applied], hq, rfl⟩
  case cons event queue ih =>
    obtain ⟨s, cs, rfl, hs⟩ := h.exists_turn fun _ => turn?_of_event hr hq
    obtain ⟨xs, hx, rfl, hw⟩ := ih hs rfl hr ha
    exact ⟨⟨event, s⟩ :: xs, by simp [hx], by simp [callbacks, hq, Dispatcher.applied], hw⟩

-- Whether a worker that accepts no more events was aborted does not matter to it.
theorem turn?_aborted (ha : w.accepts = false) (b : Bool) : { w with aborted := b }.turn? c s =
    (w.turn? c s).map fun x => ({ x.1 with aborted := b }, x.2) := by
  unfold turn?
  cases hr : w.running
  case false => rfl
  case true  =>
    cases hq : w.queue
    case nil  => simp [ha, hq, finish]
    case cons => rfl

theorem accepts_of_turn? {x : Worker × Shared} (ht : w.turn? c s = some x) : x.1.accepts = w.accepts := by
  unfold turn? at ht
  split at ht
  · cases ht
  · split at ht
    · cases ht
      rfl
    · split at ht <;> cases ht
      rfl

theorem settleWithin_aborted (ha : w.accepts = false) (b : Bool) (n : Nat) :
    settleWithin c n { w with aborted := b } s =
      ({ (settleWithin c n w s).1 with aborted := b }, (settleWithin c n w s).2) := by
  induction n generalizing w s
  case zero      => rfl
  case succ n ih =>
    rw [settleWithin, settleWithin, turn?_aborted ha]
    cases ht : w.turn? c s
    case none   => rfl
    case some x => exact ih ((accepts_of_turn? ht).trans ha)

-- To abort a worker makes no difference to its queue, so a queued event is passed over only where it would have been
-- held back.
theorem abort_drains_queue (c : Surroundings) (s : Shared) (hr : w.running) :
    w.abort c s = ({ (w.stop c s).1 with aborted := true }, (w.stop c s).2) ∧
    let aborted := { w with accepts := false, aborted := true }
    (∃ cs, aborted.Settles c cs (w.abort c s).1) ∧
    ∀ cs w', aborted.Settles c cs w' →
      (∃ xs : List Delivery, xs.map (·.event) = w.queue ∧
        cs = (events (w.dispatcher.applied c xs)).map .event ++ [.destroy] ∧
        w'.queue = [] ∧ w'.running = false) ∧
      (cs = [.destroy] ↔ ∀ event ∈ w.queue,
        event.isDecode ∧ (w.dispatcher.router.isPaused ∨ w.dispatcher.held ≠ [])) := by
  refine ⟨settleWithin_aborted (w := { w with accepts := false }) rfl true _,
    settleWithin_settles rfl hr rfl (Nat.lt_succ_self _), fun cs w' h => ?_⟩
  obtain ⟨xs, hx, hc, hw⟩ := h.drains rfl hr rfl
  refine ⟨⟨xs, hx, hc, hw⟩, ?_⟩
  calc cs = [.destroy]
    _ ↔ w.dispatcher.applied c xs = [] := by simp [hc]
    _ ↔ ∀ event ∈ w.queue, event.isDecode ∧ (w.dispatcher.router.isPaused ∨ w.dispatcher.held ≠ []) := by
      rw [Dispatcher.applied_eq_nil_iff, ← hx, List.forall_mem_map]

namespace Abort

def surroundings : Surroundings :=
  .plain fun _ _ => .ready ⟨7⟩ ⟨"10.0.0.1:9090"⟩

-- A message waits in the queue of a worker that has just been started.
def waiting : Worker :=
  { start { id := ⟨0⟩, table := .toCluster "a" } with queue := [.messageBegin (.call "ping")] }

end Abort

open Abort in
theorem abort_drains_message : waiting.running ∧
    waiting.abort surroundings {} =
      ({ (waiting.stop surroundings {}).1 with aborted := true }, (waiting.stop surroundings {}).2) ∧
    let aborted := { waiting with accepts := false, aborted := true }
    (∃ cs, aborted.Settles surroundings cs (waiting.abort surroundings {}).1) ∧
    ∀ cs w', aborted.Settles surroundings cs w' →
      (∃ xs : List Delivery, xs.map (·.event) = waiting.queue ∧
        cs = (events (waiting.dispatcher.applied surroundings xs)).map .event ++ [.destroy] ∧
        w'.queue = [] ∧ w'.running = false) ∧
      (cs = [.destroy] ↔ ∀ event ∈ waiting.queue,
        event.isDecode ∧ (waiting.dispatcher.router.isPaused ∨ waiting.dispatcher.held ≠ [])) :=
  ⟨rfl, abort_drains_queue surroundings {} rfl⟩

-- The message is routed, and its call is given a connection, all after the worker was aborted.
open Abort in
theorem abort_not_skipping : ∃ cs w',
    { waiting with accepts := false, aborted := true }.Settles surroundings cs w' ∧ cs ≠ [.destroy] := by
  refine ⟨_, _, .turn (s := {}) rfl (.turn (s := {}) rfl (.rest fun _ => rfl)), fun h => ?_⟩
  cases (List.cons.inj h).1

end Worker

end RpcProxy
