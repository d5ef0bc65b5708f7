import RpcProxy.Proofs.Dispatcher.Ending
import RpcProxy.Proofs.Router.Restitution

namespace RpcProxy

-- Whether the pool or the connection of a call may tell the router of an event. The decoder always may, since what it
-- tells can be held back.
def Router.expects (r : Router) : RouterEvent → Bool
  | .poolReady ..   => r.isPending
  | .poolFailure .. => r.isPending
  | .clusterData .. => r.isConnected
  | .remoteClose    => r.isConnected
  | .localClose     => r.isConnected
  | _               => true

-- The turn of a router in which it is told of an event.
def Application.turn (c : Surroundings) (a : Application) : Turn :=
  let x := (a.router.apply c a.event a.shared).2
  ⟨a.router, .event a.event, a.shared.since x.2, x.1⟩

namespace Worker

-- The turns of the router in the next turn of its worker, the latest one first.
def nextTurns (c : Surroundings) (w : Worker) (s : Shared) : List Turn :=
  match w.queue with
  | event :: _ => ((w.dispatcher.applications c ⟨event, s⟩).map (·.turn c)).reverse
  | []         =>
    let x := w.dispatcher.router.destroy s
    [⟨w.dispatcher.router, .destroy, s.since x.2, x.1⟩]

-- The service of a worker up to some time, with the progress of the decoder and all turns of the router. The decoder
-- goes through each message in order. Pools and connections submit what the router expects of them at that time, and
-- the worker takes it later. Other routers may change what is shared between any two turns.
inductive Service (c : Surroundings) (id : RouterId) (table : RouteTable) : Worker → Phase → List Turn → Prop
  | start : Service c id table (.start { id, table }) .between []
  | decode (service : Service c id table w phase turns) (event : RouterEvent) (s : Shared) (accepts : w.accepts)
      (order : phase.next? event = some phase') :
    Service c id table (w.submit event s).2.1 phase' turns
  | notify (service : Service c id table w phase turns) (event : RouterEvent) (s : Shared) (accepts : w.accepts)
      (foreign : event.isDecode = false) (expected : w.dispatcher.router.expects event) :
    Service c id table (w.submit event s).2.1 phase turns
  | turn (service : Service c id table w phase turns) (ht : w.turn? c s = some (w', s')) :
    Service c id table w' phase (w.nextTurns c s ++ turns)
  | stop (service : Service c id table w phase turns) : Service c id table { w with accepts := false } phase turns

end Worker

variable {c : Surroundings} {id : RouterId} {table : RouteTable} {phase : Phase} {event : RouterEvent}
  {turns : List Turn}

-- What a dispatcher applies continues the turns of its router.
theorem Succession.applied {x x' : Router × Shared} {as : List Application} (h : Applied c x as x')
    (before : Succession c id table x.1 turns) (ready : ∀ a ∈ as, a.event.isDecode → a.router.isPaused = false) :
    Succession c id table x'.1 ((as.map (·.turn c)).reverse ++ turns) := by
  induction h generalizing turns
  case nil => exact before
  case cons as x r s e h ih =>
    have ⟨hr, ready⟩ := List.forall_mem_cons.mp ready
    have taken := before.turn (.event e) s (by rintro event ⟨rfl⟩; exact hr)
    simpa [Application.turn, Router.handle] using ih taken ready

namespace Worker

variable {w : Worker}

-- What holds of a worker in service.
structure InService (c : Surroundings) (id : RouterId) (table : RouteTable) (w : Worker) (turns : List Turn) :
    Prop where
  succession : Succession c id table w.dispatcher.router turns
  orderly    : w.dispatcher.Orderly
  obeyed     : w.aborted = false
  stopped    : w.running = false → w.accepts = false ∧ w.dispatcher.router.call? = none

theorem InService.start : InService c id table (.start { id, table }) [] where
  succession := .start
  orderly    := .start _
  obeyed     := rfl
  stopped    := nofun

theorem InService.submit {s : Shared} (h : w.InService c id table turns) (accepts : w.accepts) :
    (w.submit event s).2.1.InService c id table turns := by
  have hw : (w.submit event s).2.1 = { w with queue := w.queue ++ [event] } := by simp [Worker.submit, accepts]
  exact hw ▸ ⟨h.succession, h.orderly, h.obeyed, h.stopped⟩

theorem InService.stop (h : w.InService c id table turns) :
    { w with accepts := false }.InService c id table turns where
  succession := h.succession
  orderly    := h.orderly
  obeyed     := h.obeyed
  stopped hr := ⟨rfl, (h.stopped hr).2⟩

-- The next event in the queue is dispatched.
theorem InService.dispatch {s : Shared} {queue : List RouterEvent} (h : w.InService c id table turns)
    (hr : w.running) (hq : w.queue = event :: queue) :
    { w with dispatcher := (w.dispatcher.dispatch c event s).1, queue }.InService c id table
      (w.nextTurns c s ++ turns) := by
  have applied := (h.orderly.prompt (c := c) ⟨event, s⟩).applied
  have succession := Succession.applied applied h.succession fun _ => h.orderly.dispatch_resumed
  constructor
  case succession => simpa [nextTurns, hq] using succession
  case orderly    => exact h.orderly.dispatch ⟨event, s⟩
  case obeyed     => exact h.obeyed
  case stopped    => exact fun hs => nomatch hr.symm.trans hs

-- The worker ends, and its router with it.
theorem InService.finish {s : Shared} (h : w.InService c id table turns) (hq : w.queue = [])
    (ha : w.accepts = false) : (w.finish s).1.InService c id table (w.nextTurns c s ++ turns) := by
  have succession := h.succession.turn .destroy s (by simp)
  constructor
  case succession => simpa [nextTurns, hq, Router.handle, Worker.finish] using succession
  case orderly    => exact .start _
  case obeyed     => exact h.obeyed
  case stopped    => exact fun _ => ⟨ha, rfl⟩

theorem Service.inService (service : Service c id table w phase turns) : w.InService c id table turns := by
  induction service
  case start                 => exact .start
  case decode accepts _ ih   => exact ih.submit accepts
  case notify accepts _ _ ih => exact ih.submit accepts
  case stop ih               => exact ih.stop
  case turn w phase turns s w' s' _ ht ih =>
    have hr : w.running := by
      cases hr : w.running
      case false => simp [turn?_of_stopped hr] at ht
      case true  => rfl
    cases hq : w.queue
    case cons event queue =>
      rw [turn?_of_event hr hq] at ht
      obtain ⟨rfl, _⟩ := Prod.mk.inj (Option.some.inj ht)
      exact ih.dispatch hr hq
    case nil =>
      have ha : w.accepts = false := by
        cases ha : w.accepts
        case false => rfl
        case true  => simp [turn?, hr, hq, ha, ih.obeyed] at ht
      rw [turn?_of_end hr hq ha] at ht
      obtain ⟨rfl, _⟩ := Prod.mk.inj (Option.some.inj ht)
      exact ih.finish hq ha

-- A worker that is stopped comes to its end.
theorem stop_stops (c : Surroundings) (w : Worker) (s : Shared) : (w.stop c s).1.running = false := by
  cases hr : w.running
  case false =>
    have hs : { w with accepts := false }.settle c s = ({ w with accepts := false }, s) :=
      settleWithin_of_stopped (w := { w with accepts := false }) hr _
    rw [stop, hs]
    exact hr
  case true  =>
    obtain ⟨cs, settles⟩ := settleWithin_settles (c := c) (s := s) (w := { w with accepts := false }) rfl hr rfl
      (Nat.lt_succ_self _)
    obtain ⟨_, _, _, _, hw⟩ := settles.drains rfl hr rfl
    exact hw

-- A worker that is stopped comes to its end, and nothing is held then by its router. What its calls had has been given
-- back if and only if all its turns were timely, which is not sure of an event that was expected when it was submitted.
theorem Service.givesBack_iff_timely (service : Service c id table w phase turns) :
    (∀ s, (w.stop c s).1.running = false) ∧
    (w.running = false → w.dispatcher.router.call? = none ∧ (Chronicle.ofTurns turns).current? = none ∧
      ((Chronicle.ofTurns turns).GivesBack ↔ ∀ turn ∈ turns, turn.IsTimely)) := by
  have h := service.inService
  refine ⟨w.stop_stops c, fun hs => ?_⟩
  have hc := (h.stopped hs).2
  exact ⟨hc, h.succession.givesBack_iff hc⟩

namespace Service

-- The pool has one connection.
def surroundings : Surroundings :=
  .plain fun t _ => if t.any (·.isAcquisition) then .pending else .ready ⟨1⟩ ⟨"10.0.0.1:9090"⟩

-- What is shared after the connection was handed out.
def taken : Shared :=
  { transcript := [.acquired ⟨"pool"⟩ (.ready ⟨1⟩ ⟨"10.0.0.1:9090"⟩)] }

end Service

-- A call that awaits its response is replaced, and the worker is stopped while the next one waits for its pool.
open Service in
theorem Service.givesBack_stopped : ∃ w turns,
    Service surroundings ⟨0⟩ (.toCluster "a") w .body turns ∧ w.running = false ∧
    (Chronicle.ofTurns turns).ended.map (fun x => possessions x.1.incidents) =
      [[.did (.acquired ⟨"pool"⟩ .pending), .did (.cancelled ⟨"pool"⟩)],
        [.did (.acquired ⟨"pool"⟩ .pending), .told (.poolReady ⟨7⟩ ⟨"10.0.0.1:9090"⟩),
          .did (.wrote ⟨7⟩ [] false), .did (.closed ⟨7⟩ .noFlush), .did (.released ⟨7⟩)]] ∧
    (∀ s, (w.stop surroundings s).1.running = false) ∧
    (w.running = false → w.dispatcher.router.call? = none ∧ (Chronicle.ofTurns turns).current? = none ∧
      ((Chronicle.ofTurns turns).GivesBack ↔ ∀ turn ∈ turns, turn.IsTimely)) := by
  have idle : Service surroundings ⟨0⟩ (.toCluster "a") _ .between _ := .start
  have begun := idle.decode (.messageBegin (.call "ping")) {} rfl rfl
  have pending := begun.turn (s := taken) rfl
  have ready := pending.notify (.poolReady ⟨7⟩ ⟨"10.0.0.1:9090"⟩) {} rfl rfl rfl
  have inFlight := ready.turn (s := taken) rfl
  have ended := inFlight.decode .messageEnd {} rfl rfl
  have written := ended.turn (s := taken) rfl
  have again := written.decode (.messageBegin (.call "ping")) {} rfl rfl
  have replaced := again.turn (s := taken) rfl
  have stopped := replaced.stop.turn (s := taken) rfl
  exact ⟨_, _, stopped, rfl, rfl, stopped.givesBack_iff_timely⟩

-- The response to a call is submitted while the next message waits in the queue. When it is taken, it ends the next
-- call, whose acquisition is then pending for ever.
open Service in
theorem Service.acquisition_forgotten : ∃ w turns,
    Service surroundings ⟨0⟩ (.toCluster "a") w .body turns ∧ w.running = false ∧
    (Chronicle.ofTurns turns).ended.map (fun x => possessions x.1.incidents) =
      [[.did (.acquired ⟨"pool"⟩ .pending)],
        [.did (.acquired ⟨"pool"⟩ (.ready ⟨1⟩ ⟨"10.0.0.1:9090"⟩)), .did (.wrote ⟨1⟩ [] false),
          .did (.closed ⟨1⟩ .noFlush), .did (.released ⟨1⟩)]] ∧
    ¬ (Chronicle.ofTurns turns).GivesBack := by
  have idle : Service surroundings ⟨0⟩ (.toCluster "a") _ .between _ := .start
  have begun := idle.decode (.messageBegin (.call "ping")) {} rfl rfl
  have inFlight := begun.turn (s := {}) rfl
  have ended := inFlight.decode .messageEnd {} rfl rfl
  have written := ended.turn (s := taken) rfl
  have between := written.decode .transportEnd {} rfl rfl
  have awaiting := between.turn (s := taken) rfl
  have queued := awaiting.decode (.messageBegin (.call "ping")) {} rfl rfl
  have submitted := queued.notify (.clusterData [] false) {} rfl rfl rfl
  have replaced := submitted.stop.turn (s := taken) rfl
  have forgotten := replaced.turn (s := taken) rfl
  have stopped := forgotten.turn (s := taken) rfl
  exact ⟨_, _, stopped, rfl, rfl, fun back => not_givenBack_of_pending (back.ended _ (List.mem_cons_self ..))⟩

end Worker

end RpcProxy
