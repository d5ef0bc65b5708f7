import RpcProxy.Router

namespace RpcProxy

-- A router and the events of the decoder that are held back for it.
structure Dispatcher where
  router : Router
  held   : List RouterEvent := []

namespace Dispatcher

-- Applies held events as long as the decoder may go on.
def replay (c : Surroundings) (router : Router) (s : Shared) : List RouterEvent → Dispatcher × Shared
  | []            => ({ router }, s)
  | event :: held =>
    if router.isPaused then ({ router, held := event :: held }, s)
    else
      let (_, router, s) := router.apply c event s
      replay c router s held

-- Applies an event, or holds it back.
def dispatch (c : Surroundings) (d : Dispatcher) (event : RouterEvent) (s : Shared) :
    Dispatcher × Shared :=
  if event.isDecode && (d.router.isPaused || !d.held.isEmpty) then
    ({ d with held := d.held ++ [event] }, s)
  else
    let (_, router, s) := d.router.apply c event s
    replay c router s d.held

end Dispatcher

-- Why an event is not accepted.
inductive WorkerError
  | stopped
  deriving DecidableEq, Repr

def WorkerError.message : WorkerError → String
  | stopped => "router worker is stopped"

structure Worker where
  dispatcher : Dispatcher
  -- Events that were submitted and not taken yet.
  queue   : List RouterEvent := []
  -- Whether events may still be submitted.
  accepts : Bool := true
  -- Whether the worker was asked to end at once.
  aborted : Bool := false
  running : Bool := true

namespace Worker

def start (router : Router) : Worker :=
  { dispatcher := { router } }

-- An event that nobody applies is dropped, and a connection that comes with it goes back to its pool.
def drop (event : RouterEvent) (s : Shared) : Shared :=
  match event with
  | .poolReady id _ => s.emit (.released id)
  | _               => s

def submit (w : Worker) (event : RouterEvent) (s : Shared) : Except WorkerError Unit × Worker × Shared :=
  if w.accepts then (.ok (), { w with queue := w.queue ++ [event] }, s)
  else (.error .stopped, w, drop event s)

-- Ends the worker. Events that are held back are dropped.
def finish (w : Worker) (s : Shared) : Worker × Shared :=
  let (router, s) := w.dispatcher.router.destroy s
  ({ w with dispatcher := { router }, running := false }, s)

-- What the worker does next. A queued event comes first. With an empty queue it ends if no more events can
-- come or it was asked to, and waits otherwise.
def turn? (c : Surroundings) (w : Worker) (s : Shared) : Option (Worker × Shared) :=
  if !w.running then none
  else
    match w.queue with
    | event :: queue =>
      let (dispatcher, s) := w.dispatcher.dispatch c event s
      some ({ w with dispatcher, queue }, s)
    | []             => if !w.accepts || w.aborted then some (w.finish s) else none

-- Takes turns until there is nothing to do.
def settleWithin (c : Surroundings) : Nat → Worker → Shared → Worker × Shared
  | 0,        w, s => (w, s)
  | fuel + 1, w, s =>
    match w.turn? c s with
    | some (w, s) => settleWithin c fuel w s
    | none        => (w, s)

-- Each queued event takes one turn, and the end one more.
def settle (c : Surroundings) (w : Worker) (s : Shared) : Worker × Shared :=
  settleWithin c (w.queue.length + 1) w s

-- Ends the worker after all queued events.
def stop (c : Surroundings) (w : Worker) (s : Shared) : Worker × Shared :=
  { w with accepts := false }.settle c s

-- Asks the worker to end.
def abort (c : Surroundings) (w : Worker) (s : Shared) : Worker × Shared :=
  { w with accepts := false, aborted := true }.settle c s

end Worker

end RpcProxy
