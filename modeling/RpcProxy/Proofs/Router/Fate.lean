import RpcProxy.Proofs.Call.Reports
import RpcProxy.Proofs.Call.Statistics
import RpcProxy.Proofs.Router.Sending

namespace RpcProxy

namespace Effect

-- The host of a connection that the pool has at once.
def readyHost? : Effect → Option Host
  | acquired _ (.ready _ host) => some host
  | _                          => none

-- The pool has no connection.
def refusal? : Effect → Option Fate
  | acquired _ (.failed reason host?) => some (.unconnected reason host?)
  | _                                 => none

def isCounter : Effect → Bool
  | counted .. => true
  | _          => false

end Effect

-- The way in which a call ends with an event, by what is done then.
def RouterEvent.fate? (es : List Effect) : RouterEvent → Option Fate
  | messageBegin _           => es.findSome? (·.refusal?)
  | transportEnd             => some .delivered
  | poolFailure reason host? => some (.unconnected reason host?)
  | clusterData _ endStream  =>
    if completes es then some .responded
    else if breaks es then some .broken
    else if endStream then some .cutShort
    else none
  | remoteClose              => some (.lost .remoteClose)
  | localClose               => some (.lost .localClose)
  | _                        => none

namespace Incident

-- The host of a connection that is handed over.
def host? : Incident → Option Host
  | told (.poolReady _ host) => some host
  | told _                   => none
  | did effect               => effect.readyHost?

def effect? : Incident → Option Effect
  | told _     => none
  | did effect => some effect

def effects (log : List Incident) : List Effect :=
  log.filterMap (·.effect?)

-- The latest event, with all that has been done since.
def latest? (log : List Incident) : Option (RouterEvent × List Effect) :=
  log.foldl (fun
    | _,       told event => some (event, [])
    | latest?, did effect => latest?.map fun (event, es) => (event, es ++ [effect])) none

-- What has been done since the latest event.
def recent (log : List Incident) : List Effect :=
  (latest? log).elim [] (·.2)

-- The same until the first thing is counted.
def uncounted (log : List Incident) : List Effect :=
  (recent log).takeWhile (!·.isCounter)

end Incident

-- Whether the message has ended and the frame around it has been written.
def Traffic.isWritten (x : Traffic) : Bool :=
  x.ended && x.framings.any fun framing => x.bytes.contains framing.2

namespace CallLog

def effects (log : CallLog) : List Effect :=
  Incident.effects log.incidents

-- The host of the connection, if one was handed over.
def host? (log : CallLog) : Option Host :=
  log.incidents.findSome? (·.host?)

def isWritten (log : CallLog) : Bool :=
  (traffic log.incidents).isWritten

-- The way in which the call has ended.
def fate? (log : CallLog) (ending : Ending) : Option Fate :=
  if ending.isAbandonment then some .abandoned
  else (Incident.latest? log.incidents).bind fun (event, es) => event.fate? es

end CallLog

variable {c : Surroundings} {id : RouterId} {o : Origin} {phase phase' : Phase} {call call' call'' : Call}
  {s s' : Shared} {reason : ConnectionFailure}
  {es : List Effect} {event : RouterEvent} {log before is js : List Incident}

namespace Incident

theorem effects_append : effects (is ++ js) = effects is ++ effects js :=
  List.filterMap_append ..

@[simp]
theorem effects_told : effects (.told event :: is) = effects is :=
  rfl

@[simp]
theorem effects_did : effects (es.map .did) = es := by
  simp [effects, effect?, List.filterMap_map]

theorem mem_effects {e : Effect} (h : did e ∈ log) : e ∈ effects log :=
  List.mem_filterMap.mpr ⟨did e, h, rfl⟩

theorem findSome?_host? : (told event :: es.map did).findSome? (·.host?) =
    (told event).host?.or (es.findSome? (·.readyHost?)) := by
  have hd : (es.map did).findSome? (·.host?) = es.findSome? (·.readyHost?) := by
    rw [List.findSome?_map]
    rfl
  cases he : (told event).host? <;> simp only [List.findSome?_cons, he, hd, Option.none_or, Option.some_or]

theorem latest?_append : latest? (log ++ .told event :: es.map .did) = some (event, es) := by
  have since (done : List Effect) : (es.map Incident.did).foldl (fun
      | _,       told event => some (event, [])
      | latest?, did effect => latest?.map fun (event, es) => (event, es ++ [effect])) (some (event, done)) =
      some (event, done ++ es) := by
    induction es generalizing done
    case nil         => simp
    case cons e _ ih => simp [ih]
  simpa [latest?] using since []

theorem recent_append : recent (log ++ .told event :: es.map .did) = es := by
  simp [recent, latest?_append]

end Incident

-- Only the pool hands connections over, and what it answers is a statistic.
theorem findSome?_readyHost?_of_statistics (h : statistics es = []) : es.findSome? (·.readyHost?) = none := by
  refine List.findSome?_eq_none_iff.mpr fun e he => ?_
  have hn := List.filter_eq_nil_iff.mp h e he
  cases e <;> first | rfl | exact absurd rfl hn

-- What is counted is a statistic.
theorem mem_counted_iff_of_statistics {es' : List Effect} {counter : Counter} {cluster? : Option String}
    (h : statistics es = statistics es') : .counted counter cluster? ∈ es ↔ .counted counter cluster? ∈ es' := by
  have kept (es : List Effect) : .counted counter cluster? ∈ es ↔ .counted counter cluster? ∈ statistics es := by
    simp [statistics]
  rw [kept es, h, ← kept es']

theorem findSome?_of_routing {f : Effect → Option α} (hf : ∀ e, e.isRouting → f e = none)
    (h : ∀ e ∈ es, e.isRouting) : es.findSome? f = none :=
  List.findSome?_eq_none_iff.mpr fun e he => hf e (h e he)

theorem findSome?_readyHost?_of_routing : (∀ e ∈ es, e.isRouting) → es.findSome? (·.readyHost?) = none :=
  findSome?_of_routing fun e => by cases e <;> simp [Effect.readyHost?]

theorem findSome?_refusal?_of_routing : (∀ e ∈ es, e.isRouting) → es.findSome? (·.refusal?) = none :=
  findSome?_of_routing fun e => by cases e <;> simp [Effect.refusal?]

theorem reports_of_routing : (∀ e ∈ es, e.isRouting) → reports es = [] :=
  filter_of_routing fun e => by cases e <;> simp

-- Only the decoder ends a message.
theorem traffic_did_ended : (traffic (es.map .did)).ended = false := by
  induction es
  case nil         => rfl
  case cons e _ ih =>
    have he : (Incident.did e).traffic.ended = false := by
      cases e
      case sampled histogram _ _ => cases histogram <;> rfl
      case acquired _ answer     => cases answer <;> rfl
      all_goals rfl
    simp [traffic, Traffic.append, he, ih]

namespace Traffic

variable {x y : Traffic}

-- What has been written stays written.
theorem isWritten_append (h : x.isWritten) : (x.append y).isWritten := by
  simp only [isWritten, bytes, append, Bool.and_eq_true, List.any_eq_true, List.contains_iff_mem, Bool.or_eq_true,
    List.mem_append, List.map_append] at h ⊢
  obtain ⟨ended, framing, hf, hw⟩ := h
  exact ⟨.inl ended, framing, .inl hf, .inl hw⟩

-- A message that has ended was written.
theorem Sends.isWritten_eq {leg : Leg} {passthrough : Bool} {sent : Message}
    (h : x.Sends c id leg passthrough sent) : x.isWritten = x.ended := by
  cases he : x.ended
  case false => simp [isWritten, he]
  case true  =>
    obtain ⟨frame, frames, bytes, _⟩ := h.written he
    cases frames
    case mk framed => simp [isWritten, he, framed.1, bytes]

end Traffic

theorem Life.isWritten_eq (life : Life c id o phase log call) : (traffic log).isWritten = (traffic log).ended := by
  obtain ⟨route, leg, _, _, sends⟩ := life.sends [] rfl
  simpa [Origin.log] using sends.isWritten_eq

namespace Call

-- The call is on the same terms with its host and with the caller.
structure Agrees (call call' : Call) : Prop where
  router     : call'.router = call.router
  cluster    : call'.cluster = call.cluster
  oneway     : call'.message.isOneway = call.message.isOneway
  host       : call'.host? = call.host?
  connection : call'.connection? = call.connection?
  timed      : call'.timed = call.timed
  complete   : call'.requestComplete = call.requestComplete

-- What becomes of a call by an operation at an event. Nothing is reported of a call that goes on.
inductive Resolves (c : Surroundings) (call : Call) (event : RouterEvent) (s : Shared) (x : Call × Shared) : Prop
  | goesOn (es : List Effect) (ht : x.2.transcript = s.transcript ++ es) (agrees : call.Agrees x.1)
      (live : x.1.isTerminal = false) (silent : reports es = []) (unhanded : es.findSome? (·.readyHost?) = none)
  | ends (es : List Effect) (ht : x.2.transcript = s.transcript ++ es) (dead : x.1.isTerminal)
      (call' : Call) (agrees : call.Agrees call') (fate : Fate) (hf : event.fate? es = some fate) (succeeded : Bool)
      (closing : reports es = call'.closing succeeded fate)
      (success : fate = .responded →
        succeeded = c.deemsSuccess (s.transcript ++ es.takeWhile (!·.isCounter)) call'.router call'.cluster ∧
          (succeeded ↔ .counted .replySuccess (some call'.cluster) ∈ es))

theorem Agrees.refl (call : Call) : call.Agrees call :=
  ⟨rfl, rfl, rfl, rfl, rfl, rfl, rfl⟩

theorem Agrees.trans (h : call.Agrees call') (h' : call'.Agrees call'') : call.Agrees call'' where
  router     := h'.router.trans h.router
  cluster    := h'.cluster.trans h.cluster
  oneway     := h'.oneway.trans h.oneway
  host       := h'.host.trans h.host
  connection := h'.connection.trans h.connection
  timed      := h'.timed.trans h.timed
  complete   := h'.complete.trans h.complete

theorem startRequest_agrees (c : Surroundings) (call : Call) (resume : Bool) (s : Shared) :
    call.Agrees (call.startRequest c resume s).1 := by
  rw [startRequest_fst]
  exact ⟨rfl, rfl, rfl, rfl, rfl, rfl, rfl⟩

-- The host of a connection that is handed over is told of it, and nothing else is reported.
theorem connect_tells (c : Surroundings) (call : Call) (k : ConnectionId) (host : Host) (s : Shared) :
    ∃ es, (call.connect c k host s).2.transcript = s.transcript ++ es ∧ reports es = [.judged host .connected] ∧
      { call with host? := some host, connection? := some k }.Agrees (call.connect c k host s).1 ∧
      (call.connect c k host s).1.isTerminal = false := by
  cases ho : call.offered? c k host s
  case some request =>
    rw [connect_of_offer ho]
    refine ⟨_, rfl, ?_, ⟨rfl, rfl, rfl, rfl, rfl, rfl, rfl⟩, rfl⟩
    simp
  case none =>
    let held := call.holding k host (s.connections.getOrCreate k).1
    have agrees : { call with host? := some host, connection? := some k }.Agrees held :=
      ⟨rfl, rfl, rfl, rfl, rfl, rfl, rfl⟩
    obtain ⟨s', ht⟩ := connect_transcript_of_no_offer ho
    refine ⟨_, ht, by simp, ?agrees, ?live⟩
    case agrees => exact connect_of_no_offer ho ▸ agrees.trans (startRequest_agrees ..)
    case live   => simp [connect_of_no_offer ho, startRequest_fst, isTerminal, CallState.isTerminal]

theorem finish_resolves (s : Shared) : call.Resolves c .transportEnd s (call.finish s) :=
  .ends _ finish_transcript finish_isTerminal call (.refl call) .delivered rfl false (by simp [closing]) (by simp)

theorem lose_resolves (s : Shared) (hf : event.fate? (call.failEffects reason) = some (.lost reason)) :
    call.Resolves c event s (call.lose reason s) :=
  .ends _ lose_transcript lose_isTerminal call (.refl call) (.lost reason) hf false reports_failEffects (by simp)

theorem failToConnect_reports (reason : ConnectionFailure) (host? : Option Host) (s : Shared) :
    ∃ es, (call.failToConnect reason host? s).2.transcript = s.transcript ++ es ∧
      reports es = call.closing false (.unconnected reason host?) ∧ es.findSome? (·.readyHost?) = none :=
  ⟨_, fail_transcript, reports_failEffects,
    findSome?_readyHost?_of_statistics (by simp)⟩

theorem writeBody_resolves (body : Bytes) (passthrough : Bool) (s : Shared) (live : call.isTerminal = false) :
    call.Resolves c event s (call.writeBody c body passthrough s) := by
  have agrees (buffer : Bytes) : call.Agrees { call with buffer } := ⟨rfl, rfl, rfl, rfl, rfl, rfl, rfl⟩
  cases passthrough
  case true  => exact .goesOn [] (List.append_nil _).symm (agrees _) live rfl rfl
  case false => exact .goesOn _ rfl (agrees _) live rfl rfl

theorem fate?_of_unread {data : Bytes} (h : readings es = []) :
    (RouterEvent.clusterData data true).fate? es = some .cutShort := by
  simp [RouterEvent.fate?, completes_of_readings h, breaks_of_readings h]

theorem readUpgrade_resolves (data : Bytes) (endStream : Bool) (s : Shared) (live : call.isTerminal = false) :
    call.Resolves c (.clusterData data endStream) s (call.readUpgrade c data endStream s).2 := by
  cases hd : (c.readUpgrade s.transcript call.router data).outcome
  case false =>
    rw [readUpgrade_of_waiting hd]
    exact .goesOn _ rfl (.refl call) live rfl rfl
  case true =>
    let es := call.resumeEffects c data s
    have held : call.Agrees { call with upgradeReply := false } := ⟨rfl, rfl, rfl, rfl, rfl, rfl, rfl⟩
    have agrees : call.Agrees (call.resume c data s).1 := held.trans (startRequest_agrees ..)
    have quiet : reports es = [] ∧ statistics es = [] ∧ readings es = [] := by simp [es]
    rw [readUpgrade_eq_resume hd]
    cases endStream
    case false =>
      have live : (call.resume c data s).1.isTerminal = false := by
        simp [resume, startRequest_fst, isTerminal, CallState.isTerminal]
      exact .goesOn es resume_transcript agrees live quiet.1 (findSome?_readyHost?_of_statistics quiet.2.1)
    case true  =>
      refine .ends (es ++ (call.resume c data s).1.cutShortEffects) ?_ cutShort_isTerminal _ agrees .cutShort
        (fate?_of_unread (by simp [quiet.2.2])) false (by simp [quiet.1]) (by simp)
      exact cutShort_transcript.trans (by rw [resume_transcript, List.append_assoc])

-- The first thing that is counted for a response is its kind.
theorem exists_classifyEffects (c : Surroundings) (call : Call) (s : Shared) :
    ∃ counter es, call.classifyEffects c s = .counted counter (some call.cluster) :: es := by
  unfold classifyEffects
  split
  case h_1 => dsimp only; split <;> exact ⟨_, _, rfl⟩
  all_goals exact ⟨_, _, rfl⟩

theorem takeWhile_respondEffects : (call.respondEffects c s).takeWhile (!·.isCounter) =
    [.sampled .responseSize call.cluster (some call.responseSize)] := by
  obtain ⟨counter, es, he⟩ := exists_classifyEffects c call
    (s.emit (.sampled .responseSize call.cluster (some call.responseSize)))
  simp [respondEffects, he, Effect.isCounter]

-- A success is counted as such, and nothing else is.
theorem mem_classifyEffects_iff :
    .counted .replySuccess (some call.cluster) ∈ call.classifyEffects c s ↔ (call.classify c s).1 := by
  cases hk : c.responseKind? s.transcript call.router
  case none => simp [classify, classifyEffects, hk]
  case some kind =>
    cases kind
    case reply =>
      cases hs : c.responseSucceeded (s.transcript ++ [Effect.counted .responseReply (some call.cluster)])
        call.router
      all_goals simp [classify, classifyEffects, hk, hs]
    all_goals simp [classify, classifyEffects, hk]

theorem mem_respondEffects_iff : .counted .replySuccess (some call.cluster) ∈ call.respondEffects c s ↔
    (call.classify c (s.emit (.sampled .responseSize call.cluster (some call.responseSize)))).1 := by
  let size : Effect := .sampled .responseSize call.cluster (some call.responseSize)
  have counted : statistics (call.respondEffects c s) = statistics (size :: call.classifyEffects c (s.emit size)) := by
    simp [respondEffects, size]
  rw [mem_counted_iff_of_statistics counted, ← mem_classifyEffects_iff]
  simp [size]

theorem readResponse_resolves (data : Bytes) (endStream : Bool) (s : Shared) (live : call.isTerminal = false) :
    call.Resolves c (.clusterData data endStream) s (call.readResponse c data endStream s).2 := by
  rw [readResponse_eq]
  dsimp only
  generalize (c.readResponse (call.opened s).transcript call.router data).outcome = status
  let call' : Call := { call with responseStarted := true }
  let s₁ := (call.opened s).emit (.readResponse call.router data status)
  let es : List Effect := call.openEffects ++ [.readResponse call.router data status]
  have ht : s₁.transcript = s.transcript ++ es := by simp [s₁, opened, es]
  have agrees : call.Agrees call' := ⟨rfl, rfl, rfl, rfl, rfl, rfl, rfl⟩
  have silent : reports es = [] := by simp [es]
  have unread : readings call.openEffects = [] := by simp
  have uncounted : ∀ e ∈ es, !e.isCounter := by
    simp only [es, openEffects]
    split <;> simp [Effect.isCounter]
  have read (es' : List Effect) (hr : readings es' = []) :
      completes (es ++ es') = (status == .complete) ∧ breaks (es ++ es') = (status == .broken) := by
    cases status <;>
      simp [es, completes_of_readings unread, breaks_of_readings unread, completes_of_readings hr,
        breaks_of_readings hr]
  cases status
  case complete =>
    let size : Effect := .sampled .responseSize call'.cluster (some call'.responseSize)
    have hs : (call'.classify c (s₁.emit size)).1 =
        c.deemsSuccess (s.transcript ++ (es ++ [size])) call'.router call'.cluster := by
      rw [classify_fst, Shared.emit_transcript, ht, List.append_assoc]
    have ha : (es ++ call'.respondEffects c s₁).takeWhile (!·.isCounter) = es ++ [size] := by
      rw [List.takeWhile_append_of_pos uncounted, takeWhile_respondEffects]
    have counted : (call'.classify c (s₁.emit size)).1 ↔
        .counted .replySuccess (some call'.cluster) ∈ es ++ call'.respondEffects c s₁ := by
      rw [← mem_respondEffects_iff]
      exact mem_counted_iff_of_statistics (by simp [es])
    have completed := (read (call'.respondEffects c s₁) (by simp)).1
    refine .ends (es ++ call'.respondEffects c s₁) ?_ respond_isTerminal call' agrees .responded
      (by simp [RouterEvent.fate?, completed]) (call'.classify c (s₁.emit size)).1 ?_ fun _ => ?_
    · exact respond_transcript.trans (by rw [ht, List.append_assoc])
    · simp [silent, respondEffects, closing, size]
    · exact ⟨by rw [hs, ha], counted⟩
  case broken =>
    have broken := read call'.breakOffEffects (by simp)
    refine .ends (es ++ call'.breakOffEffects) ?_ breakOff_isTerminal call' agrees .broken
      (by simp [RouterEvent.fate?, broken]) false (by simp [silent]) (by simp)
    exact breakOff_transcript.trans (by rw [ht, List.append_assoc])
  case more =>
    cases endStream
    case false =>
      have unready : es.findSome? (·.readyHost?) = none :=
        findSome?_readyHost?_of_statistics (by simp [es])
      exact .goesOn es ht agrees live silent unready
    case true =>
      have unread := read call'.cutShortEffects (by simp)
      refine .ends (es ++ call'.cutShortEffects) ?_ cutShort_isTerminal call' agrees .cutShort
        (by simp [RouterEvent.fate?, unread]) false (by simp [silent]) (by simp)
      exact cutShort_transcript.trans (by rw [ht, List.append_assoc])

theorem receive_resolves (data : Bytes) (endStream : Bool) (s : Shared) (live : call.isTerminal = false) :
    call.Resolves c (.clusterData data endStream) s (call.receive c data endStream s).2 := by
  let received : Call := { call with responseSize := call.responseSize + data.length }
  have held : call.Agrees received := ⟨rfl, rfl, rfl, rfl, rfl, rfl, rfl⟩
  have live : received.isTerminal = false := live
  have h : received.Resolves c (.clusterData data endStream) s (call.receive c data endStream s).2 := by
    rw [receive_eq]
    dsimp only
    split
    case isTrue  => exact readUpgrade_resolves data endStream s live
    case isFalse => exact readResponse_resolves data endStream s live
  cases h
  case goesOn es ht agrees live silent unhanded => exact .goesOn es ht (held.trans agrees) live silent unhanded
  case ends es ht dead call' agrees fate hf succeeded closing success =>
    exact .ends es ht dead call' (held.trans agrees) fate hf succeeded closing success

end Call

end RpcProxy
