import Mathlib.Data.List.Basic
import Mathlib.Data.List.TakeWhile
import RpcProxy.Proofs.Call.Relay
import RpcProxy.Proofs.Router.Course

namespace RpcProxy

namespace Incident

def isRelay : Incident → Bool
  | told (.clusterData ..) => true
  | told _                 => false
  | did effect             => effect.isRelay

-- The incidents that concern the response to a call.
abbrev relays (log : List Incident) : List Incident :=
  log.filter (·.isRelay)

def codec? : Incident → Option (RouterId × Leg)
  | did (.madeCodec id leg) => some (id, leg)
  | _                       => none

def chunk? : Incident → Option Bytes
  | told (.clusterData data _) => some data
  | _                          => none

-- A chunk for the decoder of the caller's leg, with what the decoder makes of it.
def reading? : Incident → Option (Bytes × ResponseStatus)
  | did (.readResponse _ data status) => some (data, status)
  | _                                 => none

-- What the decoder of the caller's leg is told.
def response? : Incident → Option Effect
  | did (.startedResponse id leg)      => some (.startedResponse id leg)
  | did (.readResponse id data status) => some (.readResponse id data status)
  | _                                  => none

def size? : Incident → Option (String × Option Nat)
  | did (.sampled .responseSize cluster value?) => some (cluster, value?)
  | _                                           => none

def isUpgradeRequest : Incident → Bool
  | did (.offeredUpgrade _ (some _)) => true
  | _                                => false

-- The reply to an upgrade request is complete.
def isUpgradeEnd : Incident → Bool
  | did (.readUpgrade _ _ true) => true
  | _                           => false

-- What has happened since the reply to the upgrade request was complete, if there is such a request.
def answer (log : List Incident) : List Incident :=
  if log.any (·.isUpgradeRequest) then log.dropWhile (!·.isUpgradeEnd) else log

-- The chunks of the cluster.
def received (log : List Incident) : List Bytes :=
  log.filterMap (·.chunk?)

def handed (log : List Incident) : List (Bytes × ResponseStatus) :=
  log.filterMap (·.reading?)

end Incident

open Incident (answer received handed)

-- A log in which the chunks of a response go to the decoder as they came, and nothing else does. The decoder is told
-- of the response, with the leg of the codec, before the first one.
structure Verbatim (id : RouterId) (leg : Leg) (log : List Incident) : Prop where
  codec     : log.filterMap (·.codec?) = [(id, leg)]
  chunks    : (handed log).map (·.1) = received (answer log)
  announced : log.filterMap (·.response?) =
    (if handed log = [] then [] else [.startedResponse id leg]) ++ (handed log).map fun x => .readResponse id x.1 x.2

structure Relayed (id : RouterId) (leg : Leg) (cluster : String) (log : List Incident) : Prop
    extends Verbatim id leg log where
  -- Nothing follows a chunk that completes or breaks the response.
  undecided : ∀ x ∈ (handed log).dropLast, x.2 = .more
  -- The size of a complete response is that of all chunks, those of the reply to an upgrade request included.
  sized     : log.filterMap (·.size?) =
    if (handed log).any (·.2 == .complete) then [(cluster, some (received log).flatten.length)] else []

-- The call relays the response of the cluster of its route.
def CallLog.Relays (log : CallLog) (id : RouterId) : Prop :=
  ∃ route leg, log.route? = some route ∧ Relayed id leg route.cluster log.incidents

variable {c : Surroundings} {id : RouterId} {o : Origin} {phase phase' : Phase} {call call' : Call} {leg : Leg}
  {is js log : List Incident} {s s' : Shared} {es : List Effect} {cluster : String} {data : Bytes} {endStream : Bool}
  {status : ResponseStatus}

namespace Incident

@[simp]
theorem received_nil : received [] = [] :=
  rfl

@[simp]
theorem received_cons {i : Incident} : received (i :: is) = i.chunk?.toList ++ received is := by
  cases h : i.chunk? <;> simp [received, h]

@[simp]
theorem received_append : received (is ++ js) = received is ++ received js :=
  List.filterMap_append

@[simp]
theorem handed_nil : handed [] = [] :=
  rfl

@[simp]
theorem handed_cons {i : Incident} : handed (i :: is) = i.reading?.toList ++ handed is := by
  cases h : i.reading? <;> simp [handed, h]

@[simp]
theorem handed_append : handed (is ++ js) = handed is ++ handed js :=
  List.filterMap_append

-- Whether the next chunk belongs to the response.
def answers (log : List Incident) : Bool :=
  !log.any (·.isUpgradeRequest) || log.any (·.isUpgradeEnd)

theorem answer_append (h : answers is) (hn : js.any (·.isUpgradeRequest) = false) :
    answer (is ++ js) = answer is ++ js := by
  cases hr : is.any (·.isUpgradeRequest)
  case false => simp only [answer, List.any_append, hr, hn, Bool.or_self, Bool.false_eq_true, if_false]
  case true  =>
    have he : is.any (·.isUpgradeEnd) := by simpa [answers, hr] using h
    have hd : is.dropWhile (!·.isUpgradeEnd) ≠ [] := by
      simpa [List.dropWhile_eq_nil_iff] using he
    simp [answer, hr, List.dropWhile_append, hd]

theorem answer_append_of_waiting (h : answers is = false) :
    answer (is ++ js) = js.dropWhile (!·.isUpgradeEnd) := by
  obtain ⟨hr, he⟩ : is.any (·.isUpgradeRequest) ∧ is.any (·.isUpgradeEnd) = false := by
    simpa [answers] using h
  have hn : ∀ i ∈ is, (!i.isUpgradeEnd) = true := by simpa using he
  simp only [answer, List.any_append, hr, Bool.true_or, if_true, List.dropWhile_append_of_pos hn]

theorem answer_of_waiting (h : answers is = false) : answer is = [] := by
  have ha : answer (is ++ []) = [] := answer_append_of_waiting h
  rwa [List.append_nil] at ha

theorem answers_append (h : answers is) (hn : js.any (·.isUpgradeRequest) = false) : answers (is ++ js) := by
  cases hr : is.any (·.isUpgradeRequest) <;> simp_all [answers]

end Incident

open Incident hiding relays

-- A chunk of the reply to an upgrade request.
theorem Verbatim.reply (h : Verbatim id leg is) (waiting : answers is = false) (data : Bytes) (endStream done : Bool) :
    Verbatim id leg (is ++ [.told (.clusterData data endStream), .did (.readUpgrade id data done)]) ∧
      handed is = [] := by
  have hn : handed is = [] := by simpa [answer_of_waiting waiting] using h.chunks
  have ha : received (answer (is ++ [.told (.clusterData data endStream), .did (.readUpgrade id data done)])) = [] := by
    rw [answer_append_of_waiting waiting]
    cases done <;> rfl
  refine ⟨⟨?_, ?_, ?_⟩, hn⟩
  · simpa [Incident.codec?] using h.codec
  · simp [ha, hn, Incident.reading?]
  · simpa [hn, Incident.reading?, Incident.response?] using h.announced

-- A chunk of the response, with what is done about it. The decoder is told of the response before the first one.
def passing (id : RouterId) (leg : Leg) (started : Bool) (data : Bytes) (endStream : Bool) (status : ResponseStatus) :
    List Incident :=
  .told (.clusterData data endStream) ::
    ((if started then [] else [Effect.startedResponse id leg]) ++ [Effect.readResponse id data status]).map .did

@[simp]
theorem received_passing {started : Bool} : received (passing id leg started data endStream status) = [data] := by
  cases started <;> rfl

@[simp]
theorem handed_passing {started : Bool} :
    handed (passing id leg started data endStream status) = [(data, status)] := by
  cases started <;> rfl

theorem passing_size? {started : Bool} :
    (passing id leg started data endStream status).filterMap (·.size?) = [] := by
  cases started <;> rfl

theorem passing_isUpgradeRequest {started : Bool} :
    (passing id leg started data endStream status).any (·.isUpgradeRequest) = false := by
  cases started <;> rfl

theorem Verbatim.response {started : Bool} (h : Verbatim id leg is) (ha : answers is)
    (hs : started = false ↔ handed is = []) : Verbatim id leg (is ++ passing id leg started data endStream status) where
  codec     := by
    rw [List.filterMap_append, h.codec]
    cases started <;> rfl
  chunks    := by simp [answer_append ha passing_isUpgradeRequest, h.chunks]
  announced := by
    rw [List.filterMap_append, h.announced, handed_append, handed_passing]
    cases started
    case false =>
      have hn := hs.mp rfl
      simp [passing, Incident.response?, hn]
    case true  =>
      have hn : handed is ≠ [] := by simpa using hs
      simp [passing, Incident.response?, hn]

-- The size of a response is recorded after it.
theorem Verbatim.measured {value? : Option Nat} (h : Verbatim id leg is) (ha : answers is) :
    Verbatim id leg (is ++ [.did (.sampled .responseSize cluster value?)]) where
  codec     := by simpa [Incident.codec?] using h.codec
  chunks    := by simp [answer_append, ha, Incident.isUpgradeRequest, h.chunks, Incident.reading?, Incident.chunk?]
  announced := by
    rw [List.filterMap_append, h.announced]
    simp [Incident.response?, Incident.reading?]

-- A call that has not ended, with what has been heard of its cluster.
structure Call.Relays (call : Call) (id : RouterId) (leg : Leg) (is : List Incident) : Prop
    extends Verbatim id leg is where
  undecided : ∀ x ∈ handed is, x.2 = .more
  unsized   : is.filterMap (·.size?) = []
  reply     : call.upgradeReply = !answers is
  size      : call.responseSize = (received is).flatten.length
  started   : call.responseStarted = false ↔ handed is = []
  silent    : call.connection? = none → is = [.did (.madeCodec id leg)]

-- What becomes by an operation of a call, with what has been heard of its cluster before.
inductive Call.Conveys (id : RouterId) (o : Origin) (is : List Incident) (s : Shared) (x : Call × Shared) : Prop
  | goesOn (es : List Effect) (ht : x.2.transcript = s.transcript ++ es)
      (relays : x.1.Relays id o.leg (is ++ (RpcProxy.relays es).map .did))
  | ends (es : List Effect) (ht : x.2.transcript = s.transcript ++ es) (dead : x.1.isTerminal)
      (relayed : Relayed id o.leg o.route.cluster (is ++ (RpcProxy.relays es).map .did))

namespace Call

theorem Relays.incomplete (h : call.Relays id leg is) : (handed is).any (·.2 == .complete) = false :=
  List.any_eq_false.mpr fun x hx => by simp [h.undecided x hx]

-- Nothing has been decided about the response of a call that goes on.
theorem Relays.relayed (h : call.Relays id leg is) (cluster : String) : Relayed id leg cluster is where
  toVerbatim := h.toVerbatim
  undecided  := fun x hx => h.undecided x (List.dropLast_subset _ hx)
  sized      := by simp [h.unsized, h.incomplete]

-- Only some of what is known of a call has to do with its response.
theorem Relays.alike (h : call.Relays id leg is) (reply : call'.upgradeReply = call.upgradeReply)
    (size : call'.responseSize = call.responseSize) (started : call'.responseStarted = call.responseStarted)
    (connection : call'.connection? = none → call.connection? = none) : call'.Relays id leg is where
  toVerbatim := h.toVerbatim
  undecided  := h.undecided
  unsized    := h.unsized
  reply      := reply.trans h.reply
  size       := size.trans h.size
  started    := started ▸ h.started
  silent hc  := h.silent (connection hc)

-- The next chunk, while the call waits for the reply to an upgrade request.
theorem Relays.awaits (h : call.Relays id leg is) (hu : call.upgradeReply) (endStream done : Bool)
    (reply : call'.upgradeReply = !done) (size : call'.responseSize = call.responseSize + data.length)
    (started : call'.responseStarted = call.responseStarted) (connection : call'.connection?.isSome) :
    call'.Relays id leg (is ++ [.told (.clusterData data endStream), .did (.readUpgrade id data done)]) := by
  have waiting : answers is = false := by simpa [h.reply] using hu
  obtain ⟨verbatim, hn⟩ := h.toVerbatim.reply waiting data endStream done
  exact {
    toVerbatim := verbatim
    undecided  := by simp [hn, Incident.reading?]
    unsized    := by simpa [Incident.size?] using h.unsized
    reply      := by cases done <;> simp_all [answers, Incident.isUpgradeRequest, Incident.isUpgradeEnd]
    size       := by simp [size, h.size, Incident.chunk?]
    started    := by simpa [started, Incident.reading?] using h.started
    silent hc  := by simp [hc] at connection }

-- The next chunk, once the response has begun. It leaves open what becomes of the response.
theorem Relays.continues (h : call.Relays id leg is) (hu : call.upgradeReply = false) (endStream : Bool)
    (reply : call'.upgradeReply = false) (size : call'.responseSize = call.responseSize + data.length)
    (started : call'.responseStarted) (connection : call'.connection?.isSome) :
    call'.Relays id leg (is ++ passing id leg call.responseStarted data endStream .more) := by
  have ha : answers is := by simpa [hu] using h.reply
  exact {
    toVerbatim := h.toVerbatim.response ha h.started
    undecided  := by simpa [or_imp, forall_and] using h.undecided
    unsized    := by rw [List.filterMap_append, h.unsized, passing_size?, List.append_nil]
    reply      := by rw [reply, answers_append ha passing_isUpgradeRequest, Bool.not_true]
    size       := by simp [size, h.size]
    started    := by simp [started]
    silent hc  := by simp [hc] at connection }

-- The last chunk does not complete the response.
theorem Relays.gives_up (h : call.Relays id leg is) (hu : call.upgradeReply = false) (hs : status ≠ .complete)
    (cluster : String) : Relayed id leg cluster (is ++ passing id leg call.responseStarted data endStream status) where
  toVerbatim := h.toVerbatim.response (by simpa [hu] using h.reply) h.started
  undecided  := by simpa using h.undecided
  sized      := by
    rw [List.filterMap_append, h.unsized, passing_size?, handed_append, List.any_append, h.incomplete]
    simp [hs]

-- The last chunk completes the response, and the size of all chunks is recorded.
theorem Relays.completes (h : call.Relays id leg is) (hu : call.upgradeReply = false) (cluster : String) (data : Bytes)
    (endStream : Bool) :
    Relayed id leg cluster (is ++ passing id leg call.responseStarted data endStream .complete ++
      [.did (.sampled .responseSize cluster (some (call.responseSize + data.length)))]) where
  toVerbatim :=
    have ha : answers is := by simpa [hu] using h.reply
    (h.toVerbatim.response ha h.started).measured (answers_append ha passing_isUpgradeRequest)
  undecided  := by simpa [Incident.reading?] using h.undecided
  sized      := by
    rw [List.filterMap_append, List.filterMap_append, h.unsized, passing_size?]
    simp [Incident.size?, Incident.chunk?, h.size]

-- An operation is judged together with what was heard just before.
theorem Conveys.after {x : Call × Shared} (es : List Effect)
    (h : Conveys id o (is ++ (RpcProxy.relays es).map .did) s' x) (ht : s'.transcript = s.transcript ++ es) :
    Conveys id o is s x := by
  cases h
  case goesOn es' ht' relays     => exact .goesOn (es ++ es') (by simp [ht', ht]) (by simpa using relays)
  case ends es' ht' dead relayed => exact .ends (es ++ es') (by simp [ht', ht]) dead (by simpa using relayed)

-- What was done just before has nothing to do with the response.
theorem Conveys.after_others {x : Call × Shared} (es : List Effect) (h : Conveys id o is s' x)
    (ht : s'.transcript = s.transcript ++ es) (hm : RpcProxy.relays es = []) : Conveys id o is s x :=
  .after es (by simpa [hm] using h) ht

-- An operation that ends a call and has nothing to do with its response.
theorem Conveys.of_end {x : Call × Shared} (h : Relayed id o.leg o.route.cluster is) (es : List Effect)
    (ht : x.2.transcript = s.transcript ++ es) (dead : x.1.isTerminal) (hn : RpcProxy.relays es = []) :
    Conveys id o is s x :=
  .ends es ht dead (by simpa [hn] using h)

-- An operation after which the call goes on and nothing is different about its response.
theorem Conveys.of_alike {x : Call × Shared} (h : x.1.Relays id o.leg is) (es : List Effect)
    (ht : x.2.transcript = s.transcript ++ es) (hm : RpcProxy.relays es = []) : Conveys id o is s x :=
  .goesOn es ht (by simpa [hm] using h)

theorem startRequest_conveys (h : call.Relays id o.leg is) (resume : Bool) (s : Shared) :
    Conveys id o is s (call.startRequest c resume s) := by
  refine .of_alike ?_ _ startRequest_transcript (by simp)
  rw [startRequest_fst]
  exact h.alike rfl rfl rfl fun hc => hc

-- The call asks for an upgrade of the connection that it was handed.
theorem Relays.asks {request : Bytes} (h : call.Relays id leg [.did (.madeCodec id leg)])
    (reply : call'.upgradeReply) (size : call'.responseSize = call.responseSize)
    (started : call'.responseStarted = call.responseStarted) (connection : call'.connection?.isSome) :
    call'.Relays id leg [.did (.madeCodec id leg), .did (.offeredUpgrade id (some request))] where
  codec      := rfl
  chunks     := rfl
  announced  := rfl
  undecided  := List.forall_mem_nil _
  unsized    := rfl
  reply      := reply
  size       := size.trans h.size
  started    := started ▸ h.started
  silent hc  := by simp [hc] at connection

theorem connect_conveys (h : call.Relays id o.leg is) (router : call.router = id) (connection : call.connection? = none)
    (k : ConnectionId) (host : Host) (s : Shared) : Conveys id o is s (call.connect c k host s) := by
  cases ho : call.offered? c k host s
  case some request =>
    obtain rfl := h.silent connection
    rw [connect_of_offer ho, router]
    have asked : RpcProxy.relays (.judged host .connected :: .offeredUpgrade id (some request) ::
        .wrote k (call.buffer ++ request) false :: releases call.connection?) =
        [.offeredUpgrade id (some request)] := by
      simp
    exact .goesOn _ rfl (asked ▸ h.asks rfl rfl rfl rfl)
  case none         =>
    have held : (call.holding k host (s.connections.getOrCreate k).1).Relays id o.leg is :=
      h.alike rfl rfl rfl (by simp [holding])
    rw [connect_of_no_offer ho]
    exact .after_others (.judged host .connected :: call.offerEffects none ++ releases call.connection?)
      (startRequest_conveys held call.pending _) (by simp) (by simp)

-- A new call has a connection, waits for one, or has ended.
theorem begin_conveys (o : Origin) (c : Surroundings) (id : RouterId) (s : Shared) :
    Conveys id o [] s (o.begin c id s) := by
  have fresh (pending : Bool) : { o.call id with pending }.Relays id o.leg [.did (.madeCodec id o.leg)] :=
    { codec := rfl, chunks := rfl, announced := rfl, undecided := List.forall_mem_nil _, unsized := rfl, reply := rfl,
      size := rfl, started := by simp [Origin.call, Incident.reading?], silent := fun _ => rfl }
  have h : Conveys id o [.did (.madeCodec id o.leg)] (s.emit (.madeCodec id o.leg)) (o.begin c id s) := by
    cases ha : c.acquire (s.emit (.madeCodec id o.leg)).transcript (o.call id).pool <;>
      simp only [Origin.begin, start, ha]
    case pending             => exact .of_alike (fresh true) [.acquired o.pool .pending] rfl rfl
    case ready k host        =>
      exact .after_others [.acquired o.pool (.ready k host)] (connect_conveys (fresh false) rfl rfl k host _) rfl rfl
    case failed reason host? =>
      exact .after_others [.acquired o.pool (.failed reason host?)]
        (.of_end ((fresh false).relayed _) _ fail_transcript fail_isTerminal (by simp)) rfl rfl
  exact .after [.madeCodec id o.leg] h rfl

-- A call goes on with its connection, and it is cut short without one.
theorem Conveys.of_relays (h : call.Relays id o.leg is) (endStream : Bool) (s : Shared) :
    Conveys id o is s (if endStream then call.cutShort s else (call, s)) := by
  cases endStream
  case false => exact .of_alike h [] (List.append_nil _).symm rfl
  case true  => exact .of_end (h.relayed _) _ cutShort_transcript cutShort_isTerminal (by simp)

-- What is judged after the reply to an upgrade request has been read.
theorem Conveys.after_upgrade {x : Call × Shared} (router : call.router = id)
    (h : Conveys id o (is ++ [.told (.clusterData data endStream), .did (.readUpgrade id data true)])
      (call.resume c data s).2 x) :
    Conveys id o (is ++ [.told (.clusterData data endStream)]) s x :=
  .after (call.resumeEffects c data s) (by simpa [router] using h) resume_transcript

theorem readUpgrade_conveys (h : call.Relays id o.leg is) (router : call.router = id) (hu : call.upgradeReply)
    (connected : call.connection?.isSome) (data : Bytes) (endStream : Bool) (s : Shared) :
    Conveys id o (is ++ [.told (.clusterData data endStream)]) s
      ((call.heard data).readUpgrade c data endStream s).2 := by
  cases hd : (c.readUpgrade s.transcript (call.heard data).router data).outcome
  case false =>
    have relays : (call.heard data).Relays id o.leg _ := h.awaits hu endStream false hu rfl rfl connected
    rw [readUpgrade_of_waiting hd]
    exact .goesOn [.readUpgrade call.router data false] rfl (by simpa [router] using relays)
  case true  =>
    obtain ⟨reply, size, started, connection⟩ := resume_fields c (call.heard data) data s
    have relays : ((call.heard data).resume c data s).1.Relays id o.leg _ :=
      h.awaits hu endStream true reply size started (connection ▸ connected)
    have after := Conveys.of_relays relays endStream ((call.heard data).resume c data s).2
    rw [readUpgrade_eq_resume hd]
    exact .after_upgrade router after

-- What is judged after a chunk of the response has been read.
theorem Conveys.after_reading {x : Call × Shared} (stems : call.Stems o id) (status : ResponseStatus)
    (h : Conveys id o (is ++ passing id o.leg call.responseStarted data endStream status)
      ((call.opened s).emit (.readResponse call.router data status)) x) :
    Conveys id o (is ++ [.told (.clusterData data endStream)]) s x := by
  have ho : call.openEffects = if call.responseStarted then [] else [.startedResponse id o.leg] := by
    simp [openEffects, stems.router, stems.leg]
  have ht : ((call.opened s).emit (.readResponse call.router data status)).transcript =
      s.transcript ++ (call.openEffects ++ [.readResponse call.router data status]) := by
    simp [opened]
  refine .after _ ?_ ht
  cases hs : call.responseStarted <;> simpa [ho, hs, stems.router, passing] using h

theorem readResponse_conveys (h : call.Relays id o.leg is) (stems : call.Stems o id) (hu : call.upgradeReply = false)
    (connected : call.connection?.isSome) (data : Bytes) (endStream : Bool) (s : Shared) :
    Conveys id o (is ++ [.told (.clusterData data endStream)]) s
      ((call.heard data).readResponse c data endStream s).2 := by
  have stems : (call.heard data).Stems o id := stems.received _ call.responseStarted
  rw [readResponse_eq]
  dsimp only
  generalize (c.readResponse ((call.heard data).opened s).transcript (call.heard data).router data).outcome = status
  apply Conveys.after_reading stems status
  cases status
  case complete =>
    have relayed := h.completes hu o.route.cluster data endStream
    refine .ends _ respond_transcript respond_isTerminal ?_
    simpa only [relays_respondEffects, stems.cluster] using! relayed
  case broken   =>
    exact .of_end (h.gives_up hu (by simp) _) _ breakOff_transcript breakOff_isTerminal (by simp)
  case more     =>
    have relays : { call.heard data with responseStarted := true }.Relays id o.leg _ :=
      h.continues hu endStream hu rfl rfl connected
    exact .of_relays relays endStream _

theorem receive_conveys (h : call.Relays id o.leg is) (stems : call.Stems o id) (connected : call.connection?.isSome)
    (data : Bytes) (endStream : Bool) (s : Shared) :
    Conveys id o (is ++ [.told (.clusterData data endStream)]) s (call.receive c data endStream s).2 := by
  cases hu : call.upgradeReply
  case true  =>
    have hr : (call.receive c data endStream s).2 = ((call.heard data).readUpgrade c data endStream s).2 :=
      receive_eq.trans (if_pos hu)
    exact hr ▸ readUpgrade_conveys h stems.router hu connected data endStream s
  case false =>
    have hr : (call.receive c data endStream s).2 = ((call.heard data).readResponse c data endStream s).2 :=
      receive_eq.trans (if_neg (by simp [hu]))
    exact hr ▸ readResponse_conveys h stems hu connected data endStream s

theorem writeBody_conveys (h : call.Relays id o.leg is) (body : Bytes) (passthrough : Bool) (s : Shared) :
    Conveys id o is s (call.writeBody c body passthrough s) := by
  cases passthrough
  case true  => exact .of_alike (h.alike rfl rfl rfl fun hc => hc) [] (List.append_nil _).symm rfl
  case false =>
    exact .of_alike (h.alike rfl rfl rfl fun hc => hc)
      [.encodedBody call.router body (c.encodeBody s.transcript call.router call.leg body)] rfl rfl

theorem endRequest_conveys (h : call.Relays id o.leg is) (s : Shared) : Conveys id o is s (call.endRequest c s) := by
  cases hc : call.connection?
  case none   =>
    have he : call.endRequest c s = (call, s) := by simp [endRequest, hc]
    exact .of_alike (he ▸ h) [] (by simp [he]) rfl
  case some k =>
    rw [endRequest_of_connection hc]
    exact .of_alike (h.alike rfl rfl rfl fun hc => hc) _ rfl rfl

theorem Takes.conveys (takes : call.Takes c o.passthrough s phase event phase' y) (h : call.Relays id o.leg is)
    (stems : call.Stems o id) (sound : call.pending → call.connection? = none) :
    Conveys id o (is ++ Incident.relays [.told event]) s y := by
  cases event
  case clusterData data endStream =>
    cases takes
    case clusterData connected => exact receive_conveys h stems connected data endStream s
  -- No other event has to do with the response.
  all_goals
    show Conveys id o (is ++ []) s y
    have unchanged : Conveys id o is s (call, s) := .of_alike h [] (List.append_nil _).symm rfl
    have relayed := h.relayed o.route.cluster
    rw [List.append_nil]
    cases takes
  case transportBegin.transportBegin         => exact unchanged
  case messageBody.messageBody body _        => exact writeBody_conveys h body o.passthrough s
  case messageEnd.messageEnd                 => exact endRequest_conveys h s
  case transportEnd.transportEnd             => exact unchanged
  case transportEnd.finish                   =>
    exact .of_end relayed _ finish_transcript finish_isTerminal (by simp)
  case poolReady.poolReady k host pending    => exact connect_conveys h stems.router (sound pending) k host s
  case poolFailure.poolFailure reason host _ =>
    exact .of_end relayed _ fail_transcript fail_isTerminal (by simp)
  case remoteClose.remoteClose               =>
    exact .of_end relayed _ lose_transcript lose_isTerminal (by simp)
  case localClose.localClose                 =>
    exact .of_end relayed _ lose_transcript lose_isTerminal (by simp)

end Call

namespace Incident

theorem relays_did : relays (es.map .did) = (RpcProxy.relays es).map .did :=
  List.filter_map ..

end Incident

-- A call with its log: it goes on, or it has ended.
inductive Relay (id : RouterId) (o : Origin) (call : Call) (log : List Incident) : Prop
  | goesOn (relays : call.Relays id o.leg (Incident.relays log))
  | ends (dead : call.isTerminal) (relayed : Relayed id o.leg o.route.cluster (Incident.relays log))

theorem Effect.not_isRelay_of_isRouting {e : Effect} (h : e.isRouting) : e.isRelay = false := by
  cases e <;> first | rfl | cases h

theorem relays_of_routing (h : ∀ e ∈ es, e.isRouting) : relays es = [] :=
  filter_of_routing (fun _ => Effect.not_isRelay_of_isRouting) h

-- A chunk or what is done about a response does not come while there is no call.
theorem Incident.IsOutside.not_isRelay {i : Incident} (h : i.IsOutside) : i.isRelay = false := by
  cases i
  case told event => cases event <;> first | rfl | cases h
  case did effect =>
    cases h
    case inl hr => exact Effect.not_isRelay_of_isRouting hr
    case inr hr => cases effect <;> first | rfl | cases hr

theorem Call.Conveys.relay {x : Call × Shared} (log : List Incident) (event : RouterEvent) (routing : List Effect)
    (h : Conveys id o (Incident.relays log ++ Incident.relays [.told event]) s x)
    (routed : ∀ e ∈ routing, e.isRouting) :
    Relay id o x.1 (log ++ .told event :: (routing ++ s.since x.2).map .did) := by
  have hr (es : List Effect) : Incident.relays (log ++ .told event :: (routing ++ es).map .did) =
      Incident.relays log ++ Incident.relays [.told event] ++ (relays es).map .did := by
    rw [← List.singleton_append]
    simp only [List.filter_append, Incident.relays_did, relays_of_routing routed, List.nil_append, List.append_assoc]
  cases h
  case goesOn es ht relays     =>
    rw [Shared.since_eq ht]
    exact .goesOn (hr es ▸ relays)
  case ends es ht dead relayed =>
    rw [Shared.since_eq ht]
    exact .ends dead (hr es ▸ relayed)

theorem Life.relay (life : Life c id o phase log call) : Relay id o call log := by
  induction life
  case begins s routing routed =>
    exact Call.Conveys.relay [] (.messageBegin o.message) routing (Call.begin_conveys o c id s) routed
  case takes log call s event phase' y life live takes ih =>
    cases ih
    case ends dead _   => simp [live] at dead
    case goesOn relays =>
      cases life.course
      case settles dead _       => simp [live] at dead
      case goesOn stems stage _ =>
        have conveys := takes.conveys relays stems fun pending => (stage.of_pending pending).2.2.1
        exact conveys.relay log event [] (List.forall_mem_nil _)

theorem Relay.relayed (relay : Relay id o call log) : Relayed id o.leg o.route.cluster (Incident.relays log) := by
  cases relay
  case goesOn relays => exact relays.relayed _
  case ends relayed  => exact relayed

namespace Incident

theorem none_of_not_isRelay {i : Incident} (h : i.isRelay = false) :
    i.codec? = none ∧ i.chunk? = none ∧ i.reading? = none ∧ i.response? = none ∧ i.size? = none ∧
      i.isUpgradeRequest = false ∧ i.isUpgradeEnd = false := by
  cases i
  case told event => cases event <;> first | exact ⟨rfl, rfl, rfl, rfl, rfl, rfl, rfl⟩ | cases h
  case did effect =>
    cases effect
    case sampled histogram _ _     => cases histogram <;> first | exact ⟨rfl, rfl, rfl, rfl, rfl, rfl, rfl⟩ | cases h
    case offeredUpgrade _ request? => cases request? <;> first | exact ⟨rfl, rfl, rfl, rfl, rfl, rfl, rfl⟩ | cases h
    all_goals first | exact ⟨rfl, rfl, rfl, rfl, rfl, rfl, rfl⟩ | cases h

theorem filterMap_relays {α : Type} {f : Incident → Option α} (hf : ∀ {i : Incident}, i.isRelay = false → f i = none) :
    (relays log).filterMap f = log.filterMap f := by
  refine List.filterMap_filter.trans (List.filterMap_congr fun i _ => ?_)
  cases hi : i.isRelay
  case false => simp [hf hi]
  case true  => rfl

end Incident

theorem received_relays : received (Incident.relays log) = received log :=
  Incident.filterMap_relays fun h => (Incident.none_of_not_isRelay h).2.1

theorem handed_relays : handed (Incident.relays log) = handed log :=
  Incident.filterMap_relays fun h => (Incident.none_of_not_isRelay h).2.2.1

theorem answer_relays : answer (Incident.relays log) = Incident.relays (answer log) := by
  have hr (i : Incident) : (i.isRelay && i.isUpgradeRequest) = i.isUpgradeRequest := by
    cases hi : i.isRelay <;> simp [hi, Incident.none_of_not_isRelay]
  have he (i : Incident) : (!i.isRelay || !i.isUpgradeEnd) = !i.isUpgradeEnd := by
    cases hi : i.isRelay <;> simp [hi, Incident.none_of_not_isRelay]
  simp only [answer, Incident.relays, List.any_filter, List.dropWhile_filter, hr, he]
  split <;> rfl

-- Nothing else in the log of a call is about its response.
theorem Relayed.of_relays (h : Relayed id leg cluster (Incident.relays log)) : Relayed id leg cluster log where
  codec     := by
    rw [← h.codec, Incident.filterMap_relays fun h => (Incident.none_of_not_isRelay h).1]
  chunks    := by rw [← handed_relays, h.chunks, answer_relays, received_relays]
  announced := by
    rw [← handed_relays, ← h.announced, Incident.filterMap_relays fun h => (Incident.none_of_not_isRelay h).2.2.2.1]
  undecided := by
    rw [← handed_relays]
    exact h.undecided
  sized     := by
    rw [← handed_relays, ← received_relays, ← h.sized,
      Incident.filterMap_relays fun h => (Incident.none_of_not_isRelay h).2.2.2.2.1]

theorem relays_releaseEffects {close : Bool} : Incident.relays ((call.releaseEffects close).map .did) = [] := by
  simp [Incident.relays_did]

-- The log of a call, with anything after that which has nothing to do with the response.
theorem Life.relays (life : Life c id o phase log call) (is : List Incident) (hn : Incident.relays is = []) :
    (o.log (log ++ is)).Relays id := by
  refine ⟨o.route, o.leg, rfl, .of_relays ?_⟩
  have hl : Incident.relays (log ++ is) = Incident.relays log := by simp only [List.filter_append, hn, List.append_nil]
  exact hl ▸ life.relay.relayed

theorem Chronicle.Follows.relays {ch : Chronicle} {r : Router} (h : ch.Follows c id r phase) :
    ∀ log ∈ ch.logs, log.Relays id := by
  intro log hl
  obtain ⟨o, _, call, is, rest, rfl, life, rfl | rfl⟩ := h.exists_life hl
  · exact life.relays [] rfl
  · exact life.relays _ relays_releaseEffects

variable {table : RouteTable} {r : Router}

-- What every call of a run relays, whether it has ended or not. Nothing comes from a cluster otherwise.
theorem Run.logs_relay (run : Run c id table r phase turns) :
    (∀ log ∈ (Chronicle.ofTurns turns).logs, log.Relays id) ∧
    ∀ i ∈ (Chronicle.ofTurns turns).outside, i.isRelay = false :=
  ⟨run.follows.relays, fun i hi => (run.follows.outside i hi).not_isRelay⟩

namespace Relay

-- The reply to an upgrade request ends with a line feed, and a response with a zero byte.
def surroundings : Surroundings :=
  { Surroundings.plain fun _ _ => .pending with
    downstream _ _ := ⟨.framed, .twitter⟩
    upgradeRequest? _ _ _ state := if state.upgraded then none else some [0x75]
    readUpgrade _ _ bytes := ⟨bytes.getLast? = some 0x0a, []⟩
    readResponse _ _ bytes := ⟨if bytes.getLast? = some 0 then .complete else .more, []⟩ }

end Relay

-- The reply to the upgrade request and the response come in two chunks each. The response begins before the message
-- has ended.
theorem Run.logs_relay_upgrade :
    ∃ r turns, Run Relay.surroundings ⟨0⟩ (.toCluster "a") r .ended turns ∧
      (Chronicle.ofTurns turns).logs.map (handed ·.incidents) = [[([3], .more), ([4, 5, 0], .complete)]] ∧
      (Chronicle.ofTurns turns).logs.map (·.incidents.filterMap (·.size?)) = [[("a", some 7)]] ∧
      (∀ log ∈ (Chronicle.ofTurns turns).logs, log.Relays ⟨0⟩) ∧
      ∀ i ∈ (Chronicle.ofTurns turns).outside, i.isRelay = false := by
  let c := Relay.surroundings
  let x₁ := Router.handle c { id := ⟨0⟩, table := .toCluster "a" } (.event (.messageBegin (.call "ping"))) {}
  let x₂ := x₁.1.handle c (.event (.poolReady ⟨7⟩ ⟨"10.0.0.1:9090"⟩)) x₁.2
  let x₃ := x₂.1.handle c (.event (.clusterData [1] false)) x₂.2
  let x₄ := x₃.1.handle c (.event (.clusterData [2, 0x0a] false)) x₃.2
  let x₅ := x₄.1.handle c (.event (.clusterData [3] false)) x₄.2
  let x₆ := x₅.1.handle c (.event .messageEnd) x₅.2
  let x₇ := x₆.1.handle c (.event (.clusterData [4, 5, 0] false)) x₆.2
  have run₁ : Run c ⟨0⟩ (.toCluster "a") x₁.1 .body _ := .turn .start (.decode rfl rfl) x₁.eta.symm
  have run₂ : Run c ⟨0⟩ (.toCluster "a") x₂.1 .body _ := .turn run₁ (.poolReady rfl) x₂.eta.symm
  have run₃ : Run c ⟨0⟩ (.toCluster "a") x₃.1 .body _ := .turn run₂ (.clusterData rfl) x₃.eta.symm
  have run₄ : Run c ⟨0⟩ (.toCluster "a") x₄.1 .body _ := .turn run₃ (.clusterData rfl) x₄.eta.symm
  have run₅ : Run c ⟨0⟩ (.toCluster "a") x₅.1 .body _ := .turn run₄ (.clusterData rfl) x₅.eta.symm
  have run₆ : Run c ⟨0⟩ (.toCluster "a") x₆.1 .ended _ := .turn run₅ (.decode rfl rfl) x₆.eta.symm
  have run₇ : Run c ⟨0⟩ (.toCluster "a") x₇.1 .ended _ := .turn run₆ (.clusterData rfl) x₇.eta.symm
  exact ⟨_, _, run₇, by decide +kernel, by decide +kernel, run₇.logs_relay⟩

end RpcProxy
