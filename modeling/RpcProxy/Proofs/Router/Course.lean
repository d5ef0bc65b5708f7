import RpcProxy.Proofs.Call.Dealings
import RpcProxy.Proofs.Router.Chronicle

namespace RpcProxy

def RouterEvent.isDealing : RouterEvent → Bool
  | messageBody _  => true
  | messageEnd     => true
  | poolReady ..   => true
  | poolFailure .. => true
  | _              => false

namespace Incident

def isDealing : Incident → Bool
  | told event => event.isDealing
  | did effect => effect.isDealing

def isBreak : Incident → Bool
  | told _     => false
  | did effect => effect.isBreak

-- The incidents that concern the connection of a call or its request.
abbrev dealings (log : List Incident) : List Incident :=
  log.filter (·.isDealing)

def breaks (log : List Incident) : Bool :=
  log.any (·.isBreak)

variable {log log' : List Incident} {event : RouterEvent} {es : List Effect}

theorem dealings_did : dealings (es.map .did) = (RpcProxy.dealings es).map .did :=
  List.filter_map ..

theorem dealings_told : dealings (.told event :: log) =
    (if event.isDealing then [.told event] else []) ++ dealings log := by
  cases he : event.isDealing <;> simp [dealings, isDealing, he]

theorem breaks_append : breaks (log ++ log') = (breaks log || breaks log') :=
  List.any_append

theorem breaks_told : breaks (.told event :: log) = breaks log :=
  rfl

theorem breaks_did : breaks (es.map .did) = RpcProxy.breaks es :=
  List.any_map

end Incident

-- The ways in which a connection is handed to a call.
inductive Handed (pool : PoolId) (k : ConnectionId) : List Incident → Prop
  | atOnce : Handed pool k [.did (.acquired pool (.ready k host))]
  | later : Handed pool k [.did (.acquired pool .pending), .told (.poolReady k host)]

-- The ways in which a connection is made ready for requests, with the upgrade request if there is one.
inductive Prepared (c : Surroundings) (id : RouterId) (leg : Leg) (k : ConnectionId) :
    Option Bytes → List Incident → Prop
  | plain (h : leg.encoding.supportsUpgrade = false) : Prepared c id leg k none []
  | ready (h : leg.encoding.supportsUpgrade) (hq : c.upgradeRequest? t id leg state = none) :
    Prepared c id leg k none [.did (.offeredUpgrade id none)]
  | upgraded (h : leg.encoding.supportsUpgrade) (hq : c.upgradeRequest? t id leg state = some q) :
    Prepared c id leg k (some q)
      [.did (.offeredUpgrade id (some q)), .did (.wrote k q false), .did (.completedUpgrade id)]

-- The chunks of a body, with the bytes that are made of them.
inductive Pieces (c : Surroundings) (id : RouterId) (leg : Leg) (passthrough : Bool) :
    List Bytes → Bytes → List Incident → Prop
  | none : Pieces c id leg passthrough [] [] []
  | copied (h : Pieces c id leg passthrough chunks body is) (verbatim : passthrough) :
    Pieces c id leg passthrough (chunks ++ [chunk]) (body ++ chunk) (is ++ [.told (.messageBody chunk)])
  | encoded (h : Pieces c id leg passthrough chunks body is) (verbatim : passthrough = false) (t : Transcript) :
    Pieces c id leg passthrough (chunks ++ [chunk]) (body ++ c.encodeBody t id leg chunk)
      (is ++ [.told (.messageBody chunk), .did (.encodedBody id chunk (c.encodeBody t id leg chunk))])

-- A request on a connection, as far as it has been encoded.
inductive Encoded (c : Surroundings) (id : RouterId) (o : Origin) (k : ConnectionId) (q? : Option Bytes)
    (message : Message) : Bytes → List Incident → Prop
  | mk (handed : Handed o.pool k hs) (prepared : Prepared c id o.leg k q? ps)
      (numbered : message = { o.sent with sequenceId := (n : Nat) }) (t : Transcript)
      (pieces : Pieces c id o.leg o.passthrough chunks body bs) :
    Encoded c id o k q? message (c.encodeBegin t id o.leg message ++ body)
      (hs ++ ps ++ .did (.encodedBegin id message (c.encodeBegin t id o.leg message)) :: bs)

-- A request that has been written in one frame. Its size includes that of the upgrade request.
inductive Sent (c : Surroundings) (id : RouterId) (o : Origin) (k : ConnectionId) (q? : Option Bytes)
    (message : Message) : List Incident → Prop
  | mk (encoded : Encoded c id o k q? message request is) (he : closing = c.encodeEnd t id o.leg)
      (hf : frame = c.frame t' id o.leg message (request ++ closing))
      (hn : size = (q?.map List.length).getD 0 + frame.length) :
    Sent c id o k q? message
      (is ++ [.told .messageEnd, .did (.encodedEnd id closing), .did (.framed id (request ++ closing) frame),
        .did (.sampled .requestSize o.route.cluster (some size)), .did (.wrote k frame false)])

-- A call with a connection.
structure Call.Has (call : Call) (k : ConnectionId) : Prop where
  handed     : call.pending = false
  connection : call.connection? = some k
  state      : call.stateRef?.isSome

-- How far a call has come that has not ended, with what it has done about its request.
inductive Stage (c : Surroundings) (id : RouterId) (o : Origin) (call : Call) : Phase → List Incident → Prop
  | acquiring (state : call.state = .acquiring) (pending : call.pending) (connection : call.connection? = none)
      (reply : call.upgradeReply = false) (buffer : call.buffer = []) (size : call.requestSize = 0) :
    Stage c id o call .body [.did (.acquired o.pool .pending)]
  | upgrading (state : call.state = .upgrading) (has : call.Has k) (reply : call.upgradeReply)
      (buffer : call.buffer = []) (size : call.requestSize = q.length) (handed : Handed o.pool k hs)
      (offer : o.leg.encoding.supportsUpgrade) (hq : c.upgradeRequest? t id o.leg st = some q) :
    Stage c id o call .body (hs ++ [.did (.offeredUpgrade id (some q)), .did (.wrote k q false)])
  | inFlight (state : call.state = .inFlight) (has : call.Has k) (reply : call.upgradeReply = false)
      (size : call.requestSize = (q?.map List.length).getD 0)
      (encoded : Encoded c id o k q? call.message call.buffer is) :
    Stage c id o call .body is
  | awaiting (state : call.state = .awaiting) (has : call.Has k) (reply : call.upgradeReply = false)
      (ended : phase ≠ .body) (sent : Sent c id o k q? call.message is) :
    Stage c id o call phase is

-- What a call that has ended has done about its request. In the end it has let go of its connection.
inductive Settled (c : Surroundings) (id : RouterId) (o : Origin) (closes : Bool) : List Incident → Prop
  | refused : Settled c id o closes [.did (.acquired o.pool (.failed reason host?))]
  | failed : Settled c id o closes [.did (.acquired o.pool .pending), .told (.poolFailure reason host?)]
  | cancelled (abandoned : closes) :
    Settled c id o closes [.did (.acquired o.pool .pending), .did (.cancelled o.pool)]
  | released (stage : Stage c id o call phase is) (has : call.Has k) :
    Settled c id o closes (is ++ (if closes then [.did (.closed k .noFlush)] else []) ++ [.did (.released k)])

-- A call in which everything but its progress is as in the beginning.
structure Call.Stems (call : Call) (o : Origin) (id : RouterId) : Prop where
  router  : call.router = id
  cluster : call.cluster = o.route.cluster
  pool    : call.pool = o.pool
  leg     : call.leg = o.leg
  message : ∃ n, call.message = { o.sent with sequenceId := n }

-- What becomes by an operation of a call that has done some things about its request before.
inductive Call.Proceeds (c : Surroundings) (id : RouterId) (o : Origin) (phase : Phase) (is : List Incident)
    (s : Shared) (x : Call × Shared) : Prop
  | goesOn (es : List Effect) (ht : x.2.transcript = s.transcript ++ es) (stems : x.1.Stems o id)
      (stage : Stage c id o x.1 phase (is ++ (dealings es).map .did)) (unbroken : breaks es = false)
  | settles (es : List Effect) (ht : x.2.transcript = s.transcript ++ es) (dead : x.1.isTerminal)
      (settled : Settled c id o (breaks es) (is ++ (dealings es).map .did))

variable {c : Surroundings} {id : RouterId} {o : Origin} {phase phase' : Phase} {call call' : Call}
  {is : List Incident} {s s' : Shared} {es : List Effect} {k : ConnectionId} {host : Host}

theorem Encoded.extend {q? : Option Bytes} {message : Message} {request bytes : Bytes} {js : List Incident}
    (h : Encoded c id o k q? message request is)
    (piece : ∀ {chunks body bs}, Pieces c id o.leg o.passthrough chunks body bs →
      ∃ chunks', Pieces c id o.leg o.passthrough chunks' (body ++ bytes) (bs ++ js)) :
    Encoded c id o k q? message (request ++ bytes) (is ++ js) := by
  cases h
  case mk handed prepared numbered t pieces =>
    obtain ⟨_, pieces⟩ := piece pieces
    simpa using Encoded.mk handed prepared numbered t pieces

-- Only a request in flight takes events of the decoder before its end.
theorem Stage.of_ready (stage : Stage c id o call .body is) (ready : call.isPaused = false) :
    ∃ k q?, call.Has k ∧ call.upgradeReply = false ∧ call.requestSize = (q?.map List.length).getD 0 ∧
      call.state = .inFlight ∧ Encoded c id o k q? call.message call.buffer is := by
  cases stage
  case acquiring state _ _ _ _ _             => simp [Call.isPaused, state] at ready
  case upgrading state _ _ _ _ _ _ _         => simp [Call.isPaused, state] at ready
  case awaiting ended _                      => exact absurd rfl ended
  case inFlight state has reply size encoded => exact ⟨_, _, has, reply, size, state, encoded⟩

theorem Stage.has (stage : Stage c id o call phase is) (connected : call.connection?.isSome) :
    ∃ k, call.Has k := by
  cases stage
  case acquiring connection _ _ _      => simp [connection] at connected
  case upgrading has _ _ _ _ _ _       => exact ⟨_, has⟩
  case inFlight has _ _ _              => exact ⟨_, has⟩
  case awaiting has _ _ _              => exact ⟨_, has⟩

theorem Stage.of_pending (stage : Stage c id o call phase is) (pending : call.pending) :
    phase = .body ∧ is = [.did (.acquired o.pool .pending)] ∧ call.connection? = none ∧
      call.upgradeReply = false ∧ call.buffer = [] ∧ call.requestSize = 0 := by
  cases stage
  case acquiring _ connection reply buffer size => exact ⟨rfl, rfl, connection, reply, buffer, size⟩
  case upgrading has _ _ _ _ _ _                => simp [has.handed] at pending
  case inFlight has _ _ _                       => simp [has.handed] at pending
  case awaiting has _ _ _                       => simp [has.handed] at pending

-- A message that has ended was written.
theorem Stage.of_ended (stage : Stage c id o call .ended is) :
    ∃ k, call.Has k ∧ Stage c id o call .between is := by
  cases stage
  case awaiting state has reply _ sent => exact ⟨_, has, .awaiting state has reply nofun sent⟩

-- The bytes of a response make no difference to the request.
theorem Stage.received (stage : Stage c id o call phase is) (size : Nat) (started : Bool) :
    Stage c id o { call with responseSize := size, responseStarted := started } phase is := by
  cases stage
  case acquiring state pending connection reply buffer size =>
    exact .acquiring state pending connection reply buffer size
  case upgrading state has reply buffer size handed offer hq =>
    exact .upgrading state ⟨has.handed, has.connection, has.state⟩ reply buffer size handed offer hq
  case inFlight state has reply size encoded =>
    exact .inFlight state ⟨has.handed, has.connection, has.state⟩ reply size encoded
  case awaiting state has reply ended sent =>
    exact .awaiting state ⟨has.handed, has.connection, has.state⟩ reply ended sent

namespace Call

-- An operation is judged together with what the call has done just before.
theorem Proceeds.after {x : Call × Shared} (es : List Effect)
    (h : Proceeds c id o phase (is ++ (dealings es).map .did) s' x) (ht : s'.transcript = s.transcript ++ es)
    (hb : breaks es = false) : Proceeds c id o phase is s x := by
  cases h
  case goesOn es' ht' stems stage unbroken =>
    refine .goesOn (es ++ es') (by rw [ht', ht, List.append_assoc]) stems ?_ (by simp [hb, unbroken])
    simpa using stage
  case settles es' ht' dead settled =>
    refine .settles (es ++ es') (by rw [ht', ht, List.append_assoc]) dead ?_
    simpa [hb] using settled

theorem Has.releaseEffects {close : Bool} (h : call.Has k) : call.releaseEffects close =
    (if close then [.closed k .noFlush] else []) ++ [.released k] := by
  simp [Call.releaseEffects, cancelEffects, h.handed, h.connection]

-- An operation that ends a call with a connection.
theorem Proceeds.of_end {x : Call × Shared} (es : List Effect) (stage : Stage c id o call phase is) (has : call.Has k)
    (ht : x.2.transcript = s.transcript ++ es) (dead : x.1.isTerminal)
    (hd : dealings es = call.releaseEffects (breaks es)) : Proceeds c id o phase' is s x := by
  have settled : Settled c id o (breaks es) _ := .released stage has
  refine .settles es ht dead ?_
  rw [hd, has.releaseEffects]
  cases hb : breaks es <;> simpa [hb] using settled

theorem lose_proceeds (reason : ConnectionFailure) (s : Shared) (stage : Stage c id o call phase is)
    (has : call.Has k) : Proceeds c id o phase' is s (call.lose reason s) :=
  .of_end _ stage has lose_transcript lose_isTerminal (by simp [breaks_of_readings])

theorem finish_proceeds (s : Shared) (stage : Stage c id o call phase is) (has : call.Has k) :
    Proceeds c id o phase' is s (call.finish s) :=
  .of_end _ stage has finish_transcript finish_isTerminal
    (by simp [breaks_of_readings, has.releaseEffects, has.connection])

theorem cutShort_proceeds (s : Shared) (stage : Stage c id o call phase is) (has : call.Has k) :
    Proceeds c id o phase' is s (call.cutShort s) := by
  refine .of_end _ stage has cutShort_transcript cutShort_isTerminal ?_
  simp [breaks_of_readings, has.releaseEffects, has.connection, cancelEffects, has.handed]

theorem respond_proceeds (s : Shared) (stage : Stage c id o call phase is) (has : call.Has k) :
    Proceeds c id o phase' is s (call.respond c s) := by
  have hr : readings (call.respondEffects c s) = [] := by simp
  refine .of_end _ stage has respond_transcript respond_isTerminal ?_
  simp [breaks_of_readings hr, has.releaseEffects, has.connection]

-- The pool has no connection for the call.
theorem failToConnect_proceeds (reason : ConnectionFailure) (host? : Option Host) (s : Shared)
    (hi : call.connection? = none) (settled : Settled c id o false is) :
    Proceeds c id o phase is s (call.failToConnect reason host? s) := by
  have hn : { call with pending := false, host? := host?.or call.host? }.releaseEffects false = [] := by
    simp [Call.releaseEffects, cancelEffects, hi]
  refine .settles _ fail_transcript fail_isTerminal ?_
  simpa [hn, breaks_of_readings] using settled

theorem Stems.numbered (h : call.Stems o id) (hr : call.stateRef?.isSome) (s : Shared) :
    ∃ n : Nat, call.numbered s = { o.sent with sequenceId := (n : Nat) } := by
  obtain ⟨ref, hr⟩ := Option.isSome_iff_exists.mp hr
  obtain ⟨n, hm⟩ := h.message
  exact ⟨(s.connections.state ref).nextSequence, by simp [Call.numbered, hr, hm]⟩

theorem startRequest_proceeds (q? : Option Bytes) {hs ps : List Incident} (resume : Bool) (s : Shared)
    (stems : call.Stems o id) (has : call.Has k) (reply : call.upgradeReply = false) (buffer : call.buffer = [])
    (size : call.requestSize = (q?.map List.length).getD 0) (handed : Handed o.pool k hs)
    (prepared : Prepared c id o.leg k q? ps) :
    Proceeds c id o .body (hs ++ ps) s (call.startRequest c resume s) := by
  obtain ⟨n, hm⟩ := stems.numbered has.state s
  have encoded := Encoded.mk handed prepared hm s.transcript .none
  refine .goesOn _ startRequest_transcript ?_ ?_ (breaks_of_readings aside_startEffects.unread)
  all_goals rw [startRequest_fst]
  · exact ⟨stems.router, stems.cluster, stems.pool, stems.leg, n, hm⟩
  · refine .inFlight rfl ⟨has.handed, has.connection, has.state⟩ reply size ?_
    simpa [buffer, stems.router, stems.leg] using encoded

-- The codec is asked for an upgrade request where the encoding knows upgrades.
theorem Stems.offered {request? : Option Bytes} (stems : call.Stems o id)
    (h : call.offered? c k host s = request?) :
    o.leg.encoding.supportsUpgrade = false ∧ request? = none ∨
    o.leg.encoding.supportsUpgrade ∧ ∃ t state, c.upgradeRequest? t id o.leg state = request? := by
  simp only [offered?, stems.leg, stems.router] at h
  cases offer : o.leg.encoding.supportsUpgrade <;> simp only [offer, Bool.false_eq_true, if_false, if_true] at h
  case false => exact .inl ⟨rfl, h.symm⟩
  case true  => exact .inr ⟨rfl, _, _, h⟩

-- A connection that needs no upgrade takes the request at once.
theorem Stems.prepared (stems : call.Stems o id) (h : call.offered? c k host s = none) :
    Prepared c id o.leg k none ((call.offerEffects none).map .did) := by
  cases stems.offered h
  case inl h =>
    have offer := h.1
    simpa [offerEffects, stems.leg, offer] using Prepared.plain offer
  case inr h =>
    obtain ⟨offer, t, state, hq⟩ := h
    simpa [offerEffects, stems.leg, stems.router, offer] using Prepared.ready offer hq

theorem connect_proceeds {hs : List Incident} (host : Host) (s : Shared) (stems : call.Stems o id)
    (connection : call.connection? = none) (reply : call.upgradeReply = false) (buffer : call.buffer = [])
    (size : call.requestSize = 0) (handed : Handed o.pool k hs) :
    Proceeds c id o .body hs s (call.connect c k host s) := by
  cases ho : call.offered? c k host s
  case some q =>
    obtain ⟨offer, t, state, hq⟩ := (stems.offered ho).resolve_left (by simp)
    rw [connect_of_offer ho]
    refine .goesOn _ rfl ⟨stems.router, stems.cluster, stems.pool, stems.leg, stems.message⟩ ?_ ?_
    · let upgrading : Call := { call.holding k host (s.connections.getOrCreate k).1 with
        buffer := [], requestSize := call.requestSize + (call.buffer ++ q).length, upgradeReply := true,
        state := .upgrading }
      have stage : Stage c id o upgrading .body _ :=
        .upgrading rfl ⟨rfl, rfl, rfl⟩ rfl rfl (by simp [upgrading, buffer, size]) handed offer hq
      simpa [upgrading, stems.router, buffer, connection] using stage
    · simp [connection]
  case none =>
    let held := call.holding k host (s.connections.getOrCreate k).1
    have stems' : held.Stems o id := ⟨stems.router, stems.cluster, stems.pool, stems.leg, stems.message⟩
    have proceeds (s : Shared) := startRequest_proceeds none call.pending s stems' ⟨rfl, rfl, rfl⟩ reply
      buffer size handed (stems.prepared ho)
    rw [connect_of_no_offer ho]
    have hd : dealings (.judged host .connected :: call.offerEffects none ++ releases call.connection?) =
        call.offerEffects none := by
      simp [connection]
    have unread : readings (.judged host .connected :: call.offerEffects none ++ releases call.connection?) = [] := by
      simp
    exact .after (.judged host .connected :: call.offerEffects none ++ releases call.connection?)
      (hd.symm ▸ proceeds _) (by simp) (breaks_of_readings unread)

-- A new call has a connection, waits for one, or has ended.
theorem begin_proceeds (o : Origin) (c : Surroundings) (id : RouterId) (s : Shared) :
    Proceeds c id o .body [] s (o.begin c id s) := by
  have stems : (o.call id).Stems o id := ⟨rfl, rfl, rfl, rfl, o.sent.sequenceId, rfl⟩
  have h : Proceeds c id o .body [] (s.emit (.madeCodec id o.leg)) (o.begin c id s) := by
    cases ha : c.acquire (s.emit (.madeCodec id o.leg)).transcript (o.call id).pool <;>
      simp only [Origin.begin, start, ha]
    case pending             =>
      exact .goesOn [.acquired o.pool .pending] rfl ⟨rfl, rfl, rfl, rfl, stems.message⟩
        (.acquiring rfl rfl rfl rfl rfl rfl) rfl
    case ready k host        =>
      exact .after [.acquired o.pool (.ready k host)]
        (connect_proceeds host _ stems rfl rfl rfl rfl .atOnce) rfl rfl
    case failed reason host? =>
      exact .after [.acquired o.pool (.failed reason host?)]
        (failToConnect_proceeds reason host? _ rfl .refused) rfl rfl
  exact .after [.madeCodec id o.leg] h rfl rfl

theorem writeBody_proceeds (body : Bytes) (s : Shared) (stems : call.Stems o id) (ready : call.isPaused = false)
    (stage : Stage c id o call .body is) :
    Proceeds c id o .body (is ++ [.told (.messageBody body)]) s (call.writeBody c body o.passthrough s) := by
  obtain ⟨k, q?, has, reply, size, state, encoded⟩ := stage.of_ready ready
  have ⟨router, cluster, pool, leg, message⟩ := stems
  have stems (bytes : Bytes) : { call with buffer := bytes }.Stems o id := ⟨router, cluster, pool, leg, message⟩
  cases verbatim : o.passthrough
  case true  =>
    have stage : Stage c id o { call with buffer := call.buffer ++ body } .body
        (is ++ [.told (.messageBody body)]) :=
      .inFlight state ⟨has.handed, has.connection, has.state⟩ reply size
        (encoded.extend fun h => ⟨_, h.copied verbatim⟩)
    have hw : call.writeBody c body true s = ({ call with buffer := call.buffer ++ body }, s) := rfl
    rw [hw]
    exact .goesOn [] (List.append_nil _).symm (stems _) (by simpa using stage) rfl
  case false =>
    let bytes := c.encodeBody s.transcript id o.leg body
    have stage : Stage c id o { call with buffer := call.buffer ++ bytes } .body
        (is ++ [.told (.messageBody body), .did (.encodedBody id body bytes)]) :=
      .inFlight state ⟨has.handed, has.connection, has.state⟩ reply size
        (encoded.extend fun h => ⟨_, h.encoded verbatim s.transcript⟩)
    have hw : call.writeBody c body false s =
        ({ call with buffer := call.buffer ++ bytes }, s.emit (.encodedBody id body bytes)) := by
      simp [writeBody, bytes, router, leg]
    rw [hw]
    exact .goesOn [.encodedBody id body bytes] rfl (stems _) (by simpa using stage) rfl

theorem endRequest_proceeds (s : Shared) (stems : call.Stems o id) (ready : call.isPaused = false)
    (stage : Stage c id o call .body is) :
    Proceeds c id o .ended (is ++ [.told .messageEnd]) s (call.endRequest c s) := by
  obtain ⟨k, q?, has, reply, size, _, encoded⟩ := stage.of_ready ready
  have hf : call.frame c s = c.frame (s.transcript ++ [.encodedEnd id (c.encodeEnd s.transcript id o.leg)]) id o.leg
      call.message (call.buffer ++ c.encodeEnd s.transcript id o.leg) := by
    simp [frame, stems.router, stems.leg]
  have sent : Sent c id o k q? call.message (is ++ .told .messageEnd :: (call.endEffects c k s).map .did) := by
    simpa [endEffects, stems.router, stems.leg, stems.cluster, size] using Sent.mk encoded rfl hf rfl
  let awaiting : Call := { call with
    buffer := [], requestSize := call.requestSize + (call.frame c s).length, requestComplete := true,
    state := .awaiting }
  have stage : Stage c id o awaiting .ended _ :=
    .awaiting rfl ⟨has.handed, has.connection, has.state⟩ reply (by simp) sent
  rw [endRequest_of_connection has.connection]
  refine .goesOn _ rfl ⟨stems.router, stems.cluster, stems.pool, stems.leg, stems.message⟩ ?_ rfl
  simpa [endEffects] using stage

theorem Stems.received (h : call.Stems o id) (size : Nat) (started : Bool) :
    { call with responseSize := size, responseStarted := started }.Stems o id :=
  ⟨h.router, h.cluster, h.pool, h.leg, h.message⟩

theorem Has.received (h : call.Has k) (size : Nat) (started : Bool) :
    { call with responseSize := size, responseStarted := started }.Has k :=
  ⟨h.handed, h.connection, h.state⟩

-- The request begins on the connection that has just been upgraded, in vain if the connection has ended.
theorem resume_proceeds {q : Bytes} {hs ps : List Incident} (endStream : Bool) (s : Shared)
    (stems : call.Stems o id) (has : call.Has k) (reply : call.upgradeReply = false) (buffer : call.buffer = [])
    (size : call.requestSize = q.length) (handed : Handed o.pool k hs)
    (prepared : Prepared c id o.leg k (some q) ps) :
    Proceeds c id o .body (hs ++ ps) s
      (if endStream then (call.startRequest c true s).1.cutShort (call.startRequest c true s).2
        else call.startRequest c true s) := by
  have h := startRequest_proceeds (some q) true s stems has reply buffer size handed prepared
  have has : (call.startRequest c true s).1.Has k := by
    rw [startRequest_fst]
    exact ⟨has.handed, has.connection, has.state⟩
  cases endStream
  case false => exact h
  case true  =>
    cases h
    case goesOn ht _ stage unbroken => exact .after _ (cutShort_proceeds _ stage has) ht unbroken
    case settles dead _             => simp [startRequest_fst, isTerminal, CallState.isTerminal] at dead

theorem readUpgrade_proceeds (data : Bytes) (endStream : Bool) (s : Shared) (stems : call.Stems o id)
    (reply : call.upgradeReply) (stage : Stage c id o call phase is) :
    Proceeds c id o phase is s (call.readUpgrade c data endStream s).2 := by
  cases stage
  case acquiring reply' _ _   => simp [reply] at reply'
  case inFlight reply' _ _    => simp [reply] at reply'
  case awaiting reply' _ _    => simp [reply] at reply'
  case upgrading state has _ buffer size handed offer hq =>
    cases hd : (c.readUpgrade s.transcript call.router data).outcome
    case false =>
      rw [readUpgrade_of_waiting hd]
      refine .goesOn [.readUpgrade call.router data false] rfl stems ?_ rfl
      simpa using Stage.upgrading state has reply buffer size handed offer hq
    case true  =>
      have ht : (call.upgraded c (s.emit (.readUpgrade call.router data true))).transcript =
          s.transcript ++ [.readUpgrade id data true, .completedUpgrade id] := by
        simp [has.state, stems.router]
      have stems : { call with upgradeReply := false }.Stems o id :=
        ⟨stems.router, stems.cluster, stems.pool, stems.leg, stems.message⟩
      have h := resume_proceeds endStream (call.upgraded c (s.emit (.readUpgrade call.router data true))) stems
        ⟨has.handed, has.connection, has.state⟩ rfl buffer size handed (.upgraded offer hq)
      rw [readUpgrade_of_done hd]
      refine .after [.readUpgrade id data true, .completedUpgrade id] ?_ ht rfl
      simpa using h

theorem readResponse_proceeds (data : Bytes) (endStream : Bool) (s : Shared) (stems : call.Stems o id)
    (has : call.Has k) (stage : Stage c id o call phase is) :
    Proceeds c id o phase is s (call.readResponse c data endStream s).2 := by
  have stems := stems.received call.responseSize true
  have stage := stage.received call.responseSize true
  have has := has.received call.responseSize true
  rw [readResponse_eq]
  dsimp only
  generalize (c.readResponse (call.opened s).transcript call.router data).outcome = status
  let es : List Effect := call.openEffects ++ [.readResponse call.router data status]
  have ht : ((call.opened s).emit (.readResponse call.router data status)).transcript = s.transcript ++ es := by
    simp [opened, es]
  have hd : dealings es = [] := by simp [es]
  have ho : breaks call.openEffects = false := by
    unfold openEffects
    split <;> rfl
  have after {x : Call × Shared} (h : Proceeds c id o phase is
      ((call.opened s).emit (.readResponse call.router data status)) x) (hb : status ≠ .broken) :
      Proceeds c id o phase is s x :=
    .after es (by simpa [hd] using h) ht (by cases status <;> simp_all [es])
  cases status
  case complete => exact after (respond_proceeds _ stage has) (by simp)
  case more     =>
    cases endStream
    case false => exact after (.goesOn [] (List.append_nil _).symm stems (by simpa using stage) rfl) (by simp)
    case true  => exact after (cutShort_proceeds _ stage has) (by simp)
  case broken   =>
    have hb : breaks (es ++ { call with responseStarted := true }.breakOffEffects) := by simp [es]
    refine .of_end (es ++ { call with responseStarted := true }.breakOffEffects) stage has ?_
      breakOff_isTerminal ?_
    · rw [breakOff_transcript, ht, List.append_assoc]
    · rw [hb]
      simp [hd]

theorem receive_proceeds (data : Bytes) (endStream : Bool) (s : Shared) (stems : call.Stems o id)
    (has : call.Has k) (stage : Stage c id o call phase is) :
    Proceeds c id o phase is s (call.receive c data endStream s).2 := by
  have stems := stems.received (call.responseSize + data.length) call.responseStarted
  have stage := stage.received (call.responseSize + data.length) call.responseStarted
  have has := has.received (call.responseSize + data.length) call.responseStarted
  simp only [receive]
  split
  case isTrue reply => exact readUpgrade_proceeds data endStream s stems reply stage
  case isFalse      => exact readResponse_proceeds data endStream s stems has stage

theorem Takes.proceeds (takes : call.Takes c o.passthrough s phase event phase' y) (stems : call.Stems o id)
    (stage : Stage c id o call phase is) :
    Proceeds c id o phase' (is ++ if event.isDealing then [.told event] else []) s y := by
  cases takes
  case transportBegin ready =>
    exact .goesOn [] (List.append_nil _).symm stems (by simpa [RouterEvent.isDealing] using stage) rfl
  case messageBody body ready => exact writeBody_proceeds body s stems ready stage
  case messageEnd ready => exact endRequest_proceeds s stems ready stage
  case transportEnd ready twoway =>
    obtain ⟨k, has, stage⟩ := stage.of_ended
    exact .goesOn [] (List.append_nil _).symm stems (by simpa [RouterEvent.isDealing] using stage) rfl
  case finish ready oneway =>
    obtain ⟨k, has, stage⟩ := stage.of_ended
    simpa [RouterEvent.isDealing] using finish_proceeds s stage has
  case poolReady k host pending =>
    obtain ⟨rfl, rfl, connection, reply, buffer, size⟩ := stage.of_pending pending
    exact connect_proceeds host s stems connection reply buffer size .later
  case poolFailure reason host? pending =>
    obtain ⟨rfl, rfl, connection, _⟩ := stage.of_pending pending
    exact failToConnect_proceeds reason host? s connection .failed
  case clusterData data endStream connected =>
    obtain ⟨k, has⟩ := stage.has connected
    simpa [RouterEvent.isDealing] using receive_proceeds data endStream s stems has stage
  case remoteClose connected =>
    obtain ⟨k, has⟩ := stage.has connected
    simpa [RouterEvent.isDealing] using lose_proceeds .remoteClose s stage has
  case localClose connected =>
    obtain ⟨k, has⟩ := stage.has connected
    simpa [RouterEvent.isDealing] using lose_proceeds .localClose s stage has

end Call

-- An abandoned call cancels its acquisition, or it closes its connection.
theorem Stage.abandoned (stage : Stage c id o call phase is) (stems : call.Stems o id) :
    Settled c id o true (is ++ (call.releaseEffects true).map .did) := by
  have settled {k : ConnectionId} (has : call.Has k) :
      Settled c id o true (is ++ (call.releaseEffects true).map .did) := by
    have settled : Settled c id o true _ := .released stage has
    simpa [has.releaseEffects] using settled
  cases stage
  case acquiring _ pending connection _ _ _ =>
    have settled : Settled c id o true _ := .cancelled rfl
    simpa [Call.releaseEffects, Call.cancelEffects, pending, connection, stems.pool] using settled
  case upgrading has _ _ _ _ _ _ => exact settled has
  case inFlight has _ _ _        => exact settled has
  case awaiting has _ _ _        => exact settled has

theorem Stage.live (stage : Stage c id o call phase is) : call.isTerminal = false := by
  cases stage
  case acquiring state _ _ _ _ _     => simp [Call.isTerminal, state, CallState.isTerminal]
  case upgrading state _ _ _ _ _ _ _ => simp [Call.isTerminal, state, CallState.isTerminal]
  case inFlight state _ _ _ _        => simp [Call.isTerminal, state, CallState.isTerminal]
  case awaiting state _ _ _ _        => simp [Call.isTerminal, state, CallState.isTerminal]

-- A call with its log: it goes on, or it has ended and let go of what it had.
inductive Course (c : Surroundings) (id : RouterId) (o : Origin) (call : Call) (phase : Phase)
    (log : List Incident) : Prop
  | goesOn (stems : call.Stems o id) (stage : Stage c id o call phase (Incident.dealings log))
      (unbroken : Incident.breaks log = false)
  | settles (dead : call.isTerminal) (settled : Settled c id o (Incident.breaks log) (Incident.dealings log))

theorem Effect.not_isDealing_of_isRouting {e : Effect} (h : e.isRouting) : e.isDealing = false := by
  cases e <;> first | rfl | cases h

-- Nothing is done about a request before it has a pool.
theorem dealings_of_routing (h : ∀ e ∈ es, e.isRouting) : dealings es = [] :=
  filter_of_routing (fun _ => Effect.not_isDealing_of_isRouting) h

-- Nothing is done about a request while there is no call.
theorem Incident.IsOutside.not_isDealing {e : Effect} (h : (did e).IsOutside) : (did e).isDealing = false := by
  cases h
  case inl hr => exact Effect.not_isDealing_of_isRouting hr
  case inr hr => cases e <;> first | rfl | cases hr

theorem breaks_of_routing (h : ∀ e ∈ es, e.isRouting) : breaks es = false :=
  breaks_of_readings (aside_of_routing h).unread

theorem Call.Proceeds.course {x : Call × Shared} (log : List Incident) (event : RouterEvent) (routing : List Effect)
    (h : Proceeds c id o phase (Incident.dealings log ++ if event.isDealing then [.told event] else []) s x)
    (routed : ∀ e ∈ routing, e.isRouting) (unbroken : Incident.breaks log = false) :
    Course c id o x.1 phase (log ++ .told event :: (routing ++ s.since x.2).map .did) := by
  have hd (es : List Effect) : Incident.dealings (log ++ .told event :: (routing ++ es).map .did) =
      (Incident.dealings log ++ if event.isDealing then [.told event] else []) ++ (dealings es).map .did := by
    simp only [List.filter_append, Incident.dealings_told, Incident.dealings_did,
      dealings_of_routing routed, List.nil_append, List.append_assoc]
  have hb (es : List Effect) : Incident.breaks (log ++ .told event :: (routing ++ es).map .did) = breaks es := by
    simp [Incident.breaks_append, Incident.breaks_told, unbroken, Incident.breaks_did, breaks_of_routing routed]
  cases h
  case goesOn es ht stems stage hes =>
    rw [Shared.since_eq ht]
    exact .goesOn stems (hd es ▸ stage) ((hb es).trans hes)
  case settles es ht dead settled =>
    rw [Shared.since_eq ht]
    exact .settles dead (hb es ▸ hd es ▸ settled)

theorem Life.course (life : Life c id o phase log call) : Course c id o call phase log := by
  induction life
  case begins s routing routed =>
    exact Call.Proceeds.course [] (.messageBegin o.message) routing (Call.begin_proceeds o c id s) routed rfl
  case takes phase log call s event phase' y life live takes ih =>
    cases ih
    case goesOn stems stage unbroken =>
      exact (takes.proceeds stems stage).course log event [] (List.forall_mem_nil _) unbroken
    case settles dead _ => simp [live] at dead

-- The call under way is at some stage.
theorem Run.exists_stage {table : RouteTable} {r : Router} (run : Run c id table r phase turns)
    (hc : r.call? = some call) : ∃ o is, call.Stems o id ∧ Stage c id o call phase is := by
  obtain ⟨o, log, _, life, _⟩ := run.follows.busy hc
  cases life.course
  case goesOn stems stage _ => exact ⟨o, _, stems, stage⟩
  case settles dead _       => simp [run.serves.live hc] at dead

end RpcProxy
