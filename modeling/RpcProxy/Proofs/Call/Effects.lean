import RpcProxy.Exchange.Call
import RpcProxy.Proofs.Exchange.Shared

namespace RpcProxy

-- What a failure means for the host. That it has too many connections is not its failure.
def ConnectionFailure.verdict? : ConnectionFailure → Option Verdict
  | overflow => none
  | timeout  => some .timedOut
  | _        => some .connectFailed

namespace Call

variable {c : Surroundings} {call : Call} {s : Shared} {id : ConnectionId} {host : Host}
  {reason : ConnectionFailure} {p : Effect → Bool} {close : Bool}

def timeEffects (call : Call) : List Effect :=
  if call.timed || !call.requestComplete then [] else [.sampled .requestTime call.cluster none]

def cancelEffects (call : Call) : List Effect :=
  if call.pending then [.cancelled call.pool] else []

def releaseEffects (call : Call) (close : Bool) : List Effect :=
  call.cancelEffects ++
    match call.connection? with
    | some id => (if close then [.closed id .noFlush] else []) ++ [.released id]
    | none    => []

def finishEffects (call : Call) : List Effect :=
  call.timeEffects ++ releases call.connection?

-- What a failure tells the caller, if somebody awaits a reply.
def answerEffect (call : Call) : ConnectionFailure → Effect
  | .overflow   =>
    .replied call.router (.internalError "upstream request: too many connections") true
  | .localClose => .resetDownstream call.router
  | _           =>
    if call.responseStarted then .resetDownstream call.router
    else .replied call.router (connectionFailure call.host?) true

def reportEffects (call : Call) (reason : ConnectionFailure) : List Effect :=
  (match reason with
    | .overflow => []
    | .timeout  => verdicts call.host? .timedOut
    | _         => verdicts call.host? .connectFailed) ++ [call.answerEffect reason]

def failEffects (call : Call) (reason : ConnectionFailure) : List Effect :=
  if call.message.isOneway then .resetDownstream call.router :: call.releaseEffects false
  else call.timeEffects ++ call.reportEffects reason ++ call.releaseEffects false

-- What a filter keeps of these effects is said once, for all filters. A lemma on one filter goes before.
@[simp]
theorem filter_timeEffects : call.timeEffects.filter p =
    if p (.sampled .requestTime call.cluster none) then call.timeEffects else [] := by
  unfold timeEffects
  split <;> simp [List.filter_cons]

@[simp]
theorem filter_cancelEffects :
    call.cancelEffects.filter p = if p (.cancelled call.pool) then call.cancelEffects else [] := by
  unfold cancelEffects
  split <;> simp [List.filter_cons]

theorem releaseEffects_eq : call.releaseEffects close =
    call.cancelEffects ++ (if close then closures call.connection? else []) ++ releases call.connection? := by
  cases hi : call.connection? <;> cases close <;> simp [releaseEffects, hi]

@[simp low]
theorem filter_releaseEffects : (call.releaseEffects close).filter p =
    call.cancelEffects.filter p ++ (if close then (closures call.connection?).filter p else []) ++
      (releases call.connection?).filter p := by
  rw [releaseEffects_eq]
  split <;> simp only [List.filter_append, List.filter_nil]

@[simp]
theorem filter_finishEffects : call.finishEffects.filter p =
    call.timeEffects.filter p ++ (releases call.connection?).filter p :=
  List.filter_append ..

-- Whether a failure resets the caller's connection. Otherwise the caller gets an exception.
def resets (call : Call) : ConnectionFailure → Bool
  | .overflow   => false
  | .localClose => true
  | _           => call.responseStarted

def exception (call : Call) : ConnectionFailure → Exception
  | .overflow => .internalError "upstream request: too many connections"
  | _         => connectionFailure call.host?

theorem answerEffect_eq : call.answerEffect reason =
    if call.resets reason then .resetDownstream call.router
    else .replied call.router (call.exception reason) true := by
  cases reason <;> rfl

theorem reportEffects_eq : call.reportEffects reason =
    reason.verdict?.toList.flatMap (verdicts call.host?) ++ [call.answerEffect reason] := by
  cases reason <;> simp [reportEffects, ConnectionFailure.verdict?]

@[simp low]
theorem filter_reportEffects : (call.reportEffects reason).filter p =
    reason.verdict?.toList.flatMap (fun v => (verdicts call.host? v).filter p) ++
      if call.resets reason then [Effect.resetDownstream call.router].filter p
      else [Effect.replied call.router (call.exception reason) true].filter p := by
  rw [reportEffects_eq, List.filter_append, List.filter_flatMap, answerEffect_eq]
  split <;> rfl

@[simp low]
theorem filter_failEffects : (call.failEffects reason).filter p =
    (if call.message.isOneway then [Effect.resetDownstream call.router].filter p
      else call.timeEffects.filter p ++ (call.reportEffects reason).filter p) ++
      (call.releaseEffects false).filter p := by
  unfold failEffects
  split
  · exact List.filter_append [_] _
  · simp only [List.filter_append]

theorem chargeTime_fst :
    (call.chargeTime s).1 = { call with timed := call.timed || call.requestComplete } := by
  cases call
  simp only [chargeTime]
  split
  case isTrue h  => cases Bool.or_eq_true_iff.mp h <;> simp_all
  case isFalse h => simp_all

@[simp]
theorem chargeTime_transcript : (call.chargeTime s).2.transcript = s.transcript ++ call.timeEffects := by
  unfold chargeTime timeEffects
  split <;> simp

@[simp]
theorem release_transcript :
    (call.release close s).2.transcript = s.transcript ++ call.releaseEffects close := by
  cases hp : call.pending <;> cases hi : call.connection? <;> cases close <;>
    simp [release, releaseEffects, cancelEffects, hp, hi]

theorem release_fst : (call.release close s).1 =
    { call with pending := false, connection? := none, stateRef? := none, upgradeReply := false } :=
  rfl

theorem finish_fst : (call.finish s).1 =
    { call with
      timed := call.timed || call.requestComplete, responseComplete := true, connection? := none,
      stateRef? := none, state := .complete } := by
  simp [finish, chargeTime_fst]

@[simp]
theorem finish_transcript : (call.finish s).2.transcript = s.transcript ++ call.finishEffects := by
  simp [finish, finishEffects, chargeTime_fst]

@[simp]
theorem abandon_transcript :
    (call.abandon s).2.transcript = s.transcript ++ call.releaseEffects true := by
  simp [abandon]

@[simp]
theorem report_transcript :
    (call.report reason s).transcript = s.transcript ++ call.reportEffects reason := by
  cases reason <;> simp [report, reportEffects, answerEffect]
  all_goals split <;> simp

@[simp]
theorem fail_transcript :
    (call.fail reason s).2.transcript = s.transcript ++ call.failEffects reason := by
  by_cases h : call.message.isOneway
  case pos =>
    simp only [fail, failEffects, h, if_true, release_transcript, Shared.emit_transcript,
      List.append_assoc]
    rfl
  case neg =>
    simp only [fail, failEffects, h, Bool.false_eq_true, if_false, release_transcript,
      report_transcript, chargeTime_transcript, chargeTime_fst, List.append_assoc]
    rfl

@[simp]
theorem lose_transcript :
    (call.lose reason s).2.transcript = s.transcript ++ call.failEffects reason := by
  cases hi : call.connection? <;> simp [lose, hi]

-- The connection ended before the response was complete. The call has let go of it when the failure is told.
def cutShortEffects (call : Call) : List Effect :=
  call.finishEffects ++
    if call.message.isOneway then .resetDownstream call.router :: call.cancelEffects
    else call.reportEffects .remoteClose ++ call.cancelEffects

-- The response cannot be decoded.
def breakOffEffects (call : Call) : List Effect :=
  verdicts call.host? .requestFailed ++ call.releaseEffects true ++
    if call.message.isOneway then [.resetDownstream call.router]
    else call.timeEffects ++ call.reportEffects .localClose

@[simp low]
theorem filter_cutShortEffects : call.cutShortEffects.filter p = call.finishEffects.filter p ++
    (if call.message.isOneway then [Effect.resetDownstream call.router].filter p
      else (call.reportEffects .remoteClose).filter p) ++ call.cancelEffects.filter p := by
  unfold cutShortEffects
  split
  · simp only [List.append_assoc, ← List.filter_append, List.singleton_append]
  · simp only [List.append_assoc, List.filter_append]

@[simp low]
theorem filter_breakOffEffects : call.breakOffEffects.filter p =
    (verdicts call.host? .requestFailed).filter p ++ (call.releaseEffects true).filter p ++
      if call.message.isOneway then [Effect.resetDownstream call.router].filter p
      else call.timeEffects.filter p ++ (call.reportEffects .localClose).filter p := by
  unfold breakOffEffects
  split <;> simp only [List.filter_append]

-- The time of a response is not recorded again.
theorem finish_timeEffects : (call.finish s).1.timeEffects = [] := by
  cases hc : call.requestComplete <;> simp [timeEffects, finish_fst, hc]

@[simp]
theorem cutShort_transcript : (call.cutShort s).2.transcript = s.transcript ++ call.cutShortEffects := by
  have hm : (call.finish s).1.message = call.message := by rw [finish_fst]
  have hr : (call.finish s).1.reportEffects .remoteClose = call.reportEffects .remoteClose := by
    rw [finish_fst]
    rfl
  have hc : (call.finish s).1.releaseEffects false = call.cancelEffects := by
    simp [finish_fst, releaseEffects, cancelEffects]
  have hd : (call.finish s).1.router = call.router := by rw [finish_fst]
  simp only [cutShort, fail_transcript, finish_transcript, cutShortEffects, failEffects,
    finish_timeEffects, hm, hr, hc, hd, List.append_assoc, List.nil_append]

@[simp]
theorem breakOff_transcript : (call.breakOff s).2.transcript = s.transcript ++ call.breakOffEffects := by
  have hc (s : Shared) : (call.abandon s).1.releaseEffects false = [] := by
    simp [abandon, release_fst, releaseEffects, cancelEffects]
  have hf (s : Shared) : (call.abandon s).1.failEffects .localClose =
      if call.message.isOneway then [.resetDownstream call.router]
      else call.timeEffects ++ call.reportEffects .localClose := by
    simp only [failEffects, hc, List.append_nil]
    rfl
  simp only [breakOff, fail_transcript, abandon_transcript, Shared.judge_transcript, breakOffEffects, hf,
    List.append_assoc]

theorem finish_isTerminal : (call.finish s).1.isTerminal := by
  simp [finish_fst, isTerminal, CallState.isTerminal]

theorem fail_isTerminal : (call.fail reason s).1.isTerminal := by
  simp only [fail]
  split
  · rfl
  · simp [isTerminal, release_fst, chargeTime_fst, CallState.isTerminal]

theorem cutShort_isTerminal : (call.cutShort s).1.isTerminal :=
  fail_isTerminal

theorem breakOff_isTerminal : (call.breakOff s).1.isTerminal :=
  fail_isTerminal

theorem lose_isTerminal : (call.lose reason s).1.isTerminal :=
  fail_isTerminal

-- The message with the sequence id that the request is given.
def numbered (call : Call) (s : Shared) : Message :=
  { call.message with
    sequenceId := match call.stateRef? with
      | some ref => (s.connections.state ref).nextSequence
      | none     => call.message.sequenceId }

def startEffects (c : Surroundings) (call : Call) (resume : Bool) (s : Shared) : List Effect :=
  let message := call.numbered s
  .encodedBegin call.router message (c.encodeBegin s.transcript call.router call.leg message) ::
    if resume then [.continued call.router] else []

@[simp]
theorem filter_startEffects {resume : Bool} : (call.startEffects c resume s).filter p =
    [Effect.encodedBegin call.router (call.numbered s)
      (c.encodeBegin s.transcript call.router call.leg (call.numbered s))].filter p ++
      if resume then [Effect.continued call.router].filter p else [] := by
  cases resume
  case false => exact (List.append_nil _).symm
  case true  => exact List.filter_append [_] _

@[simp]
theorem startRequest_transcript {resume : Bool} :
    (call.startRequest c resume s).2.transcript = s.transcript ++ call.startEffects c resume s := by
  cases hr : call.stateRef? <;> cases resume <;>
    simp [startRequest, startEffects, numbered, hr, Shared.takeSequence, ConnectionTable.takeSequence]

theorem startRequest_fst {resume : Bool} : (call.startRequest c resume s).1 =
    { call with
      message := call.numbered s,
      buffer := call.buffer ++ c.encodeBegin s.transcript call.router call.leg (call.numbered s),
      state := .inFlight } := by
  cases hr : call.stateRef? <;>
    simp [startRequest, numbered, hr, Shared.takeSequence, ConnectionTable.takeSequence]

def offerEffects (call : Call) (request? : Option Bytes) : List Effect :=
  if call.leg.encoding.supportsUpgrade then [.offeredUpgrade call.router request?] else []

@[simp]
theorem filter_offerEffects {request? : Option Bytes} : (call.offerEffects request?).filter p =
    if p (.offeredUpgrade call.router request?) then call.offerEffects request? else [] := by
  unfold offerEffects
  split <;> simp [List.filter_cons]

-- The request for an upgrade of a connection that is handed over.
def offered? (c : Surroundings) (call : Call) (id : ConnectionId) (host : Host) (s : Shared) :
    Option Bytes :=
  let (ref, table) := s.connections.getOrCreate id
  if call.leg.encoding.supportsUpgrade then
    c.upgradeRequest? (s.transcript ++ [.judged host .connected]) call.router call.leg (table.state ref)
  else none

-- The call with its connection.
def holding (call : Call) (id : ConnectionId) (host : Host) (ref : StateRef) : Call :=
  { call with pending := false, host? := some host, connection? := some id, stateRef? := some ref }

theorem connect_of_offer {request : Bytes} (h : call.offered? c id host s = some request) :
    call.connect c id host s =
      ({ call.holding id host (s.connections.getOrCreate id).1 with
          buffer := [], requestSize := call.requestSize + (call.buffer ++ request).length,
          upgradeReply := true, state := .upgrading },
        { connections := (s.connections.getOrCreate id).2,
          transcript := s.transcript ++
            .judged host .connected :: .offeredUpgrade call.router (some request) ::
              .wrote id (call.buffer ++ request) false :: releases call.connection? }) := by
  simp only [offered?] at h
  split at h
  case isTrue hu =>
    simp only [connect, upgradeRequest, hu, if_true, Shared.stateOf, Shared.emit, h]
    cases call.connection? <;> simp [holding, Shared.release, Shared.emit]
  case isFalse => simp at h

theorem connect_of_no_offer (h : call.offered? c id host s = none) :
    call.connect c id host s =
      (call.holding id host (s.connections.getOrCreate id).1).startRequest c call.pending
        { connections := (s.connections.getOrCreate id).2,
          transcript := s.transcript ++
            .judged host .connected :: call.offerEffects none ++ releases call.connection? } := by
  simp only [offered?] at h
  split at h
  case isTrue hu =>
    simp only [connect, upgradeRequest, hu, if_true, Shared.stateOf, Shared.emit, h]
    cases call.connection? <;> simp [holding, offerEffects, hu, Shared.release, Shared.emit]
  case isFalse hu =>
    simp only [connect, upgradeRequest, hu, Shared.stateOf, Shared.emit]
    cases call.connection? <;> simp [holding, offerEffects, hu, Shared.release, Shared.emit]

-- The request begins after all that concerns the connection.
theorem connect_transcript_of_no_offer (h : call.offered? c id host s = none) :
    ∃ s', (call.connect c id host s).2.transcript = s.transcript ++
      (.judged host .connected :: call.offerEffects none ++ releases call.connection? ++
        (call.holding id host (s.connections.getOrCreate id).1).startEffects c call.pending s') := by
  rw [connect_of_no_offer h, startRequest_transcript]
  simp only [List.append_assoc]
  exact ⟨_, rfl⟩

-- A body that is not copied is encoded.
theorem writeBody_shows {body : Bytes} {passthrough : Bool}
    (hp : ∀ bytes, p (.encodedBody call.router body bytes) = false) :
    s.Shows p (call.writeBody c body passthrough s).2 [] := by
  cases passthrough
  case true  => exact .refl s
  case false => exact .pass (.refl s) (hp _)

-- The request in one frame.
def frame (c : Surroundings) (call : Call) (s : Shared) : Bytes :=
  let closing := c.encodeEnd s.transcript call.router call.leg
  c.frame (s.transcript ++ [.encodedEnd call.router closing]) call.router call.leg call.message
    (call.buffer ++ closing)

def endEffects (c : Surroundings) (call : Call) (id : ConnectionId) (s : Shared) : List Effect :=
  let closing := c.encodeEnd s.transcript call.router call.leg
  [.encodedEnd call.router closing, .framed call.router (call.buffer ++ closing) (call.frame c s),
    .sampled .requestSize call.cluster (some (call.requestSize + (call.frame c s).length)),
    .wrote id (call.frame c s) false]

theorem endRequest_of_connection (h : call.connection? = some id) : call.endRequest c s =
    ({ call with
        buffer := [], requestSize := call.requestSize + (call.frame c s).length, requestComplete := true,
        state := .awaiting },
      { s with transcript := s.transcript ++ call.endEffects c id s }) := by
  simp [endRequest, h, endEffects, frame, Shared.emit]

theorem endRequest_shows (hp : ∀ id, (call.endEffects c id s).filter p = []) :
    s.Shows p (call.endRequest c s).2 [] := by
  cases h : call.connection?
  case none    =>
    have he : call.endRequest c s = (call, s) := by simp [endRequest, h]
    exact he ▸ .refl s
  case some id =>
    rw [endRequest_of_connection h]
    exact ⟨_, rfl, hp id⟩

def classifyEffects (c : Surroundings) (call : Call) (s : Shared) : List Effect :=
  match c.responseKind? s.transcript call.router with
  | some .reply     =>
    let first := .counted .responseReply (some call.cluster)
    if c.responseSucceeded (s.transcript ++ [first]) call.router then
      [first, .counted .replySuccess (some call.cluster)]
    else [first, .counted .replyError (some call.cluster)]
  | some .exception => [.counted .responseException (some call.cluster)]
  | _               => [.counted .responseInvalidKind (some call.cluster)]

-- A response is counted once or twice.
@[simp]
theorem filter_classifyEffects_eq_nil (hp : ∀ counter, p (.counted counter (some call.cluster)) = false) :
    (call.classifyEffects c s).filter p = [] := by
  unfold classifyEffects
  split
  case h_1 => dsimp only; split <;> simp [hp]
  all_goals simp [hp]

@[simp]
theorem classify_transcript :
    (call.classify c s).2.transcript = s.transcript ++ call.classifyEffects c s := by
  cases hk : c.responseKind? s.transcript call.router
  case none => simp only [classify, classifyEffects, hk, Shared.emit_transcript]
  case some kind =>
    cases kind
    case reply =>
      cases hs : c.responseSucceeded (s.transcript ++ [Effect.counted .responseReply (some call.cluster)])
        call.router
      all_goals simp [classify, classifyEffects, hk, hs]
    all_goals simp only [classify, classifyEffects, hk, Shared.emit_transcript]

def respondEffects (c : Surroundings) (call : Call) (s : Shared) : List Effect :=
  let size := .sampled .responseSize call.cluster (some call.responseSize)
  let succeeded := (call.classify c (s.emit size)).1
  size :: call.classifyEffects c (s.emit size) ++
    verdicts call.host? (if succeeded then .requestSucceeded else .requestFailed) ++ call.finishEffects

@[simp]
theorem filter_respondEffects : (call.respondEffects c s).filter p =
    let size := Effect.sampled .responseSize call.cluster (some call.responseSize)
    let verdict : Verdict := if (call.classify c (s.emit size)).1 then .requestSucceeded else .requestFailed
    [size].filter p ++ (call.classifyEffects c (s.emit size)).filter p ++ (verdicts call.host? verdict).filter p ++
      call.finishEffects.filter p := by
  dsimp only
  rw [← List.filter_append, ← List.filter_append, ← List.filter_append]
  rfl

@[simp]
theorem respond_transcript : (call.respond c s).2.transcript = s.transcript ++ call.respondEffects c s := by
  simp [respond, respondEffects]

theorem respond_isTerminal : (call.respond c s).1.isTerminal :=
  finish_isTerminal

-- The upgrade of the connection is complete.
def upgraded (c : Surroundings) (call : Call) (s : Shared) : Shared :=
  match call.stateRef? with
  | some ref =>
    let marks := c.marksUpgraded s.transcript call.router call.leg
    let s := s.emit (.completedUpgrade call.router)
    if marks then s.upgrade ref else s
  | none     => s

@[simp]
theorem upgraded_transcript : (call.upgraded c s).transcript =
    s.transcript ++ if call.stateRef?.isSome then [Effect.completedUpgrade call.router] else [] := by
  cases hr : call.stateRef? <;> simp only [upgraded, hr]
  case none => simp
  case some => split <;> simp

theorem readUpgrade_of_waiting {data : Bytes} {endStream : Bool}
    (h : (c.readUpgrade s.transcript call.router data).outcome = false) :
    (call.readUpgrade c data endStream s).2 = (call, s.emit (.readUpgrade call.router data false)) := by
  simp [readUpgrade, h]

-- The request begins, in vain if the connection has ended.
theorem readUpgrade_of_done {data : Bytes} {endStream : Bool}
    (h : (c.readUpgrade s.transcript call.router data).outcome = true) :
    (call.readUpgrade c data endStream s).2 =
      let (call', s') := { call with upgradeReply := false }.startRequest c true
        (call.upgraded c (s.emit (.readUpgrade call.router data true)))
      if endStream then call'.cutShort s' else (call', s') := by
  simp only [readUpgrade, h]
  rfl

-- The request that has waited for the upgrade.
def resume (c : Surroundings) (call : Call) (data : Bytes) (s : Shared) : Call × Shared :=
  { call with upgradeReply := false }.startRequest c true
    (call.upgraded c (s.emit (.readUpgrade call.router data true)))

def resumeEffects (c : Surroundings) (call : Call) (data : Bytes) (s : Shared) : List Effect :=
  .readUpgrade call.router data true :: (if call.stateRef?.isSome then [.completedUpgrade call.router] else []) ++
    { call with upgradeReply := false }.startEffects c true
      (call.upgraded c (s.emit (.readUpgrade call.router data true)))

@[simp]
theorem filter_resumeEffects {data : Bytes} : (call.resumeEffects c data s).filter p =
    [Effect.readUpgrade call.router data true].filter p ++
      (if call.stateRef?.isSome then [Effect.completedUpgrade call.router].filter p else []) ++
      ({ call with upgradeReply := false }.startEffects c true
        (call.upgraded c (s.emit (.readUpgrade call.router data true)))).filter p := by
  unfold resumeEffects
  split
  · simp only [← List.filter_append, List.singleton_append]
  · simp only [List.append_nil, ← List.filter_append, List.singleton_append]

theorem resume_transcript {data : Bytes} :
    (call.resume c data s).2.transcript = s.transcript ++ call.resumeEffects c data s := by
  simp [resume, resumeEffects]

theorem readUpgrade_eq_resume {data : Bytes} {endStream : Bool}
    (h : (c.readUpgrade s.transcript call.router data).outcome = true) :
    (call.readUpgrade c data endStream s).2 =
      if endStream then (call.resume c data s).1.cutShort (call.resume c data s).2 else call.resume c data s :=
  readUpgrade_of_done h

-- The decoder is told of a response with its first bytes.
def openEffects (call : Call) : List Effect :=
  if call.responseStarted then [] else [.startedResponse call.router call.leg]

@[simp]
theorem filter_openEffects : call.openEffects.filter p =
    if p (.startedResponse call.router call.leg) then call.openEffects else [] := by
  unfold openEffects
  split <;> simp [List.filter_cons]

def opened (call : Call) (s : Shared) : Shared :=
  { s with transcript := s.transcript ++ call.openEffects }

theorem readResponse_eq {data : Bytes} {endStream : Bool} :
    (call.readResponse c data endStream s).2 =
      let call' := { call with responseStarted := true }
      let status := (c.readResponse (call.opened s).transcript call.router data).outcome
      let s' := (call.opened s).emit (.readResponse call.router data status)
      match status with
      | .complete => call'.respond c s'
      | .broken   => call'.breakOff s'
      | .more     => if endStream then call'.cutShort s' else (call', s') := by
  have ho : (if call.responseStarted then s else s.emit (.startedResponse call.router call.leg)) =
      call.opened s := by
    cases hs : call.responseStarted <;> simp [opened, openEffects, hs, Shared.emit]
  cases hr : (c.readResponse (call.opened s).transcript call.router data).outcome <;>
    simp only [readResponse, ho, hr]

-- Bytes of the cluster go to one of the two readers.
theorem receive_eq {data : Bytes} {endStream : Bool} :
    (call.receive c data endStream s).2 =
      let call' := { call with responseSize := call.responseSize + data.length }
      if call.upgradeReply then (call'.readUpgrade c data endStream s).2
      else (call'.readResponse c data endStream s).2 := by
  cases hu : call.upgradeReply <;> simp only [receive, hu, Bool.false_eq_true, if_false, if_true]

end Call

end RpcProxy
