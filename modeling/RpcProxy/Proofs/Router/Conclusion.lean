import RpcProxy.Proofs.Call.Continuation
import RpcProxy.Proofs.Router.Fate

namespace RpcProxy

-- A call that has not ended, with its log. So far it is only reported that it has a connection.
structure Call.Standing (call : Call) (log : List Incident) : Prop where
  host      : call.host? = log.findSome? (·.host?)
  connected : call.connection?.isSome = call.host?.isSome
  untimed   : call.timed = false
  complete  : call.requestComplete = (traffic log).ended
  reports   : reports (Incident.effects log) = verdicts call.host? .connected

-- The end of a call: the log before and after, and the call on the terms on which it ends.
structure Concludes (c : Surroundings) (id : RouterId) (o : Origin) (before after : List Incident) (call : Call)
    (fate : Fate) (succeeded : Bool) : Prop where
  router   : call.router = id
  cluster  : call.cluster = o.route.cluster
  oneway   : call.message.isOneway = o.message.isOneway
  standing : call.Standing before
  written  : (traffic before).isWritten = (traffic before).ended
  unended  : (traffic after).ended = false
  -- Only a call that never had a connection fails to get one.
  met      : fate ≠ .abandoned → call.host?.isNone = fate.isUnconnected
  unhanded : call.host? = none → after.findSome? (·.host?) = none
  -- A message is delivered after its end.
  complete : fate = .delivered → call.requestComplete
  closing  : reports (Incident.effects after) = call.closing succeeded fate
  success  : fate = .responded →
    (∃ t, succeeded = c.deemsSuccess (t ++ Incident.uncounted (before ++ after)) id o.route.cluster) ∧
      (succeeded ↔ .counted .replySuccess (some o.route.cluster) ∈ Incident.recent (before ++ after))

-- What a log comes to: the call stands, or it has ended with the latest event.
inductive Told (c : Surroundings) (id : RouterId) (o : Origin) (call : Call) (log : List Incident) : Prop
  | stands (live : call.isTerminal = false) (standing : call.Standing log)
  | ends (dead : call.isTerminal) (before : List Incident) (event : RouterEvent) (es : List Effect)
      (hl : log = before ++ .told event :: es.map .did) (fate : Fate) (hf : event.fate? es = some fate) (call' : Call)
      (succeeded : Bool) (h : Concludes c id o before (.told event :: es.map .did) call' fate succeeded)

-- An event that has nothing to do with the pool, nor with the end of a message.
def RouterEvent.isCommon : RouterEvent → Bool
  | messageBegin _ => false
  | messageEnd     => false
  | poolReady ..   => false
  | poolFailure .. => false
  | _              => true

variable {c : Surroundings} {id : RouterId} {o : Origin} {phase phase' : Phase} {call call' : Call}
  {s : Shared} {es : List Effect} {event : RouterEvent} {log before after is : List Incident} {y : Call × Shared}

theorem RouterEvent.not_isUnconnected {fate : Fate} (h : event.isCommon) (hf : event.fate? es = some fate) :
    fate.isUnconnected = false := by
  cases event <;> simp only [isCommon, Bool.false_eq_true] at h <;>
    simp only [fate?, reduceCtorEq, Option.some.injEq] at hf
  case clusterData data endStream =>
    cases hc : completes es <;> cases hb : breaks es <;> cases endStream <;> simp [hc, hb] at hf
    all_goals exact hf ▸ rfl
  all_goals exact hf ▸ rfl

theorem RouterEvent.eq_transportEnd (hf : event.fate? es = some .delivered) : event = .transportEnd := by
  cases event <;> simp only [fate?, reduceCtorEq, Option.some.injEq] at hf
  case messageBegin =>
    obtain ⟨e, hm, he⟩ := List.exists_of_findSome?_eq_some hf
    cases e
    case acquired pool answer => cases answer <;> cases he
    all_goals cases he
  case transportEnd => rfl
  case clusterData data endStream =>
    cases hc : completes es <;> cases hb : breaks es <;> cases endStream <;> simp [hc, hb] at hf

theorem traffic_told_ended (h : event ≠ .messageEnd) : (traffic (.told event :: es.map .did)).ended = false := by
  have he : (Incident.told event).traffic.ended = false := by
    cases event <;> first | rfl | exact absurd rfl h
  simp [traffic, Traffic.append, he, traffic_did_ended]

theorem Origin.sent_isOneway (o : Origin) : o.sent.isOneway = o.message.isOneway := by
  have hk : o.sent.kind? = o.message.kind? := by
    unfold sent
    split
    · exact Router.stripService_kind?
    · rfl
  simp only [Message.isOneway, hk]

-- Only a call without a connection makes the decoder wait for its pool.
theorem Stage.connected (stage : Stage c id o call phase is) (ready : call.isPaused = false) :
    call.connection?.isSome := by
  cases stage
  case acquiring state _ _ _ _ _ => simp [Call.isPaused, state] at ready
  case upgrading has _ _ _ _ _ _ => simp [has.connection]
  case inFlight has _ _ _        => simp [has.connection]
  case awaiting has _ _ _        => simp [has.connection]

-- A message that has ended was told to end.
theorem Stage.ended (stage : Stage c id o call .ended (Incident.dealings log)) : (traffic log).ended := by
  rw [← traffic_dealings]
  generalize Incident.dealings log = is at stage ⊢
  cases stage
  case awaiting sent =>
    cases sent
    simp [traffic_append, traffic, Traffic.append, Incident.traffic]

namespace Call

theorem Stems.isOneway (h : call.Stems o id) : call.message.isOneway = o.message.isOneway := by
  obtain ⟨n, hm⟩ := h.message
  rw [hm]
  exact o.sent_isOneway

theorem Standing.of_agrees (h : call.Standing log) (agrees : call.Agrees call') : call'.Standing log where
  host      := agrees.host.trans h.host
  connected := by rw [agrees.connection, agrees.host, h.connected]
  untimed   := agrees.timed.trans h.untimed
  complete  := agrees.complete.trans h.complete
  reports   := agrees.host ▸ h.reports

-- A call that goes on at an event that hands nothing over and does not end its message.
theorem Standing.goesOn (h : call.Standing log) (ht : (Incident.told event).host? = none) (hn : event ≠ .messageEnd)
    (silent : RpcProxy.reports es = []) (unhanded : es.findSome? (·.readyHost?) = none) :
    call.Standing (log ++ .told event :: es.map .did) where
  host      := by
    simp only [List.findSome?_append, Incident.findSome?_host?, h.host, ht, unhanded, Option.or_none]
  connected := h.connected
  untimed   := h.untimed
  complete  := by simp [h.complete, traffic_append, Traffic.append, traffic_told_ended hn]
  reports   := by simp [Incident.effects_append, silent, h.reports]

-- A call with a connection, at an event that is nothing to the pool.
theorem Resolves.told (h : call.Resolves c event s y) (life : Life c id o phase log call) (standing : call.Standing log)
    (stems : call.Stems o id) (connected : call.connection?.isSome) (he : event.isCommon)
    (ended : event = .transportEnd → (traffic log).ended) :
    Told c id o y.1 (log ++ .told event :: (s.since y.2).map .did) := by
  have hn : event ≠ .messageEnd := by rintro rfl; cases he
  cases h
  case goesOn es ht agrees live silent unhanded =>
    have hh : (Incident.told event).host? = none := by
      cases event <;> first | rfl | cases he
    rw [Shared.since_eq ht]
    exact .stands live ((standing.goesOn hh hn silent unhanded).of_agrees agrees)
  case ends es ht dead call' agrees fate hf succeeded closing success =>
    have met : call'.host?.isSome := by rw [agrees.host, ← standing.connected, connected]
    have router : call'.router = id := agrees.router.trans stems.router
    have cluster : call'.cluster = o.route.cluster := agrees.cluster.trans stems.cluster
    have h : Concludes c id o log (.told event :: es.map .did) call' fate succeeded := {
      router, cluster
      oneway   := agrees.oneway.trans stems.isOneway
      standing := standing.of_agrees agrees
      written  := life.isWritten_eq
      unended  := traffic_told_ended hn
      met _    := by simp [RouterEvent.not_isUnconnected he hf, met]
      unhanded := fun hn => by simp [hn] at met
      complete := fun hd => by
        rw [agrees.complete, standing.complete, ended (RouterEvent.eq_transportEnd (hd ▸ hf))]
      closing  := by simpa using closing
      success  := fun hr => by
        obtain ⟨hs, counted⟩ := success hr
        rw [Incident.uncounted, Incident.recent_append, ← router, ← cluster]
        exact ⟨⟨s.transcript, hs⟩, counted⟩ }
    rw [Shared.since_eq ht]
    exact .ends dead log event es rfl fate hf call' succeeded h

-- The call is handed a connection.
theorem connect_standing (k : ConnectionId) (host : Host) (s : Shared) (standing : call.Standing log)
    (connection : call.connection? = none) :
    (call.connect c k host s).1.Standing
      (log ++ .told (.poolReady k host) :: (s.since (call.connect c k host s).2).map .did) := by
  obtain ⟨es, ht, told, agrees, _⟩ := connect_tells c call k host s
  have unmet : call.host? = none := by simpa [connection] using standing.connected
  have h : { call with host? := some host, connection? := some k }.Standing
      (log ++ Incident.told (.poolReady k host) :: es.map .did) := {
    host      := by
      simp only [List.findSome?_append, Incident.findSome?_host?, ← standing.host, unmet, Option.none_or]
      rfl
    connected := rfl
    untimed   := standing.untimed
    complete  := by simp [standing.complete, traffic_append, Traffic.append, traffic_told_ended]
    reports   := by simp [Incident.effects_append, standing.reports, unmet, told] }
  rw [Shared.since_eq ht]
  exact h.of_agrees agrees

-- The pool has no connection for the call.
theorem failToConnect_told (reason : ConnectionFailure) (host? : Option Host) (s : Shared)
    (life : Life c id o phase log call) (standing : call.Standing log) (stems : call.Stems o id)
    (connection : call.connection? = none) :
    Told c id o (call.failToConnect reason host? s).1
      (log ++ .told (.poolFailure reason host?) :: (s.since (call.failToConnect reason host? s).2).map .did) := by
  obtain ⟨es, ht, closing, unhanded⟩ := call.failToConnect_reports reason host? s
  have unmet : call.host? = none := by simpa [connection] using standing.connected
  have h : Concludes c id o log (.told (.poolFailure reason host?) :: es.map .did) call (.unconnected reason host?)
      false := {
    router     := stems.router
    cluster    := stems.cluster
    oneway     := stems.isOneway
    standing   := standing
    written    := life.isWritten_eq
    unended    := traffic_told_ended (by simp)
    met _      := by simp [unmet, Fate.isUnconnected]
    unhanded _ := Incident.findSome?_host?.trans unhanded
    complete   := by simp
    closing    := by simpa using closing
    success    := by simp }
  rw [Shared.since_eq ht]
  exact .ends fail_isTerminal log _ es rfl _ rfl call false h

theorem endRequest_standing (s : Shared) (standing : call.Standing log) (has : call.Has k) :
    (call.endRequest c s).1.Standing (log ++ .told .messageEnd :: (s.since (call.endRequest c s).2).map .did) := by
  have he : statistics (call.endEffects c k s) = [] := rfl
  have hr : reports (call.endEffects c k s) = [] := rfl
  rw [endRequest_of_connection has.connection, Shared.since_eq rfl]
  exact {
    host      := by
      have ht : (Incident.told .messageEnd).host? = none := rfl
      have hn := findSome?_readyHost?_of_statistics he
      simp only [List.findSome?_append, Incident.findSome?_host?, standing.host, ht, hn, Option.or_none]
    connected := standing.connected
    untimed   := standing.untimed
    complete  := by simp [traffic_append, traffic, Traffic.append, Incident.traffic]
    reports   := by simp [Incident.effects_append, standing.reports, hr] }

theorem Takes.told (takes : call.Takes c o.passthrough s phase event phase' y) (life : Life c id o phase log call)
    (standing : call.Standing log) (stems : call.Stems o id)
    (stage : Stage c id o call phase (Incident.dealings log)) :
    Told c id o y.1 (log ++ .told event :: (s.since y.2).map .did) := by
  have live : call.isTerminal = false := stage.live
  have idles (event : RouterEvent) : call.Resolves c event s (call, s) :=
    .goesOn [] (List.append_nil _).symm (.refl call) live rfl rfl
  cases takes
  case transportBegin ready => exact (idles _).told life standing stems (stage.connected ready) rfl (by simp)
  case messageBody body ready =>
    exact (writeBody_resolves body o.passthrough s live).told life standing stems (stage.connected ready) rfl
      (by simp)
  case messageEnd ready =>
    obtain ⟨k, q?, has, _⟩ := stage.of_ready ready
    refine .stands ?_ (endRequest_standing s standing has)
    simp [endRequest_of_connection has.connection, isTerminal, CallState.isTerminal]
  case transportEnd ready twoway =>
    exact (idles _).told life standing stems (stage.connected ready) rfl fun _ => stage.ended
  case finish ready oneway =>
    exact (finish_resolves s).told life standing stems (stage.connected ready) rfl fun _ => stage.ended
  case poolReady k host pending =>
    obtain ⟨_, _, connection, _⟩ := stage.of_pending pending
    obtain ⟨_, _, _, _, live⟩ := connect_tells c call k host s
    exact .stands live (connect_standing k host s standing connection)
  case poolFailure reason host? pending =>
    obtain ⟨_, _, connection, _⟩ := stage.of_pending pending
    exact failToConnect_told reason host? s life standing stems connection
  case clusterData data endStream connected =>
    exact (receive_resolves data endStream s live).told life standing stems connected rfl (by simp)
  case remoteClose connected => exact (lose_resolves s rfl).told life standing stems connected rfl (by simp)
  case localClose connected  => exact (lose_resolves s rfl).told life standing stems connected rfl (by simp)

theorem Standing.new (o : Origin) (id : RouterId) : (o.call id).Standing [] where
  host      := rfl
  connected := rfl
  untimed   := rfl
  complete  := rfl
  reports   := rfl

end Call

namespace Origin

-- What is done first for a call that has a pool.
def opening (o : Origin) (id : RouterId) (answer : Acquisition) : List Effect :=
  [.madeCodec id o.leg, .acquired o.pool answer]

variable {answer : Acquisition} {routing : List Effect}

theorem reports_opening (routed : ∀ e ∈ routing, e.isRouting) :
    reports (routing ++ o.opening id answer ++ es) = reports es := by
  simp [opening, reports_of_routing routed]

theorem readyHost?_opening (routed : ∀ e ∈ routing, e.isRouting) :
    (routing ++ o.opening id answer ++ es).findSome? (·.readyHost?) =
      (Effect.acquired o.pool answer).readyHost?.or (es.findSome? (·.readyHost?)) := by
  rw [List.findSome?_append, List.findSome?_append, findSome?_readyHost?_of_routing routed]
  cases answer <;> rfl

theorem refusal?_opening {reason : ConnectionFailure} {host? : Option Host} (routed : ∀ e ∈ routing, e.isRouting) :
    (routing ++ o.opening id (.failed reason host?) ++ es).findSome? (·.refusal?) =
      some (.unconnected reason host?) := by
  rw [List.findSome?_append, List.findSome?_append, findSome?_refusal?_of_routing routed]
  rfl

-- A new call has a connection, waits for one, or was refused one.
theorem begin_told (o : Origin) (c : Surroundings) (id : RouterId) (s : Shared)
    (routed : ∀ e ∈ routing, e.isRouting) :
    Told c id o (o.begin c id s).1
      (.told (.messageBegin o.message) :: (routing ++ s.since (o.begin c id s).2).map .did) := by
  have standing := Call.Standing.new o id
  let s₁ (answer : Acquisition) : Shared := (s.emit (.madeCodec id o.leg)).emit (.acquired o.pool answer)
  have hs {answer : Acquisition} {s' : Shared} {es : List Effect} (ht : s'.transcript = (s₁ answer).transcript ++ es) :
      routing ++ s.since s' = routing ++ o.opening id answer ++ es := by
    have ht : s'.transcript = s.transcript ++ (o.opening id answer ++ es) := by simp [ht, s₁, opening]
    rw [List.append_assoc, Shared.since_eq ht]
  cases ha : c.acquire (s.emit (.madeCodec id o.leg)).transcript (o.call id).pool
  case pending =>
    have hx : o.begin c id s = ({ o.call id with pending := true }, s₁ .pending) := Call.start_of_pending ha
    have h : (o.call id).Standing ([] ++ .told (.messageBegin o.message) ::
        (routing ++ o.opening id .pending ++ []).map .did) :=
      standing.goesOn rfl (by simp) (reports_opening routed) (readyHost?_opening routed)
    rw [hx, hs (List.append_nil _).symm]
    exact .stands rfl (h.of_agrees ⟨rfl, rfl, rfl, rfl, rfl, rfl, rfl⟩)
  case ready k host =>
    have hx : o.begin c id s = (o.call id).connect c k host (s₁ (.ready k host)) := Call.start_of_ready ha
    obtain ⟨es, ht, told, agrees, live⟩ := Call.connect_tells c (o.call id) k host (s₁ (.ready k host))
    have h : { o.call id with host? := some host, connection? := some k }.Standing (.told (.messageBegin o.message) ::
        (routing ++ o.opening id (.ready k host) ++ es).map .did) := {
      host      := by
        rw [Incident.findSome?_host?, readyHost?_opening routed]
        rfl
      connected := rfl
      untimed   := rfl
      complete  := (traffic_told_ended (by simp)).symm
      reports   := by
        rw [Incident.effects_told, Incident.effects_did]
        exact (reports_opening routed).trans told }
    rw [hx, hs ht]
    exact .stands live (h.of_agrees agrees)
  case failed reason host? =>
    have hx : o.begin c id s = (o.call id).failToConnect reason host? (s₁ (.failed reason host?)) :=
      Call.start_of_failed ha
    obtain ⟨es, ht, closing, unhanded⟩ := (o.call id).failToConnect_reports reason host? (s₁ (.failed reason host?))
    let done := routing ++ o.opening id (.failed reason host?) ++ es
    have hf : (RouterEvent.messageBegin o.message).fate? done = some (.unconnected reason host?) :=
      refusal?_opening routed
    have h : Concludes c id o [] (.told (.messageBegin o.message) :: done.map .did) (o.call id)
        (.unconnected reason host?) false := {
      router     := rfl
      cluster    := rfl
      oneway     := o.sent_isOneway
      standing   := standing
      written    := rfl
      unended    := traffic_told_ended (by simp)
      met _      := rfl
      unhanded _ := by
        rw [Incident.findSome?_host?, readyHost?_opening routed, unhanded]
        rfl
      complete   := by simp
      closing    := by
        rw [Incident.effects_told, Incident.effects_did]
        exact (reports_opening routed).trans closing
      success    := by simp }
    rw [hx, hs ht]
    exact .ends Call.fail_isTerminal [] _ done rfl _ hf (o.call id) false h

end Origin

theorem Life.told (life : Life c id o phase log call) : Told c id o call log := by
  induction life
  case begins s routing routed => exact o.begin_told c id s routed
  case takes phase log call s event phase' y life live takes ih =>
    cases ih
    case ends dead _ _ _ _ _ _ _ _ _ => simp [live] at dead
    case stands _ standing =>
      cases life.course
      case goesOn stems stage _ => exact takes.told life standing stems stage
      case settles dead _       => simp [live] at dead

-- A call that is under way stands.
theorem Life.standing (life : Life c id o phase log call) (live : call.isTerminal = false) :
    call.Stems o id ∧ call.Standing log := by
  cases life.course
  case settles dead _       => simp [live] at dead
  case goesOn stems stage _ =>
    cases life.told
    case stands _ standing => exact ⟨stems, standing⟩
    case ends dead _ _ _ _ _ _ _ _ _ => simp [live] at dead

-- Whatever becomes of a call, its fate can be read from its log, and what is reported at its end follows from its fate.
theorem CallLog.Closed.concluded {log : CallLog} (closed : log.Closed c id ending) :
    ∃ (o : Origin) (before after : List Incident) (call : Call) (fate : Fate) (succeeded : Bool),
      log = o.log (before ++ after) ∧ log.fate? ending = some fate ∧
        Concludes c id o before after call fate succeeded := by
  cases closed
  case ended o phase incidents call life dead own =>
    cases life.told
    case stands live _                              => simp [live] at dead
    case ends _ before event es hl fate hf call' succeeded h =>
      subst hl
      refine ⟨o, before, .told event :: es.map .did, call', fate, succeeded, rfl, ?_, h⟩
      simp [fate?, own, Origin.log, Incident.latest?_append, hf]
  case abandoned o phase incidents call life live ha =>
    obtain ⟨stems, standing⟩ := life.standing live
    refine ⟨o, incidents, (call.releaseEffects true).map .did, call, .abandoned, false, rfl, by simp [fate?, ha], ?_⟩
    exact {
      router     := stems.router
      cluster    := stems.cluster
      oneway     := stems.isOneway
      standing   := standing
      written    := life.isWritten_eq
      unended    := traffic_did_ended
      met        := by simp
      unhanded _ := by
        rw [List.findSome?_map]
        exact findSome?_readyHost?_of_statistics (by simp)
      complete   := by simp
      closing    := by simp [Incident.effects_did, Call.closing]
      success    := by simp }

namespace Concludes

variable {fate : Fate} {succeeded : Bool}

-- All that is reported of the call.
theorem reports_eq (h : Concludes c id o before after call fate succeeded) :
    reports (o.log (before ++ after)).effects = verdicts call.host? .connected ++ call.closing succeeded fate := by
  have hl : (o.log (before ++ after)).effects = Incident.effects before ++ Incident.effects after :=
    Incident.effects_append
  simp only [hl, List.filter_append, h.standing.reports, h.closing]

-- A connection is handed over before the end of the call, or not at all.
theorem host?_eq (h : Concludes c id o before after call fate succeeded) :
    (o.log (before ++ after)).host? = call.host? := by
  have hh : (o.log (before ++ after)).host? = call.host?.or (after.findSome? (·.host?)) := by
    rw [h.standing.host]
    exact List.findSome?_append
  cases hc : call.host?
  case none      => rw [hh, hc, h.unhanded hc, Option.none_or]
  case some host => rw [hh, hc, Option.some_or]

end Concludes

namespace Chronicle

variable {ch : Chronicle} {r : Router}

theorem Follows.standing (h : ch.Follows c id r phase) (hr : r.Serves id) {log : CallLog}
    (hl : ch.current? = some log) : ∃ call : Call, call.Standing log.incidents := by
  cases hc : r.call?
  case none      => simp [h.idle hc] at hl
  case some call =>
    obtain ⟨o, incidents, ho, life, _⟩ := h.busy hc
    obtain rfl := Option.some.inj (ho.symm.trans hl)
    exact ⟨call, (life.standing (hr.live hc)).2⟩

-- While there is no call, messages are routed and answered, and no more.
theorem Follows.filter_outside (h : ch.Follows c id r phase) {p : Effect → Bool}
    (hp : ∀ e : Effect, e.isRouting ∨ e.isReply → p e = false) : (Incident.effects ch.outside).filter p = [] := by
  refine List.filter_eq_nil_iff.mpr fun e he => ?_
  obtain ⟨i, hi, hd⟩ := List.mem_filterMap.mp he
  have ho := h.outside i hi
  cases i
  case told event => cases hd
  case did effect => simp [← Option.some.inj hd, hp effect ho]

end Chronicle

end RpcProxy
