import RpcProxy.Proofs.Router.Connection
import RpcProxy.Proofs.Router.Course

namespace RpcProxy

-- A codec that has a request for each connection that is not upgraded, and marks each one that has become so.
structure Surroundings.Upgrades (c : Surroundings) : Prop where
  offers : ∀ t id {leg : Leg} state, leg.encoding.supportsUpgrade →
    ((c.upgradeRequest? t id leg state).isSome ↔ state.upgraded = false)
  marks  : ∀ t id leg, c.marksUpgraded t id leg

-- An effect by which the upgrade of a connection can be followed, and the requests on it.
abbrev Effect.isMilestone : Effect → Bool
  | offeredUpgrade _ request? => request?.isSome
  | completedUpgrade _        => true
  | encodedBegin ..           => true
  | wrote ..                  => true
  | _                         => false

abbrev milestones (es : List Effect) : List Effect :=
  es.filter (·.isMilestone)

-- What a call has of a connection.
structure Lease where
  hold     : Hold
  -- Whether the encoding of the call knows upgrades.
  upgrades : Bool
  -- Whether the call awaits the reply to an upgrade request.
  awaits   : Bool

def Lease.id (lease : Lease) : ConnectionId :=
  lease.hold.1

def Call.lease? (call : Call) : Option Lease :=
  call.hold?.map fun hold => ⟨hold, call.leg.encoding.supportsUpgrade, call.upgradeReply⟩

def Router.lease? (r : Router) : Option Lease :=
  r.call?.bind (·.lease?)

-- What happens to a table and to the lease of a call, with the milestones on the way. A connection that is taken gets
-- a request at once, unless it has to be upgraded before.
inductive Negotiation (lease? : Option Lease) (t : ConnectionTable) :
    List Effect → Option Lease → ConnectionTable → Prop
  | keeps : Negotiation lease? t [] lease? t
  | leaves (idle : ∀ lease ∈ lease?, lease.awaits = false) : Negotiation lease? t [] none t
  | asks {k : ConnectionId} (free : lease? = none)
      (plain : ((t.getOrCreate k).2.state (t.getOrCreate k).1).upgraded = false) :
    Negotiation lease? t [.offeredUpgrade i (some q), .wrote k q false]
      (some ⟨(k, (t.getOrCreate k).1), true, true⟩) (t.getOrCreate k).2
  | starts {k : ConnectionId} {upgrades : Bool} (free : lease? = none)
      (ready : upgrades → ((t.getOrCreate k).2.state (t.getOrCreate k).1).upgraded) :
    Negotiation lease? t [.encodedBegin i message bytes] (some ⟨(k, (t.getOrCreate k).1), upgrades, false⟩)
      ((t.getOrCreate k).2.modify (t.getOrCreate k).1 .advance)
  | completes (h : lease? = some ⟨(k, ref), true, true⟩)
      (h' : lease'? = some ⟨(k, ref), true, false⟩ ∨ lease'? = none) :
    Negotiation lease? t [.completedUpgrade i, .encodedBegin j message bytes] lease'?
      ((t.modify ref .upgrade).modify ref .advance)
  | writes (h : lease? = some ⟨(k, ref), upgrades, false⟩) :
    Negotiation lease? t [.wrote k bytes endStream] lease? t

-- An operation that first gives up the entry of the call's connection, if one is named, and then negotiates.
structure Call.Negotiates (call : Call) (s : Shared) (x : Call × Shared) (es : List Effect)
    (gone? : Option ConnectionId) : Prop where
  transcript  : x.2.transcript = s.transcript ++ es
  owned       : ∀ id ∈ gone?, call.connection? = some id
  negotiation : Negotiation (if gone?.isSome then none else call.lease?) (s.connections.without gone?)
    (milestones es) x.1.lease? x.2.connections
  freed       : x.1.isTerminal → x.1.lease? = none

structure Router.Negotiates (r : Router) (s : Shared) (x : Router × Shared) (es : List Effect)
    (gone? : Option ConnectionId) : Prop where
  transcript  : x.2.transcript = s.transcript ++ es
  owned       : ∀ id ∈ gone?, r.connection? = some id
  negotiation : Negotiation (if gone?.isSome then none else r.lease?) (s.connections.without gone?)
    (milestones es) x.1.lease? x.2.connections

theorem Negotiation.nil_of_none {t t' : ConnectionTable} {ms : List Effect} (h : Negotiation none t ms none t') :
    ms = [] := by
  cases h
  case keeps         => rfl
  case leaves        => rfl
  case completes h _ => cases h
  case writes h      => cases h

theorem Negotiation.grows {lease? lease'? : Option Lease} {t t' : ConnectionTable} {ms : List Effect}
    (h : Negotiation lease? t ms lease'? t') : ∃ entered?, t.Grows t' entered? := by
  cases h
  case keeps     => exact ⟨none, .refl⟩
  case leaves    => exact ⟨none, .refl⟩
  case asks      => exact ⟨_, .getOrCreate⟩
  case starts    => exact ⟨_, .modify .getOrCreate⟩
  case completes => exact ⟨none, .modify (.modify .refl)⟩
  case writes    => exact ⟨none, .refl⟩

theorem milestones_of_routing {es : List Effect} : (∀ e ∈ es, e.isRouting) → milestones es = [] :=
  filter_of_routing fun e => by cases e <;> simp

namespace Call

variable {c : Surroundings} {call call' : Call} {s s' : Shared} {es es' : List Effect} {k : ConnectionId}
  {x : Call × Shared} {reason : ConnectionFailure} {host : Host} {ref : StateRef}

theorem lease?_of_hold (h : call.hold? = none) : call.lease? = none := by
  simp [lease?, h]

theorem lease?_of_none (h : call.connection? = none) : call.lease? = none :=
  lease?_of_hold (hold?_of_none h)

theorem Has.exists_lease (has : call.Has k) : ∃ ref, call.stateRef? = some ref ∧
    call.lease? = some ⟨(k, ref), call.leg.encoding.supportsUpgrade, call.upgradeReply⟩ := by
  obtain ⟨ref, hr⟩ := Option.isSome_iff_exists.mp has.state
  exact ⟨ref, hr, by simp [lease?, hold?, has.connection, hr]⟩

theorem awaits_of_reply (h : call.upgradeReply = false) : ∀ lease ∈ call.lease?, lease.awaits = false := by
  intro lease hl
  obtain ⟨hold, _, rfl⟩ := Option.map_eq_some_iff.mp hl
  exact h

-- An operation is judged together with what the call has done just before.
theorem Negotiates.after (es : List Effect) (h : call'.Negotiates s' x es' gone?)
    (ht : s'.transcript = s.transcript ++ es) (hm : milestones es = []) (hc : s'.connections = s.connections)
    (hi : call'.connection? = call.connection?) (hl : call'.lease? = call.lease?) :
    call.Negotiates s x (es ++ es') gone? where
  transcript  := by rw [h.transcript, ht, List.append_assoc]
  owned       := hi ▸ h.owned
  negotiation := by
    have hn : milestones (es ++ es') = milestones es' := by simp [hm]
    rw [hn, ← hc, ← hl]
    exact h.negotiation
  freed       := h.freed

-- An operation that ends a call and lets go of its connection.
theorem Negotiates.of_end (ht : x.2.transcript = s.transcript ++ es) (hh : x.1.hold? = none)
    (hm : milestones es = []) (hc : x.2.connections = s.connections) (reply : call.upgradeReply = false) :
    call.Negotiates s x es none where
  transcript  := ht
  owned       := nofun
  negotiation := by
    rw [hm, hc, lease?_of_hold hh]
    exact .leaves (awaits_of_reply reply)
  freed _     := lease?_of_hold hh

-- An operation that ends a call and gives the entry of its connection up.
theorem Negotiates.of_loss (ht : x.2.transcript = s.transcript ++ es) (hh : x.1.hold? = none)
    (hm : milestones es = []) (hc : x.2.connections = s.connections.without call.connection?) :
    call.Negotiates s x es call.connection? where
  transcript  := ht
  owned _ h   := h
  negotiation := by
    rw [hm, hc, lease?_of_hold hh]
    exact .leaves fun lease hl => by
      cases hi : call.connection?
      case none   => simp [hi, lease?_of_none hi] at hl
      case some k => simp [hi] at hl
  freed _     := lease?_of_hold hh

-- An operation after which the call goes on as before.
theorem Negotiates.of_rest (ht : x.2.transcript = s.transcript ++ es) (hl : x.1.lease? = call.lease?)
    (hm : milestones es = []) (hc : x.2.connections = s.connections) (live : x.1.isTerminal = false) :
    call.Negotiates s x es none where
  transcript  := ht
  owned       := nofun
  negotiation := by
    rw [hm, hc, hl]
    exact .keeps
  freed dead  := by simp [live] at dead

theorem finish_negotiates (s : Shared) (reply : call.upgradeReply = false) :
    call.Negotiates s (call.finish s) call.finishEffects none :=
  .of_end finish_transcript finish_hold? (by simp) (by simp) reply

theorem cutShort_negotiates (s : Shared) (reply : call.upgradeReply = false) :
    call.Negotiates s (call.cutShort s) call.cutShortEffects none :=
  .of_end cutShort_transcript fail_hold? (by simp) (by simp) reply

theorem respond_negotiates (c : Surroundings) (s : Shared) (reply : call.upgradeReply = false) :
    call.Negotiates s (call.respond c s) (call.respondEffects c s) none :=
  .of_end respond_transcript finish_hold? (by simp) (by simp) reply

theorem lose_negotiates (call : Call) (reason : ConnectionFailure) (s : Shared) :
    call.Negotiates s (call.lose reason s) (call.failEffects reason) call.connection? :=
  .of_loss lose_transcript fail_hold? (by simp) lose_connections

theorem breakOff_negotiates (call : Call) (s : Shared) :
    call.Negotiates s (call.breakOff s) call.breakOffEffects call.connection? :=
  .of_loss breakOff_transcript fail_hold? (by simp) (by simp)

theorem failToConnect_negotiates (reason : ConnectionFailure) (host? : Option Host) (s : Shared)
    (reply : call.upgradeReply = false) : ∃ es, call.Negotiates s (call.failToConnect reason host? s) es none :=
  ⟨_, .of_end fail_transcript fail_hold? (by simp) fail_connections reply⟩

theorem supportsUpgrade_of_offered {request : Bytes} (h : call.offered? c k host s = some request) :
    call.leg.encoding.supportsUpgrade := by
  cases offer : call.leg.encoding.supportsUpgrade
  case true  => rfl
  case false => simp [offered?, offer] at h

theorem offered?_isSome_iff (codec : c.Upgrades) (offer : call.leg.encoding.supportsUpgrade) :
    (call.offered? c k host s).isSome ↔
      ((s.connections.getOrCreate k).2.state (s.connections.getOrCreate k).1).upgraded = false := by
  simp only [offered?, offer, if_true]
  exact codec.offers _ _ _ offer

theorem startRequest_lease? {resume : Bool} : (call.startRequest c resume s).1.lease? = call.lease? := by
  rw [startRequest_fst]
  rfl

theorem connect_negotiates (codec : c.Upgrades) (k : ConnectionId) (host : Host) (s : Shared)
    (connection : call.connection? = none) (reply : call.upgradeReply = false) (buffer : call.buffer = []) :
    ∃ es, call.Negotiates s (call.connect c k host s) es none := by
  have free : call.lease? = none := lease?_of_none connection
  cases ho : call.offered? c k host s
  case some request =>
    have offer := supportsUpgrade_of_offered ho
    have plain := (offered?_isSome_iff codec offer).mp (Option.isSome_of_eq_some ho)
    rw [connect_of_offer ho]
    refine ⟨_, { transcript := rfl, owned := by simp, negotiation := ?_, freed := fun dead => ?_ }⟩
    · simpa [buffer, connection, lease?, hold?, holding, offer] using Negotiation.asks free plain
    · simp [isTerminal, CallState.isTerminal] at dead
  case none =>
    have ready : call.leg.encoding.supportsUpgrade →
        ((s.connections.getOrCreate k).2.state (s.connections.getOrCreate k).1).upgraded := by
      intro offer
      cases plain : ((s.connections.getOrCreate k).2.state (s.connections.getOrCreate k).1).upgraded
      case true  => rfl
      case false =>
        have ho' : (call.offered? c k host s).isSome := (offered?_isSome_iff codec offer).mpr plain
        simp [ho] at ho'
    let held := call.holding k host (s.connections.getOrCreate k).1
    have hs : held.stateRef? = some (s.connections.getOrCreate k).1 := rfl
    let es := Effect.judged host .connected :: call.offerEffects none ++ releases call.connection?
    rw [connect_of_no_offer ho]
    let s' : Shared := { connections := (s.connections.getOrCreate k).2, transcript := s.transcript ++ es }
    refine ⟨es ++ held.startEffects c call.pending s', {
      transcript := ?_, owned := by simp, negotiation := ?_, freed := fun dead => ?_ }⟩
    · simp [es, s', held]
    · rw [startRequest_connections hs, startRequest_lease?]
      simpa [es, lease?, hold?, held, holding, reply] using Negotiation.starts free ready
    · simp [startRequest_fst, isTerminal, CallState.isTerminal] at dead

theorem start_negotiates (call : Call) (codec : c.Upgrades) (s : Shared) (connection : call.connection? = none)
    (reply : call.upgradeReply = false) (buffer : call.buffer = []) (live : call.isTerminal = false) :
    ∃ es, call.Negotiates s (call.start c s).2 es none := by
  cases ha : c.acquire s.transcript call.pool <;> simp only [start, ha]
  case pending             => exact ⟨[_], .of_rest rfl rfl rfl rfl live⟩
  case ready k host        =>
    obtain ⟨es, h⟩ := connect_negotiates codec k host (s.emit (.acquired call.pool (.ready k host))) connection reply
      buffer
    exact ⟨_, h.after [_] rfl rfl rfl rfl rfl⟩
  case failed reason host? =>
    obtain ⟨es, h⟩ := failToConnect_negotiates reason host? (s.emit (.acquired call.pool (.failed reason host?))) reply
    exact ⟨_, h.after [_] rfl rfl rfl rfl rfl⟩

theorem writeBody_negotiates (c : Surroundings) (body : Bytes) (passthrough : Bool) (s : Shared)
    (live : call.isTerminal = false) : ∃ es, call.Negotiates s (call.writeBody c body passthrough s) es none := by
  unfold writeBody
  split
  · exact ⟨[], .of_rest (List.append_nil _).symm rfl rfl rfl live⟩
  · exact ⟨[_], .of_rest rfl rfl rfl rfl live⟩

theorem endRequest_negotiates (c : Surroundings) (s : Shared) (has : call.Has k)
    (reply : call.upgradeReply = false) : call.Negotiates s (call.endRequest c s) (call.endEffects c k s) none := by
  obtain ⟨ref, _, hl⟩ := has.exists_lease
  rw [endRequest_of_connection has.connection]
  exact { transcript := rfl, owned := nofun, negotiation := .writes (reply ▸ hl), freed := nofun }

theorem upgraded_connections_of_marks (codec : c.Upgrades) (hr : call.stateRef? = some ref) :
    (call.upgraded c s).connections = s.connections.modify ref .upgrade := by
  simp only [upgraded, hr, codec.marks, if_true]
  rfl

-- The request begins on the connection that has just been upgraded, in vain if the connection has ended.
theorem resume_negotiates {i : RouterId} (endStream : Bool) (hl : call.lease? = some ⟨(k, ref), true, true⟩)
    (hl' : call'.lease? = some ⟨(k, ref), true, false⟩) (hr : call'.stateRef? = some ref)
    (ht : s'.transcript = s.transcript ++ es) (hm : milestones es = [.completedUpgrade i])
    (hc : s'.connections = s.connections.modify ref .upgrade) :
    ∃ es, call.Negotiates s (if endStream
      then (call'.startRequest c true s').1.cutShort (call'.startRequest c true s').2
      else call'.startRequest c true s') es none := by
  have hc' : (call'.startRequest c true s').2.connections =
      (s.connections.modify ref .upgrade).modify ref .advance := by
    rw [startRequest_connections hr, hc]
  cases endStream
  case false =>
    refine ⟨es ++ call'.startEffects c true s', {
      transcript := ?_, owned := nofun, negotiation := ?_, freed := fun dead => ?_ }⟩
    · simp [ht]
    · simpa [hm, hc', startRequest_lease?, hl'] using Negotiation.completes hl (.inl rfl)
    · simp [startRequest_fst, isTerminal, CallState.isTerminal] at dead
  case true  =>
    have hn {x : Call × Shared} : (x.1.cutShort x.2).1.lease? = none := lease?_of_hold fail_hold?
    refine ⟨es ++ call'.startEffects c true s' ++ (call'.startRequest c true s').1.cutShortEffects, {
      transcript := ?_, owned := nofun, negotiation := ?_, freed := fun _ => hn }⟩
    · simp [ht]
    · simpa [hm, hc', hn] using Negotiation.completes hl (.inr rfl)

theorem readUpgrade_negotiates (codec : c.Upgrades) (data : Bytes) (endStream : Bool) (s : Shared) (has : call.Has k)
    (offer : call.leg.encoding.supportsUpgrade) (reply : call.upgradeReply) (live : call.isTerminal = false) :
    ∃ es, call.Negotiates s (call.readUpgrade c data endStream s).2 es none := by
  obtain ⟨ref, hr, hl⟩ := has.exists_lease
  rw [offer, reply] at hl
  cases hd : (c.readUpgrade s.transcript call.router data).outcome
  case false =>
    rw [readUpgrade_of_waiting hd]
    exact ⟨[_], .of_rest rfl rfl rfl rfl live⟩
  case true  =>
    have hl' : { call with upgradeReply := false }.lease? = some ⟨(k, ref), true, false⟩ := by
      simp [lease?, hold?, has.connection, hr, offer]
    have ht : (call.upgraded c (s.emit (.readUpgrade call.router data true))).transcript =
        s.transcript ++ [Effect.readUpgrade call.router data true, Effect.completedUpgrade call.router] := by
      simp [hr]
    rw [readUpgrade_of_done hd]
    exact resume_negotiates endStream hl hl' hr ht rfl (upgraded_connections_of_marks codec hr)

theorem readResponse_negotiates (call : Call) (c : Surroundings) (data : Bytes) (endStream : Bool) (s : Shared)
    (reply : call.upgradeReply = false) (live : call.isTerminal = false) :
    ∃ es gone?, call.Negotiates s (call.readResponse c data endStream s).2 es gone? := by
  rw [readResponse_eq]
  dsimp only
  generalize (c.readResponse (call.opened s).transcript call.router data).outcome = status
  let es := call.openEffects ++ [Effect.readResponse call.router data status]
  have ht : ((call.opened s).emit (.readResponse call.router data status)).transcript = s.transcript ++ es := by
    simp [opened, es]
  have hm : milestones es = [] := by simp [es]
  have reply' : { call with responseStarted := true }.upgradeReply = false := reply
  cases status
  case complete => exact ⟨_, _, (respond_negotiates c _ reply').after es ht hm rfl rfl rfl⟩
  case broken   => exact ⟨_, _, (breakOff_negotiates _ _).after es ht hm rfl rfl rfl⟩
  case more     =>
    cases endStream
    case false => exact ⟨es, none, .of_rest ht rfl hm rfl live⟩
    case true  => exact ⟨_, _, (cutShort_negotiates _ reply').after es ht hm rfl rfl rfl⟩

theorem readUpgrade_reads (c : Surroundings) (call : Call) (data : Bytes) (endStream : Bool) (s : Shared) :
    ∃ done es, (call.readUpgrade c data endStream s).2.2.transcript =
      s.transcript ++ .readUpgrade call.router data done :: es ∧ readings es = [] := by
  let completed : List Effect := if call.stateRef?.isSome then [.completedUpgrade call.router] else []
  have hc : readings completed = [] := by
    cases hr : call.stateRef? <;> simp [completed, hr]
  cases hd : (c.readUpgrade s.transcript call.router data).outcome
  case false =>
    rw [readUpgrade_of_waiting hd]
    exact ⟨false, [], rfl, rfl⟩
  case true  =>
    have ht : (call.upgraded c (s.emit (.readUpgrade call.router data true))).transcript =
        s.transcript ++ Effect.readUpgrade call.router data true :: completed := by
      simp [completed]
    rw [readUpgrade_of_done hd]
    generalize call.upgraded c (s.emit (.readUpgrade call.router data true)) = s' at ht ⊢
    generalize ({ call with upgradeReply := false } : Call) = call'
    cases endStream
    case false => exact ⟨true, completed ++ call'.startEffects c true s', by simp [ht], by simp [hc]⟩
    case true  =>
      exact ⟨true, completed ++ call'.startEffects c true s' ++ (call'.startRequest c true s').1.cutShortEffects,
        by simp [ht], by simp [hc]⟩

-- Bytes that come before the upgrade is complete are for the reader of its reply.
theorem receive_of_reply (c : Surroundings) (data : Bytes) (endStream : Bool) (s : Shared) (reply : call.upgradeReply) :
    ∃ done es, (call.receive c data endStream s).2.2.transcript =
      s.transcript ++ .readUpgrade call.router data done :: es ∧ readings es = [] := by
  have h := readUpgrade_reads c { call with responseSize := call.responseSize + data.length } data endStream s
  simpa [receive, reply] using h

theorem Stems.supportsUpgrade {o : Origin} {id : RouterId} (stems : call.Stems o id)
    (offer : o.leg.encoding.supportsUpgrade) : call.leg.encoding.supportsUpgrade :=
  stems.leg ▸ offer

theorem receive_negotiates {o : Origin} {id : RouterId} {phase : Phase} {is : List Incident} (codec : c.Upgrades)
    (data : Bytes) (endStream : Bool) (s : Shared) (stems : call.Stems o id) (stage : Stage c id o call phase is)
    (live : call.isTerminal = false) : ∃ es gone?, call.Negotiates s (call.receive c data endStream s).2 es gone? := by
  let call₁ := { call with responseSize := call.responseSize + data.length }
  have lift {es : List Effect} {gone? : Option ConnectionId} {x : Call × Shared}
      (h : call₁.Negotiates s x es gone?) : call.Negotiates s x es gone? :=
    ⟨h.transcript, h.owned, h.negotiation, h.freed⟩
  simp only [receive]
  split
  case isTrue reply  =>
    cases stage
    case upgrading has _ _ _ _ offer _ =>
      have has : call₁.Has _ := ⟨has.handed, has.connection, has.state⟩
      obtain ⟨es, h⟩ := readUpgrade_negotiates codec data endStream s has (stems.supportsUpgrade offer) reply live
      exact ⟨es, none, lift h⟩
    case acquiring reply' _ _ => simp [reply] at reply'
    case inFlight reply' _ _  => simp [reply] at reply'
    case awaiting reply' _ _  => simp [reply] at reply'
  case isFalse reply =>
    obtain ⟨es, gone?, h⟩ := call₁.readResponse_negotiates c data endStream s (Bool.eq_false_iff.mpr reply) live
    exact ⟨es, gone?, lift h⟩

theorem Takes.negotiates {o : Origin} {id : RouterId} {phase phase' : Phase} {is : List Incident}
    {passthrough : Bool} {event : RouterEvent} (codec : c.Upgrades)
    (takes : call.Takes c passthrough s phase event phase' x) (stems : call.Stems o id)
    (stage : Stage c id o call phase is) : ∃ es gone?, call.Negotiates s x es gone? := by
  have live := stage.live
  cases takes
  case transportBegin ready => exact ⟨[], none, .of_rest (List.append_nil _).symm rfl rfl rfl live⟩
  case messageBody body ready =>
    obtain ⟨es, h⟩ := writeBody_negotiates c body passthrough s live
    exact ⟨es, none, h⟩
  case messageEnd ready =>
    obtain ⟨k, _, has, reply, _⟩ := stage.of_ready ready
    exact ⟨_, none, endRequest_negotiates c s has reply⟩
  case transportEnd ready twoway => exact ⟨[], none, .of_rest (List.append_nil _).symm rfl rfl rfl live⟩
  case finish ready oneway =>
    cases stage
    case awaiting reply _ _ => exact ⟨_, none, finish_negotiates s reply⟩
  case poolReady k host pending =>
    obtain ⟨_, _, connection, reply, buffer, _⟩ := stage.of_pending pending
    obtain ⟨es, h⟩ := connect_negotiates codec k host s connection reply buffer
    exact ⟨es, none, h⟩
  case poolFailure reason host? pending =>
    obtain ⟨_, _, _, reply, _⟩ := stage.of_pending pending
    obtain ⟨es, h⟩ := failToConnect_negotiates reason host? s reply
    exact ⟨es, none, h⟩
  case clusterData data endStream connected => exact receive_negotiates codec data endStream s stems stage live
  case remoteClose connected => exact ⟨_, _, lose_negotiates call .remoteClose s⟩
  case localClose connected => exact ⟨_, _, lose_negotiates call .localClose s⟩

end Call

namespace Router

variable {c : Surroundings} {r : Router} {call : Call} {s : Shared} {id : RouterId} {phase phase' : Phase}
  {callback : Callback} {x : Router × Shared}

theorem lease?_of_call (hc : r.call? = some call) : r.lease? = call.lease? := by
  simp [lease?, hc]

theorem lease?_of_idle (hc : r.call? = none) : r.lease? = none := by
  simp [lease?, hc]

theorem keep_lease? (h : call.isTerminal → call.lease? = none) : (r.keep call).lease? = call.lease? := by
  cases hl : call.isTerminal
  case false => simp [lease?, keep_call?, hl]
  case true  => simp [lease?, keep_call?, hl, h hl]

theorem hold?_eq_lease? : r.hold? = r.lease?.map (·.hold) := by
  cases hc : r.call?
  case none      => simp [hold?, lease?, hc]
  case some call => simp [hold?, lease?, Call.lease?, hc, Function.comp_def]

-- A router that has given its call up has no lease.
theorem discarded_lease? : (if r.connection?.isSome then none else r.lease?) = none := by
  cases hi : r.connection?
  case some k => rfl
  case none   => simpa [hold?_eq_lease?] using hold?_of_connection? hi

theorem milestones_discardEffects : milestones r.discardEffects = [] := by
  cases hc : r.call? <;> simp [discardEffects, hc]

-- A router that has given its call up and goes on with another one, or with none.
theorem Negotiates.of_discard (s' : Shared) (es es' : List Effect)
    (ht : s'.transcript = (r.discard s).transcript ++ es) (hm : milestones es = [])
    (hc : s'.connections = (r.discard s).connections) (ht' : x.2.transcript = s'.transcript ++ es')
    (h : Negotiation none s'.connections (milestones es') x.1.lease? x.2.connections) :
    r.Negotiates s x (r.discardEffects ++ es ++ es') r.connection? where
  transcript  := by simp [ht', ht]
  owned _ hi  := hi
  negotiation := by
    rw [discarded_lease?, ← discard_connections, ← hc]
    simpa [milestones_discardEffects, hm] using h

-- Whatever a legal callback does, with the call under way at some stage.
theorem Moves.negotiates (moves : Moves c r s phase callback phase' x) (codec : c.Upgrades)
    (staged : ∀ call, r.call? = some call → ∃ o is, call.Stems o id ∧ Stage c id o call phase is) :
    ∃ es gone?, r.Negotiates s x es gone? := by
  cases moves
  case answers message r' e s' es routed named idle =>
    refine ⟨_, _, .of_discard s' (.drew (c.random (r.discard s).transcript) :: es) _ ?_ ?_ ?_ rfl ?_⟩
    · simp [routed.transcript]
    · simp [milestones_of_routing routed.routing]
    · exact routed.connections
    · rw [lease?_of_idle idle]
      exact .keeps
  case launches r' o s' es routed target verbatim =>
    obtain ⟨es', h⟩ := (o.call r.id).start_negotiates codec (s'.emit (.madeCodec r.id o.leg)) rfl rfl rfl rfl
    refine ⟨_, _, .of_discard s' (.drew (c.random (r.discard s).transcript) :: es) (.madeCodec r.id o.leg :: es')
      ?_ ?_ ?_ ?_ ?_⟩
    · simp [routed.transcript]
    · simp [milestones_of_routing routed.routing]
    · exact routed.connections
    · have ht := h.transcript
      simpa [Origin.begin] using ht
    · have freed : (o.begin c r.id s').1.isTerminal → (o.begin c r.id s').1.lease? = none := h.freed
      rw [keep_lease? freed]
      exact h.negotiation
  case takes call event y hc hy =>
    obtain ⟨o, is, stems, stage⟩ := staged call hc
    obtain ⟨es, gone?, h⟩ := hy.negotiates codec stems stage
    refine ⟨es, gone?, { transcript := h.transcript, owned := ?_, negotiation := ?_ }⟩
    · rw [connection?_of_call hc]
      exact h.owned
    · rw [lease?_of_call hc, keep_lease? h.freed]
      exact h.negotiation
  case idles event hc hd he =>
    exact ⟨[], none, { transcript := (List.append_nil _).symm, owned := by simp, negotiation := .keeps }⟩
  case destroys =>
    exact ⟨_, _, .of_discard (r.discard s) [] [] (List.append_nil _).symm rfl rfl (List.append_nil _).symm .keeps⟩

end Router

end RpcProxy
