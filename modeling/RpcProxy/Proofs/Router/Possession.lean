import RpcProxy.Proofs.Router.Course

namespace RpcProxy

-- An effect that concerns the acquisition that a call awaits, or the connection that it holds.
abbrev Effect.isPossession : Effect → Bool
  | acquired .. => true
  | cancelled _ => true
  | wrote ..    => true
  | closed ..   => true
  | released _  => true
  | _           => false

-- A pool comes back to an acquisition that it has left pending.
abbrev RouterEvent.isCompletion : RouterEvent → Bool
  | poolReady ..   => true
  | poolFailure .. => true
  | _              => false

def RouterEvent.isData : RouterEvent → Bool
  | clusterData .. => true
  | _              => false

namespace Incident

abbrev isPossession : Incident → Bool
  | told event => event.isCompletion
  | did effect => effect.isPossession

abbrev isCompletion : Incident → Bool
  | told event => event.isCompletion
  | did _      => false

-- A pool leaves an acquisition pending.
abbrev isPending : Incident → Bool
  | did (.acquired _ .pending) => true
  | _                          => false

end Incident

abbrev possessions (log : List Incident) : List Incident :=
  log.filter (·.isPossession)

-- The effects that concern what a call has.
abbrev holdings (es : List Effect) : List Effect :=
  es.filter (·.isPossession)

def writing (k : ConnectionId) (writes : List Bytes) : List Incident :=
  writes.map fun bytes => .did (.wrote k bytes false)

-- All that a call does about what it has, up to its end. A pool that has left an acquisition pending fails to come up
-- with a connection, is told that none is needed any longer, or hands a connection to the call. The connection is
-- written to for a while, may be closed, and then goes back to its pool.
inductive GivenBack (closes : Bool) : List Incident → Prop
  | refused : GivenBack closes [.did (.acquired pool (.failed reason host?))]
  | failed : GivenBack closes [.did (.acquired pool .pending), .told (.poolFailure reason host?)]
  | cancelled : GivenBack closes [.did (.acquired pool .pending), .did (.cancelled pool)]
  | released (handed : Handed pool k hs) (writes : List Bytes) :
    GivenBack closes
      (hs ++ writing k writes ++ (if closes then [.did (.closed k .noFlush)] else []) ++ [.did (.released k)])

-- What a call has that has not ended: an acquisition that is pending, or a connection.
inductive Call.Possesses (call : Call) : List Incident → Prop
  | awaits (state : call.state = .acquiring) (pending : call.pending) (connection : call.connection? = none)
      (reply : call.upgradeReply = false) : Possesses call [.did (.acquired call.pool .pending)]
  | holds {writes : List Bytes} {pool : PoolId} (live : call.isTerminal = false) (handed : call.pending = false)
      (connection : call.connection? = some k) (h : Handed pool k hs) : Possesses call (hs ++ writing k writes)

-- What becomes by an operation of a call, and of what it has. Only a response that is complete before there is a
-- connection makes a call forget the acquisition that is pending.
inductive Disposes (pending : Bool) (is : List Incident) (s : Shared) (x : Call × Shared) : Prop
  | goesOn (es : List Effect) (ht : x.2.transcript = s.transcript ++ es)
      (possesses : x.1.Possesses (is ++ (holdings es).map .did)) (unbroken : breaks es = false)
      (timely : pending → completes es = false)
  | ends (es : List Effect) (ht : x.2.transcript = s.transcript ++ es) (dead : x.1.isTerminal)
      (givenBack : GivenBack (breaks es) (is ++ (holdings es).map .did)) (timely : pending → completes es = false)
  | forgets {owed : PoolId} (es : List Effect) (ht : x.2.transcript = s.transcript ++ es) (dead : x.1.isTerminal)
      (untimely : pending ∧ completes es) (kept : is ++ (holdings es).map .did = [.did (.acquired owed .pending)])

section

variable {pending : Bool} {is : List Incident} {s s' : Shared} {x : Call × Shared} {es : List Effect}

-- An operation is judged together with what was done just before.
theorem Disposes.after (es : List Effect) (h : Disposes pending (is ++ (holdings es).map .did) s' x)
    (ht : s'.transcript = s.transcript ++ es) (hb : breaks es = false) (hc : completes es = false) :
    Disposes pending is s x := by
  cases h
  case goesOn es' ht' possesses unbroken timely =>
    exact .goesOn (es ++ es') (by simp [ht', ht]) (by simpa using possesses) (by simp [hb, unbroken])
      fun hp => by simp [hc, timely hp]
  case ends es' ht' dead givenBack timely =>
    exact .ends (es ++ es') (by simp [ht', ht]) dead (by simpa [hb] using givenBack)
      fun hp => by simp [hc, timely hp]
  case forgets es' ht' dead untimely kept =>
    exact .forgets (es ++ es') (by simp [ht', ht]) dead (by simp [untimely]) (by simpa using kept)

-- What is done just before may be no concern of what a call has.
theorem Disposes.pass (es : List Effect) (h : Disposes pending is s' x) (ht : s'.transcript = s.transcript ++ es)
    (hn : holdings es = []) (hb : breaks es = false) (hc : completes es = false) : Disposes pending is s x :=
  .after es (by simpa [hn] using h) ht hb hc

-- A call goes on with what it has.
theorem Disposes.rest (h : x.1.Possesses is) (es : List Effect) (ht : x.2.transcript = s.transcript ++ es)
    (hn : holdings es = []) (hb : breaks es = false) (hc : completes es = false) : Disposes pending is s x :=
  .goesOn es ht (by simpa [hn] using h) hb fun _ => hc

end

namespace Call

variable {c : Surroundings} {call call' : Call} {is : List Incident} {s s' : Shared} {x : Call × Shared}
  {es : List Effect} {k : ConnectionId} {host : Host} {reason : ConnectionFailure} {close pending : Bool}

@[simp]
theorem holdings_releaseEffects : holdings (call.releaseEffects close) = call.releaseEffects close := by
  rw [holdings, filter_releaseEffects, releaseEffects_eq]
  simp

namespace Possesses

theorem live (h : call.Possesses is) : call.isTerminal = false := by
  cases h
  case awaits state _ _ _ => simp [isTerminal, state, CallState.isTerminal]
  case holds live _ _ _   => exact live

-- A pool that has left an acquisition pending has not come back to it.
theorem of_pending (h : call.Possesses is) (pending : call.pending) :
    is = [.did (.acquired call.pool .pending)] ∧ call.connection? = none := by
  cases h
  case awaits connection _ => exact ⟨rfl, connection⟩
  case holds handed _ _    => simp [pending] at handed

theorem not_pending (h : call.Possesses is) (ready : call.isPaused = false) : call.pending = false := by
  cases h
  case awaits state _ _ _ => simp [isPaused, state] at ready
  case holds handed _ _   => exact handed

-- The call with other data of its message or its response.
theorem of_alike (h : call.Possesses is) (state : call'.state = call.state) (pool : call'.pool = call.pool)
    (pending : call'.pending = call.pending) (connection : call'.connection? = call.connection?)
    (reply : call'.upgradeReply = call.upgradeReply) : call'.Possesses is := by
  cases h
  case awaits acquiring owed unconnected unread =>
    exact pool ▸ .awaits (state.trans acquiring) (pending.trans owed) (connection.trans unconnected)
      (reply.trans unread)
  case holds live handed connected h =>
    have live : call'.isTerminal = false := by rwa [isTerminal, state]
    exact .holds live (pending.trans handed) (connection.trans connected) h

-- A call that lets go of what it has.
theorem givenBack (h : call.Possesses is) (close : Bool) :
    GivenBack close (is ++ (call.releaseEffects close).map .did) := by
  cases h
  case awaits pending connection _ =>
    simpa [releaseEffects, cancelEffects, pending, connection] using GivenBack.cancelled
  case holds writes _ _ handed connection h =>
    have released : GivenBack close _ := .released h writes
    cases close <;> simpa [releaseEffects, cancelEffects, handed, connection] using released

-- An operation that ends a call and lets go of what the call has.
theorem of_end (h : call.Possesses is) (es : List Effect) (ht : x.2.transcript = s.transcript ++ es)
    (dead : x.1.isTerminal) (hn : holdings es = call.releaseEffects (breaks es))
    (timely : pending → completes es = false) : Disposes pending is s x :=
  .ends es ht dead (hn ▸ h.givenBack (breaks es)) timely

-- Most ends come without a response, and then the connection is not closed.
theorem of_unread_end (h : call.Possesses is) (es : List Effect) (ht : x.2.transcript = s.transcript ++ es)
    (dead : x.1.isTerminal) (unread : readings es = []) (hn : holdings es = call.releaseEffects false) :
    Disposes pending is s x := by
  have hb : breaks es = false := breaks_of_readings unread
  exact h.of_end es ht dead (hb ▸ hn) fun _ => completes_of_readings unread

theorem fail (h : call.Possesses is) (reason : ConnectionFailure) (s : Shared) :
    Disposes pending is s (call.fail reason s) :=
  h.of_unread_end (call.failEffects reason) fail_transcript fail_isTerminal (by simp) (by simp)

theorem lose (h : call.Possesses is) (reason : ConnectionFailure) (s : Shared) :
    Disposes pending is s (call.lose reason s) :=
  h.of_unread_end (call.failEffects reason) lose_transcript lose_isTerminal (by simp) (by simp)

-- A connection and a pending acquisition do not come together.
theorem releaseEffects_eq (h : call.Possesses is) :
    releases call.connection? ++ call.cancelEffects = call.releaseEffects false := by
  cases h
  case awaits pending connection _ => simp [releaseEffects, cancelEffects, pending, connection]
  case holds handed connection _   => simp [releaseEffects, cancelEffects, handed, connection]

theorem cutShort (h : call.Possesses is) (s : Shared) : Disposes pending is s (call.cutShort s) := by
  have hn : holdings call.cutShortEffects = call.releaseEffects false := by simp [h.releaseEffects_eq]
  exact h.of_unread_end _ cutShort_transcript cutShort_isTerminal (by simp) hn

-- A call that is not waiting has a connection to give back, and nothing else.
theorem releases_eq (h : call.Possesses is) (handed : call.pending = false) :
    releases call.connection? = call.releaseEffects false := by
  simpa [cancelEffects, handed] using h.releaseEffects_eq

theorem finish (h : call.Possesses is) (handed : call.pending = false) (s : Shared) :
    Disposes pending is s (call.finish s) := by
  have hn : holdings call.finishEffects = call.releaseEffects false := by simp [h.releases_eq handed]
  exact h.of_unread_end _ finish_transcript finish_isTerminal (by simp) hn

end Possesses

-- The pool has no connection for the call.
theorem failToConnect_disposes (reason : ConnectionFailure) (host? : Option Host) (s : Shared)
    (connection : call.connection? = none) (givenBack : GivenBack false is) :
    Disposes pending is s (call.failToConnect reason host? s) := by
  let call' : Call := { call with pending := false, host? := host?.or call.host? }
  have unread : readings (call'.failEffects reason) = [] := by simp
  have hn : call'.releaseEffects false = [] := by simp [call', releaseEffects, cancelEffects, connection]
  refine .ends (call'.failEffects reason) fail_transcript fail_isTerminal ?_ fun _ => completes_of_readings unread
  simpa [hn, breaks_of_readings unread] using givenBack

theorem startRequest_disposes {pool : PoolId} {hs : List Incident} (c : Surroundings) (resume : Bool) (s : Shared)
    (handed : call.pending = false) (connection : call.connection? = some k) (h : Handed pool k hs)
    (writes : List Bytes) : Disposes pending (hs ++ writing k writes) s (call.startRequest c resume s) := by
  have unread : readings (call.startEffects c resume s) = [] := by simp
  have holds : (call.startRequest c resume s).1.Possesses (hs ++ writing k writes) := by
    rw [startRequest_fst]
    exact .holds rfl handed connection h
  exact .rest holds _ startRequest_transcript (by simp) (breaks_of_readings unread) (completes_of_readings unread)

-- A connection that is handed to the call is held from then on.
theorem connect_disposes {pool : PoolId} (c : Surroundings) (host : Host) (s : Shared)
    (connection : call.connection? = none) (handed : Handed pool k is) :
    Disposes pending is s (call.connect c k host s) := by
  cases ho : call.offered? c k host s
  case some request =>
    let upgrading : Call := { call.holding k host (s.connections.getOrCreate k).1 with
      buffer := [], requestSize := call.requestSize + (call.buffer ++ request).length, upgradeReply := true,
      state := .upgrading }
    have holds : upgrading.Possesses (is ++ writing k [call.buffer ++ request]) := .holds rfl rfl rfl handed
    rw [connect_of_offer ho]
    exact .goesOn _ rfl (by simpa [upgrading, writing, connection] using holds) (by simp [connection])
      (by simp [connection])
  case none =>
    let held := call.holding k host (s.connections.getOrCreate k).1
    let es := Effect.judged host .connected :: call.offerEffects none ++ releases call.connection?
    have unread : readings es = [] := by simp [es]
    have started (s : Shared) : Disposes pending (is ++ writing k []) s (held.startRequest c call.pending s) :=
      startRequest_disposes c call.pending s rfl rfl handed []
    rw [connect_of_no_offer ho]
    have hn : holdings es = [] := by simp [es, connection]
    have ht (connections : ConnectionTable) : Shared.transcript { connections, transcript := s.transcript ++ es } =
        s.transcript ++ es := rfl
    exact .pass es (by simpa [held, es, writing] using started _) (ht _) hn (breaks_of_readings unread)
      (completes_of_readings unread)

-- A new call has a connection, waits for one, or has ended.
theorem begin_disposes (o : Origin) (c : Surroundings) (id : RouterId) (s : Shared) :
    Disposes pending [] s (o.begin c id s) := by
  have h : Disposes pending [] (s.emit (.madeCodec id o.leg)) (o.begin c id s) := by
    cases ha : c.acquire (s.emit (.madeCodec id o.leg)).transcript (o.call id).pool <;>
      simp only [Origin.begin, start, ha]
    case pending             => exact .goesOn [.acquired o.pool .pending] rfl (.awaits rfl rfl rfl rfl) rfl fun _ => rfl
    case ready k host        =>
      exact .after [.acquired o.pool (.ready k host)] (connect_disposes c host _ rfl .atOnce) rfl rfl rfl
    case failed reason host? =>
      exact .after [.acquired o.pool (.failed reason host?)]
        (failToConnect_disposes reason host? _ rfl .refused) rfl rfl rfl
  exact .pass [.madeCodec id o.leg] h rfl rfl rfl rfl

namespace Possesses

theorem writeBody (h : call.Possesses is) (c : Surroundings) (body : Bytes) (passthrough : Bool) (s : Shared) :
    Disposes pending is s (call.writeBody c body passthrough s) := by
  have alike (buffer : Bytes) : { call with buffer }.Possesses is := h.of_alike rfl rfl rfl rfl rfl
  cases passthrough
  case true  => exact .rest (alike _) [] (List.append_nil _).symm rfl rfl rfl
  case false => exact .rest (alike _) _ rfl rfl rfl rfl

theorem endRequest (h : call.Possesses is) (c : Surroundings) (s : Shared) :
    Disposes pending is s (call.endRequest c s) := by
  cases h
  case awaits state pending connection reply =>
    have he : call.endRequest c s = (call, s) := by simp [Call.endRequest, connection]
    rw [he]
    exact .rest (.awaits state pending connection reply) [] (List.append_nil _).symm rfl rfl rfl
  case holds k hs writes _ live handed connection h =>
    have holds : (call.endRequest c s).1.Possesses (hs ++ writing k (writes ++ [call.frame c s])) := by
      rw [endRequest_of_connection connection]
      exact .holds rfl handed connection h
    refine .goesOn (call.endEffects c k s) (by rw [endRequest_of_connection connection]) ?_ rfl fun _ => rfl
    simpa [endEffects, writing] using holds

theorem readUpgrade (h : call.Possesses is) (c : Surroundings) (data : Bytes) (endStream : Bool) (s : Shared)
    (reply : call.upgradeReply) : Disposes pending is s (call.readUpgrade c data endStream s).2 := by
  cases h
  case awaits reply' => simp [reply] at reply'
  case holds k hs writes _ live handed connection h =>
    cases hd : (c.readUpgrade s.transcript call.router data).outcome
    case false =>
      rw [readUpgrade_of_waiting hd]
      exact .rest (.holds live handed connection h) [_] rfl rfl rfl rfl
    case true  =>
      have unread : readings (call.resumeEffects c data s) = [] := by simp
      have hn : holdings (call.resumeEffects c data s) = [] := by simp
      have resumed : (call.resume c data s).1.Possesses (hs ++ writing k writes) := by
        rw [resume, startRequest_fst]
        exact .holds rfl handed connection h
      rw [readUpgrade_eq_resume hd]
      cases endStream
      case false =>
        exact .rest resumed _ resume_transcript hn (breaks_of_readings unread) (completes_of_readings unread)
      case true  =>
        exact .pass _ (resumed.cutShort _) resume_transcript hn (breaks_of_readings unread)
          (completes_of_readings unread)

-- A response that is complete is the end of the call. An acquisition that is pending is not cancelled then.
theorem respond (h : call.Possesses is) (c : Surroundings) (s s' : Shared) (hs : s'.transcript = s.transcript ++ es)
    (hn : holdings es = []) (hb : breaks es = false) (hc : completes es) :
    Disposes call.pending is s (call.respond c s') := by
  have unread : readings (call.respondEffects c s') = [] := by simp
  have hn : holdings (es ++ call.respondEffects c s') = releases call.connection? := by simp [hn]
  have hb : breaks (es ++ call.respondEffects c s') = false := by simp [hb, breaks_of_readings unread]
  have ht : (call.respond c s').2.transcript = s.transcript ++ (es ++ call.respondEffects c s') := by simp [hs]
  cases hp : call.pending
  case false => exact h.of_end _ ht respond_isTerminal (by rw [hn, hb, h.releases_eq hp]) (by simp)
  case true  =>
    obtain ⟨rfl, connection⟩ := h.of_pending hp
    have kept : [Incident.did (.acquired call.pool .pending)] ++ (holdings (es ++ call.respondEffects c s')).map .did =
        [.did (.acquired call.pool .pending)] := by
      simp [hn, connection]
    exact .forgets _ ht respond_isTerminal ⟨rfl, by simp [hc]⟩ kept

theorem readResponse (h : call.Possesses is) (c : Surroundings) (data : Bytes) (endStream : Bool) (s : Shared) :
    Disposes call.pending is s (call.readResponse c data endStream s).2 := by
  rw [readResponse_eq]
  dsimp only
  generalize (c.readResponse (call.opened s).transcript call.router data).outcome = status
  let call' : Call := { call with responseStarted := true }
  let es : List Effect := call.openEffects ++ [.readResponse call.router data status]
  let s₁ := (call.opened s).emit (.readResponse call.router data status)
  have h : call'.Possesses is := h.of_alike rfl rfl rfl rfl rfl
  have ht : s₁.transcript = s.transcript ++ es := by simp [s₁, opened, es]
  have unread : readings call.openEffects = [] := by simp
  have hn : holdings es = [] := by simp [es]
  have hb : breaks es = (status == .broken) := by cases status <;> simp [es, breaks_of_readings unread]
  have hc : completes es = (status == .complete) := by cases status <;> simp [es, completes_of_readings unread]
  cases status
  case complete => exact h.respond c s s₁ ht hn hb hc
  case broken   =>
    have unread' : readings call'.breakOffEffects = [] := by simp
    have hc : completes (es ++ call'.breakOffEffects) = false := by simp [hc, completes_of_readings unread']
    have hb : breaks (es ++ call'.breakOffEffects) := by simp [hb]
    have hn : holdings (es ++ call'.breakOffEffects) = call'.releaseEffects true := by simp [hn]
    show Disposes call.pending is s (call'.breakOff s₁)
    exact h.of_end (es ++ call'.breakOffEffects) (by simp [ht]) breakOff_isTerminal (by rw [hn, hb]) fun _ => hc
  case more     =>
    cases endStream
    case false => exact .rest h es ht hn hb hc
    case true  => exact .pass es (h.cutShort s₁) ht hn hb hc

theorem receive (h : call.Possesses is) (c : Surroundings) (data : Bytes) (endStream : Bool) (s : Shared) :
    Disposes call.pending is s (call.receive c data endStream s).2 := by
  let call' : Call := { call with responseSize := call.responseSize + data.length }
  have h : call'.Possesses is := h.of_alike rfl rfl rfl rfl rfl
  rw [receive_eq]
  dsimp only
  split
  case isTrue reply => exact h.readUpgrade c data endStream s reply
  case isFalse      => exact h.readResponse c data endStream s

end Possesses

-- What an event does to a call, if it is not the beginning of the next one.
def take (c : Surroundings) (passthrough : Bool) (call : Call) (event : RouterEvent) (s : Shared) : Call × Shared :=
  match event with
  | .transportBegin             => (call, s)
  | .messageBegin _             => (call, s)
  | .messageBody body           => call.writeBody c body passthrough s
  | .messageEnd                 => call.endRequest c s
  | .transportEnd               => if call.message.isOneway then call.finish s else (call, s)
  | .poolReady id host          => call.connect c id host s
  | .poolFailure reason host?   => call.failToConnect reason host? s
  | .clusterData data endStream => (call.receive c data endStream s).2
  | .remoteClose                => call.lose .remoteClose s
  | .localClose                 => call.lose .localClose s

-- What an event means for what a call has, if the pool comes back with it only while it owes a connection.
theorem Possesses.take (h : call.Possesses is) (c : Surroundings) (passthrough : Bool) (event : RouterEvent)
    (s : Shared) (ready : event.isDecode → call.isPaused = false) (owed : event.isCompletion → call.pending) :
    Disposes (event.isData && call.pending) (is ++ if event.isCompletion then [.told event] else []) s
      (call.take c passthrough event s) := by
  have rest (pending : Bool) : Disposes pending is s (call, s) := .rest h [] (List.append_nil _).symm rfl rfl rfl
  cases event
  case poolReady k host           =>
    obtain ⟨rfl, connection⟩ := h.of_pending (owed rfl)
    exact connect_disposes c host s connection .later
  case poolFailure reason host?   =>
    obtain ⟨rfl, connection⟩ := h.of_pending (owed rfl)
    exact failToConnect_disposes reason host? s connection .failed
  all_goals rw [if_neg Bool.false_ne_true, List.append_nil]
  case transportBegin             => exact rest false
  case messageBegin message       => exact rest false
  case messageBody body           => exact h.writeBody c body passthrough s
  case messageEnd                 => exact h.endRequest c s
  case transportEnd               =>
    simp only [Call.take]
    split
    case isTrue  => exact h.finish (h.not_pending (ready rfl)) s
    case isFalse => exact rest false
  case clusterData data endStream => exact h.receive c data endStream s
  case remoteClose                => exact h.lose .remoteClose s
  case localClose                 => exact h.lose .localClose s

end Call

-- Any event but the beginning of a message is one for the call under way.
theorem Router.apply_of_call {r : Router} {call : Call} {event : RouterEvent} (c : Surroundings) (s : Shared)
    (hc : r.call? = some call) (live : call.isTerminal = false) (he : ∀ message, event ≠ .messageBegin message) :
    (r.apply c event s).2 =
      (r.keep (call.take c r.passthrough event s).1, (call.take c r.passthrough event s).2) := by
  cases event <;> simp only [apply, Call.take]
  case transportBegin           => rw [keep_of_call hc live]
  case messageBegin message     => exact absurd rfl (he message)
  case messageBody              => exact withCall_of_call hc
  case messageEnd               => exact withCall_of_call hc
  case transportEnd             =>
    split
    case isTrue oneway =>
      simp [endTransport_of_oneway hc oneway, keep, Call.finish_isTerminal]
    case isFalse twoway =>
      have twoway : ∀ call, r.call? = some call → call.message.isOneway = false := by simp [hc, twoway]
      rw [endTransport_of_other twoway, keep_of_call hc live]
  case poolReady                => exact poolReady_of_call hc
  case poolFailure              => exact withCall_of_call hc
  case clusterData              => exact receive_of_call hc
  case remoteClose              => exact withCall_of_call hc
  case localClose               => exact withCall_of_call hc

-- Without a call, only a connection that comes after all makes a difference.
theorem Router.apply_of_none {r : Router} {event : RouterEvent} (c : Surroundings) (s : Shared) (hc : r.call? = none)
    (he : ∀ message, event ≠ .messageBegin message) (unexpected : event.isCompletion = false) :
    (r.apply c event s).2 = (r, s) := by
  cases event <;> simp only [apply]
  case messageBegin message => exact absurd rfl (he message)
  case messageBody          => exact withCall_of_none hc
  case messageEnd           => exact withCall_of_none hc
  case transportEnd         => simp [endTransport, hc]
  case poolReady            => cases unexpected
  case poolFailure          => cases unexpected
  case clusterData          => simp [receive, hc]
  case remoteClose          => exact withCall_of_none hc
  case localClose           => exact withCall_of_none hc

end RpcProxy
