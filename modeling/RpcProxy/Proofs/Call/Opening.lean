import RpcProxy.Proofs.Call.Conduct
import RpcProxy.Proofs.Call.Continuation

namespace RpcProxy

-- A request begins when the beginning of its message is encoded. The call is in flight from then on, at least for a
-- moment.
abbrev Effect.isOpening : Effect → Bool
  | encodedBegin .. => true
  | _               => false

abbrev openings (es : List Effect) : List Effect :=
  es.filter (·.isOpening)

def opens (es : List Effect) : Bool :=
  es.any (·.isOpening)

theorem opens_append {es es' : List Effect} : opens (es ++ es') = (opens es || opens es') :=
  List.any_append

theorem opens_of_openings {es : List Effect} (h : openings es = []) : opens es = false :=
  List.any_eq_false.mpr (List.filter_eq_nil_iff.mp h)

namespace Call

variable {c : Surroundings} {call : Call} {s : Shared} {id : ConnectionId} {host : Host} {host? : Option Host}
  {reason : ConnectionFailure} {id? : Option ConnectionId} {close : Bool}

-- A call waits for its pool, or for the reply to an upgrade request, or it makes nobody wait.
inductive Stance (call : Call) : Bool → Prop
  | acquiring (state : call.state = .acquiring) (pending : call.pending) (connection : call.connection? = none)
      (reply : call.upgradeReply = false) : Stance call true
  | upgrading (state : call.state = .upgrading) (handed : call.pending = false) (reply : call.upgradeReply) :
    Stance call true
  | ready (ready : call.isPaused = false) (handed : call.pending = false) (reply : call.upgradeReply = false) :
    Stance call false

-- What an operation does about the request of a call. It lets the decoder go on exactly if it begins the request of a
-- call that waits.
inductive Opens (call : Call) (waiting : Bool) (s : Shared) (x : Call × Shared) : Prop
  | stays (es : List Effect) (ht : x.2.transcript = s.transcript ++ es) (told : continuations es = [])
      (unopened : opens es = false)
      (stance : x.1.isTerminal = false → x.1.Stance waiting ∧ x.1.router = call.router)
  | begins (es : List Effect) (ht : x.2.transcript = s.transcript ++ es) (waited : waiting)
      (told : continuations es = [.continued call.router]) (opened : opens es)
      (stance : x.1.isTerminal = false → x.1.Stance false ∧ x.1.router = call.router)

-- A connection that is handed over needs an upgrade first, or the request begins on it.
inductive Connects (call : Call) (s : Shared) (x : Call × Shared) : Prop
  | upgrades (es : List Effect) (ht : x.2.transcript = s.transcript ++ es) (silent : notices es = [])
      (told : continuations es = []) (unopened : opens es = false) (state : x.1.state = .upgrading)
      (stance : x.1.Stance true) (router : x.1.router = call.router)
  | begins (es : List Effect) (ht : x.2.transcript = s.transcript ++ es) (silent : notices es = [])
      (told : continuations es = if call.pending then [.continued call.router] else [])
      (encoded : ∃ bytes, .encodedBegin call.router x.1.message bytes ∈ es ∧ x.1.buffer = call.buffer ++ bytes)
      (state : x.1.state = .inFlight) (stance : x.1.Stance false) (router : x.1.router = call.router)

variable {waiting : Bool} {es : List Effect} {x : Call × Shared}

theorem Stance.isPaused_eq (h : call.Stance waiting) : call.isPaused = waiting := by
  cases h
  case acquiring state _ _ _ => simp [isPaused, state]
  case upgrading state _ _   => simp [isPaused, state]
  case ready ready _ _       => exact ready

theorem opens_of_mem {message : Message} {router : RouterId} {bytes : Bytes}
    (h : .encodedBegin router message bytes ∈ es) : opens es :=
  List.any_eq_true.mpr ⟨_, h, rfl⟩

-- An operation that ends the call.
theorem Opens.of_isTerminal (es : List Effect) (ht : x.2.transcript = s.transcript ++ es) (told : continuations es = [])
    (unopened : openings es = []) (dead : x.1.isTerminal) : call.Opens waiting s x :=
  .stays es ht told (opens_of_openings unopened) fun live => by simp [live] at dead

theorem lose_opens (s : Shared) : call.Opens waiting s (call.lose reason s) :=
  .of_isTerminal _ lose_transcript (by simp) (by simp) lose_isTerminal

theorem finish_opens (s : Shared) : call.Opens waiting s (call.finish s) :=
  .of_isTerminal _ finish_transcript (by simp) (by simp) finish_isTerminal

theorem failToConnect_opens (host? : Option Host) (s : Shared) :
    call.Opens waiting s (call.failToConnect reason host? s) :=
  .of_isTerminal _ fail_transcript (by simp) (by simp) fail_isTerminal

theorem connect_connects (c : Surroundings) (call : Call) (id : ConnectionId) (host : Host) (s : Shared)
    (reply : call.upgradeReply = false) : call.Connects s (call.connect c id host s) := by
  cases ho : call.offered? c id host s
  case some request =>
    rw [connect_of_offer ho]
    refine .upgrades _ rfl ?_ ?_ ?_ rfl (.upgrading rfl rfl rfl) rfl
    · simp
    · simp
    · exact opens_of_openings (by simp)
  case none =>
    rw [connect_of_no_offer ho]
    let held := call.holding id host (s.connections.getOrCreate id).1
    refine .begins _ (by rw [startRequest_transcript, List.append_assoc, List.append_assoc]) ?_ ?_ ?_ ?_ ?_ ?_
    · simp
    · simp [holding]
    · rw [startRequest_fst]
      exact ⟨_, List.mem_append_right _ (List.mem_append_right _ (.head _)), rfl⟩
    · rw [startRequest_fst]
    · rw [startRequest_fst]
      exact .ready rfl rfl reply
    · rw [startRequest_fst]
      rfl

-- The pool keeps its promise.
theorem connect_opens (c : Surroundings) (id : ConnectionId) (host : Host) (s : Shared) (pending : call.pending)
    (reply : call.upgradeReply = false) : call.Opens true s (call.connect c id host s) := by
  cases connect_connects c call id host s reply
  case upgrades es ht _ told unopened _ stance router => exact .stays es ht told unopened fun _ => ⟨stance, router⟩
  case begins es ht _ told encoded _ stance router =>
    obtain ⟨bytes, encoded, _⟩ := encoded
    exact .begins es ht rfl (by simpa [pending] using told) (opens_of_mem encoded) fun _ => ⟨stance, router⟩

theorem writeBody_opens (c : Surroundings) (body : Bytes) (passthrough : Bool) (s : Shared)
    (stance : call.Stance false) : call.Opens false s (call.writeBody c body passthrough s) := by
  cases stance
  case ready ready handed reply =>
    have stance (buffer : Bytes) : { call with buffer }.Stance false := .ready ready handed reply
    cases passthrough
    case true  => exact .stays [] (List.append_nil _).symm rfl rfl fun _ => ⟨stance _, rfl⟩
    case false => exact .stays _ rfl rfl rfl fun _ => ⟨stance _, rfl⟩

theorem endRequest_opens (c : Surroundings) (s : Shared) (stance : call.Stance false) :
    call.Opens false s (call.endRequest c s) := by
  cases hi : call.connection?
  case none    => exact .stays [] (by simp [endRequest, hi]) rfl rfl fun _ => by simp [endRequest, hi, stance]
  case some id =>
    cases stance
    case ready ready handed reply =>
      rw [endRequest_of_connection hi]
      exact .stays _ rfl rfl rfl fun _ => ⟨.ready rfl handed reply, rfl⟩

theorem readUpgrade_opens (data : Bytes) (endStream : Bool) (s : Shared) (stance : call.Stance true)
    (reply : call.upgradeReply) : call.Opens true s (call.readUpgrade c data endStream s).2 := by
  cases stance
  case acquiring reply' => simp [reply] at reply'
  case upgrading state handed _ =>
    cases hd : (c.readUpgrade s.transcript call.router data).outcome
    case false =>
      rw [readUpgrade_of_waiting hd]
      exact .stays _ rfl rfl rfl fun _ => ⟨.upgrading state handed reply, rfl⟩
    case true =>
      let es := call.resumeEffects c data s
      have told : continuations es = [.continued call.router] ∧ opens es := by
        cases hr : call.stateRef? <;> simp [es, resumeEffects, hr, startEffects, opens]
      rw [readUpgrade_eq_resume hd]
      cases endStream
      case false =>
        refine .begins es resume_transcript rfl told.1 told.2 fun _ => ?_
        simp only [resume, startRequest_fst]
        exact ⟨.ready rfl handed rfl, rfl⟩
      case true =>
        refine .begins (es ++ (call.resume c data s).1.cutShortEffects) ?_ rfl (by simp [told.1])
          (by simp [opens_append, told.2]) fun live => ?_
        · exact cutShort_transcript.trans (by rw [resume_transcript, List.append_assoc])
        · simp [cutShort_isTerminal] at live

theorem readResponse_opens (data : Bytes) (endStream : Bool) (s : Shared) (stance : call.Stance false) :
    call.Opens false s (call.readResponse c data endStream s).2 := by
  rw [readResponse_eq]
  dsimp only
  generalize (c.readResponse (call.opened s).transcript call.router data).outcome = status
  let call' : Call := { call with responseStarted := true }
  let s₁ := (call.opened s).emit (.readResponse call.router data status)
  let es : List Effect := call.openEffects ++ [.readResponse call.router data status]
  have ht : s₁.transcript = s.transcript ++ es := by simp [s₁, opened, es]
  have told : continuations es = [] := by simp [es]
  have unopened : openings es = [] := by simp [es]
  -- The response is read before the call may end.
  have ends {x : Call × Shared} {es' : List Effect} (hx : x.2.transcript = s₁.transcript ++ es')
      (told' : continuations es' = []) (unopened' : openings es' = []) (dead : x.1.isTerminal) :
      call.Opens false s x :=
    .of_isTerminal (es ++ es') (by rw [hx, ht, List.append_assoc]) (by simp [told, told'])
      (by simp [unopened, unopened']) dead
  cases status
  case complete => exact ends respond_transcript (by simp) (by simp) respond_isTerminal
  case broken   => exact ends breakOff_transcript (by simp) (by simp) breakOff_isTerminal
  case more     =>
    cases endStream
    case true  => exact ends cutShort_transcript (by simp) (by simp) cutShort_isTerminal
    case false =>
      cases stance
      case ready ready handed reply =>
        exact .stays es ht told (opens_of_openings unopened) fun _ => ⟨.ready ready handed reply, rfl⟩

theorem receive_opens (data : Bytes) (endStream : Bool) (s : Shared) (stance : call.Stance waiting)
    (connected : call.connection?.isSome) : call.Opens waiting s (call.receive c data endStream s).2 := by
  let received : Call := { call with responseSize := call.responseSize + data.length }
  have h : received.Opens waiting s (call.receive c data endStream s).2 := by
    rw [receive_eq]
    cases stance
    case acquiring connection _ => simp [connection] at connected
    case upgrading state handed reply =>
      have stance : received.Stance true := .upgrading state handed reply
      rw [if_pos reply]
      exact readUpgrade_opens data endStream s stance reply
    case ready ready handed reply =>
      have stance : received.Stance false := .ready ready handed reply
      rw [if_neg (by simp [reply])]
      exact readResponse_opens data endStream s stance
  cases h
  case stays es ht told unopened stance        => exact .stays es ht told unopened stance
  case begins es ht waited told opened stance  => exact .begins es ht waited told opened stance

-- What becomes of a new call. Its request begins at once, it waits, or it has failed and the caller was told.
inductive Receives (call : Call) (s : Shared) (x : Call × Shared) : Prop
  | starts (es : List Effect) (ht : x.2.transcript = s.transcript ++ es) (silent : notices es = [])
      (encoded : .encodedBegin call.router x.1.message x.1.buffer ∈ es) (state : x.1.state = .inFlight)
      (stance : x.1.Stance false) (router : x.1.router = call.router)
  | waits (es : List Effect) (ht : x.2.transcript = s.transcript ++ es) (silent : notices es = [])
      (stance : x.1.Stance true) (router : x.1.router = call.router)
  | fails (es : List Effect) (ht : x.2.transcript = s.transcript ++ es) (dead : x.1.isTerminal)
      (told : (notices es).length = 1)

theorem start_receives (c : Surroundings) (s : Shared) (state : call.state = .acquiring)
    (connection : call.connection? = none) (reply : call.upgradeReply = false) (buffer : call.buffer = []) :
    call.Receives s (call.start c s).2 := by
  cases ha : c.acquire s.transcript call.pool
  case pending =>
    rw [start_of_pending ha]
    exact .waits _ rfl rfl (.acquiring state rfl connection reply) rfl
  case ready id host =>
    let s₁ := s.emit (.acquired call.pool (.ready id host))
    rw [start_of_ready ha]
    cases connect_connects c call id host s₁ reply
    case upgrades es ht silent _ _ _ stance router =>
      exact .waits (.acquired call.pool (.ready id host) :: es) (by simp [ht, s₁])
        (by simp [silent]) stance router
    case begins es ht silent _ encoded state stance router =>
      obtain ⟨bytes, encoded, hb⟩ := encoded
      obtain rfl : (call.connect c id host s₁).1.buffer = bytes := by rw [hb, buffer, List.nil_append]
      exact .starts (.acquired call.pool (.ready id host) :: es) (by simp [ht, s₁])
        (by simp [silent]) (.tail _ encoded) state stance router
  case failed reason host? =>
    let s₁ := s.emit (.acquired call.pool (.failed reason host?))
    let call' : Call := { call with pending := false, host? := host?.or call.host? }
    have ht : (call.failToConnect reason host? s₁).2.transcript =
        s.transcript ++ .acquired call.pool (.failed reason host?) :: call'.failEffects reason :=
      fail_transcript.trans (by simp [s₁, call'])
    have told : (notices (call'.failEffects reason)).length = 1 := by
      cases ho : call'.message.isOneway <;> cases hr : call'.resets reason <;> simp [ho, hr]
    rw [start_of_failed ha]
    exact .fails _ ht fail_isTerminal (by simpa using told)

end Call

end RpcProxy
