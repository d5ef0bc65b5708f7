import RpcProxy.Proofs.Call.Effects

namespace RpcProxy

-- The decoder of the caller's leg is told to go on.
abbrev Effect.isContinuation : Effect → Bool
  | continued _ => true
  | _           => false

abbrev continuations (es : List Effect) : List Effect :=
  es.filter (·.isContinuation)

-- A later state with all that the decoder was told until then.
abbrev Shared.Continued (s s' : Shared) (told : List Effect) : Prop :=
  s.Shows (·.isContinuation) s' told

namespace Call

variable {c : Surroundings} {call : Call} {s : Shared} {id : ConnectionId} {host : Host} {host? : Option Host}
  {reason : ConnectionFailure}

-- A call that makes the decoder wait waits for something itself.
structure Waits (call : Call) : Prop where
  pool  : call.state = .acquiring → call.pending
  reply : call.state = .upgrading → call.upgradeReply

-- What an operation means for a decoder that waits. It is told to go on as soon as it need not wait any longer.
inductive Awakens (call : Call) (s : Shared) (x : Call × Shared) : Prop
  | waits (paused : x.1.isPaused) (router : x.1.router = call.router) (waits : x.1.Waits)
      (told : s.Continued x.2 [])
  | goesOn (resumed : x.1.isPaused = false) (told : s.Continued x.2 [.continued call.router])

theorem isPaused_of_isTerminal (h : call.isTerminal) : call.isPaused = false := by
  cases hs : call.state <;> simp_all [isTerminal, isPaused, CallState.isTerminal]

-- A connection either needs an upgrade first, or the request begins.
theorem connect_cases (c : Surroundings) (call : Call) (id : ConnectionId) (host : Host) (s : Shared) :
    ((call.connect c id host s).1.state = .upgrading ∧ (call.connect c id host s).1.upgradeReply ∧
      (call.connect c id host s).1.router = call.router ∧ s.Continued (call.connect c id host s).2 []) ∨
    ((call.connect c id host s).1.state = .inFlight ∧
      s.Continued (call.connect c id host s).2 (if call.pending then [.continued call.router] else [])) := by
  cases ho : call.offered? c id host s
  case some request =>
    rw [connect_of_offer ho]
    exact .inl ⟨rfl, rfl, rfl, _, rfl, by simp⟩
  case none =>
    obtain ⟨s', ht⟩ := connect_transcript_of_no_offer ho
    exact .inr ⟨by rw [connect_of_no_offer ho, startRequest_fst], _, ht, by simp [holding]⟩

theorem connect_awakens (hp : call.pending) : call.Awakens s (call.connect c id host s) := by
  cases connect_cases c call id host s
  case inl h =>
    have ⟨hs, hu, hr, told⟩ := h
    exact .waits (by simp [isPaused, hs]) hr ⟨by simp [hs], fun _ => hu⟩ told
  case inr h =>
    have ⟨hs, told⟩ := h
    exact .goesOn (by simp [isPaused, hs]) (by simpa [hp] using told)

theorem readUpgrade_awakens {data : Bytes} {endStream : Bool} (hs : call.state = .upgrading)
    (hu : call.upgradeReply) : call.Awakens s (call.readUpgrade c data endStream s).2 := by
  cases hd : (c.readUpgrade s.transcript call.router data).outcome
  case false =>
    rw [readUpgrade_of_waiting hd]
    exact .waits (by simp [isPaused, hs]) rfl ⟨by simp [hs], fun _ => hu⟩ (.emit (.refl _) rfl)
  case true =>
    have told : s.Continued (call.resume c data s).2 [.continued call.router] := ⟨_, resume_transcript, by simp⟩
    rw [readUpgrade_eq_resume hd]
    split
    case isTrue  =>
      have unheard {call : Call} {s : Shared} : s.Continued (call.cutShort s).2 [] := ⟨_, cutShort_transcript, by simp⟩
      exact .goesOn (isPaused_of_isTerminal cutShort_isTerminal) (told.trans unheard)
    case isFalse => exact .goesOn (by simp [isPaused, resume, startRequest_fst]) told

theorem receive_awakens {data : Bytes} {endStream : Bool} (hs : call.state = .upgrading)
    (hu : call.upgradeReply) : call.Awakens s (call.receive c data endStream s).2 := by
  have h : { call with responseSize := call.responseSize + data.length }.Awakens s
      (readUpgrade c { call with responseSize := call.responseSize + data.length } data endStream s).2 :=
    readUpgrade_awakens hs hu
  unfold receive
  dsimp only
  rw [if_pos hu]
  cases h
  case waits paused router waits told => exact .waits paused router waits told
  case goesOn resumed told            => exact .goesOn resumed told

theorem start_of_pending (ha : c.acquire s.transcript call.pool = .pending) :
    (call.start c s).2 = ({ call with pending := true }, s.emit (.acquired call.pool .pending)) := by
  simp [start, ha]

theorem start_of_ready (ha : c.acquire s.transcript call.pool = .ready id host) :
    (call.start c s).2 = call.connect c id host (s.emit (.acquired call.pool (.ready id host))) := by
  simp [start, ha]

theorem start_of_failed (ha : c.acquire s.transcript call.pool = .failed reason host?) :
    (call.start c s).2 =
      call.failToConnect reason host? (s.emit (.acquired call.pool (.failed reason host?))) := by
  simp [start, ha]

-- A call that has just begun has not told the decoder to wait, so it tells it nothing.
structure SetsOut (call : Call) (s : Shared) (x : Call × Shared) : Prop where
  told   : s.Continued x.2 []
  router : x.1.isPaused → x.1.router = call.router
  waits  : x.1.isPaused → x.1.Waits

theorem start_setsOut (c : Surroundings) (s : Shared) (hs : call.state = .acquiring)
    (hp : call.pending = false) : call.SetsOut s (call.start c s).2 := by
  cases ha : c.acquire s.transcript call.pool
  case pending =>
    rw [start_of_pending ha]
    constructor
    case told   => exact .emit (.refl _) rfl
    case router => exact fun _ => rfl
    case waits  => exact fun _ => ⟨fun _ => rfl, by simp [hs]⟩
  case ready id host =>
    rw [start_of_ready ha]
    cases connect_cases c call id host (s.emit (.acquired call.pool (.ready id host)))
    case inl h =>
      have ⟨hs, hu, hr, told⟩ := h
      exact ⟨told.emit rfl, fun _ => hr, fun _ => ⟨by simp [hs], fun _ => hu⟩⟩
    case inr h =>
      have ⟨hs, told⟩ := h
      simp only [hp, Bool.false_eq_true, if_false] at told
      constructor
      case told => exact told.emit rfl
      all_goals simp [isPaused, hs]
  case failed reason host? =>
    have hf : (call.failToConnect reason host?
        (s.emit (.acquired call.pool (.failed reason host?)))).1.isPaused = false :=
      isPaused_of_isTerminal fail_isTerminal
    rw [start_of_failed ha]
    constructor
    case told => exact .emit ⟨_, fail_transcript, by simp⟩ rfl
    all_goals simp [hf]

end Call

end RpcProxy
