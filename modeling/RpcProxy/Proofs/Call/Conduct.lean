import RpcProxy.Proofs.Call.Effects

namespace RpcProxy

-- A failure is told to the caller by an exception or by the loss of the connection.
abbrev Effect.isNotice : Effect → Bool
  | replied ..         => true
  | resetDownstream .. => true
  | _                  => false

-- Bytes of the cluster go to the decoder of the response.
abbrev Effect.isReading : Effect → Bool
  | readResponse .. => true
  | _               => false

-- The decoder takes the response to be complete.
abbrev Effect.isCompletion : Effect → Bool
  | readResponse _ _ .complete => true
  | _                          => false

abbrev notices (es : List Effect) : List Effect :=
  es.filter (·.isNotice)

abbrev readings (es : List Effect) : List Effect :=
  es.filter (·.isReading)

def completes (es : List Effect) : Bool :=
  es.any (·.isCompletion)

@[simp]
theorem completes_nil : completes [] = false :=
  rfl

@[simp]
theorem completes_cons {e : Effect} {es : List Effect} : completes (e :: es) = (e.isCompletion || completes es) :=
  rfl

@[simp]
theorem completes_append {es es' : List Effect} : completes (es ++ es') = (completes es || completes es') :=
  List.any_append

theorem Effect.isReading_of_isCompletion {e : Effect} (h : e.isCompletion) : e.isReading := by
  cases e <;> simp_all [isCompletion, isReading]

theorem completes_of_readings {es : List Effect} (h : readings es = []) : completes es = false := by
  apply List.any_eq_false.mpr
  intro e he hc
  exact List.filter_eq_nil_iff.mp h e he (Effect.isReading_of_isCompletion hc)

-- Effects of which the caller learns nothing.
structure Aside (es : List Effect) : Prop where
  silent : notices es = []
  unread : readings es = []

theorem Aside.nil : Aside [] :=
  ⟨rfl, rfl⟩

theorem completes_of_aside {es : List Effect} (h : Aside es) : completes es = false :=
  completes_of_readings h.unread

namespace Call

variable {c : Surroundings} {call call' call'' : Call} {s : Shared} {id : ConnectionId} {host : Host}
  {reason : ConnectionFailure} {es es' : List Effect}

-- A call that still waits for its connection has heard nothing of the cluster.
def Sound (call : Call) : Prop :=
  call.pending → call.connection? = none ∧ call.responseStarted = false

structure Continues (call : Call) (es : List Effect) (call' : Call) : Prop where
  silent : notices es = []
  router : call'.router = call.router
  oneway : call'.message.isOneway = call.message.isOneway
  unread : call'.responseStarted = false → call.responseStarted = false ∧ readings es = []

-- For the caller it is the same call.
structure Alike (call call' : Call) : Prop where
  router  : call'.router = call.router
  oneway  : call'.message.isOneway = call.message.isOneway
  started : call'.responseStarted = call.responseStarted

structure Finishes (es : List Effect) (call' : Call) : Prop where
  ended  : call'.isTerminal
  silent : notices es = []

-- The caller is told once. An exception is for those who await a reply and have seen nothing of it yet.
structure Fails (call : Call) (es : List Effect) (call' : Call) : Prop where
  ended  : call'.isTerminal
  notice :
    notices es = [.resetDownstream call.router] ∨
    (∃ e, notices es = [.replied call.router e true]) ∧ call.message.isOneway = false ∧
      call.responseStarted = false ∧ readings es = []

-- What becomes of a call by an operation. It has ended well only if the response was complete.
inductive Conduct (call : Call) (s : Shared) (x : Call × Shared) : Prop
  | goesOn (es : List Effect) (ht : x.2.transcript = s.transcript ++ es) (h : call.Continues es x.1)
      (live : x.1.isTerminal = false) (sound : x.1.Sound)
  | finishes (es : List Effect) (ht : x.2.transcript = s.transcript ++ es) (h : Finishes es x.1)
      (complete : completes es)
  | fails (es : List Effect) (ht : x.2.transcript = s.transcript ++ es) (h : call.Fails es x.1)
      (incomplete : completes es = false)

theorem Continues.of_aside (h : Aside es) (ha : call.Alike call') : call.Continues es call' where
  silent   := h.silent
  router   := ha.router
  oneway   := ha.oneway
  unread n := ⟨ha.started ▸ n, h.unread⟩

theorem Continues.trans (h₁ : call.Continues es call') (h₂ : call'.Continues es' call'') :
    call.Continues (es ++ es') call'' where
  silent := by simp [h₁.silent, h₂.silent]
  router := h₂.router.trans h₁.router
  oneway := h₂.oneway.trans h₁.oneway
  unread h := by
    have ⟨h, he'⟩ := h₂.unread h
    have ⟨h, he⟩ := h₁.unread h
    exact ⟨h, by simp [he, he']⟩

theorem Continues.fails (h₁ : call.Continues es call') (h₂ : call'.Fails es' call'') :
    call.Fails (es ++ es') call'' where
  ended  := h₂.ended
  notice := by
    simp only [List.filter_append, h₁.silent, List.nil_append, ← h₁.router, ← h₁.oneway]
    cases h₂.notice
    case inl h => exact .inl h
    case inr h =>
      have ⟨hn, ho, hs, he'⟩ := h
      have ⟨hs, he⟩ := h₁.unread hs
      exact .inr ⟨hn, ho, hs, by simp [he, he']⟩

theorem Continues.finishes (h₁ : call.Continues es call') (h₂ : Finishes es' call'') :
    Finishes (es ++ es') call'' where
  ended  := h₂.ended
  silent := by simp [h₁.silent, h₂.silent]

theorem Conduct.transcript {x : Call × Shared} (h : call.Conduct s x) :
    ∃ es, x.2.transcript = s.transcript ++ es := by
  cases h
  all_goals exact ⟨_, by assumption⟩

-- An operation is judged together with what the call has done just before.
theorem Conduct.after {s₁ : Shared} {x : Call × Shared} (h : call'.Conduct s₁ x)
    (ht : s₁.transcript = s.transcript ++ es) (hc : call.Continues es call')
    (hn : completes es = false) : call.Conduct s x := by
  cases h
  case goesOn es' ht' h live sound =>
    exact .goesOn _ (by rw [ht', ht, List.append_assoc]) (hc.trans h) live sound
  case finishes es' ht' h complete =>
    exact .finishes _ (by rw [ht', ht, List.append_assoc]) (hc.finishes h) (by simp [complete])
  case fails es' ht' h incomplete =>
    exact .fails _ (by rw [ht', ht, List.append_assoc]) (hc.fails h) (by simp [hn, incomplete])

theorem Conduct.after_aside {s₁ : Shared} {x : Call × Shared} (ht : s₁.transcript = s.transcript ++ es)
    (ha : Aside es) (h : call'.Conduct s₁ x) (hl : call.Alike call') : call.Conduct s x :=
  h.after ht (.of_aside ha hl) (completes_of_aside ha)

-- An exception is only told to a caller that has seen nothing of the response.
theorem responseStarted_of_resets (h : reason = .overflow → call.responseStarted = false)
    (hr : call.resets reason = false) : call.responseStarted = false := by
  cases reason
  case overflow   => exact h rfl
  case localClose => cases hr
  all_goals exact hr

-- A call that fails tells the caller once, whatever else it does.
theorem fails_of_notices (reason : ConnectionFailure) (he : call'.isTerminal) (hr : readings es = [])
    (hs : reason = .overflow → call.responseStarted = false)
    (hn : notices es =
      if call.message.isOneway then [.resetDownstream call.router]
      else if call.resets reason then [.resetDownstream call.router]
      else [.replied call.router (call.exception reason) true]) :
    call.Fails es call' where
  ended  := he
  notice := by
    cases ho : call.message.isOneway
    case true  => exact .inl (by simpa [ho] using hn)
    case false =>
      cases ha : call.resets reason
      case true  => exact .inl (by simpa [ho, ha] using hn)
      case false =>
        exact .inr ⟨⟨_, by simpa [ho, ha] using hn⟩, rfl, responseStarted_of_resets hs ha, hr⟩

theorem fail_conduct (s : Shared) (h : reason = .overflow → call.responseStarted = false) :
    call.Conduct s (call.fail reason s) := by
  have unread : readings (call.failEffects reason) = [] := by simp
  refine .fails _ fail_transcript (fails_of_notices reason fail_isTerminal unread h ?told)
    (completes_of_readings unread)
  simp

theorem cutShort_conduct (call : Call) (s : Shared) : call.Conduct s (call.cutShort s) := by
  have unread : readings call.cutShortEffects = [] := by simp
  refine .fails _ cutShort_transcript (fails_of_notices .remoteClose cutShort_isTerminal unread nofun ?told)
    (completes_of_readings unread)
  simp

theorem breakOff_conduct (call : Call) (s : Shared) : call.Conduct s (call.breakOff s) := by
  have unread : readings call.breakOffEffects = [] := by simp
  refine .fails _ breakOff_transcript (fails_of_notices .localClose breakOff_isTerminal unread nofun ?told)
    (completes_of_readings unread)
  simp

theorem aside_startEffects {resume : Bool} : Aside (call.startEffects c resume s) :=
  ⟨by simp, by simp⟩

theorem startRequest_continues (c : Surroundings) (call : Call) (resume : Bool) (s : Shared) :
    call.Continues (call.startEffects c resume s) (call.startRequest c resume s).1 := by
  rw [startRequest_fst]
  exact .of_aside aside_startEffects ⟨rfl, rfl, rfl⟩

theorem startRequest_conduct (c : Surroundings) (resume : Bool) (s : Shared) (hs : call.Sound) :
    call.Conduct s (call.startRequest c resume s) := by
  refine .goesOn _ startRequest_transcript (startRequest_continues ..) ?_ ?_
  all_goals rw [startRequest_fst]
  · rfl
  · exact hs

theorem connect_conduct (c : Surroundings) (call : Call) (id : ConnectionId) (host : Host) (s : Shared) :
    call.Conduct s (call.connect c id host s) := by
  cases ho : call.offered? c id host s
  case some request =>
    rw [connect_of_offer ho]
    exact .goesOn _ rfl (.of_aside ⟨by simp, by simp⟩ ⟨rfl, rfl, rfl⟩) rfl nofun
  case none =>
    rw [connect_of_no_offer ho]
    have h : Aside (.judged host .connected :: call.offerEffects none ++ releases call.connection?) :=
      ⟨by simp, by simp⟩
    exact .after_aside (by simp) h (startRequest_conduct c _ _ nofun) ⟨rfl, rfl, rfl⟩

theorem failToConnect_conduct (host? : Option Host) (s : Shared)
    (h : reason = .overflow → call.responseStarted = false) :
    call.Conduct s (call.failToConnect reason host? s) :=
  .after_aside (List.append_nil _).symm .nil (fail_conduct s h) ⟨rfl, rfl, rfl⟩

-- A new call goes on, with a connection or waiting for one, or it fails at once.
theorem start_conduct (c : Surroundings) (s : Shared) (hl : call.isTerminal = false)
    (hi : call.connection? = none) (hs : call.responseStarted = false) :
    call.Conduct s (call.start c s).2 := by
  have ha (answer : Acquisition) : Aside [.acquired call.pool answer] := ⟨rfl, rfl⟩
  cases h : c.acquire s.transcript call.pool <;> simp only [start, h]
  case pending => exact .goesOn _ rfl (.of_aside (ha _) ⟨rfl, rfl, rfl⟩) hl fun _ => ⟨hi, hs⟩
  case ready id host =>
    exact .after_aside rfl (ha _) (connect_conduct c call id host _) ⟨rfl, rfl, rfl⟩
  case failed _ host? =>
    exact .after_aside rfl (ha _) (failToConnect_conduct host? _ fun _ => hs) ⟨rfl, rfl, rfl⟩

theorem writeBody_conduct (c : Surroundings) (body : Bytes) (passthrough : Bool) (s : Shared)
    (hl : call.isTerminal = false) (hs : call.Sound) :
    call.Conduct s (call.writeBody c body passthrough s) := by
  unfold writeBody
  split
  · exact .goesOn [] (by simp) (.of_aside .nil ⟨rfl, rfl, rfl⟩) hl hs
  · exact .goesOn _ rfl (.of_aside ⟨by simp, by simp⟩ ⟨rfl, rfl, rfl⟩) hl hs

theorem endRequest_conduct (c : Surroundings) (s : Shared) (hl : call.isTerminal = false)
    (hs : call.Sound) : call.Conduct s (call.endRequest c s) := by
  cases hi : call.connection? <;> simp only [endRequest, hi]
  case none => exact .goesOn [] (by simp) (.of_aside .nil ⟨rfl, rfl, rfl⟩) hl hs
  case some =>
    refine .goesOn _ (by simp only [Shared.emit_transcript, List.append_assoc]; rfl)
      (.of_aside ?_ ⟨rfl, rfl, rfl⟩) rfl ?_
    · exact ⟨rfl, rfl⟩
    · exact fun hp => absurd (hs hp).1 (by simp [hi])

theorem respond_finishes : Finishes (call.respondEffects c s) (call.respond c s).1 where
  ended  := respond_isTerminal
  silent := by simp

theorem readUpgrade_conduct (c : Surroundings) (data : Bytes) (endStream : Bool) (s : Shared)
    (hl : call.isTerminal = false) (hp : call.pending = false) :
    call.Conduct s (call.readUpgrade c data endStream s).2 := by
  have hs (call' : Call) (h : call'.pending = false) : call'.Sound := by simp [Sound, h]
  cases hd : (c.readUpgrade s.transcript call.router data).outcome
  case false =>
    rw [readUpgrade_of_waiting hd]
    exact .goesOn _ rfl (.of_aside ⟨by simp, by simp⟩ ⟨rfl, rfl, rfl⟩) hl (hs _ hp)
  case true =>
    rw [readUpgrade_of_done hd]
    have ht : (call.upgraded c (s.emit (.readUpgrade call.router data true))).transcript =
        s.transcript ++ (Effect.readUpgrade call.router data true ::
          if call.stateRef?.isSome then [Effect.completedUpgrade call.router] else []) := by simp
    refine .after_aside ht (by split <;> exact ⟨rfl, rfl⟩)
      (?_ : Conduct { call with upgradeReply := false } _ _) ⟨rfl, rfl, rfl⟩
    dsimp only
    split
    case isTrue  =>
      exact (cutShort_conduct ..).after startRequest_transcript (startRequest_continues ..)
        (completes_of_aside aside_startEffects)
    case isFalse => exact startRequest_conduct c true _ (hs _ hp)

theorem readResponse_conduct (c : Surroundings) (data : Bytes) (endStream : Bool) (s : Shared)
    (hl : call.isTerminal = false) (hp : call.pending = false) :
    call.Conduct s (call.readResponse c data endStream s).2 := by
  rw [readResponse_eq]
  dsimp only
  generalize (c.readResponse (call.opened s).transcript call.router data).outcome = status
  -- Once the response has begun, nothing remains to be said about what was read of it.
  have hc : call.Continues (call.openEffects ++ [Effect.readResponse call.router data status])
      { call with responseStarted := true } :=
    { silent := by simp,
      router := rfl, oneway := rfl, unread := nofun }
  have ht : ((call.opened s).emit (.readResponse call.router data status)).transcript =
      s.transcript ++ (call.openEffects ++ [Effect.readResponse call.router data status]) := by
    simp [opened]
  have ho : completes call.openEffects = false := by unfold openEffects; split <;> rfl
  cases status
  case complete =>
    exact .finishes _ (by rw [respond_transcript, ht, List.append_assoc]) (hc.finishes respond_finishes)
      (by simp)
  case broken => exact (breakOff_conduct ..).after ht hc (by simp [ho])
  case more   =>
    dsimp only
    split
    case isTrue  => exact (cutShort_conduct ..).after ht hc (by simp [ho])
    case isFalse => exact .goesOn _ ht hc hl (by simp [Sound, hp])

theorem receive_conduct (c : Surroundings) (data : Bytes) (endStream : Bool) (s : Shared)
    (hl : call.isTerminal = false) (hp : call.pending = false) :
    call.Conduct s (call.receive c data endStream s).2 := by
  unfold receive
  dsimp only
  split
  case isTrue  =>
    exact .after_aside (List.append_nil _).symm .nil (readUpgrade_conduct c data endStream s hl hp)
      ⟨rfl, rfl, rfl⟩
  case isFalse =>
    exact .after_aside (List.append_nil _).symm .nil (readResponse_conduct c data endStream s hl hp)
      ⟨rfl, rfl, rfl⟩

theorem lose_conduct (s : Shared) (h : reason = .overflow → call.responseStarted = false) :
    call.Conduct s (call.lose reason s) := by
  cases fail_conduct s h
  case goesOn es ht hc live sound => exact .goesOn es (by simp [← ht]) hc live sound
  case finishes es ht hf complete => exact .finishes es (by simp [← ht]) hf complete
  case fails es ht hf incomplete  => exact .fails es (by simp [← ht]) hf incomplete

end Call

end RpcProxy
