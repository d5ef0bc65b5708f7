import RpcProxy.Proofs.Call.Opening

namespace RpcProxy

-- The messages differ at most in their sequence ids.
def Message.IsCopyOf (m message : Message) : Prop :=
  m = { message with sequenceId := m.sequenceId }

-- The message that a codec is given.
def Effect.encoded? : Effect → Option Message
  | encodedBegin _ message _ => some message
  | _                        => none

def encodedMessages (es : List Effect) : List Message :=
  es.filterMap (·.encoded?)

section

variable {es es' : List Effect} {m message message' : Message}

theorem Message.IsCopyOf.refl (m : Message) : m.IsCopyOf m :=
  rfl

theorem Message.IsCopyOf.trans (h : m.IsCopyOf message) (h' : message.IsCopyOf message') : m.IsCopyOf message' := by
  rw [IsCopyOf, h, h']

theorem encodedMessages_append : encodedMessages (es ++ es') = encodedMessages es ++ encodedMessages es' :=
  List.filterMap_append

-- It is given a message where a request begins.
theorem encodedMessages_openings : encodedMessages (openings es) = encodedMessages es :=
  filterMap_of_filter fun e => by cases e <;> simp [Effect.encoded?]

theorem encodedMessages_of_openings (h : openings es = []) : encodedMessages es = [] := by
  rw [← encodedMessages_openings, h]
  rfl

end

namespace Call

-- What an operation means for the message of a call: it stays, and the codec is given no other.
structure Bears (call : Call) (s : Shared) (x : Call × Shared) : Prop where
  message : x.1.message.IsCopyOf call.message
  encoded : ∃ es, x.2.transcript = s.transcript ++ es ∧ ∀ m ∈ encodedMessages es, m.IsCopyOf call.message

variable {c : Surroundings} {call call' : Call} {s s' : Shared} {x : Call × Shared} {reason : ConnectionFailure}
  {es : List Effect}

namespace Bears

-- An operation that gives the codec no message.
theorem of_none (hm : x.1.message = call.message) (ht : x.2.transcript = s.transcript ++ es)
    (he : openings es = []) : call.Bears s x where
  message := hm ▸ .refl _
  encoded := ⟨es, ht, by simp [encodedMessages_of_openings he]⟩

-- An operation after one that gives the codec no message.
theorem after (h : call'.Bears s' x) (hm : call'.message = call.message) (ht : s'.transcript = s.transcript ++ es)
    (he : openings es = []) : call.Bears s x := by
  obtain ⟨message, es', ht', encoded⟩ := h
  rw [hm] at message encoded
  refine ⟨message, es ++ es', by simp [ht, ht'], ?_⟩
  rwa [encodedMessages_append, encodedMessages_of_openings he, List.nil_append]

theorem trans (h : call.Bears s x) {y : Call × Shared} (h' : x.1.Bears x.2 y) : call.Bears s y := by
  obtain ⟨message, es, ht, encoded⟩ := h
  obtain ⟨message', es', ht', encoded'⟩ := h'
  refine ⟨message'.trans message, es ++ es', by simp [ht, ht'], fun m hm => ?_⟩
  rw [encodedMessages_append] at hm
  cases List.mem_append.mp hm
  case inl hm => exact encoded m hm
  case inr hm => exact (encoded' m hm).trans message

end Bears

theorem fail_message : (call.fail reason s).1.message = call.message := by
  unfold fail
  dsimp only
  split
  · rfl
  · simp [release_fst, chargeTime_fst]

theorem fail_bears (call : Call) (reason : ConnectionFailure) (s : Shared) : call.Bears s (call.fail reason s) :=
  .of_none fail_message fail_transcript (by simp)

theorem finish_bears (call : Call) (s : Shared) : call.Bears s (call.finish s) :=
  .of_none (by rw [finish_fst]) finish_transcript (by simp)

theorem cutShort_bears (call : Call) (s : Shared) : call.Bears s (call.cutShort s) :=
  (call.finish_bears s).trans (fail_bears ..)

theorem breakOff_bears (call : Call) (s : Shared) : call.Bears s (call.breakOff s) :=
  .of_none fail_message breakOff_transcript (by simp)

theorem lose_bears (call : Call) (reason : ConnectionFailure) (s : Shared) : call.Bears s (call.lose reason s) :=
  .of_none fail_message lose_transcript (by simp)

theorem failToConnect_bears (call : Call) (reason : ConnectionFailure) (host? : Option Host) (s : Shared) :
    call.Bears s (call.failToConnect reason host? s) :=
  .of_none fail_message fail_transcript (by simp)

theorem respond_bears (c : Surroundings) (call : Call) (s : Shared) : call.Bears s (call.respond c s) :=
  .of_none (by simp [respond, finish_fst]) respond_transcript (by simp)

theorem encodedMessages_startEffects {resume : Bool} :
    encodedMessages (call.startEffects c resume s) = [call.numbered s] := by
  cases resume <;> rfl

theorem startRequest_bears (c : Surroundings) (call : Call) (resume : Bool) (s : Shared) :
    call.Bears s (call.startRequest c resume s) := by
  refine ⟨?_, _, startRequest_transcript, ?_⟩
  · rw [startRequest_fst]
    rfl
  · rw [encodedMessages_startEffects]
    exact List.forall_mem_singleton.mpr rfl

theorem connect_bears (c : Surroundings) (call : Call) (id : ConnectionId) (host : Host) (s : Shared) :
    call.Bears s (call.connect c id host s) := by
  cases ho : call.offered? c id host s
  case some request =>
    rw [connect_of_offer ho]
    exact .of_none rfl rfl (by simp)
  case none =>
    rw [connect_of_no_offer ho]
    exact (startRequest_bears ..).after rfl (List.append_assoc ..) (by simp)

theorem start_bears (c : Surroundings) (call : Call) (s : Shared) : call.Bears s (call.start c s).2 := by
  cases ha : c.acquire s.transcript call.pool
  case pending             =>
    rw [start_of_pending ha]
    exact .of_none rfl rfl rfl
  case ready id host       =>
    rw [start_of_ready ha]
    exact (connect_bears ..).after rfl rfl rfl
  case failed reason host? =>
    rw [start_of_failed ha]
    exact (failToConnect_bears ..).after rfl rfl rfl

theorem writeBody_bears (c : Surroundings) (call : Call) (body : Bytes) (passthrough : Bool) (s : Shared) :
    call.Bears s (call.writeBody c body passthrough s) := by
  cases passthrough
  case true  => exact .of_none rfl (List.append_nil _).symm rfl
  case false => exact .of_none rfl rfl rfl

theorem endRequest_bears (c : Surroundings) (call : Call) (s : Shared) : call.Bears s (call.endRequest c s) := by
  cases hi : call.connection?
  case none    =>
    rw [endRequest, hi]
    exact .of_none rfl (List.append_nil _).symm rfl
  case some id =>
    rw [endRequest_of_connection hi]
    exact .of_none rfl rfl rfl

theorem resume_bears (c : Surroundings) (call : Call) (data : Bytes) (s : Shared) :
    call.Bears s (call.resume c data s) := by
  refine ⟨?_, _, resume_transcript, ?_⟩
  · rw [resume, startRequest_fst]
    rfl
  · have read : openings (.readUpgrade call.router data true ::
        if call.stateRef?.isSome then [.completedUpgrade call.router] else []) = [] := by
      split <;> rfl
    rw [resumeEffects, encodedMessages_append, encodedMessages_startEffects, encodedMessages_of_openings read]
    exact List.forall_mem_singleton.mpr rfl

theorem readUpgrade_bears (c : Surroundings) (call : Call) (data : Bytes) (endStream : Bool) (s : Shared) :
    call.Bears s (call.readUpgrade c data endStream s).2 := by
  cases hd : (c.readUpgrade s.transcript call.router data).outcome
  case false =>
    rw [readUpgrade_of_waiting hd]
    exact .of_none rfl rfl rfl
  case true  =>
    rw [readUpgrade_eq_resume hd]
    cases endStream
    case true  => exact (resume_bears ..).trans (cutShort_bears ..)
    case false => exact resume_bears ..

theorem readResponse_bears (c : Surroundings) (call : Call) (data : Bytes) (endStream : Bool) (s : Shared) :
    call.Bears s (call.readResponse c data endStream s).2 := by
  let call' : Call := { call with responseStarted := true }
  -- The bytes are read before anything becomes of the call.
  have after {status : ResponseStatus} {x : Call × Shared}
      (h : call'.Bears ((call.opened s).emit (.readResponse call.router data status)) x) : call.Bears s x :=
    h.after rfl (List.append_assoc ..) (by simp)
  rw [readResponse_eq]
  cases (c.readResponse (call.opened s).transcript call.router data).outcome
  case complete => exact after (respond_bears ..)
  case broken   => exact after (breakOff_bears ..)
  case more     =>
    cases endStream
    case true  => exact after (cutShort_bears ..)
    case false => exact after (.of_none rfl (List.append_nil _).symm rfl)

theorem receive_bears (c : Surroundings) (call : Call) (data : Bytes) (endStream : Bool) (s : Shared) :
    call.Bears s (call.receive c data endStream s).2 := by
  rw [receive_eq]
  dsimp only
  split
  case isTrue  => exact (readUpgrade_bears ..).after rfl (List.append_nil _).symm rfl
  case isFalse => exact (readResponse_bears ..).after rfl (List.append_nil _).symm rfl

end Call

end RpcProxy
