import RpcProxy.Proofs.Call.Coherence
import RpcProxy.Proofs.Exchange.Statistics

namespace RpcProxy

-- A later state with all that is counted until then.
abbrev Shared.Counted (s s' : Shared) (counted : List Effect) : Prop :=
  s.Shows (·.isStatistic) s' counted

namespace Call

variable {c : Surroundings} {call : Call} {s : Shared} {id : ConnectionId} {host : Host} {host? : Option Host}
  {reason : ConnectionFailure}

theorem connect_counted (c : Surroundings) (call : Call) (id : ConnectionId) (host : Host) (s : Shared) :
    s.Counted (call.connect c id host s).2 [] := by
  cases ho : call.offered? c id host s
  case some request =>
    rw [connect_of_offer ho]
    exact ⟨_, rfl, by simp⟩
  case none =>
    obtain ⟨s', ht⟩ := connect_transcript_of_no_offer ho
    exact ⟨_, ht, by simp⟩

theorem readUpgrade_counted {data : Bytes} {endStream : Bool} :
    s.Counted (call.readUpgrade c data endStream s).2.2 [] := by
  cases hd : (c.readUpgrade s.transcript call.router data).outcome
  case false =>
    rw [readUpgrade_of_waiting hd]
    exact .pass (.refl s) rfl
  case true =>
    have resumed : s.Counted (call.resume c data s).2 [] := ⟨_, resume_transcript, by simp⟩
    rw [readUpgrade_eq_resume hd]
    split
    case isTrue  => exact resumed.trans ⟨_, cutShort_transcript, by simp⟩
    case isFalse => exact resumed

-- The pool is asked for one connection.
theorem start_counted (c : Surroundings) (call : Call) (s : Shared) :
    s.Counted (call.start c s).2.2 [.acquired call.pool (c.acquire s.transcript call.pool)] := by
  have asked : s.Counted (s.emit (.acquired call.pool (c.acquire s.transcript call.pool))) [_] := .add (.refl s) _ rfl
  cases ha : c.acquire s.transcript call.pool <;> simp only [ha] at asked <;> simp only [start, ha]
  case pending             => exact asked
  case ready id host       => exact asked.trans (connect_counted c call id host _)
  case failed reason host? => exact asked.trans ⟨_, fail_transcript, by simp⟩

-- What is counted for a complete response: its size, its kind, and for a reply also its outcome.
inductive Response (cluster : String) (size : Nat) : List Effect → Prop
  | succeeded : Response cluster size
    [.sampled .responseSize cluster (some size), .counted .responseReply (some cluster),
      .counted .replySuccess (some cluster)]
  | failed : Response cluster size
    [.sampled .responseSize cluster (some size), .counted .responseReply (some cluster),
      .counted .replyError (some cluster)]
  | exception : Response cluster size
    [.sampled .responseSize cluster (some size), .counted .responseException (some cluster)]
  | invalidKind : Response cluster size
    [.sampled .responseSize cluster (some size), .counted .responseInvalidKind (some cluster)]

theorem classifyEffects_response (c : Surroundings) (call : Call) (s : Shared) :
    Response call.cluster call.responseSize
      (.sampled .responseSize call.cluster (some call.responseSize) :: statistics (call.classifyEffects c s)) := by
  unfold classifyEffects
  split
  case h_1 =>
    dsimp only
    split
    · exact .succeeded
    · exact .failed
  case h_2 => exact .exception
  case h_3 => exact .invalidKind

theorem respond_counted (c : Surroundings) (call : Call) (s : Shared) :
    ∃ counted, s.Counted (call.respond c s).2 counted ∧ Response call.cluster call.responseSize counted := by
  refine ⟨_, ⟨_, respond_transcript, rfl⟩, ?_⟩
  simpa [respondEffects] using classifyEffects_response c call _

-- What is counted for an operation on a call that has begun: nothing, or a response that ends the call.
def Charges (call : Call) (s : Shared) (x : Call × Shared) : Prop :=
  s.Counted x.2 [] ∨ x.1.isTerminal ∧ ∃ size counted, s.Counted x.2 counted ∧ Response call.cluster size counted

theorem readResponse_charges (c : Surroundings) (call : Call) (data : Bytes) (endStream : Bool) (s : Shared) :
    call.Charges s (call.readResponse c data endStream s).2 := by
  have opened : s.Counted (call.opened s) [] := by
    refine ⟨_, rfl, ?_⟩
    unfold openEffects
    split <;> rfl
  have read (status : ResponseStatus) :
      s.Counted ((call.opened s).emit (.readResponse call.router data status)) [] :=
    opened.pass rfl
  rw [readResponse_eq]
  cases (c.readResponse (call.opened s).transcript call.router data).outcome
  case complete =>
    have ⟨counted, hc, hr⟩ := respond_counted c { call with responseStarted := true }
      ((call.opened s).emit (.readResponse call.router data .complete))
    exact .inr ⟨respond_isTerminal, _, counted, (read .complete).trans hc, hr⟩
  case broken   => exact .inl ((read .broken).trans ⟨_, breakOff_transcript, by simp⟩)
  case more     =>
    cases endStream
    case true  => exact .inl ((read .more).trans ⟨_, cutShort_transcript, by simp⟩)
    case false => exact .inl (read .more)

theorem receive_charges (c : Surroundings) (call : Call) (data : Bytes) (endStream : Bool) (s : Shared) :
    call.Charges s (call.receive c data endStream s).2 := by
  unfold receive
  dsimp only
  split
  case isTrue  => exact .inl readUpgrade_counted
  case isFalse =>
    exact readResponse_charges c { call with responseSize := call.responseSize + data.length } data endStream s

end Call

end RpcProxy
