import RpcProxy.Proofs.Call.Connection

namespace RpcProxy

-- What remains of an effect if the times are left out.
def Effect.untimed? : Effect → Option Effect
  | acquired pool _ => some (.acquired pool .pending)
  | continued _     => none
  | e               => some e

def Transcript.untimed (transcript : Transcript) : Transcript :=
  transcript.filterMap (·.untimed?)

-- Surroundings that do not look at times, with pools that all give the same answer.
def Surroundings.untimed (c : Surroundings) (answer : Acquisition) : Surroundings where
  random transcript            := c.random transcript.untimed
  cluster? transcript          := c.cluster? transcript.untimed
  pool? transcript             := c.pool? transcript.untimed
  acquire _ _                  := answer
  downstream transcript        := c.downstream transcript.untimed
  upgradeRequest? transcript   := c.upgradeRequest? transcript.untimed
  readUpgrade transcript       := c.readUpgrade transcript.untimed
  marksUpgraded transcript     := c.marksUpgraded transcript.untimed
  encodeBegin transcript       := c.encodeBegin transcript.untimed
  encodeBody transcript        := c.encodeBody transcript.untimed
  encodeEnd transcript         := c.encodeEnd transcript.untimed
  frame transcript             := c.frame transcript.untimed
  readResponse transcript      := c.readResponse transcript.untimed
  responseKind? transcript     := c.responseKind? transcript.untimed
  responseSucceeded transcript := c.responseSucceeded transcript.untimed

-- The same has happened, though maybe not at the same times.
structure Shared.Matches (s s' : Shared) : Prop where
  connections : s.connections = s'.connections
  transcript  : s.transcript.untimed = s'.transcript.untimed

structure Matching (x x' : α × Shared) : Prop where
  same   : x.1 = x'.1
  shared : x.2.Matches x'.2

theorem Transcript.untimed_append {transcript : Transcript} {es : List Effect} :
    Transcript.untimed (transcript ++ es) = transcript.untimed ++ Transcript.untimed es :=
  List.filterMap_append

namespace Shared.Matches

variable {s s' x x' : Shared} {es es' : List Effect}

-- The effects of one operation on both states, which may differ in their times.
theorem append (h : s.Matches s') (hc : x.connections = x'.connections)
    (ht : x.transcript = s.transcript ++ es) (ht' : x'.transcript = s'.transcript ++ es')
    (he : Transcript.untimed es = Transcript.untimed es') : x.Matches x' where
  connections := hc
  transcript  := by
    rw [ht, ht', Transcript.untimed_append, Transcript.untimed_append, h.transcript, he]

theorem emit (h : s.Matches s') (e : Effect) : (s.emit e).Matches (s'.emit e) :=
  h.append h.connections rfl rfl rfl

theorem forget (h : s.Matches s') (id : ConnectionId) : (s.forget id).Matches (s'.forget id) :=
  ⟨congrArg (·.remove id) h.connections, h.transcript⟩

theorem upgrade (h : s.Matches s') (ref : StateRef) : (s.upgrade ref).Matches (s'.upgrade ref) :=
  ⟨congrArg (·.modify ref .upgrade) h.connections, h.transcript⟩

theorem judge (h : s.Matches s') (host? : Option Host) (verdict : Verdict) :
    (s.judge host? verdict).Matches (s'.judge host? verdict) :=
  h.append (by simp [h.connections]) judge_transcript judge_transcript rfl

end Shared.Matches

namespace Call

variable {c : Surroundings} {answer answer' : Acquisition} {s s' : Shared}

theorem finish_matching (call : Call) (h : s.Matches s') : Matching (call.finish s) (call.finish s') where
  same   := by rw [finish_fst, finish_fst]
  shared := h.append (by simp [h.connections]) finish_transcript finish_transcript rfl

-- What is left of a call that has failed does not depend on what is shared.
theorem fail_same (call : Call) (reason : ConnectionFailure) (s s' : Shared) :
    (call.fail reason s).1 = (call.fail reason s').1 := by
  unfold fail
  dsimp only
  split
  · rfl
  · rw [release_fst, release_fst, chargeTime_fst, chargeTime_fst]

theorem fail_matching (call : Call) (reason : ConnectionFailure) (h : s.Matches s') :
    Matching (call.fail reason s) (call.fail reason s') where
  same   := call.fail_same reason s s'
  shared := h.append (by simp [h.connections]) fail_transcript fail_transcript rfl

theorem cutShort_matching (call : Call) (h : s.Matches s') :
    Matching (call.cutShort s) (call.cutShort s') := by
  have ⟨hc, hs⟩ := call.finish_matching h
  unfold cutShort
  dsimp only
  rw [hc]
  exact fail_matching _ .remoteClose hs

theorem breakOff_matching (call : Call) (h : s.Matches s') :
    Matching (call.breakOff s) (call.breakOff s') where
  same   := fail_same (call.abandon s).1 .localClose _ _
  shared := h.append (by simp [h.connections]) breakOff_transcript breakOff_transcript rfl

theorem lose_matching (call : Call) (reason : ConnectionFailure) (h : s.Matches s') :
    Matching (call.lose reason s) (call.lose reason s') where
  same   := call.fail_same reason s s'
  shared := h.append (by simp [lose_connections, h.connections]) lose_transcript lose_transcript rfl

theorem startRequest_matching (call : Call) (resume resume' : Bool) (h : s.Matches s') :
    Matching (call.startRequest (c.untimed answer) resume s)
      (call.startRequest (c.untimed answer') resume' s') := by
  have hn : call.numbered s = call.numbered s' := by simp [numbered, h.connections]
  have hb : (c.untimed answer).encodeBegin s.transcript = (c.untimed answer').encodeBegin s'.transcript :=
    congrArg c.encodeBegin h.transcript
  constructor
  case same => rw [startRequest_fst, startRequest_fst, hb, hn]
  case shared =>
    refine h.append ?_ startRequest_transcript startRequest_transcript ?_
    · cases hr : call.stateRef?
      case none     => cases resume <;> cases resume' <;> simp [startRequest, hr, h.connections]
      case some ref => rw [startRequest_connections hr, startRequest_connections hr, h.connections]
    · simp only [startEffects, hb, hn]
      cases resume <;> cases resume' <;> rfl

-- It makes no difference for the connection whether the call has been waiting for it.
theorem connect_matching (call : Call) (pending pending' : Bool) (id : ConnectionId) (host : Host)
    (h : s.Matches s') :
    Matching (connect (c.untimed answer) { call with pending } id host s)
      (connect (c.untimed answer') { call with pending := pending' } id host s') := by
  have ho : offered? (c.untimed answer) { call with pending } id host s =
      offered? (c.untimed answer') { call with pending := pending' } id host s' := by
    simp only [offered?, Surroundings.untimed, h.connections, Transcript.untimed_append, h.transcript]
  cases hr : offered? (c.untimed answer') { call with pending := pending' } id host s'
  case some request =>
    rw [connect_of_offer (ho.trans hr), connect_of_offer hr, h.connections]
    exact ⟨rfl, h.append rfl rfl rfl rfl⟩
  case none =>
    have hs : Shared.Matches
        { connections := (s'.connections.getOrCreate id).2,
          transcript := s.transcript ++
            .judged host .connected :: call.offerEffects none ++ releases call.connection? }
        { connections := (s'.connections.getOrCreate id).2,
          transcript := s'.transcript ++
            .judged host .connected :: call.offerEffects none ++ releases call.connection? } :=
      h.append rfl (List.append_assoc ..) (List.append_assoc ..) rfl
    rw [connect_of_no_offer (ho.trans hr), connect_of_no_offer hr, h.connections]
    exact startRequest_matching _ pending pending' hs

theorem writeBody_matching (call : Call) (body : Bytes) (passthrough : Bool) (h : s.Matches s') :
    Matching (call.writeBody (c.untimed answer) body passthrough s)
      (call.writeBody (c.untimed answer') body passthrough s') := by
  have hb : (c.untimed answer).encodeBody s.transcript = (c.untimed answer').encodeBody s'.transcript :=
    congrArg c.encodeBody h.transcript
  unfold writeBody
  dsimp only
  rw [hb]
  split
  · exact ⟨rfl, h⟩
  · exact ⟨rfl, h.emit _⟩

theorem endRequest_matching (call : Call) (h : s.Matches s') :
    Matching (call.endRequest (c.untimed answer) s) (call.endRequest (c.untimed answer') s') := by
  have hb : (c.untimed answer).encodeEnd s.transcript = (c.untimed answer').encodeEnd s'.transcript :=
    congrArg c.encodeEnd h.transcript
  unfold endRequest
  split
  case h_1 => exact ⟨rfl, h⟩
  case h_2 id _ =>
    dsimp only
    rw [hb]
    generalize (c.untimed answer').encodeEnd s'.transcript call.router call.leg = bytes
    have h := h.emit (.encodedEnd call.router bytes)
    have hf : (c.untimed answer).frame (s.emit (.encodedEnd call.router bytes)).transcript =
        (c.untimed answer').frame (s'.emit (.encodedEnd call.router bytes)).transcript :=
      congrArg c.frame h.transcript
    rw [hf]
    exact ⟨rfl, ((h.emit _).emit _).emit _⟩

theorem upgraded_matching (call : Call) (h : s.Matches s') :
    (call.upgraded (c.untimed answer) s).Matches (call.upgraded (c.untimed answer') s') := by
  have hm : (c.untimed answer).marksUpgraded s.transcript = (c.untimed answer').marksUpgraded s'.transcript :=
    congrArg c.marksUpgraded h.transcript
  unfold upgraded
  split
  case h_1 ref _ =>
    dsimp only
    rw [hm]
    split
    · exact (h.emit _).upgrade ref
    · exact h.emit _
  case h_2 => exact h

theorem readUpgrade_matching (call : Call) (data : Bytes) (endStream : Bool) (h : s.Matches s') :
    Matching (call.readUpgrade (c.untimed answer) data endStream s).2
      (call.readUpgrade (c.untimed answer') data endStream s').2 := by
  have hr : (c.untimed answer).readUpgrade s.transcript = (c.untimed answer').readUpgrade s'.transcript :=
    congrArg c.readUpgrade h.transcript
  cases hd : ((c.untimed answer').readUpgrade s'.transcript call.router data).outcome
  case false =>
    rw [readUpgrade_of_waiting (by rw [hr, hd]), readUpgrade_of_waiting hd]
    exact ⟨rfl, h.emit _⟩
  case true =>
    have hu : (call.upgraded (c.untimed answer) (s.emit (.readUpgrade call.router data true))).Matches
        (call.upgraded (c.untimed answer') (s'.emit (.readUpgrade call.router data true))) :=
      call.upgraded_matching (h.emit _)
    have hx : Matching
        (startRequest (c.untimed answer) { call with upgradeReply := false } true
          (call.upgraded (c.untimed answer) (s.emit (.readUpgrade call.router data true))))
        (startRequest (c.untimed answer') { call with upgradeReply := false } true
          (call.upgraded (c.untimed answer') (s'.emit (.readUpgrade call.router data true)))) :=
      startRequest_matching _ true true hu
    rw [readUpgrade_of_done (by rw [hr, hd]), readUpgrade_of_done hd]
    dsimp only
    rw [hx.same]
    split
    · exact cutShort_matching _ hx.shared
    · exact ⟨rfl, hx.shared⟩

theorem classify_matching (call : Call) (h : s.Matches s') :
    Matching (call.classify (c.untimed answer) s) (call.classify (c.untimed answer') s') := by
  have hk : (c.untimed answer).responseKind? s.transcript = (c.untimed answer').responseKind? s'.transcript :=
    congrArg c.responseKind? h.transcript
  unfold classify
  rw [hk]
  split
  case h_1 =>
    have h := h.emit (.counted .responseReply (some call.cluster))
    have hs : (c.untimed answer).responseSucceeded
          (s.emit (.counted .responseReply (some call.cluster))).transcript =
        (c.untimed answer').responseSucceeded
          (s'.emit (.counted .responseReply (some call.cluster))).transcript :=
      congrArg c.responseSucceeded h.transcript
    dsimp only
    rw [hs]
    split <;> exact ⟨rfl, h.emit _⟩
  case h_2 => exact ⟨rfl, h.emit _⟩
  case h_3 => exact ⟨rfl, h.emit _⟩

theorem respond_matching (call : Call) (h : s.Matches s') :
    Matching (call.respond (c.untimed answer) s) (call.respond (c.untimed answer') s') := by
  let size : Effect := .sampled .responseSize call.cluster (some call.responseSize)
  have hx : Matching (call.classify (c.untimed answer) (s.emit size))
      (call.classify (c.untimed answer') (s'.emit size)) := call.classify_matching (h.emit size)
  unfold respond
  dsimp only
  rw [hx.same]
  exact call.finish_matching (hx.shared.judge _ _)

theorem readResponse_matching (call : Call) (data : Bytes) (endStream : Bool) (h : s.Matches s') :
    Matching (call.readResponse (c.untimed answer) data endStream s).2
      (call.readResponse (c.untimed answer') data endStream s').2 := by
  have h : (call.opened s).Matches (call.opened s') := h.append h.connections rfl rfl rfl
  have hr : (c.untimed answer).readResponse (call.opened s).transcript =
      (c.untimed answer').readResponse (call.opened s').transcript := congrArg c.readResponse h.transcript
  rw [readResponse_eq, readResponse_eq, hr]
  dsimp only
  split
  case h_1 => exact respond_matching _ (h.emit _)
  case h_2 => exact breakOff_matching _ (h.emit _)
  case h_3 =>
    split
    · exact cutShort_matching _ (h.emit _)
    · exact ⟨rfl, h.emit _⟩

theorem receive_matching (call : Call) (data : Bytes) (endStream : Bool) (h : s.Matches s') :
    Matching (call.receive (c.untimed answer) data endStream s).2
      (call.receive (c.untimed answer') data endStream s').2 := by
  unfold receive
  dsimp only
  split
  · exact readUpgrade_matching _ data endStream h
  · exact readResponse_matching _ data endStream h

end Call

end RpcProxy
