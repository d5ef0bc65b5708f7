import RpcProxy.Proofs.Call.Dealings

namespace RpcProxy

namespace Effect

abbrev isTiming : Effect → Bool
  | sampled .requestTime .. => true
  | _                       => false

abbrev isJudgement : Effect → Bool
  | judged .. => true
  | _         => false

abbrev isReport (e : Effect) : Bool :=
  e.isTiming || e.isJudgement || e.isNotice

end Effect

-- How long the response took, each time that it is recorded.
abbrev timings (es : List Effect) : List Effect :=
  es.filter (·.isTiming)

-- What hosts are told of how they fare.
abbrev judgements (es : List Effect) : List Effect :=
  es.filter (·.isJudgement)

abbrev reports (es : List Effect) : List Effect :=
  es.filter (·.isReport)

-- The way in which a call ends.
inductive Fate
  -- The pool has no connection for it.
  | unconnected (reason : ConnectionFailure) (host? : Option Host)
  -- Its connection was closed.
  | lost (reason : ConnectionFailure)
  -- The response cannot be decoded.
  | broken
  -- The stream of the cluster ended before the response was complete.
  | cutShort
  | responded
  -- It is one-way, and its message was delivered.
  | delivered
  -- Its router gave it up.
  | abandoned
  deriving DecidableEq

namespace Fate

def isUnconnected : Fate → Bool
  | unconnected .. => true
  | _              => false

-- The call is reset.
def isReset : Fate → Bool
  | unconnected .. => true
  | lost _         => true
  | broken         => true
  | cutShort       => true
  | _              => false

-- The host that could not be connected to.
def host? : Fate → Option Host
  | unconnected _ host? => host?
  | _                   => none

-- Whether the time is recorded for a call that ends in this way, if its request was complete.
def isTimed (oneway : Bool) : Fate → Bool
  | abandoned => false
  | cutShort  => true
  | responded => true
  | delivered => true
  | _         => !oneway

-- What the host of a call is told that ends in this way.
def verdicts (oneway succeeded : Bool) : Fate → List Verdict
  | unconnected reason _ => if oneway then [] else reason.verdict?.toList
  | lost reason          => if oneway then [] else reason.verdict?.toList
  | broken               => .requestFailed :: if oneway then [] else [.connectFailed]
  | cutShort             => if oneway then [] else [.connectFailed]
  | responded            => [if succeeded then .requestSucceeded else .requestFailed]
  | delivered            => []
  | abandoned            => []

end Fate

-- Nothing is lost of what is a report.
theorem filter_reports {p : Effect → Bool} {es : List Effect} (h : ∀ e, p e → e.isReport) :
    (reports es).filter p = es.filter p := by
  rw [reports, List.filter_filter]
  congr 1
  funext e
  cases hp : p e
  case false => rfl
  case true  => simp [h e hp]

theorem timings_reports (es : List Effect) : timings (reports es) = timings es :=
  filter_reports fun e h => by simp [Effect.isReport, h]

theorem judgements_reports (es : List Effect) : judgements (reports es) = judgements es :=
  filter_reports fun e h => by simp [Effect.isReport, h]

theorem notices_reports (es : List Effect) : notices (reports es) = notices es :=
  filter_reports fun e h => by simp [Effect.isReport, h]

-- Whether the decoder takes the response for a reply that reports a success. The reply is counted in between.
def Surroundings.deemsSuccess (c : Surroundings) (t : Transcript) (id : RouterId) (cluster : String) : Bool :=
  c.responseKind? t id = some .reply && c.responseSucceeded (t ++ [.counted .responseReply (some cluster)]) id

namespace Call

variable {c : Surroundings} {call : Call} {s : Shared} {reason : ConnectionFailure} {host? : Option Host}
  {id? : Option ConnectionId} {v : Verdict} {close : Bool}

-- A failure is told to the host and to the caller, if somebody awaits a reply.
def failReports (call : Call) (reason : ConnectionFailure) : List Effect :=
  if call.message.isOneway then [.resetDownstream call.router] else call.timeEffects ++ call.reportEffects reason

-- What is reported when a call ends.
def closing (call : Call) (succeeded : Bool) : Fate → List Effect
  | .unconnected reason host? => { call with host? := host?.or call.host? }.failReports reason
  | .lost reason              => call.failReports reason
  | .broken                   => verdicts call.host? .requestFailed ++ call.failReports .localClose
  -- The time is recorded before it is known whether somebody awaits a reply.
  | .cutShort                 =>
    call.timeEffects ++
      if call.message.isOneway then [.resetDownstream call.router] else call.reportEffects .remoteClose
  | .responded                =>
    verdicts call.host? (if succeeded then .requestSucceeded else .requestFailed) ++ call.timeEffects
  | .delivered                => call.timeEffects
  | .abandoned                => []

@[simp]
theorem reports_reportEffects : reports (call.reportEffects reason) = call.reportEffects reason := by
  rw [reports, filter_reportEffects, reportEffects_eq, answerEffect_eq]
  split <;> simp

@[simp]
theorem reports_failEffects : reports (call.failEffects reason) = call.failReports reason := by
  simp [failReports]

@[simp]
theorem reports_cutShortEffects : reports call.cutShortEffects = call.closing false .cutShort := by
  simp [closing]

@[simp]
theorem reports_breakOffEffects : reports call.breakOffEffects = call.closing false .broken := by
  simp [closing, failReports]

theorem classify_fst : (call.classify c s).1 = c.deemsSuccess s.transcript call.router call.cluster := by
  cases hk : c.responseKind? s.transcript call.router
  case none => simp [classify, Surroundings.deemsSuccess, hk]
  case some kind =>
    cases kind
    case reply =>
      cases hs : c.responseSucceeded (s.transcript ++ [Effect.counted .responseReply (some call.cluster)])
        call.router
      all_goals simp [classify, Surroundings.deemsSuccess, hk, hs]
    all_goals simp [classify, Surroundings.deemsSuccess, hk]

variable {succeeded : Bool}

theorem timings_failReports : timings (call.failReports reason) =
    if call.message.isOneway then [] else call.timeEffects := by
  unfold failReports
  split <;> simp

theorem timings_closing (fate : Fate) : timings (call.closing succeeded fate) =
    if fate.isTimed call.message.isOneway then call.timeEffects else [] := by
  cases ho : call.message.isOneway <;> cases fate
  case false.unconnected => simp [closing, timings_failReports, ho, Fate.isTimed]; rfl
  all_goals simp [closing, timings_failReports, ho, Fate.isTimed]

theorem judgements_failReports : judgements (call.failReports reason) = if call.message.isOneway then [] else
    reason.verdict?.toList.flatMap (RpcProxy.verdicts call.host?) := by
  unfold failReports
  split <;> simp

theorem judgements_closing (fate : Fate) : judgements (call.closing succeeded fate) =
    (fate.verdicts call.message.isOneway succeeded).flatMap (RpcProxy.verdicts (fate.host?.or call.host?)) := by
  cases ho : call.message.isOneway <;> cases fate
  all_goals
    simp [closing, judgements_failReports, ho, Fate.host?, Fate.verdicts, ConnectionFailure.verdict?]

-- The caller of a one-way call learns nothing but that it was reset.
theorem notices_closing_of_oneway (fate : Fate) (ho : call.message.isOneway) :
    notices (call.closing succeeded fate) = if fate.isReset then [.resetDownstream call.router] else [] := by
  cases fate <;> simp [closing, failReports, ho, Fate.isReset]

end Call

end RpcProxy
