import RpcProxy.Proofs.Router.Conclusion

namespace RpcProxy

-- What is told of a call that has ended, by the host of its connection and the fate of the call.
inductive Feedback (oneway succeeded : Bool) : Option Host → Fate → List Effect → Prop
  -- A host is named that could not be connected to.
  | unconnected : Feedback oneway succeeded none (.unconnected reason host?)
      ((Fate.verdicts oneway succeeded (.unconnected reason host?)).flatMap (verdicts host?))
  -- The call was given up while it was waiting for a connection.
  | waiting : Feedback oneway succeeded none .abandoned []
  | connected (h : fate.isUnconnected = false) : Feedback oneway succeeded (some host) fate
      (.judged host .connected :: (fate.verdicts oneway succeeded).map (.judged host))

-- What is told of a call that has ended in the given way. Its response was a success only if the decoder takes it for a
-- reply that reports one, and is counted as such.
structure CallLog.Judges (log : CallLog) (c : Surroundings) (id : RouterId) (fate : Fate) (succeeded : Bool) :
    Prop where
  feedback : Feedback log.message.isOneway succeeded log.host? fate (judgements log.effects)
  success  : fate = .responded → ∃ route, log.route? = some route ∧
    (∃ t, succeeded = c.deemsSuccess (t ++ Incident.uncounted log.incidents) id route.cluster) ∧
      (succeeded ↔ .counted .replySuccess (some route.cluster) ∈ Incident.recent log.incidents)

variable {c : Surroundings} {id : RouterId} {o : Origin} {call : Call} {log : CallLog} {fate : Fate} {succeeded : Bool}
  {before after : List Incident} {ending : Ending}

theorem Call.Standing.judgements_eq {log : List Incident} (h : call.Standing log) :
    judgements (Incident.effects log) = verdicts (log.findSome? (·.host?)) .connected := by
  rw [← judgements_reports, h.reports, ← h.host]
  simp

namespace Concludes

theorem judgements_eq (h : Concludes c id o before after call fate succeeded) :
    judgements (o.log (before ++ after)).effects = verdicts call.host? .connected ++
      (fate.verdicts o.message.isOneway succeeded).flatMap (verdicts (fate.host?.or call.host?)) := by
  have hv : judgements (verdicts call.host? .connected) = verdicts call.host? .connected := by simp
  rw [← judgements_reports, h.reports_eq]
  simp only [List.filter_append, hv, Call.judgements_closing, h.oneway]

theorem judges (h : Concludes c id o before after call fate succeeded) :
    (o.log (before ++ after)).Judges c id fate succeeded where
  feedback := by
    rw [h.judgements_eq, h.host?_eq]
    show Feedback o.message.isOneway succeeded call.host? fate _
    cases hc : call.host?
    case none      =>
      have met : fate ≠ .abandoned → fate.isUnconnected := fun ha => by simpa [hc] using (h.met ha).symm
      cases fate
      case unconnected reason host? => simpa [Fate.host?] using Feedback.unconnected
      case abandoned                => exact .waiting
      all_goals cases met (by simp)
    case some host =>
      have hu : fate.isUnconnected = false := by
        cases fate
        case unconnected => simpa [hc] using (h.met (by simp)).symm
        all_goals rfl
      have hn : fate.host? = none := by
        cases fate <;> first | rfl | cases hu
      have hv (vs : List Verdict) : vs.flatMap (verdicts (some host)) = vs.map (.judged host) :=
        List.map_eq_flatMap.symm
      rw [hn, Option.none_or, hv]
      exact .connected hu
  success hr := ⟨o.route, rfl, h.success hr⟩

end Concludes

variable {table : RouteTable} {r : Router}

-- The host of each call that has ended was told what is due and nothing else. It is told nothing but of its connection
-- while the call is under way, and no host is told anything when there is no call.
theorem Run.tells_hosts (run : Run c id table r phase turns) :
    (∀ x ∈ (Chronicle.ofTurns turns).ended, ∃ fate succeeded, x.1.fate? x.2 = some fate ∧
      x.1.Judges c id fate succeeded) ∧
    (∀ log, (Chronicle.ofTurns turns).current? = some log → judgements log.effects = verdicts log.host? .connected) ∧
    judgements (Incident.effects (Chronicle.ofTurns turns).outside) = [] := by
  have h := run.follows
  refine ⟨fun x hx => ?ended, fun log hl => ?current, h.filter_outside fun e he => ?outside⟩
  case ended =>
    obtain ⟨o, before, after, call, fate, succeeded, ho, hf, hc⟩ := (h.ended x hx).concluded
    exact ⟨fate, succeeded, hf, ho ▸ hc.judges⟩
  case current =>
    obtain ⟨call, standing⟩ := h.standing run.serves hl
    exact standing.judgements_eq
  case outside => cases e <;> first | rfl | simp at he

-- The pool takes too long to connect to a host, and then has a connection for the next call, which is answered.
theorem Run.tells_hosts_of_timeout :
    let c := Surroundings.plain fun _ _ => .pending
    let host : Host := ⟨"10.0.0.1:9090"⟩
    let judged? : Effect → Option (Host × Verdict)
      | .judged host verdict => some (host, verdict)
      | _                    => none
    ∃ r turns, Run c ⟨0⟩ (.toCluster "a") r .body turns ∧
      (Chronicle.ofTurns turns).ended.map (fun x => (x.1.fate? x.2, x.1.effects.filterMap judged?)) =
        [(some .responded, [(host, .connected), (host, .requestSucceeded)]),
          (some (.unconnected .timeout (some host)), [(host, .timedOut)])] ∧
      (∀ x ∈ (Chronicle.ofTurns turns).ended, ∃ fate succeeded, x.1.fate? x.2 = some fate ∧
        x.1.Judges c ⟨0⟩ fate succeeded) ∧
      (∀ log, (Chronicle.ofTurns turns).current? = some log →
        judgements log.effects = verdicts log.host? .connected) ∧
      judgements (Incident.effects (Chronicle.ofTurns turns).outside) = [] := by
  intro c host judged?
  let x₁ := Router.handle c { id := ⟨0⟩, table := .toCluster "a" } (.event (.messageBegin (.call "ping"))) {}
  let x₂ := x₁.1.handle c (.event (.poolFailure .timeout (some host))) x₁.2
  let x₃ := x₂.1.handle c (.event (.messageBegin (.call "ping"))) x₂.2
  let x₄ := x₃.1.handle c (.event (.poolReady ⟨7⟩ host)) x₃.2
  let x₅ := x₄.1.handle c (.event (.clusterData [0x78] false)) x₄.2
  have run₁ : Run c ⟨0⟩ (.toCluster "a") x₁.1 .body _ := .turn .start (.decode rfl rfl) x₁.eta.symm
  have run₂ : Run c ⟨0⟩ (.toCluster "a") x₂.1 .body _ := .turn run₁ (.poolFailure rfl) x₂.eta.symm
  have run₃ : Run c ⟨0⟩ (.toCluster "a") x₃.1 .body _ := .turn run₂ (.decode rfl rfl) x₃.eta.symm
  have run₄ : Run c ⟨0⟩ (.toCluster "a") x₄.1 .body _ := .turn run₃ (.poolReady rfl) x₄.eta.symm
  have run₅ : Run c ⟨0⟩ (.toCluster "a") x₅.1 .body _ := .turn run₄ (.clusterData rfl) x₅.eta.symm
  exact ⟨_, _, run₅, by decide +kernel, run₅.tells_hosts⟩

end RpcProxy
