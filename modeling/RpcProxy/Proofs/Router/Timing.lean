import RpcProxy.Proofs.Router.Conclusion

namespace RpcProxy

-- The call is ended by its cluster, or by the loss of the connection to it.
def Fate.isFromCluster : Fate → Bool
  | lost _    => true
  | broken    => true
  | cutShort  => true
  | responded => true
  | _         => false

namespace CallLog

-- The time is recorded once, for the cluster of the call.
def TimedOnce (log : CallLog) : Prop :=
  ∃ route, log.route? = some route ∧ timings log.effects = [.sampled .requestTime route.cluster none]

-- How the time of a call is recorded that has ended.
structure TimedDuly (log : CallLog) (fate : Fate) : Prop where
  atMostOnce : (timings log.effects).length ≤ 1
  written    : ∀ before e after, log.incidents = before ++ .did e :: after → e.isTiming → (traffic before).isWritten
  answered   : log.message.isOneway = false → log.isWritten → fate.isFromCluster → log.TimedOnce
  abandoned  : fate = .abandoned → timings log.effects = []
  delivered  : log.message.isOneway → fate = .delivered → log.TimedOnce

-- A call is reset, and only the caller's connection is told.
def ResetQuietly (log : CallLog) (id : RouterId) : Prop :=
  notices log.effects = [.resetDownstream id] ∧ timings log.effects = []

end CallLog

variable {c : Surroundings} {id : RouterId} {o : Origin} {call : Call} {log : CallLog} {fate : Fate} {succeeded : Bool}
  {before after : List Incident} {ending : Ending}

theorem Call.timeEffects_of_untimed (h : call.timed = false) : call.timeEffects =
    if call.requestComplete then [.sampled .requestTime call.cluster none] else [] := by
  cases hc : call.requestComplete <;> simp [timeEffects, h, hc]

namespace Call.Standing

-- Before its end, the time of a call is not recorded, and the caller is told nothing.
theorem timings_eq {log : List Incident} (h : call.Standing log) : timings (Incident.effects log) = [] := by
  rw [← timings_reports, h.reports]
  simp

theorem notices_eq {log : List Incident} (h : call.Standing log) : notices (Incident.effects log) = [] := by
  rw [← notices_reports, h.reports]
  simp

end Call.Standing

namespace Concludes

theorem timings_eq (h : Concludes c id o before after call fate succeeded) :
    timings (o.log (before ++ after)).effects =
      if (traffic (before ++ after)).ended && fate.isTimed o.message.isOneway then
        [.sampled .requestTime o.route.cluster none]
      else [] := by
  have hc : (traffic (before ++ after)).ended = call.requestComplete := by
    simp [traffic_append, Traffic.append, h.unended, h.standing.complete]
  have hn : timings (verdicts call.host? .connected) = [] := by simp
  rw [← timings_reports, h.reports_eq]
  simp only [List.filter_append, hn, List.nil_append, Call.timings_closing, h.oneway,
    Call.timeEffects_of_untimed h.standing.untimed, h.cluster, hc]
  cases call.requestComplete <;> cases fate.isTimed o.message.isOneway <;> rfl

theorem ended_of_delivered (h : Concludes c id o before after call .delivered succeeded) :
    (traffic (before ++ after)).ended := by
  have hc := h.standing.complete.symm.trans (h.complete rfl)
  simp [traffic_append, Traffic.append, hc]

theorem notices_eq_of_oneway (h : Concludes c id o before after call fate succeeded) (ho : o.message.isOneway) :
    notices (o.log (before ++ after)).effects = if fate.isReset then [.resetDownstream id] else [] := by
  have hn : notices (verdicts call.host? .connected) = [] := by simp
  rw [← notices_reports, h.reports_eq]
  simp only [List.filter_append, hn, List.nil_append, Call.notices_closing_of_oneway fate (h.oneway.trans ho), h.router]

end Concludes

namespace CallLog.Closed

theorem isWritten_eq (closed : log.Closed c id ending) : log.isWritten = (traffic log.incidents).ended := by
  obtain ⟨route, leg, _, _, sends⟩ := closed.sends
  exact sends.isWritten_eq

-- The time of a call that has ended, by its fate.
theorem exists_timings (closed : log.Closed c id ending) : ∃ route fate, log.route? = some route ∧
    log.fate? ending = some fate ∧ timings log.effects =
      if log.isWritten && fate.isTimed log.message.isOneway then [.sampled .requestTime route.cluster none]
      else [] := by
  have hw := closed.isWritten_eq
  obtain ⟨o, before, after, call, fate, succeeded, rfl, hf, h⟩ := closed.concluded
  exact ⟨o.route, fate, rfl, hf, hw ▸ h.timings_eq⟩

-- The time is recorded after the request was written.
theorem isWritten_before {e : Effect} (closed : log.Closed c id ending)
    (hl : log.incidents = before ++ .did e :: after) (he : e.isTiming) : (traffic before).isWritten := by
  obtain ⟨o, before', after', call, fate, succeeded, rfl, _, h⟩ := closed.concluded
  have hl : before' ++ after' = before ++ .did e :: after := hl
  have recorded {is : List Incident} (hm : .did e ∈ is) : e ∈ timings (Incident.effects is) :=
    List.mem_filter.mpr ⟨Incident.mem_effects hm, he⟩
  have ended : (traffic before').ended := by
    have hm : e ∈ timings (o.log (before' ++ after')).effects := recorded (hl ▸ List.mem_append_right _ (.head _))
    rw [h.timings_eq] at hm
    split at hm
    case isTrue ht  => simpa [traffic_append, Traffic.append, h.unended] using (Bool.and_eq_true_iff.mp ht).1
    case isFalse ht => cases hm
  have written : (traffic before').isWritten := h.written.trans ended
  -- What is recorded comes after all that has happened before the end.
  rcases List.append_eq_append_iff.mp hl with ⟨between, rfl, _⟩ | ⟨between, hb, hr⟩
  case inl =>
    rw [traffic_append]
    exact Traffic.isWritten_append written
  case inr =>
    cases between
    case nil            => simpa [hb] using written
    case cons i between =>
      obtain ⟨rfl, _⟩ := List.cons.inj hr
      have hm := recorded (hb ▸ List.mem_append_right before (.head between) : .did e ∈ before')
      rw [h.standing.timings_eq] at hm
      cases hm

theorem isWritten_of_delivered (closed : log.Closed c id ending) (hd : log.fate? ending = some .delivered) :
    log.isWritten := by
  have hw := closed.isWritten_eq
  obtain ⟨o, before, after, call, fate, succeeded, rfl, hf, h⟩ := closed.concluded
  obtain rfl := Option.some.inj (hf.symm.trans hd)
  exact hw.trans h.ended_of_delivered

theorem timedDuly (closed : log.Closed c id ending) : ∃ fate, log.fate? ending = some fate ∧ log.TimedDuly fate := by
  obtain ⟨route, fate, hr, hf, ht⟩ := closed.exists_timings
  refine ⟨fate, hf, ?_⟩
  constructor
  case atMostOnce =>
    rw [ht]
    split <;> simp
  case written => exact fun before e after hl he => closed.isWritten_before hl he
  case answered =>
    intro ho hw hc
    have hd : fate.isTimed false := by cases fate <;> first | rfl | cases hc
    exact ⟨route, hr, by rw [ht, hw, ho, hd]; rfl⟩
  case abandoned => exact fun ha => by simp [ht, ha, Fate.isTimed]
  case delivered =>
    rintro _ rfl
    exact ⟨route, hr, by rw [ht, closed.isWritten_of_delivered hf]; rfl⟩

-- Nobody awaits a reply to a one-way call.
theorem unreplied (closed : log.Closed c id ending) (ho : log.message.isOneway) :
    log.effects.any (·.isReply) = false := by
  obtain ⟨o, before, after, call, fate, succeeded, rfl, _, h⟩ := closed.concluded
  rw [Journal.any_isReply, h.notices_eq_of_oneway ho]
  split <;> rfl

-- A one-way call that is reset resets the caller's connection. Its time is recorded where the stream of the cluster
-- has ended after the request was written.
theorem exists_reset (closed : log.Closed c id ending) (ho : log.message.isOneway) :
    ∃ fate, log.fate? ending = some fate ∧ (fate.isReset → notices log.effects = [.resetDownstream id] ∧
      (timings log.effects = [] ↔ ¬ (fate = .cutShort ∧ log.isWritten))) := by
  obtain ⟨route, fate, _, hf, ht⟩ := closed.exists_timings
  refine ⟨fate, hf, fun hr => ⟨?notices, ?timings⟩⟩
  case notices =>
    obtain ⟨o, before, after, call, fate', succeeded, rfl, hf', h⟩ := closed.concluded
    obtain rfl := Option.some.inj (hf.symm.trans hf')
    rw [h.notices_eq_of_oneway ho, if_pos hr]
  case timings =>
    have hd : fate.isTimed true = true ↔ fate = .cutShort := by
      cases fate <;> simp_all [Fate.isTimed, Fate.isReset]
    rw [ht, ho]
    cases hw : log.isWritten <;> simp [← hd]

end CallLog.Closed

variable {table : RouteTable} {r : Router}

-- The time of each response is recorded once and only when it is due, and no other times are recorded.
theorem Run.times_once (run : Run c id table r phase turns) :
    (∀ x ∈ (Chronicle.ofTurns turns).ended, ∃ fate, x.1.fate? x.2 = some fate ∧ x.1.TimedDuly fate) ∧
    (∀ log, (Chronicle.ofTurns turns).current? = some log → timings log.effects = []) ∧
    timings (Incident.effects (Chronicle.ofTurns turns).outside) = [] := by
  have h := run.follows
  refine ⟨fun x hx => (h.ended x hx).timedDuly, fun log hl => ?current, h.filter_outside fun e he => ?outside⟩
  case current =>
    obtain ⟨call, standing⟩ := h.standing run.serves hl
    exact standing.timings_eq
  case outside => cases e <;> first | rfl | simp at he

-- A one-way call is never replied to, and when it is reset, so is the caller's connection, once. No time is recorded
-- for it then, unless the stream of the cluster has ended after the request was written.
theorem Run.resets_oneway (run : Run c id table r phase turns) :
    (∀ log ∈ (Chronicle.ofTurns turns).logs, log.message.isOneway → log.effects.any (·.isReply) = false) ∧
    ∀ x ∈ (Chronicle.ofTurns turns).ended, x.1.message.isOneway →
      ∃ fate, x.1.fate? x.2 = some fate ∧ (fate.isReset → notices x.1.effects = [.resetDownstream id] ∧
        (timings x.1.effects = [] ↔ ¬ (fate = .cutShort ∧ x.1.isWritten))) := by
  have h := run.follows
  refine ⟨fun log hl ho => ?_, fun x hx ho => (h.ended x hx).exists_reset ho⟩
  cases List.mem_append.mp hl
  case inl hl =>
    obtain ⟨call, standing⟩ := h.standing run.serves (Option.mem_toList.mp hl)
    have hn : notices log.effects = [] := standing.notices_eq
    simp [Journal.any_isReply, hn]
  case inr hl =>
    obtain ⟨x, hx, rfl⟩ := List.mem_map.mp hl
    exact (h.ended x hx).unreplied ho

-- A connection is there at once, and the response is complete with its first bytes.
theorem Run.times_once_of_two :
    let c := Surroundings.plain fun _ _ => .ready ⟨7⟩ ⟨"10.0.0.1:9090"⟩
    ∃ r turns, Run c ⟨0⟩ (.toCluster "a") r .between turns ∧
      (Chronicle.ofTurns turns).ended.map (fun x => (x.1.message.isOneway, (timings x.1.effects).length)) =
        [(true, 1), (false, 1)] ∧
      (∀ x ∈ (Chronicle.ofTurns turns).ended, ∃ fate, x.1.fate? x.2 = some fate ∧ x.1.TimedDuly fate) ∧
      (∀ log, (Chronicle.ofTurns turns).current? = some log → timings log.effects = []) ∧
      timings (Incident.effects (Chronicle.ofTurns turns).outside) = [] := by
  intro c
  let x₁ := Router.handle c { id := ⟨0⟩, table := .toCluster "a" } (.event (.messageBegin (.call "ping"))) {}
  let x₂ := x₁.1.handle c (.event .messageEnd) x₁.2
  let x₃ := x₂.1.handle c (.event (.clusterData [0x78] false)) x₂.2
  let x₄ := x₃.1.handle c (.event (.messageBegin (.oneway "ping"))) x₃.2
  let x₅ := x₄.1.handle c (.event .messageEnd) x₄.2
  let x₆ := x₅.1.handle c (.event .transportEnd) x₅.2
  have run₁ : Run c ⟨0⟩ (.toCluster "a") x₁.1 .body _ := .turn .start (.decode rfl rfl) x₁.eta.symm
  have run₂ : Run c ⟨0⟩ (.toCluster "a") x₂.1 .ended _ := .turn run₁ (.decode rfl rfl) x₂.eta.symm
  have run₃ : Run c ⟨0⟩ (.toCluster "a") x₃.1 .ended _ := .turn run₂ (.clusterData rfl) x₃.eta.symm
  have run₄ : Run c ⟨0⟩ (.toCluster "a") x₄.1 .body _ := .turn run₃ (.decode rfl rfl) x₄.eta.symm
  have run₅ : Run c ⟨0⟩ (.toCluster "a") x₅.1 .ended _ := .turn run₄ (.decode rfl rfl) x₅.eta.symm
  have run₆ : Run c ⟨0⟩ (.toCluster "a") x₆.1 .between _ := .turn run₅ (.decode rfl rfl) x₆.eta.symm
  exact ⟨_, _, run₆, by decide +kernel, run₆.times_once⟩

namespace Oneway

-- A connection is there at once, and no response is ever complete.
def surroundings : Surroundings :=
  { Surroundings.plain fun _ _ => .ready ⟨7⟩ ⟨"10.0.0.1:9090"⟩ with
    readResponse _ _ _ := ⟨.more, []⟩ }

-- A one-way call whose request has been written.
def written : Router × Shared :=
  let x := Router.handle surroundings { id := ⟨0⟩, table := .toCluster "a" }
    (.event (.messageBegin (.oneway "ping"))) {}
  x.1.handle surroundings (.event .messageEnd) x.2

def turns : List Turn :=
  let r : Router := { id := ⟨0⟩, table := .toCluster "a" }
  let x := r.handle surroundings (.event (.messageBegin (.oneway "ping"))) {}
  [⟨x.1, .event .messageEnd, x.2.since written.2, written.1⟩,
    ⟨r, .event (.messageBegin (.oneway "ping")), Shared.since {} x.2, x.1⟩]

theorem run : Run surroundings ⟨0⟩ (.toCluster "a") written.1 .ended turns := by
  let x := Router.handle surroundings { id := ⟨0⟩, table := .toCluster "a" }
    (.event (.messageBegin (.oneway "ping"))) {}
  have run : Run surroundings ⟨0⟩ (.toCluster "a") x.1 .body _ := .turn .start (.decode rfl rfl) x.eta.symm
  exact .turn run (.decode rfl rfl) written.eta.symm

end Oneway

-- The connection is closed while the request is being written.
open Oneway in
theorem Run.resets_oneway_of_close : ∃ r turns, Run surroundings ⟨0⟩ (.toCluster "a") r .ended turns ∧
    (Chronicle.ofTurns turns).ended.map (fun x => (x.1.message.isOneway, x.1.fate? x.2)) =
      [(true, some (.lost .remoteClose))] ∧
    (∀ log ∈ (Chronicle.ofTurns turns).logs, log.message.isOneway → log.effects.any (·.isReply) = false) ∧
    ∀ x ∈ (Chronicle.ofTurns turns).ended, x.1.message.isOneway →
      ∃ fate, x.1.fate? x.2 = some fate ∧ (fate.isReset → notices x.1.effects = [.resetDownstream ⟨0⟩] ∧
        (timings x.1.effects = [] ↔ ¬ (fate = .cutShort ∧ x.1.isWritten))) := by
  let x := written.1.handle surroundings (.event .remoteClose) written.2
  have run : Run surroundings ⟨0⟩ (.toCluster "a") x.1 .ended _ := .turn run (.remoteClose rfl) x.eta.symm
  exact ⟨_, _, run, by decide +kernel, run.resets_oneway⟩

-- The stream of the cluster ends after the request was written, and a time is recorded.
open Oneway in
theorem Run.not_resetQuietly : ∃ r turns, Run surroundings ⟨0⟩ (.toCluster "a") r .ended turns ∧
    ∃ x ∈ (Chronicle.ofTurns turns).ended, x.1.message.isOneway ∧ x.1.fate? x.2 = some .cutShort ∧
      ¬ x.1.ResetQuietly ⟨0⟩ := by
  let x := written.1.handle surroundings (.event (.clusterData [0x78] true)) written.2
  let turn : Turn := ⟨written.1, .event (.clusterData [0x78] true), written.2.since x.2, x.1⟩
  have run : Run surroundings ⟨0⟩ (.toCluster "a") x.1 .ended (turn :: turns) :=
    .turn run (.clusterData rfl) x.eta.symm
  have timed : ∃ x ∈ (Chronicle.ofTurns (turn :: turns)).ended, x.1.message.isOneway ∧
      x.1.fate? x.2 = some .cutShort ∧ (timings x.1.effects).length = 1 := by
    decide +kernel
  obtain ⟨y, hy, ho, hf, ht⟩ := timed
  exact ⟨_, _, run, y, hy, ho, hf, fun hq => by simp [hq.2] at ht⟩

end RpcProxy
