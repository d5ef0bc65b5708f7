import RpcProxy.Proofs.Call.Statistics
import RpcProxy.Proofs.Router.Coherence

namespace RpcProxy

def Encounter.isMessage (x : Encounter) : Bool :=
  match x.callback with
  | .event (.messageBegin _) => true
  | _                        => false

-- How a message is counted on its way to a pool, and the cluster that it is given to if it comes so far.
inductive Admission (kind? : Option MessageKind) : Option String → List Effect → Prop
  | unrouted : Admission kind? none [.counted .routeMissing none]
  | unknown : Admission kind? none [.counted .unknownCluster none]
  | maintained : Admission kind? none
    [.counted (Router.requestCounter kind?) (some cluster), .counted .maintenanceMode none]
  | unhealthy (request : PoolRequest) : Admission kind? none
    [.counted (Router.requestCounter kind?) (some request.cluster), .askedForPool request none,
      .counted .noHealthyHost none]
  | launched : Admission kind? (some request.cluster)
    [.counted (Router.requestCounter kind?) (some request.cluster), .askedForPool request (some pool),
      .acquired pool answer]

section

variable {kind? : Option MessageKind} {launched? : Option String} {es : List Effect}

theorem Admission.tallies (h : Admission kind? launched? es) : Tallies 1 none launched? es := by
  have hk : Router.requestCounter kind? = .requestCall ∨ Router.requestCounter kind? = .requestOneway ∨
      Router.requestCounter kind? = .requestInvalidKind := by
    unfold Router.requestCounter
    split <;> simp
  cases h
  all_goals rcases hk with hk | hk | hk
  all_goals constructor
  all_goals
    simp only [total, count, samples, acquisitions, requests, launches, allRequests, allLaunches, List.countP_cons,
      List.countP_nil]
  all_goals
    simp [Effect.isCount, Effect.isCountFor, Effect.isSampleFor, Effect.isAcquisition, Effect.requested?,
      Effect.launched?, underWay, hk]

theorem Call.Response.tallies {cluster : String} {size : Nat} (h : Call.Response cluster size es) :
    Tallies 0 (some cluster) none es := by
  cases h
  all_goals constructor
  all_goals
    simp only [total, count, samples, acquisitions, requests, launches, allRequests, allLaunches, List.countP_cons,
      List.countP_nil]
  all_goals
    simp [Effect.isCount, Effect.isCountFor, Effect.isSampleFor, Effect.isAcquisition, Effect.requested?,
      Effect.launched?, underWay]

end

namespace Router

-- The cluster of the call under way.
def cluster? (r : Router) : Option String :=
  r.call?.map (·.cluster)

-- What a router does while it is called again and again.
def effects (c : Surroundings) (r : Router) : List Encounter → List Effect
  | []      => []
  | x :: xs => x.shared.since (r.handle c x.callback x.shared).2 ++
    effects c (r.handle c x.callback x.shared).1 xs

variable {c : Surroundings} {r : Router} {call : Call} {s : Shared} {message : Message}

theorem keep_cluster? {call' : Call} (h : call.Leaves call') :
    (r.keep call').cluster? = some call.cluster ∨ (r.keep call').cluster? = none := by
  cases hl : call'.isTerminal
  case false => exact .inl (by simp [cluster?, keep, hl, (h hl).2])
  case true  => exact .inr (by simp [cluster?, keep, hl])

theorem tallies_nothing {s' : Shared} {after : Option String} (h : s.Counted s' [])
    (ha : after = r.cluster? ∨ after = none) : Tallies 0 r.cluster? after (s.since s') := by
  have hs : statistics (s.since s') = [] := h.since
  exact .of_statistics (hs ▸ .nothing ha)

theorem keep_tallies {x : Call × Shared} (hc : r.call? = some call) (h : call.Charges s x)
    (hl : call.Leaves x.1) : Tallies 0 r.cluster? (r.keep x.1).cluster? (s.since x.2) := by
  have hr : r.cluster? = some call.cluster := by simp [cluster?, hc]
  cases h
  case inl h => exact tallies_nothing h (hr ▸ keep_cluster? hl)
  case inr h =>
    obtain ⟨ended, size, counted, h, response⟩ := h
    have hk : (r.keep x.1).cluster? = none := by simp [cluster?, keep, ended]
    rw [hr, hk]
    have hs : statistics (s.since x.2) = counted := h.since
    exact .of_statistics (hs ▸ response.tallies)

theorem withCall_tallies {f : Call → Shared → Call × Shared} (hn : ∀ call : Call, s.Counted (f call s).2 [])
    (hl : ∀ call, r.call? = some call → call.Leaves (f call s).1) :
    Tallies 0 r.cluster? (r.withCall f s).1.cluster? (s.since (r.withCall f s).2) := by
  cases hc : r.call?
  case none      => exact withCall_of_none hc ▸ tallies_nothing (.refl s) (.inl rfl)
  case some call => exact withCall_of_call hc ▸ keep_tallies hc (.inl (hn call)) (hl call hc)

-- What a message comes to: how it is counted, and whether a call on its cluster is under way then.
def Admits (kind? : Option MessageKind) (s : Shared) (x : Router × Shared) : Prop :=
  ∃ launched? counted, s.Counted x.2 counted ∧ Admission kind? launched? counted ∧
    (x.1.cluster? = launched? ∨ x.1.cluster? = none)

theorem discard_counted (r : Router) (s : Shared) : s.Counted (r.discard s) [] := by
  refine ⟨_, discard_transcript, ?_⟩
  cases hc : r.call? <;> simp [discardEffects, hc]

theorem reply_admits {s' : Shared} {e : Exception} {kind? : Option MessageKind} {counted : List Effect}
    (hc : r.call? = none) (h : s.Counted s' counted) (admission : Admission kind? none counted) :
    Admits kind? s (r, r.reply e s') :=
  ⟨none, counted, h.pass rfl, admission, .inr (by simp [cluster?, hc])⟩

theorem launch_admits (c : Surroundings) (request : PoolRequest) (route : Destination) (leg : Leg)
    (message : Message) {s' : Shared} {pool : PoolId} {kind? : Option MessageKind}
    (hr : request.cluster = route.cluster)
    (h : s.Counted s'
      [.counted (requestCounter kind?) (some request.cluster), .askedForPool request (some pool)]) :
    Admits kind? s (r.launch c route leg pool message s').2 := by
  let call : Call := {
    router := r.id, cluster := route.cluster, pool, leg,
    message := if route.stripService then message.stripService.1 else message }
  have leaves : call.Leaves _ := Call.start_leaves c (s'.emit (.madeCodec r.id leg)) rfl rfl rfl rfl rfl rfl
  have launched := (h.pass (e := .madeCodec r.id leg) rfl).trans (Call.start_counted c call _)
  exact ⟨some request.cluster, _, launched, .launched, hr ▸ keep_cluster? leaves⟩

theorem balance_admits (c : Surroundings) (route : Destination) (cluster : Cluster) (message : Message)
    (hc : r.call? = none) {s' : Shared}
    (h : s.Counted s' [.counted (requestCounter message.kind?) (some route.cluster)]) :
    Admits message.kind? s (r.balance c route cluster message s').2 := by
  unfold balance
  dsimp only
  let request : PoolRequest := ⟨route.cluster, .default, route.criteria, message.headers⟩
  have asked (pool? : Option PoolId) :
      s.Counted (s'.emit (.askedForPool request pool?)) (_ ++ [.askedForPool request pool?]) := h.add _ rfl
  cases c.pool? s'.transcript request
  case none      =>
    have refused := (asked none).add (.counted .noHealthyHost none) rfl
    exact reply_admits hc refused (.unhealthy request)
  case some pool =>
    exact launch_admits c request route _ message rfl (asked (some pool))

theorem forward_admits (c : Surroundings) (route : Destination) (message : Message) {s' : Shared}
    (hc : r.call? = none) (h : s.Counted s' []) : Admits message.kind? s (r.forward c route message s').2 := by
  have looked (cluster? : Option Cluster) : s.Counted (s'.emit (.lookedUp route.cluster cluster?)) [] := h.pass rfl
  unfold forward
  dsimp only
  cases c.cluster? s'.transcript route.cluster
  case none         =>
    exact reply_admits hc ((looked none).add (.counted .unknownCluster none) rfl) .unknown
  case some cluster =>
    have counted := (looked (some cluster)).add (.counted (requestCounter message.kind?) (some route.cluster)) rfl
    dsimp only
    cases cluster.maintenance
    case true  =>
      exact reply_admits hc (counted.add (.counted .maintenanceMode none) rfl) .maintained
    case false =>
      exact balance_admits (r := { r with route? := some route }) c route cluster message hc counted

theorem beginMessage_admits (c : Surroundings) (r : Router) (message : Message) (s : Shared) :
    Admits message.kind? s (r.beginMessage c message s).2 := by
  unfold beginMessage
  dsimp only
  have drawn : s.Counted ((r.discard s).emit (.drew (c.random (r.discard s).transcript))) [] :=
    (discard_counted r s).pass rfl
  cases r.table.route? message (c.random (r.discard s).transcript)
  case none       => exact reply_admits rfl (drawn.add (.counted .routeMissing none) rfl) .unrouted
  case some route => exact forward_admits c route message rfl drawn

theorem beginMessage_tallies (c : Surroundings) (r : Router) (message : Message) (s : Shared) :
    Tallies 1 r.cluster? (r.beginMessage c message s).2.1.cluster?
      (s.since (r.beginMessage c message s).2.2) := by
  have ⟨launched?, counted, h, admission, hk⟩ := beginMessage_admits c r message s
  have abandoned : Tallies 0 r.cluster? none [] := .nothing (.inr rfl)
  have left : Tallies 0 launched? (r.beginMessage c message s).2.1.cluster? [] := .nothing hk
  have told := (abandoned.append admission.tallies).append left
  refine .of_statistics ?_
  simpa [h.since] using told

theorem endTransport_tallies (r : Router) (s : Shared) :
    Tallies 0 r.cluster? (r.endTransport s).1.cluster? (s.since (r.endTransport s).2) := by
  by_cases ho : ∃ call, r.call? = some call ∧ call.message.isOneway
  case pos =>
    have ⟨call, hc, ho⟩ := ho
    rw [endTransport_of_oneway hc ho]
    exact tallies_nothing ⟨_, Call.finish_transcript, by simp⟩ (.inr rfl)
  case neg =>
    have hn : ∀ call, r.call? = some call → call.message.isOneway = false := by simpa using ho
    rw [endTransport_of_other hn]
    exact tallies_nothing (.refl s) (.inl rfl)

theorem poolReady_tallies (c : Surroundings) (id : ConnectionId) (host : Host) (s : Shared) (h : r.Coherent) :
    Tallies 0 r.cluster? (r.poolReady c id host s).1.cluster? (s.since (r.poolReady c id host s).2) := by
  cases hc : r.call?
  case none      =>
    simp only [poolReady, hc]
    exact tallies_nothing ⟨[.closed id .noFlush, .released id], by simp, rfl⟩ (.inl rfl)
  case some call =>
    obtain ⟨ho, _⟩ := h call hc
    rw [poolReady_of_call hc]
    exact keep_tallies hc (.inl (Call.connect_counted c call id host s))
      (Call.connect_leaves c id host s ho.incomplete ho.untimed)

theorem receive_tallies (c : Surroundings) (data : Bytes) (endStream : Bool) (s : Shared) (h : r.Coherent) :
    Tallies 0 r.cluster? (r.receive c data endStream s).2.1.cluster?
      (s.since (r.receive c data endStream s).2.2) := by
  cases hc : r.call?
  case none      =>
    simp only [receive, hc]
    exact tallies_nothing (.refl s) (.inl rfl)
  case some call =>
    rw [receive_of_call hc]
    exact keep_tallies hc (Call.receive_charges c call data endStream s)
      (Call.receive_leaves c data endStream s (h call hc).1)

theorem destroy_tallies (r : Router) (s : Shared) :
    Tallies 0 r.cluster? (r.destroy s).1.cluster? (s.since (r.destroy s).2) :=
  tallies_nothing (discard_counted r s) (.inr rfl)

theorem handle_tallies (c : Surroundings) (x : Encounter) (h : r.Coherent) :
    Tallies (if x.isMessage then 1 else 0) r.cluster? (r.handle c x.callback x.shared).1.cluster?
      (x.shared.since (r.handle c x.callback x.shared).2) := by
  obtain ⟨callback, s⟩ := x
  cases callback
  case destroy     => exact destroy_tallies r s
  case event event =>
    cases event
    case transportBegin           => exact tallies_nothing (.refl s) (.inl rfl)
    case messageBegin message     => exact beginMessage_tallies c r message s
    case messageBody body         =>
      exact withCall_tallies (fun _ => Call.writeBody_shows fun _ => rfl) fun call hc =>
        Call.writeBody_leaves c body r.passthrough s (h call hc).1
    case messageEnd               =>
      exact withCall_tallies (fun _ => Call.endRequest_shows fun _ => rfl) fun call hc =>
        Call.endRequest_leaves c s (h call hc).1
    case transportEnd             => exact endTransport_tallies r s
    case poolReady id host        => exact poolReady_tallies c id host s h
    case poolFailure reason host? =>
      exact withCall_tallies (fun _ => ⟨_, Call.fail_transcript, by simp⟩) fun call _ =>
        call.failToConnect_leaves reason host? s
    case clusterData data ended   => exact receive_tallies c data ended s h
    case remoteClose              =>
      exact withCall_tallies (fun _ => ⟨_, Call.lose_transcript, by simp⟩) fun _ _ =>
        .of_isTerminal Call.lose_isTerminal
    case localClose               =>
      exact withCall_tallies (fun _ => ⟨_, Call.lose_transcript, by simp⟩) fun _ _ =>
        .of_isTerminal Call.lose_isTerminal

theorem effects_tallies (c : Surroundings) (xs : List Encounter) (h : r.Coherent) :
    Tallies (xs.countP (·.isMessage)) r.cluster? (r.handleAll c xs).cluster? (r.effects c xs) := by
  induction xs generalizing r
  case nil          => exact .nothing (.inl rfl)
  case cons x xs ih =>
    have hx := (handle_tallies c x h).append (ih (handle_coherent c x.callback x.shared h))
    rwa [List.countP_cons, Nat.add_comm]

-- However a new router is called, and whatever it is answered, its statistics balance.
theorem effects_balanced (c : Surroundings) (id : RouterId) (table : RouteTable) (xs : List Encounter) :
    Balanced (xs.countP (·.isMessage)) (effects c { id, table } xs) := by
  have h : Tallies _ (cluster? { id, table }) _ _ := effects_tallies c xs (.of_idle rfl)
  exact h.balanced

end Router

end RpcProxy
