import Mathlib.Algebra.BigOperators.Group.Finset.Piecewise
import Mathlib.Data.Finset.Dedup
import RpcProxy.Exchange.Transcript

namespace RpcProxy

namespace Effect

-- The cluster that a request is counted for.
def requested? : Effect → Option String
  | counted .requestCall cluster?        => cluster?
  | counted .requestOneway cluster?      => cluster?
  | counted .requestInvalidKind cluster? => cluster?
  | _                                    => none

-- The cluster of a call that is given to a pool.
def launched? : Effect → Option String
  | askedForPool request (some _) => some request.cluster
  | _                             => none

-- The cluster that a statistic or a call belongs to.
def cluster? : Effect → Option String
  | counted _ cluster?  => cluster?
  | sampled _ cluster _ => some cluster
  | e                   => e.launched?

def isAcquisition : Effect → Bool
  | acquired .. => true
  | _           => false

def isCount (counter : Counter) : Effect → Bool
  | counted n _ => n = counter
  | _           => false

def isCountFor (counter : Counter) (cluster : String) : Effect → Bool
  | counted n (some k) => n = counter && k = cluster
  | _                  => false

def isSampleFor (histogram : Histogram) (cluster : String) : Effect → Bool
  | sampled h k _ => h = histogram && k = cluster
  | _             => false

-- An effect that has to do with the balance.
abbrev isStatistic : Effect → Bool
  | counted ..               => true
  | sampled .responseSize .. => true
  | askedForPool ..          => true
  | acquired ..              => true
  | _                        => false

end Effect

def total (counter : Counter) (es : List Effect) : Nat :=
  es.countP (·.isCount counter)

def count (counter : Counter) (cluster : String) (es : List Effect) : Nat :=
  es.countP (·.isCountFor counter cluster)

def samples (histogram : Histogram) (cluster : String) (es : List Effect) : Nat :=
  es.countP (·.isSampleFor histogram cluster)

-- The connections that pools were asked for.
def acquisitions (es : List Effect) : Nat :=
  es.countP (·.isAcquisition)

-- The messages that were counted for a cluster.
def requests (cluster : String) (es : List Effect) : Nat :=
  count .requestCall cluster es + count .requestOneway cluster es + count .requestInvalidKind cluster es

-- The calls that were started on a cluster.
def launches (cluster : String) (es : List Effect) : Nat :=
  es.countP (·.launched? == some cluster)

-- The same for all clusters together.
def allRequests (es : List Effect) : Nat :=
  es.countP (·.requested?.isSome)

def allLaunches (es : List Effect) : Nat :=
  es.countP (·.launched?.isSome)

def clusters (es : List Effect) : Finset String :=
  (es.filterMap (·.cluster?)).toFinset

-- The statistics of a number of messages, whatever became of them.
structure Balanced (messages : Nat) (es : List Effect) : Prop where
  routed    : messages =
    total .routeMissing es + total .unknownCluster es + ∑ cluster ∈ clusters es, requests cluster es
  requested : ∑ cluster ∈ clusters es, requests cluster es =
    total .maintenanceMode es + total .noHealthyHost es + acquisitions es
  launched  : ∑ cluster ∈ clusters es, launches cluster es = acquisitions es
  accepted  : ∀ cluster, launches cluster es ≤ requests cluster es
  replies   : ∀ cluster, count .responseReply cluster es =
    count .replySuccess cluster es + count .replyError cluster es
  responses : ∀ cluster, samples .responseSize cluster es =
    count .responseReply cluster es + count .responseException cluster es + count .responseInvalidKind cluster es
  answered  : ∀ cluster, samples .responseSize cluster es ≤ launches cluster es

abbrev statistics (es : List Effect) : List Effect :=
  es.filter (·.isStatistic)

section

variable {e : Effect} {es es' : List Effect}

theorem countP_statistics (p : Effect → Bool) (h : ∀ e, p e → e.isStatistic) :
    (statistics es).countP p = es.countP p := by
  rw [statistics, List.countP_filter]
  refine List.countP_congr fun e _ => ?_
  simpa using h e

@[simp]
theorem total_statistics {counter : Counter} : total counter (statistics es) = total counter es :=
  countP_statistics _ fun e h => by cases e <;> first | rfl | cases h

@[simp]
theorem count_statistics {counter : Counter} {cluster : String} :
    count counter cluster (statistics es) = count counter cluster es :=
  countP_statistics _ fun e h => by cases e <;> first | rfl | cases h

@[simp]
theorem sizes_statistics {cluster : String} :
    samples .responseSize cluster (statistics es) = samples .responseSize cluster es := by
  refine countP_statistics _ fun e h => ?_
  cases e
  case sampled histogram k value? => cases histogram <;> simp_all [Effect.isSampleFor]
  all_goals first | rfl | cases h

@[simp]
theorem acquisitions_statistics : acquisitions (statistics es) = acquisitions es :=
  countP_statistics _ fun e h => by cases e <;> first | rfl | cases h

@[simp]
theorem allRequests_statistics : allRequests (statistics es) = allRequests es :=
  countP_statistics _ fun e h => by cases e <;> first | rfl | cases h

theorem isStatistic_of_launched (h : e.launched?.isSome) : e.isStatistic := by
  cases e <;> first | rfl | cases h

@[simp]
theorem allLaunches_statistics : allLaunches (statistics es) = allLaunches es :=
  countP_statistics _ fun _ => isStatistic_of_launched

@[simp]
theorem launches_statistics {cluster : String} : launches cluster (statistics es) = launches cluster es :=
  countP_statistics _ fun e h => isStatistic_of_launched (by simp [beq_iff_eq.mp h])

@[simp]
theorem requests_statistics {cluster : String} : requests cluster (statistics es) = requests cluster es := by
  simp [requests]

-- Events that belong to clusters are counted cluster by cluster.
theorem sum_countP (cluster? : Effect → Option String) (ks : Finset String)
    (h : ∀ e ∈ es, ∀ k, cluster? e = some k → k ∈ ks) :
    ∑ k ∈ ks, es.countP (cluster? · == some k) = es.countP fun e => (cluster? e).isSome := by
  induction es
  case nil          => simp
  case cons e es ih =>
    have ⟨he, hes⟩ := List.forall_mem_cons.mp h
    simp only [List.countP_cons, Finset.sum_add_distrib, ih hes]
    congr 1
    cases hk : cluster? e
    case none   => simp
    case some k => simp [Finset.sum_ite_eq, he k hk]

theorem requests_eq (cluster : String) (es : List Effect) :
    requests cluster es = es.countP (·.requested? == some cluster) := by
  induction es
  case nil          => rfl
  case cons e es ih =>
    simp only [requests, count, List.countP_cons] at ih ⊢
    rw [← ih]
    cases e
    case counted n k? =>
      cases n
      case requestCall | requestOneway | requestInvalidKind =>
        cases k? <;> simp [Effect.isCountFor, Effect.requested?]
        omega
      all_goals cases k? <;> rfl
    all_goals rfl

theorem mem_clusters {k : String} (he : e ∈ es) (hk : e.cluster? = some k) : k ∈ clusters es :=
  List.mem_toFinset.mpr (List.mem_filterMap.mpr ⟨e, he, hk⟩)

theorem sum_requests (es : List Effect) :
    ∑ cluster ∈ clusters es, requests cluster es = allRequests es := by
  simp only [requests_eq]
  refine sum_countP (·.requested?) _ fun e he k hk => mem_clusters he ?_
  cases e
  case counted n k? => cases n <;> first | exact hk | cases hk
  all_goals cases hk

theorem sum_launches (es : List Effect) :
    ∑ cluster ∈ clusters es, launches cluster es = allLaunches es := by
  refine sum_countP (·.launched?) _ fun e he k hk => mem_clusters he ?_
  cases e
  case askedForPool request pool? => exact hk
  all_goals cases hk

end

-- How many calls on a cluster are under way, of at most one call in all.
def underWay (call? : Option String) (cluster : String) : Nat :=
  if call? = some cluster then 1 else 0

-- What a router appends while it is told of some messages. It has a call on the cluster `before` at first, and one on
-- the cluster `after` in the end. A call under way can still be answered.
structure Tallies (messages : Nat) (before after : Option String) (es : List Effect) : Prop where
  routed    : messages = total .routeMissing es + total .unknownCluster es + allRequests es
  requested : allRequests es =
    total .maintenanceMode es + total .noHealthyHost es + acquisitions es
  launched  : allLaunches es = acquisitions es
  accepted  : ∀ cluster, launches cluster es ≤ requests cluster es
  replies   : ∀ cluster, count .responseReply cluster es =
    count .replySuccess cluster es + count .replyError cluster es
  responses : ∀ cluster, samples .responseSize cluster es =
    count .responseReply cluster es + count .responseException cluster es + count .responseInvalidKind cluster es
  answered  : ∀ cluster, samples .responseSize cluster es + underWay after cluster ≤
    underWay before cluster + launches cluster es

namespace Tallies

variable {m n : Nat} {before between after : Option String} {es es' : List Effect}

theorem nothing (h : after = before ∨ after = none) : Tallies 0 before after [] where
  routed            := rfl
  requested         := rfl
  launched          := rfl
  accepted _        := le_rfl
  replies _         := rfl
  responses _       := rfl
  answered cluster  := by cases h <;> simp_all [samples, launches, underWay]

theorem append (h : Tallies m before between es) (h' : Tallies n between after es') :
    Tallies (m + n) before after (es ++ es') where
  routed            := by
    have := h.routed
    have := h'.routed
    simp only [total, allRequests, List.countP_append] at *
    omega
  requested         := by
    have := h.requested
    have := h'.requested
    simp only [total, acquisitions, allRequests, List.countP_append] at *
    omega
  launched          := by
    have := h.launched
    have := h'.launched
    simp only [acquisitions, allLaunches, List.countP_append] at *
    omega
  accepted cluster  := by
    have := h.accepted cluster
    have := h'.accepted cluster
    simp only [launches, requests, count, List.countP_append] at *
    omega
  replies cluster   := by
    have := h.replies cluster
    have := h'.replies cluster
    simp only [count, List.countP_append] at *
    omega
  responses cluster := by
    have := h.responses cluster
    have := h'.responses cluster
    simp only [samples, count, List.countP_append] at *
    omega
  answered cluster  := by
    have := h.answered cluster
    have := h'.answered cluster
    simp only [samples, launches, List.countP_append] at *
    omega

theorem balanced (h : Tallies m none after es) : Balanced m es where
  routed            := sum_requests es ▸ h.routed
  requested         := sum_requests es ▸ h.requested
  launched          := sum_launches es ▸ h.launched
  accepted          := h.accepted
  replies           := h.replies
  responses         := h.responses
  answered cluster  := by
    have := h.answered cluster
    simp only [underWay, reduceCtorEq, if_false] at this
    omega

-- Only the statistics count.
theorem of_statistics (h : Tallies m before after (statistics es)) : Tallies m before after es := by
  constructor
  case routed    => simpa only [total_statistics, allRequests_statistics] using h.routed
  case requested => simpa only [total_statistics, acquisitions_statistics, allRequests_statistics] using h.requested
  case launched  => simpa only [acquisitions_statistics, allLaunches_statistics] using h.launched
  case accepted  => simpa only [launches_statistics, requests_statistics] using h.accepted
  case replies   => simpa only [count_statistics] using h.replies
  case responses => simpa only [sizes_statistics, count_statistics] using h.responses
  case answered  => simpa only [sizes_statistics, launches_statistics] using h.answered

end Tallies

end RpcProxy
