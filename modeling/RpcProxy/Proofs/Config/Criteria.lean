import RpcProxy.Config.Basic
import RpcProxy.Proofs.Criteria

namespace RpcProxy.Config

def Action.allCriteria (a : Action) : List Criteria :=
  a.criteria.toList ++ a.weightedClusters.toList.flatMap fun w => w.clusters.filterMap (·.criteria)

def Routes.allCriteria (r : Routes) : List Criteria :=
  r.routes.flatMap (·.action.allCriteria)

def Router.allCriteria (r : Router) : List Criteria :=
  r.routes.allCriteria

-- Criteria are maps: each key stands once, and the keys are in order.
def Action.Ordered (a : Action) : Prop :=
  ∀ criteria ∈ a.allCriteria, criteria.Ordered

def Routes.Ordered (r : Routes) : Prop :=
  ∀ criteria ∈ r.allCriteria, criteria.Ordered

section

variable {a : Action} {criteria : Criteria}

theorem Action.mem_allCriteria (h : a.criteria = some criteria) : criteria ∈ a.allCriteria := by
  simp [allCriteria, h]

theorem Action.mem_allCriteria_of_cluster {w : WeightedClusters} {cluster : ClusterWeight}
    (hw : a.weightedClusters = some w) (hc : cluster ∈ w.clusters) (h : cluster.criteria = some criteria) :
    criteria ∈ a.allCriteria := by
  refine List.mem_append_right _ (List.mem_flatMap.mpr ⟨w, by simp [hw], ?_⟩)
  exact List.mem_filterMap.mpr ⟨cluster, hc, h⟩

theorem Action.ordered_iff : a.Ordered ↔ (∀ c ∈ a.criteria, c.Ordered) ∧
    ∀ w ∈ a.weightedClusters, ∀ cluster ∈ w.clusters, ∀ c ∈ cluster.criteria, c.Ordered := by
  constructor
  case mp =>
    intro h
    exact ⟨fun c hc => h c (mem_allCriteria hc),
      fun w hw cluster hm c hc => h c (mem_allCriteria_of_cluster hw hm hc)⟩
  case mpr =>
    intro ⟨own, clusters⟩ c hc
    rcases List.mem_append.mp hc with hc | hc
    · exact own c (Option.mem_toList.mp hc)
    · have ⟨w, hw, hc⟩ := List.mem_flatMap.mp hc
      have ⟨cluster, hm, hc⟩ := List.mem_filterMap.mp hc
      exact clusters w (Option.mem_toList.mp hw) cluster hm c hc

theorem Routes.ordered_iff {r : Routes} : r.Ordered ↔ ∀ route ∈ r.routes, route.action.Ordered := by
  constructor
  case mp =>
    intro h route hr c hc
    exact h c (List.mem_flatMap.mpr ⟨route, hr, hc⟩)
  case mpr =>
    intro h c hc
    have ⟨route, hr, hc⟩ := List.mem_flatMap.mp hc
    exact h route hr c hc

end

end RpcProxy.Config
