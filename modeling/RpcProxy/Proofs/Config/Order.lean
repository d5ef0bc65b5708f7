import RpcProxy.Proofs.Config.Criteria
import RpcProxy.Proofs.Config.Restoring

namespace RpcProxy.Config

open Reader

variable {room : Nat}

theorem criteria_ordered : Reader.criteria.Gives room Criteria.Ordered :=
  criteria_gives.imp fun _ h => h.2

theorem ClusterWeight.gives_ordered : record.read.Gives (room + 1) fun c => ∀ x ∈ c.criteria, x.Ordered := by
  refine Record.gives (by simp [record]) ?_
  simp only [record, List.forall_mem_cons]
  exact ⟨.need .trivial fun _ _ h _ => h, .need .trivial fun _ _ h _ => h,
    .of criteria_ordered.nullable fun _ _ _ h => h, by simp⟩

theorem Action.gives_ordered : record.read.Gives (room + 4) Action.Ordered := by
  have clusters : WeightedClusters.record.read.Gives (room + 3) fun w =>
      ∀ cluster ∈ w.clusters, ∀ c ∈ cluster.criteria, c.Ordered := by
    refine Record.gives (by simp [WeightedClusters.record]) ?_
    simp only [WeightedClusters.record, List.forall_mem_cons]
    exact ⟨.need ClusterWeight.gives_ordered.list fun _ _ _ h => h, by simp⟩
  refine (Record.gives (p := fun a => (∀ c ∈ a.criteria, c.Ordered) ∧
    ∀ w ∈ a.weightedClusters, ∀ cluster ∈ w.clusters, ∀ c ∈ cluster.criteria, c.Ordered)
    (by simp [record]) ?_).imp fun a => ordered_iff.mpr
  simp only [record, List.forall_mem_cons]
  exact ⟨.other fun _ _ h => h, .of clusters.nullable fun _ _ hs hx => ⟨hs.1, hx⟩, .other fun _ _ h => h,
    .of criteria_ordered.nullable fun _ _ hs hx => ⟨hx, hs.2⟩, .other fun _ _ h => h, .other fun _ _ h => h, by simp⟩

theorem Route.gives_ordered : record.read.Gives (room + 5) fun r => r.action.Ordered := by
  refine Record.gives (Action.ordered_iff.mpr (by simp [record])) ?_
  simp only [record, List.forall_mem_cons]
  exact ⟨.need .trivial fun _ _ h _ => h, .need Action.gives_ordered fun _ _ _ h => h, by simp⟩

theorem Routes.gives_ordered : record.read.Gives (room + 7) Routes.Ordered := by
  refine (Record.gives (p := fun r => ∀ route ∈ r.routes, route.action.Ordered) (by simp [record]) ?_).imp
    fun r => ordered_iff.mpr
  simp only [record, List.forall_mem_cons]
  exact ⟨.other fun _ _ h => h, .of Route.gives_ordered.list fun _ _ _ h => h, by simp⟩

theorem Router.gives_ordered : record.read.Gives (room + 8) fun r => r.routes.Ordered := by
  refine Record.gives (Routes.ordered_iff.mpr (by simp [record])) ?_
  simp only [record, List.forall_mem_cons]
  exact ⟨.other fun _ _ h => h, .of Routes.gives_ordered fun _ _ _ h => h, by simp⟩

theorem Routes.ordered_of_parse {text : String} {r : Routes} (h : parse text = .ok r) : r.Ordered :=
  of_parse (gives_ordered : record.read.Gives (120 + 7) _) h

theorem Router.ordered_of_parse {text : String} {r : Router} (h : parse text = .ok r) : r.routes.Ordered :=
  of_parse (p := fun r => r.routes.Ordered) (gives_ordered : record.read.Gives (119 + 8) _) h

end RpcProxy.Config
