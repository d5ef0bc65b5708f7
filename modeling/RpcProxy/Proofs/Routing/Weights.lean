import Mathlib
import RpcProxy.Proofs.Routing.Prescription

namespace RpcProxy

namespace Config

-- The weight of the clusters before a position.
def WeightedClusters.weightBefore (config : WeightedClusters) (i : Nat) : Nat :=
  totalWeight (config.clusters.take i)

-- The cluster at a position owns the remainder of a random number.
def WeightedClusters.FallsOn (config : WeightedClusters) (i random : Nat) : Prop :=
  config.weightBefore i ≤ random % totalWeight config.clusters ∧
    random % totalWeight config.clusters < config.weightBefore (i + 1)

instance (config : WeightedClusters) (i : Nat) : DecidablePred (config.FallsOn i) :=
  fun _ => inferInstanceAs (Decidable (_ ∧ _))

end Config

-- What it means that shares are exact. The entries are those of the clusters, at the same positions.
structure Shares.PicksExactly (shares : Shares) (config : Config.WeightedClusters) (parent : Option Criteria) :
    Prop where
  total    : shares.total = Config.totalWeight config.clusters
  positive : 0 < shares.total
  fits     : shares.total < UInt64.size
  picks    : ∀ random < UInt64.size, ∃ (i : Nat) (cluster : Config.ClusterWeight) (share : Share),
    (∀ j, config.FallsOn j random ↔ j = i) ∧ config.clusters[i]? = some cluster ∧ shares.entries[i]? = some share ∧
      Share.ofConfig cluster parent = .ok share ∧ shares.pick? random = some share
  windows  : ∀ start, start + shares.total ≤ UInt64.size → ∀ (i : Nat) (cluster : Config.ClusterWeight),
    config.clusters[i]? = some cluster →
      ((Finset.Ico start (start + shares.total)).filter (config.FallsOn i)).card = cluster.weight

namespace Config.WeightedClusters

variable {config : WeightedClusters} {cluster : ClusterWeight} {i j random : Nat}

theorem weightBefore_mono : Monotone config.weightBefore := by
  intro i j h
  have hs : (config.clusters.take i).Sublist (config.clusters.take j) := (List.take_prefix_take_left h).sublist
  exact (hs.map _).sum_le_sum fun _ _ => Nat.zero_le _

theorem weightBefore_le_total (i : Nat) : config.weightBefore i ≤ totalWeight config.clusters :=
  ((List.take_sublist i _).map _).sum_le_sum fun _ _ => Nat.zero_le _

theorem weightBefore_succ (h : config.clusters[i]? = some cluster) :
    config.weightBefore (i + 1) = config.weightBefore i + cluster.weight := by
  rw [weightBefore, List.take_add_one, h]
  simp [weightBefore, totalWeight]

-- The first number that a cluster owns is the weight of all before it.
theorem fallsOn_weightBefore (hc : config.clusters[i]? = some cluster) (hw : 0 < cluster.weight) :
    config.FallsOn i (config.weightBefore i) := by
  have next := weightBefore_succ hc
  have := config.weightBefore_le_total (i + 1)
  have own : config.weightBefore i % totalWeight config.clusters = config.weightBefore i :=
    Nat.mod_eq_of_lt (by omega)
  rw [FallsOn, own]
  omega

-- What a position owns lies before all that later positions own.
theorem FallsOn.le (h : config.FallsOn i random) (h' : config.FallsOn j random) : i ≤ j := by
  by_contra hn
  have : config.weightBefore (j + 1) ≤ config.weightBefore i := weightBefore_mono (by omega)
  have := h.1
  have := h'.2
  omega

theorem FallsOn.eq (h : config.FallsOn i random) (h' : config.FallsOn j random) : i = j :=
  Nat.le_antisymm (h.le h') (h'.le h)

theorem fallsOn_periodic (config : WeightedClusters) (i : Nat) :
    Function.Periodic (config.FallsOn i) (totalWeight config.clusters) := by
  intro random
  rw [FallsOn, Nat.add_mod_right, FallsOn]

-- Below the total weight, a number is its own remainder.
theorem filter_range_fallsOn (config : WeightedClusters) (i : Nat) :
    (Finset.range (totalWeight config.clusters)).filter (config.FallsOn i) =
      Finset.Ico (config.weightBefore i) (config.weightBefore (i + 1)) := by
  ext random
  have := config.weightBefore_le_total (i + 1)
  simp only [Finset.mem_filter, Finset.mem_range, Finset.mem_Ico, FallsOn]
  constructor
  case mp  =>
    rintro ⟨hr, h⟩
    rwa [Nat.mod_eq_of_lt hr] at h
  case mpr =>
    intro h
    have hr : random < totalWeight config.clusters := by omega
    exact ⟨hr, by rwa [Nat.mod_eq_of_lt hr]⟩

theorem card_window (h : config.clusters[i]? = some cluster) (start : Nat) :
    ((Finset.Ico start (start + totalWeight config.clusters)).filter (config.FallsOn i)).card = cluster.weight := by
  rw [Nat.filter_Ico_card_eq_of_periodic _ _ _ (config.fallsOn_periodic i), Nat.count_eq_card_filter_range,
    filter_range_fallsOn, Nat.card_Ico, weightBefore_succ h, Nat.add_sub_cancel_left]

-- Few clusters with small weights do not weigh too much together.
theorem totalWeight_lt (hl : config.clusters.length < UInt32.size)
    (hw : ∀ cluster ∈ config.clusters, cluster.weight < UInt32.size) : totalWeight config.clusters < UInt64.size := by
  have hs : totalWeight config.clusters ≤ config.clusters.length * (UInt32.size - 1) := by
    have hw : ∀ weight ∈ config.clusters.map (·.weight), weight ≤ UInt32.size - 1 :=
      List.forall_mem_map.mpr fun cluster hm => Nat.le_sub_one_of_lt (hw cluster hm)
    simpa [totalWeight] using List.sum_le_card_nsmul _ _ hw
  have hm : config.clusters.length * (UInt32.size - 1) ≤ (UInt32.size - 1) * (UInt32.size - 1) :=
    Nat.mul_le_mul_right _ (Nat.le_sub_one_of_lt hl)
  have : (UInt32.size - 1) * (UInt32.size - 1) < UInt64.size := by decide
  omega

end Config.WeightedClusters

namespace Shares

variable {config : Config.WeightedClusters} {parent : Option Criteria} {shares : Shares} {random : Nat}

theorem total_eq_totalWeight (h : ofConfig config parent = .ok shares) :
    shares.total = Config.totalWeight config.clusters := by
  rw [total_eq_sum, (ofConfig_eq_ok h).1, sum_map_of]

-- The entry that is picked stands at the position on which the number falls.
theorem exists_fallsOn (h : ofConfig config parent = .ok shares) (random : Nat) : ∃ i cluster,
    config.FallsOn i random ∧ config.clusters[i]? = some cluster ∧
      shares.pick? random = some (Share.of parent cluster) := by
  obtain ⟨share, hp⟩ := Option.isSome_iff_exists.mp (pick?_isSome h random)
  obtain ⟨before, chosen, after, split, rfl, low, high⟩ := (pick?_eq_some_iff h).mp hp
  have hc : config.clusters[before.length]? = some chosen := by simp [split]
  have hb : config.weightBefore before.length = Config.totalWeight before := by
    simp [Config.WeightedClusters.weightBefore, split]
  refine ⟨before.length, chosen, ⟨?_, ?_⟩, hc, hp⟩
  · rwa [hb]
  · rwa [Config.WeightedClusters.weightBefore_succ hc, hb]

theorem ofConfig_of (h : ofConfig config parent = .ok shares) {cluster : Config.ClusterWeight}
    (hm : cluster ∈ config.clusters) : Share.ofConfig cluster parent = .ok (Share.of parent cluster) := by
  unfold ofConfig at h
  split at h
  case isTrue  => simp at h
  case isFalse =>
    obtain ⟨entries, he, -⟩ := Except.map_eq_ok_iff.mp h
    have built : ∀ c ∈ config.clusters, Share.ofConfig c parent = .ok (Share.of parent c) := by
      refine (Except.forall_mem_iff_of_mapM (p := fun _ => True) he fun c share hs => ?_).mp fun _ _ => trivial
      exact (iff_true_intro (hs.trans (congrArg _ (Share.ofConfig_eq_ok hs).1))).symm
    exact built cluster hm

-- Weighted clusters that are accepted are picked exactly by their weights.
theorem ofConfig_picksExactly (h : ofConfig config parent = .ok shares)
    (hl : config.clusters.length < UInt32.size) (hw : ∀ cluster ∈ config.clusters, cluster.weight < UInt32.size) :
    shares.PicksExactly config parent := by
  have total := total_eq_totalWeight h
  refine { total, positive := ?positive, fits := ?fits, picks := ?picks, windows := ?windows }
  case positive =>
    rw [total]
    exact (ofConfig_eq_ok h).2
  case fits =>
    rw [total]
    exact Config.WeightedClusters.totalWeight_lt hl hw
  case picks =>
    intro random _
    obtain ⟨i, cluster, falls, hc, hp⟩ := exists_fallsOn h random
    have he : shares.entries[i]? = some (Share.of parent cluster) := by simp [(ofConfig_eq_ok h).1, hc]
    have built := ofConfig_of h (List.mem_of_getElem? hc)
    exact ⟨i, cluster, _, fun j => ⟨fun falls' => falls'.eq falls, fun hj => hj ▸ falls⟩, hc, he, built, hp⟩
  case windows =>
    intro start _ i cluster hc
    rw [total]
    exact Config.WeightedClusters.card_window hc start

-- Two of the clusters are the same, and all but a few calls go to the first one.
theorem ofConfig_picksExactly_uneven :
    let config : Config.WeightedClusters :=
      ⟨[⟨"stable", 4294967295, none⟩, ⟨"canary", 1, none⟩, ⟨"canary", 1, none⟩]⟩
    ∃ shares, ofConfig config none = .ok shares ∧ config.clusters.length < UInt32.size ∧
      (∀ cluster ∈ config.clusters, cluster.weight < UInt32.size) ∧ shares.total = 4294967297 ∧
      shares.PicksExactly config none := by
  intro config
  have hl : config.clusters.length < UInt32.size := by decide
  have hw : ∀ cluster ∈ config.clusters, cluster.weight < UInt32.size := by decide
  have built : ofConfig config none = .ok _ := rfl
  exact ⟨_, built, hl, hw, rfl, ofConfig_picksExactly built hl hw⟩

end Shares

end RpcProxy
