import RpcProxy.Proofs.Router.Direction
import RpcProxy.Proofs.Router.Run
import RpcProxy.Proofs.Routing.Chance
import RpcProxy.Proofs.Routing.Weights

namespace RpcProxy

-- What it means that the criteria of a cluster win over those of its route, each key by itself.
structure Config.Overrides (own route merged : Option Criteria) : Prop where
  values    : ∀ key, merged.bind (·.get? key) = (own.bind (·.get? key)).or (route.bind (·.get? key))
  ordered   : ∀ criteria ∈ merged, criteria.Ordered
  inherited : own = none → merged = route

-- What is done for a message that goes to a cluster of a route.
structure Config.Action.Balances (action : Config.Action) (cluster : Config.ClusterWeight) (es : List Effect) :
    Prop where
  lookedUp : es.filterMap (·.lookedUp?) = [cluster.name]
  asked    : ∀ {known}, .lookedUp cluster.name (some known) ∈ es → known.maintenance = false →
    ∃ request pool?, .askedForPool request pool? ∈ es
  told     : ∀ {request pool?}, .askedForPool request pool? ∈ es →
    request.cluster = cluster.name ∧ Config.Overrides cluster.criteria action.criteria request.criteria

-- The rule gives the next message its route.
def Router.RoutesBy (c : Surroundings) (r : Router) (rule : RouteRule) (message : Message) (s : Shared) : Prop :=
  ∃ i, r.table.winner? message (c.random (r.discard s).transcript) = some i ∧ r.table.rules[i]? = some rule

-- What the rule of an action does with the calls that fall on a cluster, up to the load balancer.
structure RouteRule.SendsTo (rule : RouteRule) (action : Config.Action) (w : Config.WeightedClusters) (i : Nat)
    (cluster : Config.ClusterWeight) : Prop where
  reached  : ∃ random, w.FallsOn i random
  resolves : ∀ message random, rule.takes message → w.FallsOn i random → ∃ d,
    rule.resolve? message random = some d ∧ d.cluster = cluster.name ∧
      Config.Overrides cluster.criteria action.criteria d.criteria
  balances : ∀ (c : Surroundings) (r : Router) message s, r.RoutesBy c rule message s →
    w.FallsOn i (c.random (r.discard s).transcript) →
      action.Balances cluster (s.since (r.beginMessage c message s).2.2)

namespace Config.LaidOver

variable {own route merged : Option Criteria}

theorem overrides (h : LaidOver own route merged) (ho : ∀ c ∈ own, c.Ordered) (hr : ∀ c ∈ route, c.Ordered) :
    Overrides own route merged := by
  cases h
  case inherited           => exact ⟨fun key => rfl, hr, fun _ => rfl⟩
  case own                 => exact ⟨fun key => Option.or_none.symm, ho, by simp⟩
  case both ordered values => exact ⟨values, by simpa using ordered, by simp⟩

end Config.LaidOver

-- What the load balancer is told is known from the route of the message.
theorem Router.balances_of_route? {c : Surroundings} {r : Router} {message : Message} {s : Shared} {d : Destination}
    {action : Config.Action} {cluster : Config.ClusterWeight}
    (hr : r.table.route? message (c.random (r.discard s).transcript) = some d) (hn : d.cluster = cluster.name)
    (wins : Config.Overrides cluster.criteria action.criteria d.criteria) :
    action.Balances cluster (s.since (r.beginMessage c message s).2.2) := by
  have directs := r.beginMessage_directs c message s
  refine { lookedUp := ?lookedUp, asked := ?asked, told := ?told }
  case lookedUp => rw [directs.lookups, hr, Option.map_some, hn, Option.toList_some]
  case asked =>
    intro known looked opened
    obtain ⟨route, -, pool?, asked⟩ := directs.exists_asked looked opened
    exact ⟨_, pool?, asked⟩
  case told =>
    intro request pool? asked
    obtain ⟨route, routed, rfl⟩ := directs.asked asked
    obtain rfl := Option.some.inj (hr.symm.trans routed)
    exact ⟨hn, wins⟩

namespace RouteRule

variable {config : Config.Route} {rule : RouteRule} {w : Config.WeightedClusters} {i random : Nat}
  {cluster : Config.ClusterWeight} {message : Message} {d : Destination}

-- The clusters that share the calls of a rule are those of its configuration.
theorem shares_of_weighted (h : ofConfig config = .ok rule) (hw : config.action.weightedClusters = some w) :
    ∃ shares, rule.target = .weighted shares ∧ Shares.ofConfig w config.action.criteria = .ok shares := by
  generalize ht : rule.target = target
  cases Target.built (ht ▸ (built h).target)
  case static hn _        => simp [hw] at hn
  case header hn _        => simp [hw] at hn
  case weighted _ hw' _ s =>
    obtain rfl := Option.some.inj (hw.symm.trans hw')
    exact ⟨_, rfl, s⟩

theorem resolve?_of_fallsOn (h : ofConfig config = .ok rule) (hw : config.action.weightedClusters = some w)
    (hc : w.clusters[i]? = some cluster) (falls : w.FallsOn i random) (ht : rule.takes message) :
    rule.resolve? message random = some ⟨cluster.name, Share.mergedCriteria cluster.criteria config.action.criteria,
      rule.rateLimits, rule.stripService⟩ := by
  obtain ⟨shares, target, hs⟩ := shares_of_weighted h hw
  obtain ⟨j, chosen, falls', hc', hp⟩ := Shares.exists_fallsOn hs random
  obtain rfl := falls'.eq falls
  obtain rfl := Option.some.inj (hc.symm.trans hc')
  simp [resolve?, ht, target, Target.select?, hp, Share.of]

theorem takes_of_resolve? (h : rule.resolve? message random = some d) : rule.takes message := by
  by_contra hn
  simp [resolve?, hn] at h

theorem overrides_of_mem (ho : config.action.Ordered) (hw : config.action.weightedClusters = some w)
    (hm : cluster ∈ w.clusters) : Config.Overrides cluster.criteria config.action.criteria
      (Share.mergedCriteria cluster.criteria config.action.criteria) := by
  have own := fun c hc => ho c (Config.Action.mem_allCriteria_of_cluster hw hm hc)
  have route := fun c hc => ho c (Config.Action.mem_allCriteria hc)
  exact ((Share.mergedCriteria_eq_iff own route).mp rfl).overrides own route

theorem sendsTo (h : ofConfig config = .ok rule) (ho : config.action.Ordered)
    (hw : config.action.weightedClusters = some w) (hc : w.clusters[i]? = some cluster) :
    rule.SendsTo config.action w i cluster := by
  have wins := overrides_of_mem ho hw (List.mem_of_getElem? hc)
  refine { reached := ?reached, resolves := ?resolves, balances := ?balances }
  case reached =>
    obtain ⟨shares, -, hs⟩ := shares_of_weighted h hw
    have share := Shares.ofConfig_of hs (List.mem_of_getElem? hc)
    exact ⟨_, Config.WeightedClusters.fallsOn_weightBefore hc (Share.ofConfig_eq_ok share).2⟩
  case resolves =>
    intro message random ht falls
    exact ⟨_, resolve?_of_fallsOn h hw hc falls ht, rfl, wins⟩
  case balances =>
    intro c r message s routes falls
    obtain ⟨j, hj, hr⟩ := routes
    obtain ⟨⟨rule', d, hr', hd⟩, -⟩ := RouteTable.winner?_eq_some_iff.mp hj
    obtain rfl := Option.some.inj (hr.symm.trans hr')
    have resolved := resolve?_of_fallsOn h hw hc falls (takes_of_resolve? hd)
    exact Router.balances_of_route? ((RouteTable.route?_of_winner? hj hr).trans resolved) rfl wins

-- Criteria that are laid over others win, and so do those of the clusters that share a route.
theorem ofConfig_overrides {criteria : Criteria} {maps : List Criteria} (hc : criteria.Ordered)
    (hm : ∀ map ∈ maps, map.Ordered) : criteria.LastWins maps ∧
      ∀ config rule w i cluster, ofConfig config = .ok rule → config.action.Ordered →
        config.action.weightedClusters = some w → w.clusters[i]? = some cluster →
          rule.SendsTo config.action w i cluster :=
  ⟨Criteria.lastWins hc hm, fun _ _ _ _ _ => sendsTo⟩

def canary : Config.ClusterWeight where
  name     := "canary"
  weight   := 1
  criteria := some ⟨[("stage", .text "canary")]⟩

-- One call in three goes to the endpoints of another stage in the same zone.
def staged : Config.Route where
  takes  := { method := some "" }
  action := {
    weightedClusters := some ⟨[canary, ⟨"stable", 2, none⟩]⟩
    criteria         := some ⟨[("stage", .text "prod"), ("zone", .text "a")]⟩ }

-- An object that is laid over another one replaces it. The number of the call is zero.
theorem ofConfig_overrides_staged :
    let criteria : Criteria := ⟨[("labels", .object [("a", .null)]), ("zone", .text "a")]⟩
    let maps : List Criteria := [⟨[("labels", .object [("b", .null)])]⟩, ⟨[("zone", .text "b")]⟩]
    criteria.Ordered ∧ (∀ map ∈ maps, map.Ordered) ∧ criteria.LastWins maps ∧
      criteria.mergeAll maps = ⟨[("labels", .object [("b", .null)]), ("zone", .text "b")]⟩ ∧
      ∃ rule, ofConfig staged = .ok rule ∧ staged.action.Ordered ∧
        let c := Surroundings.plain fun _ _ => .pending
        let r : Router := { id := ⟨0⟩, table := .ofRules "staged" [rule] }
        let es := Shared.since {} (r.beginMessage c (.call "ping") {}).2.2
        r.RoutesBy c rule (.call "ping") {} ∧ staged.action.Balances canary es ∧
          .askedForPool ⟨"canary", .default, some ⟨[("stage", .text "canary"), ("zone", .text "a")]⟩, {}⟩
            (some ⟨"pool"⟩) ∈ es := by
  intro criteria maps
  have hc : criteria.Ordered := .cons (by decide) (.cons (by simp) .nil)
  have hm : ∀ map ∈ maps, map.Ordered := by
    intro map hm
    rcases List.mem_pair.mp hm with rfl | rfl
    · exact .cons (by simp) .nil
    · exact .cons (by simp) .nil
  have ho : staged.action.Ordered := by
    intro criteria hm
    have hm : criteria ∈ [_, _] := hm
    rcases List.mem_pair.mp hm with rfl | rfl
    · exact .cons (by decide) (.cons (by simp) .nil)
    · exact .cons (by simp) .nil
  have built : ofConfig staged = .ok _ := rfl
  have falls : Config.WeightedClusters.FallsOn ⟨[canary, ⟨"stable", 2, none⟩]⟩ 0 0 := by decide
  obtain ⟨wins, sends⟩ := ofConfig_overrides hc hm
  refine ⟨hc, hm, wins, rfl, _, built, ho, ?_⟩
  intro c r es
  have routes : r.RoutesBy c _ (.call "ping") {} := ⟨0, rfl, rfl⟩
  have asked : es[3]? = some _ := rfl
  exact ⟨routes, (sends _ _ _ 0 canary built ho rfl rfl).balances c r _ {} routes falls, List.mem_of_getElem? asked⟩

end RouteRule

end RpcProxy
