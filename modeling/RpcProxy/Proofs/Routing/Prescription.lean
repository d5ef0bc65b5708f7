import RpcProxy.Proofs.Config.Criteria
import RpcProxy.Proofs.Header.Constraint
import RpcProxy.Routing.Table

namespace RpcProxy

namespace Config

-- The method name is what the condition asks for, or it asks for nothing.
structure Match.Names (m : Match) (method? : Option String) : Prop where
  method  : ∀ name ∈ m.method, name = "" ∨ method? = some name
  service : ∀ service ∈ m.service, service = "" ∨ ∃ method ∈ method?,
    (if [':'] <:+ service.toList then service.toList else service.toList ++ [':']) <+: method.toList

structure Match.Takes (m : Match) (message : Message) : Prop where
  headers : ∀ h ∈ m.headers, h.Holds message.headers
  name    : m.Names message.method? ↔ ¬ m.invert

-- The cluster is to be told by a header that has no first value, or an empty one.
def Action.IsLost (a : Action) (headers : HeaderMap) : Prop :=
  ∃ header ∈ a.clusterHeader, headers.first? header = none ∨ headers.first? header = some ""

def Route.IsSkipped (r : Route) (message : Message) : Prop :=
  ¬ r.takes.Takes message ∨ r.action.IsLost message.headers

-- Criteria that are laid over those of the route, which keep their values for all other keys.
inductive LaidOver : Option Criteria → Option Criteria → Option Criteria → Prop
  | inherited : LaidOver none route route
  | own : LaidOver (some own) none (some own)
  | both (ordered : merged.Ordered) (values : ∀ key, merged.get? key = (own.get? key).or (route.get? key)) :
    LaidOver (some own) (some route) (some merged)

def totalWeight (clusters : List ClusterWeight) : Nat :=
  (clusters.map (·.weight)).sum

-- The cluster of a call, and the criteria for its endpoints.
inductive Action.Selects (a : Action) (headers : HeaderMap) (random : Nat) : String → Option Criteria → Prop
  | static (h : a.cluster = some name) : Selects a headers random name a.criteria
  | weighted (h : a.weightedClusters = some w) (split : w.clusters = before ++ chosen :: after)
      (low : totalWeight before ≤ random % totalWeight w.clusters)
      (high : random % totalWeight w.clusters < totalWeight before + chosen.weight)
      (criteria : LaidOver chosen.criteria a.criteria merged) :
    Selects a headers random chosen.name merged
  | header (h : a.clusterHeader = some header) (first : headers.first? header = some value)
      (nonempty : value ≠ "") :
    Selects a headers random value a.criteria

inductive Prescribes (message : Message) (random : Nat) : List Route → Option Destination → Prop
  | none : Prescribes message random [] none
  | skip (skipped : route.IsSkipped message) (rest : Prescribes message random routes destination?) :
    Prescribes message random (route :: routes) destination?
  | take (taken : ¬ route.IsSkipped message)
      (selects : route.action.Selects message.headers random cluster criteria) :
    Prescribes message random (route :: routes)
      (some ⟨cluster, criteria, ⟨route.action.rateLimits⟩, route.action.stripService⟩)

end Config

namespace CallMatcher

theorem takes_of_pattern {m : CallMatcher} {message : Message} {p : Prop}
    (h : m.pattern.takes message.method? ↔ p) : m.takes message ↔ (p ↔ ¬ m.invert) := by
  rw [← h]
  cases ht : m.pattern.takes message.method? <;> cases hi : m.invert <;> simp [takes, ht, hi]

theorem serviceFront_eq_empty_iff {service : String} : MethodPattern.serviceFront service = "" ↔ service = "" := by
  unfold MethodPattern.serviceFront
  split
  case isTrue  => rfl
  case isFalse => simp_all

theorem toList_serviceFront {service : String} (h : service ≠ "") : (MethodPattern.serviceFront service).toList =
    if [':'] <:+ service.toList then service.toList else service.toList ++ [':'] := by
  simp only [MethodPattern.serviceFront, h, decide_false, Bool.false_or, decide_eq_true_eq,
    List.singleton_suffix_iff_getLast?_eq_some]
  split
  · rfl
  · exact String.toList_append

theorem takes_iff {config : Config.Match} {m : CallMatcher} (h : ofConfig config = .ok m) (message : Message) :
    m.takes message ↔ (config.Names message.method? ↔ ¬ config.invert) := by
  obtain ⟨method, service, invert, headers⟩ := config
  cases method <;> cases service <;> simp only [ofConfig, reduceCtorEq] at h
  case some.none name    =>
    split at h
    · simp at h
    · obtain rfl := Except.ok.inj h
      refine takes_of_pattern ?_
      simp only [MethodPattern.takes, Bool.or_eq_true, beq_iff_eq]
      exact ⟨fun h => ⟨by simpa using h, by simp⟩, fun h => h.method name rfl⟩
  case none.some service =>
    split at h
    · simp at h
    · obtain rfl := Except.ok.inj h
      refine takes_of_pattern ?_
      simp only [MethodPattern.takes, Bool.or_eq_true, beq_iff_eq, serviceFront_eq_empty_iff, Option.any_eq_true,
        List.isPrefixOf_iff_prefix]
      by_cases he : service = ""
      case pos => exact ⟨fun _ => ⟨by simp, by simp [he]⟩, fun _ => .inl he⟩
      case neg =>
        rw [toList_serviceFront he]
        exact ⟨fun h => ⟨by simp, by simpa [he] using h⟩, fun h => h.service service rfl⟩

end CallMatcher

namespace Shares

theorem at?_eq_some_iff {n : Nat} {entries : List Share} {e : Share} : at? n entries = some e ↔
    ∃ before after, entries = before ++ e :: after ∧ (before.map (·.weight)).sum ≤ n ∧
      n < (before.map (·.weight)).sum + e.weight := by
  induction entries generalizing n
  case nil             => simp [at?]
  case cons e' rest ih =>
    simp only [at?]
    split
    case isTrue h  =>
      constructor
      case mp =>
        intro he
        obtain rfl := Option.some.inj he
        exact ⟨[], rest, rfl, by simp, by simpa using h⟩
      case mpr =>
        rintro ⟨before, after, he, low, high⟩
        cases List.cons_eq_append_iff.mp he
        case inl hn =>
          obtain ⟨rfl, hn⟩ := hn
          rw [(List.cons.inj hn).1]
        case inr hc =>
          obtain ⟨before', rfl, _⟩ := hc
          simp only [List.map_cons, List.sum_cons] at low
          omega
    case isFalse h =>
      rw [ih]
      constructor
      case mp =>
        rintro ⟨before, after, rfl, low, high⟩
        refine ⟨e' :: before, after, rfl, ?_, ?_⟩ <;> simp only [List.map_cons, List.sum_cons] <;> omega
      case mpr =>
        rintro ⟨before, after, he, low, high⟩
        cases List.cons_eq_append_iff.mp he
        case inl hn =>
          obtain ⟨rfl, hn⟩ := hn
          obtain ⟨rfl, rfl⟩ := List.cons.inj hn
          simp at high
          omega
        case inr hc =>
          obtain ⟨before, rfl, rfl⟩ := hc
          simp only [List.map_cons, List.sum_cons] at low high
          exact ⟨before, after, rfl, by omega, by omega⟩

theorem at?_isSome {n : Nat} {entries : List Share} (h : n < (entries.map (·.weight)).sum) :
    (at? n entries).isSome := by
  induction entries generalizing n
  case nil            => simp at h
  case cons e rest ih =>
    simp only [at?]
    split
    · rfl
    · simp only [List.map_cons, List.sum_cons] at h
      exact ih (by omega)

theorem total_eq_sum (shares : Shares) : shares.total = (shares.entries.map (·.weight)).sum := by
  simp [total, List.sum, List.foldr_map]

end Shares

namespace Share

variable {config : Config.ClusterWeight} {parent : Option Criteria}

theorem mergedCriteria_eq_iff {own merged : Option Criteria} (ho : ∀ c ∈ own, c.Ordered)
    (hp : ∀ c ∈ parent, c.Ordered) : mergedCriteria own parent = merged ↔ Config.LaidOver own parent merged := by
  constructor
  case mp =>
    rintro rfl
    cases own
    case none     => exact .inherited
    case some own =>
      cases parent
      case none        => exact .own
      case some parent => exact .both (hp parent rfl).merge fun key => Criteria.get?_merge (ho own rfl)
  case mpr =>
    rintro (_ | _ | ⟨ordered, values⟩)
    case inherited => rfl
    case own       => rfl
    case both      =>
      refine congrArg some (Criteria.Ordered.ext (hp _ rfl).merge ordered fun key => ?_)
      rw [values, Criteria.get?_merge (ho _ rfl)]

-- The share of an entry.
def of (parent : Option Criteria) (config : Config.ClusterWeight) : Share :=
  ⟨config.name, config.weight, mergedCriteria config.criteria parent⟩

theorem ofConfig_eq_ok {share : Share} (h : ofConfig config parent = .ok share) :
    share = of parent config ∧ 0 < config.weight := by
  unfold ofConfig at h
  split at h
  · simp at h
  · split at h
    case isTrue      => simp at h
    case isFalse hw => exact ⟨(Except.ok.inj h).symm, Nat.pos_of_ne_zero hw⟩

end Share

namespace Shares

variable {config : Config.WeightedClusters} {parent : Option Criteria} {shares : Shares}

theorem sum_map_of (clusters : List Config.ClusterWeight) :
    ((clusters.map (Share.of parent)).map (·.weight)).sum = Config.totalWeight clusters := by
  simp [Config.totalWeight, Share.of, Function.comp_def]

theorem ofConfig_eq_ok (h : ofConfig config parent = .ok shares) :
    shares.entries = config.clusters.map (Share.of parent) ∧ 0 < Config.totalWeight config.clusters := by
  unfold ofConfig at h
  split at h
  case isTrue     => simp at h
  case isFalse hn =>
    obtain ⟨entries, he, rfl⟩ := Except.map_eq_ok_iff.mp h
    refine ⟨Except.eq_map_of_mapM he fun _ _ h => (Share.ofConfig_eq_ok h).1, ?_⟩
    obtain ⟨c, hc⟩ := List.exists_mem_of_ne_nil config.clusters (by simpa using hn)
    have hw : ∀ c ∈ config.clusters, 0 < c.weight := by
      refine (Except.forall_mem_iff_of_mapM (p := fun _ => True) he fun _ _ h => ?_).mp fun _ _ => trivial
      exact (iff_true_intro (Share.ofConfig_eq_ok h).2).symm
    exact List.sum_pos_iff_exists_pos_nat.mpr ⟨c.weight, List.mem_map_of_mem hc, hw c hc⟩

theorem pick?_eq_some_iff (h : ofConfig config parent = .ok shares) {random : Nat} {e : Share} :
    shares.pick? random = some e ↔ ∃ before chosen after, config.clusters = before ++ chosen :: after ∧
      Share.of parent chosen = e ∧
      Config.totalWeight before ≤ random % Config.totalWeight config.clusters ∧
      random % Config.totalWeight config.clusters < Config.totalWeight before + chosen.weight := by
  have ⟨he, hw⟩ := ofConfig_eq_ok h
  rw [pick?, total_eq_sum, he, sum_map_of, if_neg hw.ne', at?_eq_some_iff]
  constructor
  case mp =>
    rintro ⟨before, after, hc, low, high⟩
    obtain ⟨before, rest, split, rfl, hr⟩ := List.map_eq_append_iff.mp hc
    obtain ⟨chosen, after, rfl, rfl, rfl⟩ := List.map_eq_cons_iff.mp hr
    rw [sum_map_of] at low high
    exact ⟨before, chosen, after, split, rfl, low, high⟩
  case mpr =>
    rintro ⟨before, chosen, after, hc, rfl, low, high⟩
    refine ⟨before.map (Share.of parent), after.map (Share.of parent), by simp [hc], ?_, ?_⟩
    · rwa [sum_map_of]
    · rwa [sum_map_of]

theorem pick?_isSome (h : ofConfig config parent = .ok shares) (random : Nat) : (shares.pick? random).isSome := by
  have ⟨he, hw⟩ := ofConfig_eq_ok h
  rw [pick?, total_eq_sum, he, sum_map_of, if_neg hw.ne']
  refine at?_isSome ?_
  rw [sum_map_of]
  exact Nat.mod_lt _ hw

end Shares

namespace Target

variable {action : Config.Action} {target : Target} {headers : HeaderMap} {random : Nat}

-- The three ways in which an action tells its cluster.
inductive Built (action : Config.Action) : Target → Prop
  | static (hc : action.cluster = some cluster) (hw : action.weightedClusters = none)
      (hh : action.clusterHeader = none) : Built action (static cluster)
  | weighted (hc : action.cluster = none) (hw : action.weightedClusters = some w)
      (hh : action.clusterHeader = none) (hs : Shares.ofConfig w action.criteria = .ok shares) :
    Built action (weighted shares)
  | header (hc : action.cluster = none) (hw : action.weightedClusters = none)
      (hh : action.clusterHeader = some name) : Built action (header name)

theorem built (h : ofConfig action = .ok target) : Built action target := by
  unfold ofConfig at h
  split at h
  case h_1 cluster hc hw hh =>
    split at h
    case isTrue  => simp at h
    case isFalse => exact Except.ok.inj h ▸ .static hc hw hh
  case h_2 clusters hc hw hh =>
    obtain ⟨shares, hs, rfl⟩ := Except.map_eq_ok_iff.mp h
    exact .weighted hc hw hh hs
  case h_3 name hc hw hh =>
    split at h
    case isTrue  => simp at h
    case isFalse => exact Except.ok.inj h ▸ .header hc hw hh
  case h_4 => simp at h
  case h_5 => simp at h

theorem select?_eq_none_iff (h : ofConfig action = .ok target) (random : Nat) :
    target.select? headers random action.criteria = none ↔ action.IsLost headers := by
  cases built h
  case static _ hc hw hh          => simp [select?, Config.Action.IsLost, hh]
  case weighted w shares _ _ hh s =>
    have hs : shares.pick? random ≠ none := Option.ne_none_iff_isSome.mpr (Shares.pick?_isSome s random)
    simp [select?, Config.Action.IsLost, hh, hs]
  case header name _ _ hh         =>
    simp only [select?, Config.Action.IsLost, hh, Option.mem_some_iff, exists_eq_left']
    cases hv : headers.first? name
    case none       => simp
    case some value => simp

theorem select?_eq_some_iff (h : ofConfig action = .ok target) (ho : action.Ordered) {cluster : String}
    {criteria : Option Criteria} : target.select? headers random action.criteria = some ⟨cluster, criteria⟩ ↔
      action.Selects headers random cluster criteria := by
  cases built h
  case static name hc hw hh =>
    simp only [select?, Option.some.injEq, Selection.mk.injEq]
    constructor
    case mp  =>
      rintro ⟨rfl, rfl⟩
      exact .static hc
    case mpr =>
      rintro (h' | ⟨h', _⟩ | ⟨h', _⟩)
      · exact ⟨Option.some.inj (hc.symm.trans h'), rfl⟩
      · simp [hw] at h'
      · simp [hh] at h'
  case weighted w shares hc hw hh hs =>
    have laid {chosen} {merged} (hm : chosen ∈ w.clusters) :
        Share.mergedCriteria chosen.criteria action.criteria = merged ↔
          Config.LaidOver chosen.criteria action.criteria merged :=
      Share.mergedCriteria_eq_iff (fun c hc => ho c (Config.Action.mem_allCriteria_of_cluster hw hm hc))
        fun c hc => ho c (Config.Action.mem_allCriteria hc)
    simp only [select?, Option.map_eq_some_iff, Selection.mk.injEq, Shares.pick?_eq_some_iff hs]
    constructor
    case mp  =>
      rintro ⟨_, ⟨before, chosen, after, split, rfl, low, high⟩, rfl, rfl⟩
      exact .weighted hw split low high ((laid (by simp [split])).mp rfl)
    case mpr =>
      rintro (h' | ⟨h', split, low, high, criteria⟩ | ⟨h', _⟩)
      · simp [hc] at h'
      · obtain rfl := Option.some.inj (hw.symm.trans h')
        exact ⟨_, ⟨_, _, _, split, rfl, low, high⟩, rfl, (laid (by simp [split])).mpr criteria⟩
      · simp [hh] at h'
  case header name hc hw hh =>
    simp only [select?]
    constructor
    case mp  =>
      intro hs
      split at hs
      case h_1 value hv =>
        split at hs
        case isTrue     => simp at hs
        case isFalse hn =>
          obtain ⟨rfl, rfl⟩ := Selection.mk.inj (Option.some.inj hs)
          exact .header hh hv hn
      case h_2 => simp at hs
    case mpr =>
      rintro (h' | ⟨h', _⟩ | ⟨h', first, nonempty⟩)
      · simp [hc] at h'
      · simp [hw] at h'
      · obtain rfl := Option.some.inj (hh.symm.trans h')
        simp [first, nonempty]

end Target

namespace RouteRule

variable {config : Config.Route} {rule : RouteRule} {message : Message} {random : Nat}

theorem headers_accept_iff {configs : List Config.HeaderMatcher} {ms : List HeaderMatcher}
    (h : configs.mapM headerMatcher = .ok ms) (headers : HeaderMap) :
    HeaderMatcher.allAccept ms headers ↔ ∀ config ∈ configs, config.Holds headers := by
  have accepts := Except.forall_mem_iff_of_mapM (p := fun m => m.accepts headers) h fun _ _ h =>
    HeaderMatcher.accepts_iff (Except.mapError_eq_ok_iff.mp h) headers
  rw [← accepts, HeaderMatcher.allAccept, List.all_eq_true]

-- A rule takes the calls that its match takes, and has all else from the action.
structure Built (config : Config.Route) (rule : RouteRule) : Prop where
  takes  : ∀ message, rule.takes message ↔ config.takes.Takes message
  target : Target.ofConfig config.action = .ok rule.target
  rest   : rule.criteria = config.action.criteria ∧ rule.rateLimits = ⟨config.action.rateLimits⟩ ∧
    rule.stripService = config.action.stripService

theorem built (h : ofConfig config = .ok rule) : Built config rule := by
  unfold ofConfig at h
  simp only [Except.bind_eq_ok_iff, pure, Except.pure, Except.ok.injEq] at h
  obtain ⟨matcher, hm, headers, hh, target, ht, rfl⟩ := h
  refine ⟨fun message => ?_, ht, rfl, rfl, rfl⟩
  rw [takes, Bool.and_eq_true, headers_accept_iff hh, CallMatcher.takes_iff hm]
  exact ⟨fun ⟨headers, name⟩ => ⟨headers, name⟩, fun ⟨headers, name⟩ => ⟨headers, name⟩⟩

theorem resolve?_eq_none_iff (h : ofConfig config = .ok rule) (random : Nat) :
    rule.resolve? message random = none ↔ config.IsSkipped message := by
  have ⟨takes, target, criteria, _⟩ := built h
  rw [resolve?, Config.Route.IsSkipped, ← takes, ← Target.select?_eq_none_iff target random, criteria]
  split
  case isTrue ht  => simp [ht]
  case isFalse ht => simp [ht]

theorem resolve?_eq_some_iff (h : ofConfig config = .ok rule) (ho : config.action.Ordered) {d : Destination} :
    rule.resolve? message random = some d ↔ ¬ config.IsSkipped message ∧ ∃ cluster criteria,
      config.action.Selects message.headers random cluster criteria ∧
      d = ⟨cluster, criteria, ⟨config.action.rateLimits⟩, config.action.stripService⟩ := by
  have ⟨_, target, criteria, rateLimits, stripService⟩ := built h
  rw [← resolve?_eq_none_iff h random, resolve?, criteria, rateLimits, stripService]
  simp only [← Target.select?_eq_some_iff target ho]
  split
  case isFalse => simp
  case isTrue  =>
    constructor
    case mp =>
      intro hs
      obtain ⟨⟨cluster, merged⟩, selects, rfl⟩ := Option.map_eq_some_iff.mp hs
      exact ⟨by simp [hs], cluster, merged, selects, rfl⟩
    case mpr =>
      rintro ⟨_, cluster, merged, hs, rfl⟩
      simp [hs]

end RouteRule

namespace RouteTable

variable {config : Config.Routes} {table : RouteTable}

theorem rules_of_rulesFrom {routes : List Config.Route} {rules : List RouteRule} {index : Nat}
    (h : rulesFrom index routes = .ok rules) :
    List.Forall₂ (fun route rule => RouteRule.ofConfig route = .ok rule) routes rules := by
  induction routes generalizing index rules
  case nil                => exact Except.ok.inj h ▸ .nil
  case cons route rest ih =>
    simp only [rulesFrom, Except.bind_eq_ok_iff, pure, Except.pure, Except.ok.injEq] at h
    obtain ⟨rule, hr, rules, hs, rfl⟩ := h
    exact .cons (Except.mapError_eq_ok_iff.mp hr) (ih hs)

theorem findSome?_eq_iff {routes : List Config.Route} {rules : List RouteRule} {message : Message} {random : Nat}
    {destination? : Option Destination}
    (h : List.Forall₂ (fun route rule => RouteRule.ofConfig route = .ok rule) routes rules)
    (ho : ∀ route ∈ routes, route.action.Ordered) :
    rules.findSome? (·.resolve? message random) = destination? ↔
      Config.Prescribes message random routes destination? := by
  induction h
  case nil =>
    constructor
    case mp =>
      rintro rfl
      exact .none
    case mpr =>
      rintro ⟨⟩
      rfl
  case cons route rule routes rules hr _ ih =>
    have ih := ih fun route hm => ho route (List.mem_cons_of_mem _ hm)
    have resolves {d} : rule.resolve? message random = some d ↔ _ :=
      RouteRule.resolve?_eq_some_iff hr (ho route List.mem_cons_self)
    rw [List.findSome?_cons]
    constructor
    case mp =>
      intro hd
      split at hd
      case h_1 d hs =>
        obtain ⟨taken, cluster, criteria, selects, rfl⟩ := resolves.mp hs
        exact hd ▸ .take taken selects
      case h_2 hn   => exact .skip ((RouteRule.resolve?_eq_none_iff hr random).mp hn) (ih.mp hd)
    case mpr =>
      rintro (_ | ⟨skipped, rest⟩ | ⟨taken, selects⟩)
      case skip => simp [(RouteRule.resolve?_eq_none_iff hr random).mpr skipped, ih.mpr rest]
      case take => simp [resolves.mpr ⟨taken, _, _, selects, rfl⟩]

-- A table routes every call as its configuration prescribes.
theorem route?_eq_iff (h : ofConfig config = .ok table) (ho : config.Ordered) (message : Message) (random : Nat)
    (destination? : Option Destination) :
    table.route? message random = destination? ↔ Config.Prescribes message random config.routes destination? := by
  obtain ⟨rules, hr, rfl⟩ := Except.map_eq_ok_iff.mp h
  exact findSome?_eq_iff (rules_of_rulesFrom hr) (Config.Routes.ordered_iff.mp ho)

-- Calls that name their cluster in a header go there, and two clusters share all others.
def canary : Config.Routes where
  name   := "canary"
  routes := [{
    takes  := { method := some "" }
    action := { clusterHeader := some "x-cluster" } }, {
    takes  := { service := some "Admin", invert := true }
    action := {
      weightedClusters := some ⟨[⟨"stable", 2, none⟩, ⟨"canary", 1, some ⟨[("stage", .text "canary")]⟩⟩]⟩
      criteria         := some ⟨[("stage", .text "prod"), ("zone", .text "a")]⟩
      stripService     := true } }]

theorem route?_canary : ∃ table, ofConfig canary = .ok table ∧ canary.Ordered ∧
    Config.Prescribes (.call "Billing:charge") 5 canary.routes
      (some ⟨"canary", some ⟨[("stage", .text "canary"), ("zone", .text "a")]⟩, ⟨[]⟩, true⟩) := by
  have ordered : canary.Ordered := by
    intro criteria hc
    have hc : criteria ∈ [_, _] := hc
    rcases List.mem_pair.mp hc with rfl | rfl
    · exact .cons (by decide) (.cons (by simp) .nil)
    · exact .cons (by simp) .nil
  exact ⟨_, rfl, ordered, (route?_eq_iff rfl ordered _ _ _).mp rfl⟩

end RouteTable

end RpcProxy
