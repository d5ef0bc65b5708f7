import Mathlib
import RpcProxy.Proofs.Routing.Prescription

namespace RpcProxy

open RpcProxy.Except (Reports faultIf)

-- The engine takes the regular expression that is made of a pattern for whole values.
def HeaderMatcher.Compiles (pattern : String) : Prop :=
  (Regex.ofText? (anchored pattern)).isSome

instance (pattern : String) : Decidable (HeaderMatcher.Compiles pattern) :=
  inferInstanceAs (Decidable (_ = true))

namespace Config

open RpcProxy.HeaderMatcher (Compiles)

-- A pattern for the method name, and not one that would take no call at all.
structure Match.IsValid (m : Match) : Prop where
  one      : m.method.isSome ↔ m.service = none
  nonempty : m.invert → m.method ≠ some "" ∧ m.service ≠ some ""

-- How many conditions are put on the value of a header.
def HeaderMatcher.specifiers (h : HeaderMatcher) : Nat :=
  [h.exact.isSome, h.regex.isSome, h.range.isSome, h.present.isSome, h.start.isSome, h.suffix.isSome,
    h.contains.isSome].count true

structure HeaderMatcher.IsValid (h : HeaderMatcher) : Prop where
  named    : h.name ≠ ""
  one      : h.specifiers = 1
  compiles : ∀ pattern ∈ h.regex, Compiles pattern
  nonempty : ∀ r ∈ h.range, r.start < r.stop

structure ClusterWeight.IsValid (c : ClusterWeight) : Prop where
  named    : c.name ≠ ""
  positive : 0 < c.weight

-- In how many ways the cluster is told.
def Action.specifiers (a : Action) : Nat :=
  [a.cluster.isSome, a.weightedClusters.isSome, a.clusterHeader.isSome].count true

structure Action.IsValid (a : Action) : Prop where
  one      : a.specifiers = 1
  cluster  : a.cluster ≠ some ""
  header   : a.clusterHeader ≠ some ""
  weighted : ∀ w ∈ a.weightedClusters, w.clusters ≠ [] ∧ ∀ c ∈ w.clusters, c.IsValid

structure Route.IsValid (r : Route) : Prop where
  name    : r.takes.IsValid
  headers : ∀ h ∈ r.takes.headers, h.IsValid
  action  : r.action.IsValid

def Match.faults (m : Match) : List RouteError :=
  faultIf (m.method = none ∧ m.service = none) RouteError.missingMatch ++
  faultIf (m.method.isSome ∧ m.service.isSome) RouteError.conflictingMatches ++
  faultIf (m.method = some "" ∧ m.invert) RouteError.emptyInvertedMethod ++
  faultIf (m.service = some "" ∧ m.invert) RouteError.emptyInvertedService

def HeaderMatcher.faults (h : HeaderMatcher) : List HeaderMatcherError :=
  faultIf (h.name = "") HeaderMatcherError.emptyName ++
  ((h.regex.toList.flatMap fun pattern => faultIf (¬ Compiles pattern) (HeaderMatcherError.invalidRegex h.name)) ++
  (h.range.toList.flatMap fun r =>
    faultIf (¬ r.start < r.stop) (HeaderMatcherError.emptyRange h.name r.start r.stop)) ++
  (faultIf (h.specifiers = 0) (HeaderMatcherError.missingSpecifier h.name) ++
  faultIf (1 < h.specifiers) (HeaderMatcherError.conflictingSpecifiers h.name)))

def ClusterWeight.faults (c : ClusterWeight) : List RouteError :=
  faultIf (c.name = "") RouteError.emptyClusterName ++ faultIf (c.weight = 0) (RouteError.zeroWeight c.name)

def WeightedClusters.faults (w : WeightedClusters) : List RouteError :=
  faultIf (w.clusters = []) RouteError.emptyWeightedClusters ++ w.clusters.flatMap (·.faults)

def Action.faults (a : Action) : List RouteError :=
  faultIf (a.specifiers = 0) RouteError.missingCluster ++
  faultIf (1 < a.specifiers) RouteError.conflictingClusters ++
  faultIf (a.cluster = some "") RouteError.emptyClusterName ++
  faultIf (a.clusterHeader = some "") RouteError.emptyClusterHeader ++
  a.weightedClusters.toList.flatMap (·.faults)

-- Everything that is wrong with a route, in the order in which it is looked for.
def Route.faults (r : Route) : List RouteError :=
  r.takes.faults ++ (r.takes.headers.flatMap fun h => h.faults.map .header) ++ r.action.faults

theorem Match.faults_eq_nil_iff {m : Match} : m.faults = [] ↔ m.IsValid := by
  have hv : m.IsValid ↔ (m.method.isSome ↔ m.service = none) ∧ (m.invert → m.method ≠ some "" ∧ m.service ≠ some "") :=
    ⟨fun h => ⟨h.one, h.nonempty⟩, fun h => ⟨h.1, h.2⟩⟩
  rw [hv]
  cases hm : m.method <;> cases hs : m.service <;> cases hi : m.invert <;> simp [faults, hm, hs, hi]

theorem HeaderMatcher.faults_eq_nil_iff {h : HeaderMatcher} : h.faults = [] ↔ h.IsValid := by
  simp only [faults, List.append_eq_nil_iff, Except.faultIf_eq_nil_iff, List.flatMap_eq_nil_iff, Option.mem_toList,
    not_not]
  constructor
  case mp  =>
    rintro ⟨named, ⟨compiles, nonempty⟩, some, one⟩
    exact ⟨named, by omega, compiles, nonempty⟩
  case mpr =>
    rintro ⟨named, one, compiles, nonempty⟩
    exact ⟨named, ⟨compiles, nonempty⟩, by omega, by omega⟩

theorem ClusterWeight.faults_eq_nil_iff {c : ClusterWeight} : c.faults = [] ↔ c.IsValid := by
  simp only [faults, List.append_eq_nil_iff, Except.faultIf_eq_nil_iff]
  exact ⟨fun h => ⟨h.1, Nat.pos_of_ne_zero h.2⟩, fun h => ⟨h.named, h.positive.ne'⟩⟩

theorem Action.faults_eq_nil_iff {a : Action} : a.faults = [] ↔ a.IsValid := by
  simp only [faults, WeightedClusters.faults, List.append_eq_nil_iff, Except.faultIf_eq_nil_iff,
    List.flatMap_eq_nil_iff, Option.mem_toList, ClusterWeight.faults_eq_nil_iff]
  constructor
  case mp  =>
    rintro ⟨⟨⟨⟨some, one⟩, cluster⟩, header⟩, weighted⟩
    exact ⟨by omega, cluster, header, weighted⟩
  case mpr =>
    rintro ⟨one, cluster, header, weighted⟩
    exact ⟨⟨⟨⟨by omega, by omega⟩, cluster⟩, header⟩, weighted⟩

-- A route is valid if nothing is wrong with it.
theorem Route.faults_eq_nil_iff {r : Route} : r.faults = [] ↔ r.IsValid := by
  simp only [faults, List.append_eq_nil_iff, List.flatMap_eq_nil_iff, List.map_eq_nil_iff, Match.faults_eq_nil_iff,
    HeaderMatcher.faults_eq_nil_iff, Action.faults_eq_nil_iff]
  exact ⟨fun ⟨⟨name, headers⟩, action⟩ => ⟨name, headers, action⟩, fun h => ⟨⟨h.name, h.headers⟩, h.action⟩⟩

end Config

theorem CallMatcher.ofConfig_reports (config : Config.Match) : Reports (ofConfig config) config.faults := by
  obtain ⟨method, service, invert, headers⟩ := config
  cases method <;> cases service
  case none.none         => exact .error
  case some.some         => exact .error
  case some.none name    =>
    have h : Reports (ofConfig ⟨some name, none, invert, headers⟩)
        (faultIf (name = "" && invert) .emptyInvertedMethod ++ []) := .ite fun _ => .ok
    simpa [Config.Match.faults, faultIf] using h
  case none.some service =>
    have h : Reports (ofConfig ⟨none, some service, invert, headers⟩)
        (faultIf (service = "" && invert) .emptyInvertedService ++ []) := .ite fun _ => .ok
    simpa [Config.Match.faults, faultIf] using h

namespace HeaderMatcher

variable {config : Config.HeaderMatcher} {ts : List HeaderTest}

theorem regexTest_reports (name pattern : String) :
    Reports (regexTest name pattern) (faultIf (¬ Compiles pattern) (.invalidRegex name)) := by
  unfold regexTest
  cases h : Regex.ofText? (anchored pattern)
  case none   =>
    simp only [faultIf, Compiles, h]
    exact .error
  case some r =>
    simp only [faultIf, Compiles, h]
    exact .ok

theorem rangeTest_reports (name : String) (r : Config.Range) :
    Reports (rangeTest name r) (faultIf (¬ r.start < r.stop) (.emptyRange name r.start r.stop)) := by
  unfold rangeTest
  split
  case isTrue h  =>
    simp only [faultIf, h]
    exact .ok
  case isFalse h =>
    simp only [faultIf, h]
    exact .error

theorem tests_reports (config : Config.HeaderMatcher) : Reports (tests config)
    ((config.regex.toList.flatMap fun pattern => faultIf (¬ Compiles pattern) (.invalidRegex config.name)) ++
      (config.range.toList.flatMap fun r =>
        faultIf (¬ r.start < r.stop) (.emptyRange config.name r.start r.stop))) := by
  unfold tests
  refine (Reports.mapM _ fun pattern _ => regexTest_reports config.name pattern).bind fun regex _ => ?_
  rw [← List.append_nil (config.range.toList.flatMap _)]
  exact (Reports.mapM _ fun r _ => rangeTest_reports config.name r).bind fun range _ => .ok

-- There is a test for each condition.
theorem length_tests (h : tests config = .ok ts) : ts.length = config.specifiers := by
  unfold tests at h
  simp only [Except.bind_eq_ok_iff, pure, Except.pure, Except.ok.injEq] at h
  obtain ⟨regex, hx, range, hr, rfl⟩ := h
  have hx := (Except.mapM_eq_ok_iff.mp hx).length_eq
  have hr := (Except.mapM_eq_ok_iff.mp hr).length_eq
  simp only [List.length_append, List.length_map, ← hx, ← hr, Config.HeaderMatcher.specifiers, List.count_cons,
    List.count_nil, Option.length_toList, beq_iff_eq]
  omega

theorem ofConfig_reports (config : Config.HeaderMatcher) : Reports (ofConfig config) config.faults := by
  unfold ofConfig
  refine .ite fun _ => (tests_reports config).bind fun ts ht => ?_
  rw [← length_tests ht]
  match ts with
  | []           => exact .error
  | [_]          => exact .ok
  | _ :: _ :: ts =>
    simp only [faultIf, List.length_cons]
    exact .error

end HeaderMatcher

theorem Share.ofConfig_reports (config : Config.ClusterWeight) (parent : Option Criteria) :
    Reports (ofConfig config parent) config.faults := by
  rw [Config.ClusterWeight.faults, ← List.append_nil (faultIf (config.weight = 0) _)]
  exact .ite fun _ => .ite fun _ => .ok

theorem Shares.ofConfig_reports (config : Config.WeightedClusters) (parent : Option Criteria) :
    Reports (ofConfig config parent) config.faults := by
  unfold ofConfig Config.WeightedClusters.faults
  simp only [List.isEmpty_iff]
  exact .ite fun _ => (Reports.mapM _ fun c _ => Share.ofConfig_reports c parent).map

theorem Target.ofConfig_reports (action : Config.Action) : Reports (ofConfig action) action.faults := by
  obtain ⟨cluster, weightedClusters, clusterHeader, criteria, rateLimits, stripService⟩ := action
  cases cluster <;> cases weightedClusters <;> cases clusterHeader
  case none.none.none         => exact .error
  case none.some.none w       =>
    have h : Reports (ofConfig ⟨none, some w, none, criteria, rateLimits, stripService⟩) w.faults :=
      (Shares.ofConfig_reports w criteria).map
    simpa [Config.Action.faults, Config.Action.specifiers, faultIf] using h
  case some.none.none name    =>
    have h : Reports (ofConfig ⟨some name, none, none, criteria, rateLimits, stripService⟩)
      (faultIf (name = "") .emptyClusterName ++ []) := .ite fun _ => .ok
    simpa [Config.Action.faults, Config.Action.specifiers, faultIf] using h
  case none.none.some name    =>
    have h : Reports (ofConfig ⟨none, none, some name, criteria, rateLimits, stripService⟩)
      (faultIf (name = "") .emptyClusterHeader ++ []) := .ite fun _ => .ok
    simpa [Config.Action.faults, Config.Action.specifiers, faultIf] using h
  all_goals exact .error

theorem RouteRule.ofConfig_reports (config : Config.Route) : Reports (ofConfig config) config.faults := by
  rw [Config.Route.faults, List.append_assoc]
  refine (CallMatcher.ofConfig_reports config.takes).bind fun matcher _ => ?_
  refine (Reports.mapM _ fun h _ => (HeaderMatcher.ofConfig_reports h).mapError).bind fun headers _ => ?_
  rw [← List.append_nil config.action.faults]
  exact (Target.ofConfig_reports config.action).bind fun target _ => .ok

namespace RouteTable

variable {routes : List Config.Route} {rules : List RouteRule} {index : Nat} {e : TableError}

theorem rulesFrom_eq_ok_iff (index : Nat) : rulesFrom index routes = .ok rules ↔
    List.Forall₂ (fun route rule => RouteRule.ofConfig route = .ok rule) routes rules := by
  refine ⟨rules_of_rulesFrom, fun h => ?_⟩
  induction h generalizing index
  case nil              => rfl
  case cons hr _ ih     => simp [rulesFrom, ruleAt, Except.mapError, hr, ih, bind, Except.bind, pure, Except.pure]

theorem exists_rules_iff (index : Nat) :
    (∃ rules, rulesFrom index routes = .ok rules) ↔ ∀ route ∈ routes, route.IsValid := by
  have valid (route : Config.Route) : (∃ rule, RouteRule.ofConfig route = .ok rule) ↔ route.IsValid :=
    (RouteRule.ofConfig_reports route).eq_ok_iff.trans Config.Route.faults_eq_nil_iff
  simp only [rulesFrom_eq_ok_iff]
  induction routes
  case nil                => simp
  case cons route rest ih =>
    rw [List.forall_mem_cons, ← valid]
    constructor
    case mp  =>
      rintro ⟨_, _ | ⟨hr, hrs⟩⟩
      exact ⟨⟨_, hr⟩, ih.mp ⟨_, hrs⟩⟩
    case mpr =>
      rintro ⟨⟨rule, hr⟩, hv⟩
      obtain ⟨rules, hrs⟩ := ih.mpr hv
      exact ⟨rule :: rules, .cons hr hrs⟩

-- The index of the route at fault counts from the first route.
theorem rulesFrom_eq_error_iff : rulesFrom index routes = .error e ↔ ∃ i route, e.index = index + i ∧
    routes[i]? = some route ∧ route.faults.head? = some e.cause ∧ ∀ r ∈ routes.take i, r.IsValid := by
  induction routes generalizing index
  case nil                => simp [rulesFrom]
  case cons route rest ih =>
    have reports := RouteRule.ofConfig_reports route
    have valid : (∃ rule, RouteRule.ofConfig route = .ok rule) ↔ route.IsValid :=
      reports.eq_ok_iff.trans Config.Route.faults_eq_nil_iff
    cases hr : RouteRule.ofConfig route
    case error cause =>
      have hf : route.faults.head? = some cause := reports.eq_error_iff.mp hr
      have invalid : ¬ route.IsValid := fun hv => by simpa [hr] using valid.mpr hv
      simp only [rulesFrom, ruleAt, hr, Except.mapError, bind, Except.bind, Except.error.injEq]
      constructor
      case mp  =>
        rintro rfl
        exact ⟨0, route, rfl, rfl, hf, by simp⟩
      case mpr =>
        rintro ⟨i, route', hi, hg, hf', before⟩
        cases i
        case zero   =>
          obtain rfl := Option.some.inj hg
          obtain rfl : cause = e.cause := Option.some.inj (hf.symm.trans hf')
          rw [← Nat.add_zero index, ← hi]
        case succ i => exact absurd (before route (by simp)) invalid
    case ok rule     =>
      have hv : route.IsValid := valid.mp ⟨rule, hr⟩
      have hn : route.faults = [] := Config.Route.faults_eq_nil_iff.mpr hv
      have he : rulesFrom index (route :: rest) = .error e ↔ rulesFrom (index + 1) rest = .error e := by
        cases hs : rulesFrom (index + 1) rest <;>
          simp [rulesFrom, ruleAt, hr, hs, Except.mapError, bind, Except.bind, pure, Except.pure]
      rw [he, ih]
      constructor
      case mp  =>
        rintro ⟨i, route', hi, hg, hf, before⟩
        refine ⟨i + 1, route', by omega, hg, hf, ?_⟩
        simpa [hv] using before
      case mpr =>
        rintro ⟨i, route', hi, hg, hf, before⟩
        cases i
        case zero   =>
          obtain rfl := Option.some.inj hg
          simp [hn] at hf
        case succ i =>
          refine ⟨i, route', by omega, hg, hf, fun r hr => before r ?_⟩
          exact List.mem_cons_of_mem _ hr

-- A table is built just if all routes are valid. Otherwise the first fault of the first invalid route is reported.
theorem ofConfig_decides (config : Config.Routes) :
    ((∃ table, ofConfig config = .ok table) ↔ ∀ route ∈ config.routes, route.IsValid) ∧
    (∀ e, ofConfig config = .error e ↔ ∃ route, config.routes[e.index]? = some route ∧ ¬ route.IsValid ∧
      route.faults.head? = some e.cause ∧ ∀ r ∈ config.routes.take e.index, r.IsValid) ∧
    ∀ table, ofConfig config = .ok table ↔ table.name = config.name ∧
      List.Forall₂ (fun route rule => RouteRule.ofConfig route = .ok rule) config.routes table.rules := by
  refine ⟨?accepts, fun e => ?fails, fun table => ?rules⟩
  case accepts =>
    rw [← exists_rules_iff 0]
    cases hr : rulesFrom 0 config.routes <;> simp [ofConfig, hr, Except.map]
  case fails =>
    have he : ofConfig config = .error e ↔ rulesFrom 0 config.routes = .error e := by
      cases hr : rulesFrom 0 config.routes <;> simp [ofConfig, hr, Except.map]
    rw [he, rulesFrom_eq_error_iff]
    constructor
    case mp  =>
      rintro ⟨i, route, hi, hg, hf, before⟩
      obtain rfl : e.index = i := by omega
      have invalid : ¬ route.IsValid := fun hv => by simp [Config.Route.faults_eq_nil_iff.mpr hv] at hf
      exact ⟨route, hg, invalid, hf, before⟩
    case mpr =>
      rintro ⟨route, hg, -, hf, before⟩
      exact ⟨e.index, route, (Nat.zero_add _).symm, hg, hf, before⟩
  case rules =>
    rw [ofConfig, Except.map_eq_ok_iff, ← rulesFrom_eq_ok_iff 0]
    constructor
    case mp  =>
      rintro ⟨rules, hr, rfl⟩
      exact ⟨rfl, hr⟩
    case mpr =>
      rintro ⟨hn, hr⟩
      exact ⟨table.rules, hr, by rw [← hn]⟩

end RouteTable

end RpcProxy
