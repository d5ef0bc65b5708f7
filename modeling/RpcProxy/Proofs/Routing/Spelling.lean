import RpcProxy.Proofs.Header.Constraint
import RpcProxy.Routing.Table

namespace RpcProxy

-- The values that a list of headers has for a name, whatever the case of its letters.
def HeaderMap.valuesOf (pairs : List (String × String)) (name : String) : List String :=
  (pairs.filter (·.1.toLower == name.toLower)).map (·.2)

namespace Config

def HeaderMatcher.lowered (m : HeaderMatcher) : HeaderMatcher :=
  { m with name := m.name.toLower }

def Match.lowered (m : Match) : Match :=
  { m with headers := m.headers.map (·.lowered) }

def RateLimitAction.lowered : RateLimitAction → RateLimitAction
  | requestHeaders header key => requestHeaders header.toLower key
  | action                    => action

def RateLimit.lowered (l : RateLimit) : RateLimit :=
  { l with actions := l.actions.map (·.lowered) }

def Action.lowered (a : Action) : Action :=
  { a with clusterHeader := a.clusterHeader.map (·.toLower), rateLimits := a.rateLimits.map (·.lowered) }

def Route.lowered (r : Route) : Route :=
  ⟨r.takes.lowered, r.action.lowered⟩

-- Two configurations with the same form in lower case differ at most in the spelling of header names.
def Routes.lowered (r : Routes) : Routes :=
  { r with routes := r.routes.map (·.lowered) }

end Config

def Target.lowered : Target → Target
  | header name => header name.toLower
  | target      => target

def RateLimitPolicy.lowered (policy : RateLimitPolicy) : RateLimitPolicy :=
  ⟨policy.entries.map (·.lowered)⟩

def RouteRule.lowered (rule : RouteRule) : RouteRule :=
  { rule with target := rule.target.lowered, rateLimits := rule.rateLimits.lowered }

-- Two routes that lead to the same cluster in the same way, each with the headers of its call.
structure Destination.Same (headers₁ headers₂ : HeaderMap) (d₁ d₂ : Destination) : Prop where
  cluster      : d₁.cluster = d₂.cluster
  criteria     : d₁.criteria = d₂.criteria
  stripService : d₁.stripService = d₂.stripService
  descriptors  : ∀ stage routeCluster localCluster,
    (d₁.rateLimits.atStage stage).map (RateLimit.descriptor? ⟨routeCluster, localCluster, headers₁⟩) =
      (d₂.rateLimits.atStage stage).map (RateLimit.descriptor? ⟨routeCluster, localCluster, headers₂⟩)

-- Two rules that decide in the same way, each on its call.
structure RouteRule.Same (m₁ m₂ : Message) (rule₁ rule₂ : RouteRule) : Prop where
  takes    : rule₁.takes m₁ = rule₂.takes m₂
  resolves : ∀ random, Option.Rel (Destination.Same m₁.headers m₂.headers)
    (rule₁.resolve? m₁ random) (rule₂.resolve? m₂ random)

structure RouteTable.Same (m₁ m₂ : Message) (table₁ table₂ : RouteTable) : Prop where
  rules  : List.Forall₂ (RouteRule.Same m₁ m₂) table₁.rules table₂.rules
  routes : ∀ random, Option.Rel (Destination.Same m₁.headers m₂.headers)
    (table₁.route? m₁ random) (table₂.route? m₂ random)

-- Two configurations that are both accepted, with results in some relation, or both rejected at the same route.
inductive SameVerdict (p : α → α → Prop) : Except TableError α → Except TableError α → Prop
  | accepted (h : p a₁ a₂) : SameVerdict p (.ok a₁) (.ok a₂)
  | rejected (h : e₁.index = e₂.index) : SameVerdict p (.error e₁) (.error e₂)

namespace HeaderMap

variable {headers headers₁ headers₂ : HeaderMap} {name : String} {pairs : List (String × String)}

theorem values_add {key value : String} : (headers.add key value).values name =
    headers.values name ++ if normalize key == normalize name then [value] else [] := by
  simp only [values, add, sameName, normalize_normalize, List.filter_append, List.map_append, List.filter_cons,
    List.filter_nil]
  split <;> rfl

theorem values_foldl_add : (pairs.foldl (fun headers p => headers.add p.1 p.2) headers).values name =
    headers.values name ++ valuesOf pairs name := by
  induction pairs generalizing headers
  case nil             => simp [valuesOf]
  case cons p pairs ih =>
    rw [List.foldl_cons, ih, values_add, List.append_assoc]
    by_cases hp : p.1.toLower = name.toLower <;> simp [valuesOf, normalize, hp]

theorem values_ofList : (ofList pairs).values name = valuesOf pairs name :=
  values_foldl_add

@[simp]
theorem values_toLower : headers.values name.toLower = headers.values name := by
  show headers.values (normalize name) = _
  simp only [values, sameName, normalize_normalize]

@[simp]
theorem first?_toLower : headers.first? name.toLower = headers.first? name := by
  simp only [first?_eq_head?, values_toLower]

theorem first?_congr (hv : ∀ name, headers₁.values name = headers₂.values name) (name : String) :
    headers₁.first? name = headers₂.first? name := by
  simp only [first?_eq_head?, hv]

theorem joined?_congr (hv : ∀ name, headers₁.values name = headers₂.values name) (name : String) :
    headers₁.joined? name = headers₂.joined? name := by
  simp only [joined?, hv]

end HeaderMap

theorem HeaderMap.toLower_eq_empty_iff {name : String} : name.toLower = "" ↔ name = "" := by
  simp [String.toLower]

namespace HeaderMatcher

variable {config : Config.HeaderMatcher} {m : HeaderMatcher} {test : HeaderTest}

-- A test does not depend on the name that its failure would tell.
theorem regexTest_eq_ok_iff (name name' pattern : String) :
    regexTest name pattern = .ok test ↔ regexTest name' pattern = .ok test := by
  unfold regexTest
  split <;> simp

theorem rangeTest_eq_ok_iff (name name' : String) (range : Config.Range) :
    rangeTest name range = .ok test ↔ rangeTest name' range = .ok test := by
  unfold rangeTest
  split <;> simp

theorem tests_lowered_eq_ok_iff {tests : List HeaderTest} :
    HeaderMatcher.tests config.lowered = .ok tests ↔ HeaderMatcher.tests config = .ok tests := by
  simp only [HeaderMatcher.tests, Config.HeaderMatcher.lowered, Except.bind_eq_ok_iff, Except.mapM_eq_ok_iff,
    regexTest_eq_ok_iff config.name.toLower config.name, rangeTest_eq_ok_iff config.name.toLower config.name]

-- The same matcher is built.
theorem ofConfig_lowered_eq_ok_iff : ofConfig config.lowered = .ok m ↔ ofConfig config = .ok m := by
  have hn : config.lowered.name ≠ "" ↔ config.name ≠ "" := HeaderMap.toLower_eq_empty_iff.not
  have hm (test : HeaderTest) : new config.lowered.name test config.lowered.invert =
      new config.name test config.invert :=
    congrArg (mk · test config.invert) (HeaderMap.normalize_normalize config.name)
  simp only [ofConfig_eq_ok_iff, hn, tests_lowered_eq_ok_iff, hm]

theorem accepts_congr {headers₁ headers₂ : HeaderMap} (hv : ∀ name, headers₁.values name = headers₂.values name) :
    m.accepts headers₁ = m.accepts headers₂ := by
  simp only [accepts, HeaderMap.joined?_congr hv]

end HeaderMatcher

section

variable {headers headers₁ headers₂ : HeaderMap} {random : Nat} {criteria : Option Criteria}

namespace Target

theorem ofConfig_lowered (action : Config.Action) : ofConfig action.lowered = (ofConfig action).map lowered := by
  obtain ⟨cluster, clusters, header, criteria, _, _⟩ := action
  cases cluster <;> cases clusters <;> cases header
  case none.none.some name =>
    have hn : name.toLower = "" ↔ name = "" := HeaderMap.toLower_eq_empty_iff
    simp only [ofConfig, Config.Action.lowered, Option.map_some, hn]
    split <;> rfl
  case some.none.none name =>
    simp only [ofConfig, Config.Action.lowered, Option.map_none]
    split <;> rfl
  case none.some.none clusters =>
    simp only [ofConfig, Config.Action.lowered, Option.map_none]
    cases Shares.ofConfig clusters criteria <;> rfl
  all_goals rfl

theorem select?_lowered (target : Target) :
    target.lowered.select? headers random criteria = target.select? headers random criteria := by
  cases target
  case header name => simp only [lowered, select?, HeaderMap.first?_toLower]
  all_goals rfl

theorem select?_congr (hv : ∀ name, headers₁.values name = headers₂.values name) (target : Target) :
    target.select? headers₁ random criteria = target.select? headers₂ random criteria := by
  cases target
  case header name => simp only [select?, HeaderMap.first?_congr hv]
  all_goals rfl

end Target

namespace RateLimit

variable {routeCluster localCluster : String}

theorem pair?_lowered (context : DescriptorContext) (action : Config.RateLimitAction) :
    pair? context action.lowered = pair? context action := by
  cases action
  case requestHeaders => simp only [Config.RateLimitAction.lowered, pair?, HeaderMap.first?_toLower]
  all_goals rfl

theorem descriptor?_lowered (context : DescriptorContext) (entry : Config.RateLimit) :
    descriptor? context entry.lowered = descriptor? context entry := by
  simp only [descriptor?, Config.RateLimit.lowered, List.mapM_map, Function.comp_def, pair?_lowered]

theorem pair?_congr (hv : ∀ name, headers₁.values name = headers₂.values name) (action : Config.RateLimitAction) :
    pair? ⟨routeCluster, localCluster, headers₁⟩ action = pair? ⟨routeCluster, localCluster, headers₂⟩ action := by
  cases action
  case requestHeaders => simp only [pair?, HeaderMap.first?_congr hv]
  all_goals rfl

theorem descriptor?_congr (hv : ∀ name, headers₁.values name = headers₂.values name) :
    descriptor? ⟨routeCluster, localCluster, headers₁⟩ = descriptor? ⟨routeCluster, localCluster, headers₂⟩ := by
  funext entry
  simp only [descriptor?, funext (pair?_congr hv)]

end RateLimit

theorem RateLimitPolicy.descriptors_lowered (policy : RateLimitPolicy) (stage : Nat) (context : DescriptorContext) :
    (policy.lowered.atStage stage).map (RateLimit.descriptor? context) =
      (policy.atStage stage).map (RateLimit.descriptor? context) := by
  have hs : policy.lowered.atStage stage = (policy.atStage stage).map (·.lowered) :=
    List.filter_map
  simp only [hs, List.map_map, Function.comp_def, RateLimit.descriptor?_lowered]

end

namespace RouteRule

variable {config : Config.Route} {rule rule₁ rule₂ : RouteRule} {m₁ m₂ : Message}

theorem ofConfig_lowered_eq_ok_iff :
    ofConfig config.lowered = .ok rule ↔ ∃ rule', ofConfig config = .ok rule' ∧ rule'.lowered = rule := by
  have hm : CallMatcher.ofConfig config.lowered.takes = CallMatcher.ofConfig config.takes := rfl
  have hh (ms : List HeaderMatcher) : config.lowered.takes.headers.mapM headerMatcher = .ok ms ↔
      config.takes.headers.mapM headerMatcher = .ok ms := by
    simp only [Config.Route.lowered, Config.Match.lowered, List.mapM_map, Except.mapM_eq_ok_iff, Function.comp_def,
      headerMatcher, Except.mapError_eq_ok_iff, HeaderMatcher.ofConfig_lowered_eq_ok_iff]
  have ht : Target.ofConfig config.lowered.action = (Target.ofConfig config.action).map Target.lowered :=
    Target.ofConfig_lowered config.action
  simp only [ofConfig, Except.bind_eq_ok_iff, hm, hh, ht, Except.map_eq_ok_iff, pure, Except.pure, Except.ok.injEq]
  constructor
  case mp  =>
    rintro ⟨matcher, hm, headers, hh, _, ⟨target, ht, rfl⟩, rfl⟩
    exact ⟨_, ⟨matcher, hm, headers, hh, target, ht, rfl⟩, rfl⟩
  case mpr =>
    rintro ⟨_, ⟨matcher, hm, headers, hh, target, ht, rfl⟩, rfl⟩
    exact ⟨matcher, hm, headers, hh, _, ⟨target, ht, rfl⟩, rfl⟩

theorem takes_congr (hm : m₁.method? = m₂.method?) (hv : ∀ name, m₁.headers.values name = m₂.headers.values name) :
    rule.takes m₁ = rule.takes m₂ := by
  simp only [takes, HeaderMatcher.allAccept, HeaderMatcher.accepts_congr hv, CallMatcher.takes, hm]

-- Two rules of one form in lower case.
theorem Same.of_lowered (h : rule₁.lowered = rule₂.lowered) (hm : m₁.method? = m₂.method?)
    (hv : ∀ name, m₁.headers.values name = m₂.headers.values name) : Same m₁ m₂ rule₁ rule₂ := by
  have takes : rule₁.takes m₁ = rule₂.takes m₂ := by
    rw [takes_congr hm hv]
    exact congrArg (·.takes m₂) h
  have limits : rule₁.rateLimits.lowered = rule₂.rateLimits.lowered := congrArg (·.rateLimits) h
  refine ⟨takes, fun random => ?_⟩
  have selects : rule₁.target.select? m₁.headers random rule₁.criteria =
      rule₂.target.select? m₂.headers random rule₂.criteria := by
    rw [Target.select?_congr hv, ← Target.select?_lowered rule₁.target, ← Target.select?_lowered rule₂.target]
    exact congrArg (fun rule => rule.target.select? m₂.headers random rule.criteria) h
  simp only [resolve?, takes, selects]
  cases rule₂.takes m₂ <;> cases rule₂.target.select? m₂.headers random rule₂.criteria
  case true.some selection =>
    refine .some ⟨rfl, rfl, congrArg (·.stripService) h, fun stage routeCluster localCluster => ?_⟩
    rw [RateLimit.descriptor?_congr hv, ← RateLimitPolicy.descriptors_lowered rule₁.rateLimits, limits,
      RateLimitPolicy.descriptors_lowered]
  all_goals exact .none

end RouteRule

namespace SameVerdict

variable {α β : Type} {p : α → α → Prop} {q : β → β → Prop} {x₁ x₂ : Except TableError α}

theorem map {f₁ f₂ : α → β} (h : SameVerdict p x₁ x₂) (hf : ∀ {a₁ a₂}, p a₁ a₂ → q (f₁ a₁) (f₂ a₂)) :
    SameVerdict q (x₁.map f₁) (x₂.map f₂) := by
  cases h
  case accepted h => exact .accepted (hf h)
  case rejected h => exact .rejected h

theorem bind {f₁ f₂ : α → Except TableError β} (h : SameVerdict p x₁ x₂)
    (hf : ∀ {a₁ a₂}, p a₁ a₂ → SameVerdict q (f₁ a₁) (f₂ a₂)) : SameVerdict q (x₁ >>= f₁) (x₂ >>= f₂) := by
  cases h
  case accepted h => exact hf h
  case rejected h => exact .rejected h

end SameVerdict

namespace RouteTable

variable {routes₁ routes₂ : List Config.Route} {rules₁ rules₂ : List RouteRule} {m₁ m₂ : Message}

theorem ruleAt_respelt {route₁ route₂ : Config.Route} (h : route₁.lowered = route₂.lowered) (index : Nat) :
    SameVerdict (fun rule₁ rule₂ => rule₁.lowered = rule₂.lowered) (ruleAt index route₁) (ruleAt index route₂) := by
  have respelt {route route' : Config.Route} {rule : RouteRule} (h : route.lowered = route'.lowered)
      (hr : RouteRule.ofConfig route = .ok rule) :
      ∃ rule', RouteRule.ofConfig route' = .ok rule' ∧ rule'.lowered = rule.lowered := by
    have hl := RouteRule.ofConfig_lowered_eq_ok_iff.mpr ⟨rule, hr, rfl⟩
    exact RouteRule.ofConfig_lowered_eq_ok_iff.mp (h ▸ hl)
  unfold ruleAt
  cases h₁ : RouteRule.ofConfig route₁
  case ok rule₁ =>
    obtain ⟨rule₂, h₂, hl⟩ := respelt h h₁
    exact h₂ ▸ .accepted hl.symm
  case error e₁ =>
    cases h₂ : RouteRule.ofConfig route₂
    case ok rule₂ =>
      obtain ⟨_, h', _⟩ := respelt h.symm h₂
      simp [h₁] at h'
    case error e₂ => exact .rejected rfl

theorem rulesFrom_respelt (h : List.Forall₂ (fun route₁ route₂ => route₁.lowered = route₂.lowered) routes₁ routes₂)
    (index : Nat) : SameVerdict (List.Forall₂ fun rule₁ rule₂ => rule₁.lowered = rule₂.lowered)
      (rulesFrom index routes₁) (rulesFrom index routes₂) := by
  induction h generalizing index
  case nil => exact .accepted .nil
  case cons route₁ route₂ routes₁ routes₂ h _ ih =>
    exact (ruleAt_respelt h index).bind fun hr => (ih (index + 1)).bind fun hs => .accepted (.cons hr hs)

-- Rules that decide in the same way one by one do so together.
theorem findSome?_same (h : List.Forall₂ (RouteRule.Same m₁ m₂) rules₁ rules₂) (random : Nat) :
    Option.Rel (Destination.Same m₁.headers m₂.headers)
      (rules₁.findSome? (·.resolve? m₁ random)) (rules₂.findSome? (·.resolve? m₂ random)) := by
  induction h
  case nil            => exact .none
  case cons rule₁ rule₂ _ _ same _ ih =>
    have resolves := same.resolves random
    simp only [List.findSome?_cons]
    generalize rule₁.resolve? m₁ random = d₁?, rule₂.resolve? m₂ random = d₂? at resolves ⊢
    cases resolves
    case none   => exact ih
    case some h => exact .some h

-- Neither the spelling of header names nor the order of headers with different names makes a difference to routing.
theorem ofConfig_respelt {config₁ config₂ : Config.Routes} {m₁ m₂ : Message} {pairs₁ pairs₂ : List (String × String)}
    (hc : config₁.lowered = config₂.lowered) (hm : m₁.method? = m₂.method?)
    (h₁ : m₁.headers = .ofList pairs₁) (h₂ : m₂.headers = .ofList pairs₂)
    (hv : ∀ name, HeaderMap.valuesOf pairs₁ name = HeaderMap.valuesOf pairs₂ name) :
    SameVerdict (Same m₁ m₂) (ofConfig config₁) (ofConfig config₂) := by
  have hv (name : String) : m₁.headers.values name = m₂.headers.values name := by
    rw [h₁, h₂, HeaderMap.values_ofList, HeaderMap.values_ofList, hv]
  have hr : config₁.routes.map (·.lowered) = config₂.routes.map (·.lowered) := congrArg (·.routes) hc
  have hr : List.Forall₂ (fun route₁ route₂ => route₁.lowered = route₂.lowered) config₁.routes config₂.routes := by
    rwa [← List.forall₂_eq_eq_eq, List.forall₂_map_left_iff, List.forall₂_map_right_iff] at hr
  refine (rulesFrom_respelt hr 0).map fun hs => ?_
  have rules := hs.imp fun _ _ h => RouteRule.Same.of_lowered h hm hv
  exact ⟨rules, findSome?_same rules⟩

-- The calls of a tenant go to the cluster that they name, and are counted for the tenant.
def tenancy (tenant cluster : String) : Config.Routes where
  name   := "tenancy"
  routes := [{
    takes  := { service := some "Billing", headers := [{ name := tenant, exact := some "acme" }] }
    action := { clusterHeader := some cluster, rateLimits := [⟨1, [.requestHeaders tenant "tenant"]⟩] } }]

def charge (headers : List (String × String)) : Message :=
  { Message.call "Billing:charge" with headers := .ofList headers }

theorem ofConfig_respelt_tenancy :
    let pairs₁ := [("X-Tenant", "acme"), ("x-cluster", "a"), ("X-CLUSTER", "b")]
    let pairs₂ := [("X-Cluster", "a"), ("x-cluster", "b"), ("x-tenant", "acme")]
    (tenancy "X-Tenant" "x-cluster").lowered = (tenancy "x-tenant" "X-Cluster").lowered ∧
      (∀ name, HeaderMap.valuesOf pairs₁ name = HeaderMap.valuesOf pairs₂ name) ∧
      SameVerdict (Same (charge pairs₁) (charge pairs₂)) (ofConfig (tenancy "X-Tenant" "x-cluster"))
        (ofConfig (tenancy "x-tenant" "X-Cluster")) ∧
      ∃ table, ofConfig (tenancy "X-Tenant" "x-cluster") = .ok table ∧ table.rules.length = 1 := by
  intro pairs₁ pairs₂
  have tenant : "X-Tenant".toLower = "x-tenant" ∧ "x-tenant".toLower = "x-tenant" := by decide +kernel
  have cluster : "X-Cluster".toLower = "x-cluster" ∧ "X-CLUSTER".toLower = "x-cluster" ∧
      "x-cluster".toLower = "x-cluster" := by
    decide +kernel
  have hc : (tenancy "X-Tenant" "x-cluster").lowered = (tenancy "x-tenant" "X-Cluster").lowered := by
    simp [tenancy, Config.Routes.lowered, Config.Route.lowered, Config.Match.lowered, Config.HeaderMatcher.lowered,
      Config.Action.lowered, Config.RateLimit.lowered, Config.RateLimitAction.lowered, tenant, cluster]
  have hv (name : String) : HeaderMap.valuesOf pairs₁ name = HeaderMap.valuesOf pairs₂ name := by
    by_cases ht : "x-tenant" = name.toLower
    case pos => simp [HeaderMap.valuesOf, pairs₁, pairs₂, tenant, cluster, ← ht]
    case neg =>
      by_cases hx : "x-cluster" = name.toLower
      case pos => simp [HeaderMap.valuesOf, pairs₁, pairs₂, tenant, cluster, ← hx]
      case neg => simp [HeaderMap.valuesOf, pairs₁, pairs₂, tenant, cluster, ht, hx]
  exact ⟨hc, hv, ofConfig_respelt hc rfl rfl rfl hv, _, rfl, rfl⟩

end RouteTable

end RpcProxy
