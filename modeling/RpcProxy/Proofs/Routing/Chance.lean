import RpcProxy.Proofs.Routing.Validity

namespace RpcProxy

namespace Target

def IsWeighted (target : Target) : Prop :=
  ∃ shares, target = weighted shares

-- The cluster is to be told by a header that has no first value, or an empty one.
def IsLost (target : Target) (headers : HeaderMap) : Prop :=
  ∃ name, target = header name ∧ (headers.first? name = none ∨ headers.first? name = some "")

end Target

-- A configuration gives the rule.
def RouteRule.Configured (rule : RouteRule) : Prop :=
  ∃ config, ofConfig config = .ok rule

namespace RouteTable

-- The position of the rule that gives a call its route.
def winner? (table : RouteTable) (message : Message) (random : Nat) : Option Nat :=
  table.rules.findIdx? fun rule => (rule.resolve? message random).isSome

-- A table that comes from a configuration, or is put together from rules that do, in any order.
inductive Configured : RouteTable → Prop
  | ofConfig (h : RouteTable.ofConfig config = .ok table) : Configured table
  | ofRules (label : String) (given : List RouteRule) (h : ∀ rule ∈ given, rule.Configured) :
    Configured (ofRules label given)

-- What is the same for a call whatever random numbers are drawn.
structure Steady (table : RouteTable) (message : Message) : Prop where
  routed     : ∀ random random', (table.route? message random).isSome = (table.route? message random').isSome
  winner     : ∀ random random', table.winner? message random = table.winner? message random'
  won        : ∀ random d, table.route? message random = some d ↔ ∃ i rule,
    table.winner? message random = some i ∧ table.rules[i]? = some rule ∧ rule.resolve? message random = some d
  way        : ∀ random random' d d', table.route? message random = some d → table.route? message random' = some d' →
    d.stripService = d'.stripService ∧ d.rateLimits = d'.rateLimits
  unweighted : ∀ random random' i rule, table.winner? message random = some i → table.rules[i]? = some rule →
    ¬ rule.target.IsWeighted → table.route? message random = table.route? message random'
  named      : ∀ random d, table.route? message random = some d → d.cluster ≠ ""
  -- A rule before the winner, or any rule if there is none, does not take the call or cannot tell its cluster.
  passed     : ∀ random i rule, table.rules[i]? = some rule →
    (∀ w, table.winner? message random = some w → i < w) → rule.takes message → rule.target.IsLost message.headers

end RouteTable

namespace Target

variable {action : Config.Action} {target : Target} {headers : HeaderMap} {criteria : Option Criteria}
  {selection : Selection} {random random' : Nat}

theorem isLost_iff (h : ofConfig action = .ok target) : action.IsLost headers ↔ target.IsLost headers := by
  cases built h <;> simp [IsLost, Config.Action.IsLost, *]

theorem select?_of_not_isWeighted (h : ¬ target.IsWeighted) (random random' : Nat) :
    target.select? headers random criteria = target.select? headers random' criteria := by
  cases target
  case static          => rfl
  case weighted shares => exact absurd ⟨shares, rfl⟩ h
  case header          => rfl

theorem cluster_ne_empty (h : ofConfig action = .ok target) (valid : action.IsValid)
    (hs : target.select? headers random criteria = some selection) : selection.cluster ≠ "" := by
  cases built h
  case static cluster hc _ _      =>
    obtain rfl := Option.some.inj hs
    rintro rfl
    exact valid.cluster hc
  case weighted w shares _ hw _ s =>
    obtain ⟨share, hp, rfl⟩ := Option.map_eq_some_iff.mp hs
    obtain ⟨before, chosen, after, split, rfl, -⟩ := (Shares.pick?_eq_some_iff s).mp hp
    exact ((valid.weighted w hw).2 chosen (by simp [split])).named
  case header name _ _ hh         =>
    simp only [select?] at hs
    split at hs
    case h_2       => simp at hs
    case h_1 value =>
      split at hs
      case isTrue     => simp at hs
      case isFalse hn => exact Option.some.inj hs ▸ hn

end Target

namespace RouteRule

variable {config : Config.Route} {rule : RouteRule} {message : Message} {d d' : Destination} {random random' : Nat}

theorem resolve?_eq_none_iff_isLost (h : ofConfig config = .ok rule) (random : Nat) :
    rule.resolve? message random = none ↔ (rule.takes message → rule.target.IsLost message.headers) := by
  have ⟨takes, target, _⟩ := built h
  rw [resolve?_eq_none_iff h, Config.Route.IsSkipped, ← takes, Target.isLost_iff target, imp_iff_not_or]

theorem isSome_resolve? (h : ofConfig config = .ok rule) (message : Message) (random random' : Nat) :
    (rule.resolve? message random).isSome = (rule.resolve? message random').isSome := by
  rw [Bool.eq_iff_iff, ← Option.ne_none_iff_isSome, ← Option.ne_none_iff_isSome, Ne, Ne,
    resolve?_eq_none_iff_isLost h, resolve?_eq_none_iff_isLost h]

-- The rest of a route comes from the rule.
theorem of_resolve? (h : rule.resolve? message random = some d) :
    d.stripService = rule.stripService ∧ d.rateLimits = rule.rateLimits := by
  unfold resolve? at h
  split at h
  case isTrue  =>
    obtain ⟨selection, -, rfl⟩ := Option.map_eq_some_iff.mp h
    exact ⟨rfl, rfl⟩
  case isFalse => simp at h

theorem resolve?_of_not_isWeighted (h : ¬ rule.target.IsWeighted) (message : Message) (random random' : Nat) :
    rule.resolve? message random = rule.resolve? message random' := by
  rw [resolve?, Target.select?_of_not_isWeighted h random random', resolve?]

theorem cluster_ne_empty (h : ofConfig config = .ok rule) (hr : rule.resolve? message random = some d) :
    d.cluster ≠ "" := by
  have valid : config.IsValid := Config.Route.faults_eq_nil_iff.mp ((ofConfig_reports config).eq_ok_iff.mp ⟨rule, h⟩)
  unfold resolve? at hr
  split at hr
  case isTrue  =>
    obtain ⟨selection, hs, rfl⟩ := Option.map_eq_some_iff.mp hr
    exact Target.cluster_ne_empty (built h).target valid.action hs
  case isFalse => simp at hr

end RouteRule

namespace RouteTable

variable {table : RouteTable} {message : Message} {random random' i : Nat} {rule : RouteRule} {d : Destination}

theorem configured_of_rulesFrom {routes : List Config.Route} {rules : List RouteRule}
    (h : List.Forall₂ (fun route rule => RouteRule.ofConfig route = .ok rule) routes rules) (hm : rule ∈ rules) :
    rule.Configured := by
  induction h
  case nil         => simp at hm
  case cons h _ ih =>
    cases List.mem_cons.mp hm
    case inl hr => exact ⟨_, hr ▸ h⟩
    case inr hm => exact ih hm

theorem Configured.of_mem (h : table.Configured) (hm : rule ∈ table.rules) : rule.Configured := by
  cases h
  case ofConfig h =>
    obtain ⟨rules, hr, rfl⟩ := Except.map_eq_ok_iff.mp h
    exact configured_of_rulesFrom (rules_of_rulesFrom hr) hm
  case ofRules h  => exact h rule hm

theorem winner?_eq_some_iff : table.winner? message random = some i ↔
    (∃ rule d, table.rules[i]? = some rule ∧ rule.resolve? message random = some d) ∧
      ∀ j < i, ∀ rule, table.rules[j]? = some rule → rule.resolve? message random = none := by
  rw [winner?, List.findIdx?_eq_some_iff_getElem]
  constructor
  case mp  =>
    rintro ⟨hi, resolves, before⟩
    obtain ⟨d, hd⟩ := Option.isSome_iff_exists.mp resolves
    refine ⟨⟨_, d, List.getElem?_eq_getElem hi, hd⟩, fun j hj rule hr => ?_⟩
    obtain ⟨_, rfl⟩ := List.getElem?_eq_some_iff.mp hr
    simpa using before j hj
  case mpr =>
    rintro ⟨⟨rule, d, hr, hd⟩, before⟩
    obtain ⟨hi, rfl⟩ := List.getElem?_eq_some_iff.mp hr
    refine ⟨hi, by simp [hd], fun j hj => ?_⟩
    simp [before j hj _ (List.getElem?_eq_getElem (hj.trans hi))]

-- The route of a call is that of the winner.
theorem route?_eq_some_iff_winner? : table.route? message random = some d ↔ ∃ i rule,
    table.winner? message random = some i ∧ table.rules[i]? = some rule ∧ rule.resolve? message random = some d := by
  rw [route?, List.findSome?_eq_some_iff]
  constructor
  case mp  =>
    rintro ⟨before, rule, after, split, hd, skipped⟩
    have hr : table.rules[before.length]? = some rule := by simp [split]
    refine ⟨before.length, rule, winner?_eq_some_iff.mpr ⟨⟨rule, d, hr, hd⟩, fun j hj earlier he => ?_⟩, hr, hd⟩
    rw [split, List.getElem?_append_left hj] at he
    exact skipped earlier (List.mem_of_getElem? he)
  case mpr =>
    rintro ⟨i, rule, hw, hr, hd⟩
    obtain ⟨hi, rfl⟩ := List.getElem?_eq_some_iff.mp hr
    refine ⟨table.rules.take i, _, table.rules.drop (i + 1), by simp, hd, fun earlier he => ?_⟩
    obtain ⟨j, hj, rfl⟩ := List.mem_take_iff_getElem.mp he
    have hj : j < i ∧ j < table.rules.length := by omega
    exact (winner?_eq_some_iff.mp hw).2 j hj.1 _ (List.getElem?_eq_getElem hj.2)

theorem route?_of_winner? (hw : table.winner? message random = some i)
    (hr : table.rules[i]? = some rule) : table.route? message random = rule.resolve? message random := by
  obtain ⟨⟨rule', d, hr', hd⟩, -⟩ := winner?_eq_some_iff.mp hw
  obtain rfl : rule = rule' := Option.some.inj (hr.symm.trans hr')
  rw [hd]
  exact route?_eq_some_iff_winner?.mpr ⟨i, rule, hw, hr, hd⟩

theorem findIdx?_congr {p q : α → Bool} {as : List α} (h : ∀ a ∈ as, p a = q a) : as.findIdx? p = as.findIdx? q := by
  induction as
  case nil          => rfl
  case cons a as ih =>
    rw [List.findIdx?_cons, List.findIdx?_cons, h a List.mem_cons_self, ih fun a ha => h a (List.mem_cons_of_mem _ ha)]

theorem Configured.winner?_eq (h : table.Configured) (message : Message) (random random' : Nat) :
    table.winner? message random = table.winner? message random' := by
  refine findIdx?_congr fun rule hm => ?_
  obtain ⟨config, hc⟩ := h.of_mem hm
  exact RouteRule.isSome_resolve? hc message random random'

theorem isSome_route? : (table.route? message random).isSome = (table.winner? message random).isSome := by
  rw [route?, winner?, Bool.eq_iff_iff, List.findSome?_isSome_iff, List.findIdx?_isSome, List.any_eq_true]

-- A rule is passed over if it does not resolve the call.
theorem resolve?_of_passed (hr : table.rules[i]? = some rule)
    (hp : ∀ w, table.winner? message random = some w → i < w) : rule.resolve? message random = none := by
  cases hw : table.winner? message random
  case some w => exact (winner?_eq_some_iff.mp hw).2 i (hp w hw) rule hr
  case none   => simpa using List.findIdx?_eq_none_iff.mp hw rule (List.mem_of_getElem? hr)

-- Which rule gives a call its route does not depend on chance, and the route names a cluster.
theorem route?_steady (h : table.Configured) (message : Message) : table.Steady message := by
  have winner := h.winner?_eq message
  -- Both routes come from the same rule.
  have shared {random random' d d'} (hd : table.route? message random = some d)
      (hd' : table.route? message random' = some d') : ∃ rule ∈ table.rules,
        rule.resolve? message random = some d ∧ rule.resolve? message random' = some d' := by
    obtain ⟨i, rule, hw, hr, resolves⟩ := route?_eq_some_iff_winner?.mp hd
    obtain ⟨i', rule', hw', hr', resolves'⟩ := route?_eq_some_iff_winner?.mp hd'
    obtain rfl : i = i' := Option.some.inj (hw.symm.trans ((winner random random').trans hw'))
    obtain rfl : rule = rule' := Option.some.inj (hr.symm.trans hr')
    exact ⟨rule, List.mem_of_getElem? hr, resolves, resolves'⟩
  refine ⟨fun random random' => ?routed, winner, fun _ _ => route?_eq_some_iff_winner?, ?way, ?unweighted, ?named,
    ?passed⟩
  case routed => rw [isSome_route?, isSome_route?, winner random random']
  case way =>
    intro random random' d d' hd hd'
    obtain ⟨rule, -, resolves, resolves'⟩ := shared hd hd'
    obtain ⟨strip, limits⟩ := RouteRule.of_resolve? resolves
    obtain ⟨strip', limits'⟩ := RouteRule.of_resolve? resolves'
    exact ⟨strip.trans strip'.symm, limits.trans limits'.symm⟩
  case unweighted =>
    intro random random' i rule hw hr hn
    have hw' : table.winner? message random' = some i := (winner random' random).trans hw
    rw [route?_of_winner? hw hr, route?_of_winner? hw' hr]
    exact RouteRule.resolve?_of_not_isWeighted hn message random random'
  case named =>
    intro random d hd
    obtain ⟨rule, hm, resolves, -⟩ := shared hd hd
    obtain ⟨config, hc⟩ := h.of_mem hm
    exact RouteRule.cluster_ne_empty hc resolves
  case passed =>
    intro random i rule hr hp
    obtain ⟨config, hc⟩ := h.of_mem (List.mem_of_getElem? hr)
    exact (RouteRule.resolve?_eq_none_iff_isLost hc random).mp (resolve?_of_passed hr hp)

-- The call names no cluster, so that it goes to one of two.
theorem route?_steady_canary : ∃ table, ofConfig canary = .ok table ∧ table.Configured ∧
    table.Steady (.call "Billing:charge") ∧ table.winner? (.call "Billing:charge") 0 = some 1 ∧
    (table.route? (.call "Billing:charge") 0).map (·.cluster) = some "stable" ∧
    (table.route? (.call "Billing:charge") 5).map (·.cluster) = some "canary" := by
  have built : ofConfig canary = .ok _ := rfl
  exact ⟨_, built, .ofConfig built, route?_steady (.ofConfig built) _, rfl, rfl, rfl⟩

end RouteTable

end RpcProxy
