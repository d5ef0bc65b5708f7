import RpcProxy.CommandLine.Report
import RpcProxy.Proofs.Config.Order
import RpcProxy.Proofs.Json.Rendering
import RpcProxy.Proofs.Router.Direction
import RpcProxy.Proofs.Router.Run
import RpcProxy.Proofs.Routing.Prescription

namespace RpcProxy

namespace CommandLine

-- The text of a line after its label.
def labelled? (label line : String) : Option String :=
  (label.toList.isPrefixOf? line.toList).map String.ofList

-- The texts that are printed with a label.
def Report.labelled (report : Report) (label : String) : List String :=
  report.output.filterMap (labelled? label)

-- The report on a message with a route.
def Report.routed (message : Message) (route : Destination) : Report :=
  { code := 0, output := routeLines message route }

-- What a report on a query tells about a router, which is in a state `x` after it has done `es` for the call.
structure Report.Foretells (report : Report) (query : Query) (id : RouterId) (x : Router) (es : List Effect) :
    Prop where
  missing  : report = .noRoute ↔
    .counted .routeMissing none ∈ es ∧ ∃ text, .replied id (.unknownMethod text) true ∈ es
  cluster  : report ≠ .noRoute →
    report.code = 0 ∧ ∃ name, report.labelled "cluster: " = [name] ∧ es.filterMap (·.lookedUp?) = [name]
  asks     : ∀ {name cluster}, .lookedUp name (some cluster) ∈ es → cluster.maintenance = false →
    ∃ request pool?, .askedForPool request pool? ∈ es
  -- The keys are in order.
  criteria : ∀ {request pool?}, .askedForPool request pool? ∈ es → (∀ c ∈ request.criteria, c.Ordered) ∧
    report.labelled "metadata_match: " =
      (request.criteria.toList.flatMap (·.entries)).map fun e => e.1 ++ "=" ++ e.2.render
  method   : ∀ {request pool}, .askedForPool request (some pool) ∈ es → ∃ answer, .acquired pool answer ∈ es ∧
    ((∀ reason host?, answer ≠ .failed reason host?) → ∃ call, x.call? = some call ∧
      call.message.method? = some ((report.labelled "upstream method: ").headD query.method))

section

variable {label line text : String} {message : Message} {route : Destination}

theorem labelled?_eq_some_iff : labelled? label line = some text ↔ line.toList = label.toList ++ text.toList := by
  rw [labelled?, Option.map_eq_some_iff, eq_comm]
  constructor
  case mp  =>
    rintro ⟨cs, hp, rfl⟩
    simpa using List.isPrefixOf?_eq_some_iff_append_eq.mp hp
  case mpr =>
    intro h
    exact ⟨text.toList, List.isPrefixOf?_eq_some_iff_append_eq.mpr h, String.ofList_toList⟩

@[simp]
theorem labelled?_append : labelled? label (label ++ text) = some text :=
  labelled?_eq_some_iff.mpr String.toList_append

-- Labels are told apart by their first letters.
theorem filterMap_labelled?_eq_nil {lines : List String} {c d : Char} (hl : label.toList.head? = some c)
    (hd : ∀ line ∈ lines, line.toList.head? = some d) (h : c ≠ d) : lines.filterMap (labelled? label) = [] := by
  refine List.filterMap_eq_nil_iff.mpr fun line hm => ?_
  obtain ⟨cs, hl⟩ := List.head?_eq_some_iff.mp hl
  obtain ⟨ds, hd⟩ := List.head?_eq_some_iff.mp (hd line hm)
  simp [labelled?, hl, hd, List.isPrefixOf?, h]

theorem filterMap_labelled?_append {f : α → String} {xs : List α} :
    (xs.map fun x => label ++ f x).filterMap (labelled? label) = xs.map f := by
  simp [List.filterMap_map]

theorem criterionLine_eq (e : String × Json) : criterionLine e = "metadata_match: " ++ (e.1 ++ "=" ++ e.2.render) := by
  refine String.toList_inj.mp ?_
  show ("metadata_match: " ++ e.1 ++ "=" ++ e.2.render).toList = _
  simp

theorem labelled_routed : let report := Report.routed message route
    report.labelled "cluster: " = [route.cluster] ∧
    report.labelled "upstream method: " = (if route.stripService then [message.stripService.1.method] else []) ∧
    report.labelled "metadata_match: " =
      (route.criteria.toList.flatMap (·.entries)).map fun e => e.1 ++ "=" ++ e.2.render := by
  have cluster : ∀ line ∈ ["cluster: " ++ route.cluster], line.toList.head? = some 'c' := by simp
  have service : ∀ line ∈ message.service?.toList.map ("service: " ++ ·), line.toList.head? = some 's' := by simp
  have method : ∀ line ∈ (if route.stripService then ["upstream method: " ++ message.stripService.1.method] else []),
      line.toList.head? = some 'u' := by
    split <;> simp
  have criteria : ∀ line ∈ (route.criteria.toList.flatMap (·.entries)).map criterionLine,
      line.toList.head? = some 'm' := by
    refine List.forall_mem_map.mpr fun e _ => ?_
    simp [criterionLine_eq]
  have limits : ∀ line ∈ (if route.rateLimits.isEmpty then [] else ["rate limits: configured"]),
      line.toList.head? = some 'r' := by
    split <;> simp
  simp only [Report.labelled, Report.routed, routeLines, List.filterMap_append]
  refine ⟨?cluster, ?method, ?criteria⟩
  case cluster =>
    have hc : "cluster: ".toList.head? = some 'c' := by simp
    rw [filterMap_labelled?_eq_nil hc service (by decide), filterMap_labelled?_eq_nil hc method (by decide),
      filterMap_labelled?_eq_nil hc criteria (by decide), filterMap_labelled?_eq_nil hc limits (by decide)]
    simp
  case method =>
    have hu : "upstream method: ".toList.head? = some 'u' := by simp
    rw [filterMap_labelled?_eq_nil hu cluster (by decide), filterMap_labelled?_eq_nil hu service (by decide),
      filterMap_labelled?_eq_nil hu criteria (by decide), filterMap_labelled?_eq_nil hu limits (by decide)]
    split <;> simp
  case criteria =>
    have hm : "metadata_match: ".toList.head? = some 'm' := by simp
    rw [filterMap_labelled?_eq_nil hm cluster (by decide), filterMap_labelled?_eq_nil hm service (by decide),
      filterMap_labelled?_eq_nil hm method (by decide), filterMap_labelled?_eq_nil hm limits (by decide),
      funext criterionLine_eq, filterMap_labelled?_append]
    simp

end

theorem ordered_of_laidOver {own inherited merged : Option Criteria} (ho : ∀ c ∈ own, c.Ordered)
    (hi : ∀ c ∈ inherited, c.Ordered) (h : Config.LaidOver own inherited merged) : ∀ c ∈ merged, c.Ordered := by
  cases h
  case inherited      => exact hi
  case own            => exact ho
  case both ordered _ => simpa using ordered

-- Whatever a route selects is a map in the order of its keys, as the criteria of the configuration are.
theorem ordered_of_selects {action : Config.Action} {headers : HeaderMap} {random : Nat} {cluster : String}
    {criteria : Option Criteria} (ho : action.Ordered) (h : action.Selects headers random cluster criteria) :
    ∀ c ∈ criteria, c.Ordered := by
  have inherited : ∀ c ∈ action.criteria, c.Ordered := fun c hc => ho c (Config.Action.mem_allCriteria hc)
  cases h
  case static _                          => exact inherited
  case header _ _ _                      => exact inherited
  case weighted hw split _ _ laid =>
    refine ordered_of_laidOver (fun c hc => ?_) inherited laid
    exact ho c (Config.Action.mem_allCriteria_of_cluster hw (split ▸ List.mem_append_right _ List.mem_cons_self) hc)

theorem ordered_of_prescribes {routes : List Config.Route} {message : Message} {random : Nat}
    {route? : Option Destination} (ho : ∀ route ∈ routes, route.action.Ordered)
    (h : Config.Prescribes message random routes route?) : ∀ route ∈ route?, ∀ c ∈ route.criteria, c.Ordered := by
  induction h
  case none         => simp
  case skip ih      => exact ih fun route hm => ho route (List.mem_cons_of_mem _ hm)
  case take selects => simpa using ordered_of_selects (ho _ List.mem_cons_self) selects

theorem ordered_of_route? {config : Config.Routes} {table : RouteTable} {message : Message} {random : Nat}
    {route : Destination} (ho : config.Ordered) (ht : RouteTable.ofConfig config = .ok table)
    (h : table.route? message random = some route) : ∀ c ∈ route.criteria, c.Ordered := by
  obtain ⟨rules, hr, rfl⟩ := Except.map_eq_ok_iff.mp ht
  have ho := Config.Routes.ordered_iff.mp ho
  have prescribed := (RouteTable.findSome?_eq_iff (RouteTable.rules_of_rulesFrom hr) ho).mp h
  exact ordered_of_prescribes ho prescribed route rfl

theorem load_eq_ok_iff {path text : String} {config : Config.Router} {table : RouteTable} :
    load path (.ok text) = .ok (config, table) ↔
      Config.Router.parse text = .ok config ∧ RouteTable.ofConfig config.routes = .ok table := by
  simp only [load, Except.bind_eq_ok_iff, Except.mapError_eq_ok_iff, pure, Except.pure, Except.ok.injEq, Prod.mk.injEq]
  constructor
  case mp  =>
    rintro ⟨_, rfl, config, hp, table, ht, rfl, rfl⟩
    exact ⟨hp, ht⟩
  case mpr =>
    rintro ⟨hp, ht⟩
    exact ⟨text, rfl, config, hp, table, ht, rfl, rfl⟩

theorem exists_of_accepted {path text : String} (h : ((Command.check path).run (.ok text)).code = 0) :
    ∃ config table, Config.Router.parse text = .ok config ∧ RouteTable.ofConfig config.routes = .ok table := by
  cases hl : load path (.ok text)
  case error f => simp [Command.run, Command.path, hl, Report.failed] at h
  case ok x    => exact ⟨x.1, x.2, load_eq_ok_iff.mp hl⟩

theorem accepted_of_load {path : String} {content : Except FileProblem String} {config : Config.Router}
    {table : RouteTable} (h : load path content = .ok (config, table)) :
    ((Command.check path).run content).code = 0 := by
  simp only [Command.run, Command.path, h, Command.report]

section

variable {query : Query} {r : Router} {s : Shared} {x : Router × Shared} {n : Nat} {route : Destination}

theorem foretells_of_unrouted (h : r.Directs query.message n none s x) :
    Report.noRoute.Foretells query r.id x.1 (s.since x.2) := by
  constructor
  case missing  => exact iff_of_true rfl ⟨h.missing_iff.mpr rfl, _, h.replied_of_unrouted⟩
  case cluster  => exact fun hn => absurd rfl hn
  case asks     =>
    intro name cluster known opened
    obtain ⟨_, hr, _⟩ := h.exists_asked known opened
    simp at hr
  case criteria =>
    intro request pool? hr
    obtain ⟨_, hr, _⟩ := h.asked hr
    simp at hr
  case method   =>
    intro request pool hr
    obtain ⟨_, hr, _⟩ := h.sent hr
    simp at hr

theorem method?_stripService {message : Message} {name : String} (h : message.method? = some name) :
    message.stripService.1.method? = some message.stripService.1.method := by
  unfold Message.stripService
  split <;> simp [Message.method, h]

theorem foretells_of_routed (h : r.Directs query.message n (some route) s x) (ho : ∀ c ∈ route.criteria, c.Ordered) :
    (Report.routed query.message route).Foretells query r.id x.1 (s.since x.2) := by
  obtain ⟨cluster, upstreamMethod, criteria⟩ : _ ∧ _ ∧ _ := labelled_routed
  constructor
  case missing  => simp [Report.routed, Report.noRoute, h.missing_iff]
  case cluster  => exact fun _ => ⟨rfl, route.cluster, cluster, h.lookups⟩
  case asks     =>
    intro name cluster known opened
    obtain ⟨_, _, pool?, asked⟩ := h.exists_asked known opened
    exact ⟨_, pool?, asked⟩
  case criteria =>
    intro request pool? hr
    obtain ⟨_, ⟨⟩, rfl⟩ := h.asked hr
    exact ⟨ho, criteria⟩
  case method   =>
    intro request pool hr
    obtain ⟨_, ⟨⟩, answer, acquired, sent⟩ := h.sent hr
    refine ⟨answer, acquired, fun ha => ?_⟩
    obtain ⟨call, n, hc, hm⟩ := sent ha
    refine ⟨call, hc, ?_⟩
    rw [upstreamMethod, hm]
    dsimp only [Destination.outgoing]
    split
    case isTrue  => exact method?_stripService rfl
    case isFalse => rfl

end

-- A router does for a call what the dry run of an accepted configuration tells.
theorem Command.run_foretells {path text : String} (accepted : ((Command.check path).run (.ok text)).code = 0) :
    ∃ config table, Config.Router.parse text = .ok config ∧ RouteTable.ofConfig config.routes = .ok table ∧
      ∀ (query : Query) (c : Surroundings) (r : Router) (s : Shared), r.table = table →
        (∀ transcript, c.random transcript = query.random) →
        let x := (r.beginMessage c query.message s).2
        ((Command.route path query).run (.ok text)).Foretells query r.id x.1 (s.since x.2) := by
  obtain ⟨config, table, hp, ht⟩ := exists_of_accepted accepted
  refine ⟨config, table, hp, ht, fun query c r s hr hc => ?_⟩
  have hl : load path (.ok text) = .ok (config, table) := load_eq_ok_iff.mpr ⟨hp, ht⟩
  have directs := r.beginMessage_directs c query.message s
  simp only [hr, hc] at directs
  simp only [Command.run, Command.path, hl, Command.report]
  cases hd : table.route? query.message query.random
  case none       => exact foretells_of_unrouted (hd ▸ directs)
  case some route =>
    exact foretells_of_routed (hd ▸ directs) (ordered_of_route? (Config.Router.ordered_of_parse hp) ht hd)

-- A configuration that strips the service from the calls of one service.
def billing : Json :=
  .object [("route_config", .object [("routes", .array [.object [
    ("match", .object [("service_name", .text "Billing")]),
    ("route", .object [("cluster", .text "billing"), ("metadata_match", .object [("zone", .text "a")]),
      ("strip_service_name", .bool true)])]])])]

theorem load_billing : ∃ config table, load "edge.json" (.ok billing.render) = .ok (config, table) := by
  let config : Config.Router := { routes := { routes := [{
    takes  := { service := some "Billing" }
    action := { cluster := some "billing", criteria := some ⟨[("zone", .text "a")]⟩, stripService := true } }] } }
  have hw : billing.Numbers Json.Number.IsWritten := by simp [billing]
  have hp : Config.Router.parse billing.render = .ok config := by
    rw [Config.Router.parse, Config.parse, Json.Document.read_render hw]
    rfl
  exact ⟨config, _, load_eq_ok_iff.mpr ⟨hp, rfl⟩⟩

theorem Command.run_foretells_billing :
    let query : Query := { method := "Billing:charge" }
    let c := Surroundings.plain fun _ _ => .pending
    ((Command.check "edge.json").run (.ok billing.render)).code = 0 ∧ ∃ table, ∀ s : Shared,
      let x := (Router.beginMessage c { id := ⟨0⟩, table := table } query.message s).2
      ((Command.route "edge.json" query).run (.ok billing.render)).Foretells query ⟨0⟩ x.1 (s.since x.2) := by
  intro query c
  obtain ⟨_, _, hl⟩ := load_billing
  have accepted := accepted_of_load hl
  obtain ⟨_, table, _, _, foretells⟩ := Command.run_foretells accepted
  exact ⟨accepted, table, fun s => foretells query c { id := ⟨0⟩, table := table } s rfl fun _ => rfl⟩

end CommandLine

end RpcProxy
