import RpcProxy.Proofs.Gateway.Sequence
import RpcProxy.Proofs.Router.Direction

namespace RpcProxy

-- Whatever a router is called with, it keeps its table.
theorem Router.handle_table {c : Surroundings} {r : Router} {callback : Callback} {s : Shared} :
    (r.handle c callback s).1.table = r.table := by
  have withCall (f : Call → Shared → Call × Shared) : (r.withCall f s).1.table = r.table := by
    cases hc : r.call? <;> simp only [Router.withCall, hc, Router.keep]
  cases callback
  case destroy => rfl
  case event e =>
    cases e
    case transportBegin => rfl
    case messageBegin message =>
      obtain ⟨_, _, hx⟩ := (r.beginMessage_directs c message s).exists_cleared
      exact congrArg (·.table) hx
    case transportEnd =>
      simp only [Router.handle, Router.apply, Router.endTransport]
      cases r.call?
      case none => rfl
      case some call => dsimp only; split <;> rfl
    case poolReady id host =>
      cases hc : r.call? <;> simp only [Router.handle, Router.apply, Router.poolReady, hc, Router.keep]
    case clusterData data endStream =>
      cases hc : r.call? <;> simp only [Router.handle, Router.apply, Router.receive, hc, Router.keep]
    all_goals exact withCall _

namespace Gateway

-- The table of an update with a valid configuration.
def Step.table? : Step → Option RouteTable
  | update config => (RouteTable.ofConfig config).toOption
  | _             => none

def Step.isCreate : Step → Bool
  | create => true
  | _      => false

-- What one of the first routers is called with. A router that is not there is not called.
def Step.call? (routers : Nat) : Step → Option (Nat × Callback)
  | .event index e  => if index < routers then some (index, .event e) else none
  | .destroy index  => if index < routers then some (index, .destroy) else none
  | _               => none

def after (c : Surroundings) (g : Gateway) (steps : List Step) : Gateway :=
  steps.foldl (fun g step => (g.step c step).2) g

-- The table of the last valid update, or the first table.
def current (initial : RouteTable) (steps : List Step) : RouteTable :=
  (steps.filterMap (·.table?)).getLast?.getD initial

-- How many routers are made.
def made (steps : List Step) : Nat :=
  steps.countP (·.isCreate)

-- The routers that a listener makes, which has nothing to do with what they are called with.
def makes (listener : Listener) : List Step → List Router
  | []                     => []
  | .update config :: rest => makes ((listener.update config).toOption.getD listener) rest
  | .create :: rest        => listener.accept.1 :: makes listener.accept.2 rest
  | _ :: rest              => makes listener rest

-- What the routers are called with, one after the other.
def calls (routers : Nat) : List Step → List (Nat × Callback)
  | []           => []
  | step :: rest => (step.call? routers).toList ++ calls (routers + if step.isCreate then 1 else 0) rest

-- Calls one of some routers that share all they share.
def serve (c : Surroundings) (x : List Router × Shared) (turn : Nat × Callback) : List Router × Shared :=
  match x.1[turn.1]? with
  | some r => (x.1.set turn.1 (r.handle c turn.2 x.2).1, (r.handle c turn.2 x.2).2)
  | none   => x

-- The router at a position routes any message with this table, if the message comes next.
def RoutesWith (c : Surroundings) (g : Gateway) (index : Nat) (table : RouteTable) : Prop :=
  ∀ message, let step := Step.event index (.messageBegin message)
    ∃ n r, (g.effects c step).filterMap (·.drew?) = [n] ∧ (g.step c step).2.routers[index]? = some r ∧
      r.route? = table.route? message n ∧
      (g.effects c step).filterMap (·.lookedUp?) = ((table.route? message n).map (·.cluster)).toList ∧
      (.counted .routeMissing none ∈ g.effects c step ↔ table.route? message n = none)

-- A gateway that has begun with a table, after some steps.
structure Replaces (c : Surroundings) (initial : RouteTable) (steps : List Step) (g : Gateway) : Prop where
  current  : g.listener.table = current initial steps
  rejected : ∀ {config e}, RouteTable.ofConfig config = .error e → (g.step c (.update config)).2 = g
  count    : g.routers.length = made steps
  routes   : ∀ {before later}, steps = before ++ .create :: later →
    g.RoutesWith c (made before) (Gateway.current initial before)
  -- All routers work on the same state, whenever they are made and whatever becomes of the table.
  shared   : (g.routers, g.shared) = (calls 0 steps).foldl (serve c) (makes { table := initial } steps, {})

variable {c : Surroundings} {g : Gateway} {steps : List Step} {step : Step} {initial : RouteTable} {index : Nat}
  {r : Router} {callback : Callback}

theorem after_append {later : List Step} : after c g (steps ++ later) = after c (after c g steps) later :=
  List.foldl_append

theorem current_cons : current initial (step :: steps) = current (step.table?.getD initial) steps := by
  cases ht : step.table?
  case none       => simp [current, ht]
  case some table => simp [current, ht, List.getLast?_cons]

theorem step_table : (g.step c step).2.listener.table = step.table?.getD g.listener.table := by
  cases step
  case update config =>
    simp only [Gateway.step, Listener.update, Step.table?]
    cases RouteTable.ofConfig config <;> rfl
  case create => rfl
  case event index e =>
    simp only [Gateway.step]
    cases g.routers[index]? <;> rfl
  case destroy index =>
    simp only [Gateway.step]
    cases g.routers[index]? <;> rfl

theorem step_length : (g.step c step).2.routers.length = g.routers.length + if step.isCreate then 1 else 0 := by
  cases step
  case update config =>
    simp only [Gateway.step]
    cases g.listener.update config <;> rfl
  case create => simp [Gateway.step, Step.isCreate]
  case event index e =>
    simp only [Gateway.step]
    cases g.routers[index]? <;> simp [Step.isCreate]
  case destroy index =>
    simp only [Gateway.step]
    cases g.routers[index]? <;> simp [Step.isCreate]

theorem after_table : (after c g steps).listener.table = current g.listener.table steps := by
  induction steps generalizing g
  case nil                => rfl
  case cons step steps ih =>
    rw [current_cons, ← step_table (c := c)]
    exact ih

theorem after_length : (after c g steps).routers.length = g.routers.length + made steps := by
  induction steps generalizing g
  case nil                => rfl
  case cons step steps ih =>
    have hl : (after c g (step :: steps)).routers.length = _ := ih
    rw [hl, step_length, made, made, List.countP_cons]
    omega

theorem exists_router (c : Surroundings) (step : Step) (h : g.routers[index]? = some r) :
    ∃ r', (g.step c step).2.routers[index]? = some r' ∧ r'.table = r.table := by
  cases hs : g.turn? step
  case none      =>
    obtain ⟨hl, _⟩ := List.getElem?_eq_some_iff.mp h
    cases (step_of_none (c := c) hs).2
    case inl hr => exact ⟨r, hr ▸ h, rfl⟩
    case inr hr =>
      obtain ⟨_, _, hr⟩ := hr
      exact ⟨r, by rw [hr, List.getElem?_append_left hl, h], rfl⟩
  case some turn =>
    obtain ⟨other, r', callback⟩ := turn
    obtain ⟨hr, hx⟩ := step_of_turn (c := c) hs
    rw [hx]
    by_cases ho : index = other
    case pos =>
      subst ho
      obtain rfl := Option.some.inj (h.symm.trans hr)
      exact ⟨_, routers_turned_self h, Router.handle_table⟩
    case neg => exact ⟨r, (routers_turned_ne ho).trans h, rfl⟩

theorem exists_router_after (c : Surroundings) (steps : List Step) (h : g.routers[index]? = some r) :
    ∃ r', (after c g steps).routers[index]? = some r' ∧ r'.table = r.table := by
  induction steps generalizing g r
  case nil                => exact ⟨r, h, rfl⟩
  case cons step steps ih =>
    obtain ⟨r₁, h₁, ht₁⟩ := exists_router c step h
    obtain ⟨r₂, h₂, ht₂⟩ := ih h₁
    exact ⟨r₂, h₂, ht₂.trans ht₁⟩

theorem routesWith_of_get (h : g.routers[index]? = some r) : g.RoutesWith c index r.table := by
  intro message
  have hs : g.turn? (.event index (.messageBegin message)) = some (index, r, .event (.messageBegin message)) := by
    simp [turn?, h]
  have hx := (step_of_turn (c := c) hs).2
  have directs := r.beginMessage_directs c message g.shared
  obtain ⟨_, _, hr⟩ := directs.exists_cleared
  let x := (r.beginMessage c message g.shared).2
  have he : g.effects c (.event index (.messageBegin message)) = g.shared.since x.2 := by
    rw [effects, hx]
    rfl
  refine ⟨_, x.1, he ▸ directs.draws, ?_, ?_, he ▸ directs.lookups, he ▸ directs.missing_iff⟩
  · rw [hx]
    exact routers_turned_self h
  · exact congrArg (·.route?) hr

-- What is done to the routers that are there is done to all.
theorem serve_append {rs later : List Router} {s : Shared} {turn : Nat × Callback} (h : turn.1 < rs.length) :
    serve c (rs ++ later, s) turn = ((serve c (rs, s) turn).1 ++ later, (serve c (rs, s) turn).2) := by
  simp [serve, List.getElem?_append_left h, List.getElem?_eq_getElem h, List.set_append_left _ _ h]

theorem turned_serves {rs : List Router} (hr : g.routers[index]? = some r) :
    let x := r.handle c callback g.shared
    ((g.turned index x).routers ++ rs, (g.turned index x).shared) =
      serve c (g.routers ++ rs, g.shared) (index, callback) := by
  obtain ⟨hl, _⟩ := List.getElem?_eq_some_iff.mp hr
  rw [serve_append hl]
  simp only [serve, hr, turned]

-- Only a step that reaches a router has it called.
theorem call?_eq : step.call? g.routers.length = (g.turn? step).map fun turn => (turn.1, turn.2.2) := by
  have reached (index : Nat) (callback : Callback) :
      (if index < g.routers.length then some (index, callback) else none) =
        g.routers[index]?.map fun _ => (index, callback) := by
    by_cases hl : index < g.routers.length <;> simp [hl]
  cases step
  case event index e => simp [Step.call?, turn?, reached, Function.comp_def]
  case destroy index => simp [Step.call?, turn?, reached, Function.comp_def]
  all_goals rfl

theorem makes_of_turn {listener : Listener} {rest : List Step} (hs : g.turn? step = some turn) :
    makes listener (step :: rest) = makes listener rest := by
  cases step <;> simp only [turn?, reduceCtorEq] at hs <;> rfl

-- The routers that are still to be made may as well be there already.
theorem step_serves {rest : List Step} :
    ((g.step c step).2.routers ++ makes (g.step c step).2.listener rest, (g.step c step).2.shared) =
      (step.call? g.routers.length).toList.foldl (serve c)
        (g.routers ++ makes g.listener (step :: rest), g.shared) := by
  cases hs : g.turn? step
  case some turn =>
    obtain ⟨hr, hx⟩ := step_of_turn (c := c) hs
    rw [call?_eq, hs, makes_of_turn hs, hx]
    exact turned_serves hr
  case none =>
    rw [call?_eq, hs]
    cases step <;> simp only [turn?, Option.map_eq_none_iff] at hs
    case update config =>
      simp only [Gateway.step, makes]
      cases g.listener.update config <;> rfl
    case create => simp [Gateway.step, makes]
    all_goals simp [Gateway.step, makes, hs]

theorem after_serves : ((after c g steps).routers, (after c g steps).shared) =
    (calls g.routers.length steps).foldl (serve c) (g.routers ++ makes g.listener steps, g.shared) := by
  induction steps generalizing g
  case nil                => simp [after, calls, makes]
  case cons step steps ih =>
    have ih := ih (g := (g.step c step).2)
    rw [step_serves, step_length, ← List.foldl_append] at ih
    exact ih

-- Updates have no effect but on the routers that are made later.
theorem replaces (c : Surroundings) (initial : RouteTable) (steps : List Step) :
    Replaces c initial steps (after c { listener := { table := initial } } steps) where
  current      := after_table
  rejected h   := by simp [Gateway.step, Listener.update, h, Except.map]
  count        := after_length.trans (Nat.zero_add _)
  shared       := after_serves
  routes {before later} h := by
    let g : Gateway := after c { listener := { table := initial } } before
    have hl : g.routers.length = made before := after_length.trans (Nat.zero_add _)
    have hr : (g.step c .create).2.routers[made before]? = some g.listener.accept.1 := by
      simp [Gateway.step, ← hl]
    obtain ⟨r, hr, ht⟩ := exists_router_after c later hr
    rw [h, after_append]
    have ht : r.table = current initial before := ht.trans after_table
    exact ht ▸ routesWith_of_get hr

-- Two valid updates with a rejected one between them.
example : (after (.plain fun _ _ => .pending) { listener := { table := .toCluster "a" } }
    [.create, .update { name := "b" }, .update { name := "c", routes := [{ takes := {}, action := {} }] }, .create,
      .update { name := "d" }]).routers.map (·.table.name) = ["all", "b"] :=
  rfl

end Gateway

end RpcProxy
