import RpcProxy.Gateway
import RpcProxy.Proofs.Router.Connection

namespace RpcProxy.Gateway

-- The router that a step reaches, and what it is called with.
def turn? (g : Gateway) : Step → Option (Nat × Router × Callback)
  | .event index event => g.routers[index]?.map (index, ·, .event event)
  | .destroy index     => g.routers[index]?.map (index, ·, .destroy)
  | _                  => none

def effects (c : Surroundings) (g : Gateway) (step : Step) : List Effect :=
  g.shared.since (g.step c step).2.shared

def connection? (g : Gateway) (index : Nat) : Option ConnectionId :=
  g.routers[index]?.bind (·.connection?)

def hold? (g : Gateway) (index : Nat) : Option Hold :=
  g.routers[index]?.bind (·.hold?)

-- No other router has a call on the connection that is handed over. The router itself gives up the call that it
-- has before it asks for a connection.
def Permits (c : Surroundings) (g : Gateway) (step : Step) : Prop :=
  ∀ turn ∈ g.turn? step, ∀ id ∈ turn.2.2.handed? (g.effects c step),
    ∀ other < g.routers.length, other ≠ turn.1 → g.connection? other ≠ some id

instance {g : Gateway} {step : Step} : Decidable (g.Permits c step) :=
  inferInstanceAs (Decidable (∀ _ ∈ _, _))

-- The connection to which a request goes that begins in a step.
def focus? (c : Surroundings) (g : Gateway) (step : Step) : Option ConnectionId :=
  (g.turn? step).bind fun (_, r, callback) => (r.taken? (g.effects c step) callback).or r.connection?

-- The step takes the entry of a connection out of the table. It may enter the connection again.
def Evicts (c : Surroundings) (g : Gateway) (step : Step) (id : ConnectionId) : Prop :=
  g.shared.connections.find? id ≠ none ∧
    (g.step c step).2.shared.connections.find? id ≠ g.shared.connections.find? id

instance {g : Gateway} {step : Step} {id : ConnectionId} : Decidable (g.Evicts c step id) :=
  inferInstanceAs (Decidable (_ ∧ _))

-- The sequence ids of the requests on each connection since its entry was evicted.
def note (c : Surroundings) (g : Gateway) (step : Step) (ids : ConnectionId → List Int)
    (id : ConnectionId) : List Int :=
  (if g.Evicts c step id then [] else ids id) ++
    if g.focus? c step = some id then begins (g.effects c step) else []

-- A run with the sequence ids that it has given out. The routers are called in any order and with anything, so
-- the decoders, the pools and the clusters need not keep to any order of their own.
inductive Run (c : Surroundings) (listener : Listener) : Gateway → (ConnectionId → List Int) → Prop
  | start : Run c listener { listener } fun _ => []
  | step {g : Gateway} (run : Run c listener g ids) (step : Step) (permits : g.Permits c step) :
    Run c listener (g.step c step).2 (g.note c step ids)

variable {c : Surroundings} {g : Gateway} {r : Router} {callback : Callback} {es : List Effect}
  {gone? : Option ConnectionId} {index other : Nat} {id : ConnectionId} {ref : StateRef}
  {x : Router × Shared} {ids : ConnectionId → List Int}

def turned (g : Gateway) (index : Nat) (x : Router × Shared) : Gateway :=
  { g with routers := g.routers.set index x.1, shared := x.2 }

theorem step_of_turn {step : Step} (h : g.turn? step = some (index, r, callback)) :
    g.routers[index]? = some r ∧ (g.step c step).2 = g.turned index (r.handle c callback g.shared) := by
  cases step <;> simp only [turn?, reduceCtorEq, Option.map_eq_some_iff, Prod.mk.injEq] at h
  case event =>
    obtain ⟨r, hr, rfl, rfl, rfl⟩ := h
    simp only [Gateway.step, hr]
    exact ⟨trivial, rfl⟩
  case destroy =>
    obtain ⟨r, hr, rfl, rfl, rfl⟩ := h
    simp only [Gateway.step, hr]
    exact ⟨trivial, rfl⟩

-- A step that reaches no router leaves what is shared alone. There may be a new router without a call.
theorem step_of_none {step : Step} (h : g.turn? step = none) :
    (g.step c step).2.shared = g.shared ∧
    ((g.step c step).2.routers = g.routers ∨
      ∃ id table, (g.step c step).2.routers = g.routers ++ [{ id := id, table := table }]) := by
  cases step <;> simp only [turn?, Option.map_eq_none_iff] at h
  case update =>
    simp only [Gateway.step]
    split
    all_goals exact ⟨rfl, .inl rfl⟩
  case create => exact ⟨rfl, .inr ⟨_, _, rfl⟩⟩
  all_goals
    simp only [Gateway.step, h]
    exact ⟨trivial, .inl trivial⟩

-- A router is there before a step that reaches none, or it is made by the step.
theorem router_of_none {step : Step} (h : g.turn? step = none) (hr : (g.step c step).2.routers[other]? = some r) :
    g.routers[other]? = some r ∨ g.routers.length ≤ other ∧ ∃ id table, r = { id := id, table := table } := by
  cases (step_of_none (c := c) h).2
  case inl he => exact .inl (he ▸ hr)
  case inr he =>
    obtain ⟨id, table, he⟩ := he
    rw [he] at hr
    by_cases hl : other < g.routers.length
    case pos => exact .inl (List.getElem?_append_left hl ▸ hr)
    case neg =>
      have hl := Nat.le_of_not_lt hl
      rw [List.getElem?_append_right hl, List.getElem?_singleton] at hr
      obtain ⟨_, hr⟩ := Option.ite_none_right_eq_some.mp hr
      exact .inr ⟨hl, id, table, (Option.some.inj hr).symm⟩

-- Whatever takes a call, a step that reaches no router does not change it.
theorem bind_of_none {step : Step} {f : Router → Option α} (hf : ∀ {r}, r.call? = none → f r = none)
    (h : g.turn? step = none) : (g.step c step).2.routers[other]?.bind f = g.routers[other]?.bind f := by
  cases (step_of_none (c := c) h).2
  case inl hr => rw [hr]
  case inr hr =>
    obtain ⟨id, table, hr⟩ := hr
    by_cases hl : other < g.routers.length
    case pos => rw [hr, List.getElem?_append_left hl]
    case neg =>
      have hg : g.routers[other]? = none := List.getElem?_eq_none (Nat.le_of_not_lt hl)
      rw [hr, hg, List.getElem?_append_right (Nat.le_of_not_lt hl), List.getElem?_singleton]
      split
      case isTrue  => exact hf rfl
      case isFalse => rfl

theorem hold?_of_none {step : Step} (h : g.turn? step = none) :
    (g.step c step).2.hold? other = g.hold? other :=
  bind_of_none (fun hc => by simp [Router.hold?, hc]) h

theorem routers_turned_self (h : g.routers[index]? = some r) : (g.turned index x).routers[index]? = some x.1 := by
  have ⟨hl, _⟩ := List.getElem?_eq_some_iff.mp h
  simp [turned, hl]

theorem routers_turned_ne (h : other ≠ index) : (g.turned index x).routers[other]? = g.routers[other]? :=
  List.getElem?_set_ne h.symm

theorem hold?_turned_self (h : g.routers[index]? = some r) :
    (g.turned index x).hold? index = x.1.hold? := by
  simp [hold?, routers_turned_self h]

theorem connection?_turned_self (h : g.routers[index]? = some r) :
    (g.turned index x).connection? index = x.1.connection? := by
  simp [connection?, routers_turned_self h]

theorem hold?_turned_ne (h : other ≠ index) : (g.turned index x).hold? other = g.hold? other := by
  simp [hold?, routers_turned_ne h]

structure Sound (g : Gateway) (ids : ConnectionId → List Int) : Prop where
  agrees  : g.shared.connections.Agrees ids
  linked  : ∀ {r}, r ∈ g.routers → r.Linked
  current : ∀ {index id ref}, g.hold? index = some (id, ref) → g.shared.connections.find? id = some ref
  apart   : ∀ {index index' id ref ref'}, g.hold? index = some (id, ref) →
    g.hold? index' = some (id, ref') → index = index'

theorem Sound.start {listener : Listener} : Sound { listener } fun _ => [] where
  agrees  := .empty
  linked  := nofun
  current := nofun
  apart   := nofun

theorem hold?_of_get (h : g.routers[index]? = some r) : g.hold? index = r.hold? := by
  simp [hold?, h]

theorem connection?_of_hold (h : g.hold? index = some (id, ref)) : g.connection? index = some id := by
  have ⟨r, hr, hh⟩ := Option.bind_eq_some_iff.mp h
  simp [connection?, hr, Router.connection?_of_hold hh]

section

variable (h : g.Sound ids) (hr : g.routers[index]? = some r) (ht : r.Trades g.shared x callback es gone?)
  (hp : ∀ {id}, callback.handed? es = some id → ∀ other, other ≠ index → g.connection? other ≠ some id)

include h hr

-- A hold that the router keeps is one on an entry that has not been given up.
theorem Sound.find?_kept (hh : (if gone?.isSome then none else r.hold?) = some (id, ref)) :
    g.hold? index = some (id, ref) ∧ (g.shared.connections.without gone?).find? id = some ref := by
  cases gone?
  case some _ => cases hh
  case none   =>
    have hh : g.hold? index = some (id, ref) := (hold?_of_get hr).trans hh
    exact ⟨hh, h.current hh⟩

include ht hp

-- The same holds of the other routers, since none of them has a call on the connection that is given up.
theorem Sound.find?_others (ho : other ≠ index) (hh : g.hold? other = some (id, ref)) :
    (g.shared.connections.without gone?).find? id = some ref := by
  have hg : gone? ≠ some id := by
    intro hg
    cases ht.owned id hg
    case inl hi =>
      have ⟨_, hr'⟩ := (h.linked (List.mem_of_getElem? hr)).exists_hold hi
      exact ho (h.apart hh ((hold?_of_get hr).trans hr'))
    case inr hi => exact hp hi other ho (connection?_of_hold hh)
  rw [ConnectionTable.find?_without_ne hg, h.current hh]

theorem Sound.hold_cases (hh : (g.turned index x).hold? other = some (id, ref)) :
    other = index ∧ r.taken? es callback = some id ∧ x.2.connections.find? id = some ref ∨
    g.hold? other = some (id, ref) ∧ (g.shared.connections.without gone?).find? id = some ref := by
  by_cases ho : other = index
  case pos =>
    subst ho
    rw [hold?_turned_self hr] at hh
    cases ht.deal.hold_cases hh
    case inl hf => exact .inl ⟨rfl, hf⟩
    case inr hk => exact .inr (h.find?_kept hr hk)
  case neg =>
    rw [hold?_turned_ne ho] at hh
    exact .inr ⟨hh, h.find?_others hr ht hp ho hh⟩

theorem Sound.turned : (g.turned index x).Sound fun id => (if gone? = some id then [] else ids id) ++
    if (r.taken? es callback).or r.connection? = some id then begins es else [] := by
  constructor
  case agrees =>
    exact ht.deal.agrees h.agrees.without (fun hh => (h.find?_kept hr hh).2) Router.or_connection?_of_hold
  case linked =>
    intro r' hr'
    cases List.mem_or_eq_of_mem_set hr'
    case inl hr' => exact h.linked hr'
    case inr hr' => exact hr' ▸ ht.linked
  case current =>
    intro other id ref hh
    cases h.hold_cases hr ht hp hh
    case inl hn => exact hn.2.2
    case inr ho => exact ht.deal.grows.kept ho.2
  case apart =>
    have ha {other id ref} (hn : r.taken? es callback = some id) (ho : g.hold? other = some (id, ref)) :
        other = index := Decidable.byContradiction fun hi =>
      hp (Router.handed?_of_taken? hn) other hi (connection?_of_hold ho)
    intro i j id ref ref' hi hj
    cases h.hold_cases hr ht hp hi <;> cases h.hold_cases hr ht hp hj
    case inl.inl hi hj => rw [hi.1, hj.1]
    case inl.inr hi hj => rw [hi.1, ha hi.2.1 hj.1]
    case inr.inl hi hj => rw [hj.1, ha hj.2.1 hi.1]
    case inr.inr hi hj => exact h.apart hi.1 hj.1

end

theorem Permits.connection?_ne {step : Step} (hp : g.Permits c step)
    (hs : g.turn? step = some (index, r, callback)) (hh : callback.handed? (g.effects c step) = some id)
    (ho : other ≠ index) : g.connection? other ≠ some id := by
  intro hi
  have ⟨_, hr, _⟩ := Option.bind_eq_some_iff.mp hi
  have ⟨hl, _⟩ := List.getElem?_eq_some_iff.mp hr
  exact hp _ hs id hh other hl ho hi

theorem Sound.trades {step : Step} (h : g.Sound ids) (hs : g.turn? step = some (index, r, callback)) :
    ∃ gone?, r.Trades g.shared (r.handle c callback g.shared) callback (g.effects c step) gone? := by
  have ⟨hr, hx⟩ := step_of_turn (c := c) hs
  have ⟨es, gone?, ht⟩ := r.handle_trades c callback g.shared (h.linked (List.mem_of_getElem? hr))
  have he : g.effects c step = es := by
    rw [effects, hx]
    exact Shared.since_eq ht.transcript
  exact ⟨gone?, he ▸ ht⟩

theorem Sound.evicts_iff {step : Step} (h : g.Sound ids) (hs : g.turn? step = some (index, r, callback))
    (ht : r.Trades g.shared (r.handle c callback g.shared) callback es gone?) :
    g.Evicts c step id ↔ g.shared.connections.find? id ≠ none ∧ gone? = some id := by
  refine and_congr_right fun hn => ?_
  have ⟨ref, hf⟩ := Option.ne_none_iff_exists'.mp hn
  rw [(step_of_turn hs).2, hf]
  exact ht.find?_ne_iff h.agrees.wellFormed hf

theorem not_evicts_of_none {step : Step} (hs : g.turn? step = none) : ¬ g.Evicts c step id :=
  fun he => he.2 (by rw [(step_of_none hs).1])

theorem focus?_of_turn {step : Step} (hs : g.turn? step = some (index, r, callback)) :
    g.focus? c step = (r.taken? (g.effects c step) callback).or r.connection? := by
  simp [focus?, hs]

-- Before an entry is made there is nothing to forget.
theorem Sound.note_eq {step : Step} (h : g.Sound ids) (hs : g.turn? step = some (index, r, callback))
    (ht : r.Trades g.shared (r.handle c callback g.shared) callback (g.effects c step) gone?) :
    g.note c step ids = fun id => (if gone? = some id then [] else ids id) ++
      if (r.taken? (g.effects c step) callback).or r.connection? = some id then begins (g.effects c step)
      else [] := by
  funext id
  rw [note, focus?_of_turn hs]
  congr 1
  by_cases hn : g.shared.connections.find? id = none
  case pos => simp [h.agrees.unused hn]
  case neg => simp [h.evicts_iff hs ht, hn]

theorem Sound.idle_step {step : Step} (h : g.Sound ids) (hs : g.turn? step = none) :
    (g.step c step).2.Sound ids := by
  have ⟨hc, hr⟩ := step_of_none (c := c) hs
  constructor
  case agrees  => exact hc ▸ h.agrees
  case linked  =>
    intro r hm
    cases hr
    case inl hr => exact h.linked (hr ▸ hm)
    case inr hr =>
      obtain ⟨_, _, hr⟩ := hr
      rw [hr, List.mem_append, List.mem_singleton] at hm
      cases hm
      case inl hm => exact h.linked hm
      case inr hm => exact .of_idle (hm ▸ rfl)
  case current =>
    intro other id ref hh
    rw [hold?_of_none hs] at hh
    exact hc ▸ h.current hh
  case apart   =>
    intro i j id ref ref' hi hj
    rw [hold?_of_none hs] at hi hj
    exact h.apart hi hj

theorem Sound.step {step : Step} (h : g.Sound ids) (hp : g.Permits c step) :
    (g.step c step).2.Sound (g.note c step ids) := by
  cases hs : g.turn? step
  case some turn =>
    have ⟨_, ht⟩ := h.trades (c := c) hs
    have ⟨hr, hx⟩ := step_of_turn (c := c) hs
    rw [h.note_eq hs ht, hx]
    exact h.turned hr ht fun hh other ho => hp.connection?_ne hs hh ho
  case none =>
    have hn : g.note c step ids = ids := by
      funext id
      simp [note, not_evicts_of_none hs, focus?, hs]
    rw [hn]
    exact h.idle_step hs

theorem Run.sound {listener : Listener} (run : Run c listener g ids) : g.Sound ids := by
  induction run
  case start => exact .start
  case step permits ih => exact ih.step permits

-- What a run brings about, and what any next step does, permitted or not.
structure Sequenced (c : Surroundings) (g : Gateway) (ids : ConnectionId → List Int) : Prop where
  gapless    : ∀ id, (ids id).length ≤ 2147483648 → ids id = (List.range (ids id).length).map Int.ofNat
  current    : ∀ {r call id}, r ∈ g.routers → r.call? = some call → call.connection? = some id →
    ∃ ref, call.stateRef? = some ref ∧ g.shared.connections.find? id = some ref
  -- A call that goes on after its request has begun has the connection that the request goes to.
  addressed  : ∀ step, begins (g.effects c step) ≠ [] → ∃ index r callback id,
    g.turn? step = some (index, r, callback) ∧ g.focus? c step = some id ∧
      ∀ id', (g.step c step).2.connection? index = some id' → id' = id
  evicts_iff : ∀ step id, g.Evicts c step id ↔ g.shared.connections.find? id ≠ none ∧
    ∃ index r callback, g.turn? step = some (index, r, callback) ∧ r.GivesUp (g.effects c step) id callback
  -- Only the entry of a connection that is handed over in the same step is there again, with a new state.
  renewed    : ∀ {step id ref}, g.Evicts c step id →
    (g.step c step).2.shared.connections.find? id = some ref →
    g.focus? c step = some id ∧ g.shared.connections.states.length ≤ ref.index

theorem Sound.exists_state {call : Call} (h : g.Sound ids) (hm : r ∈ g.routers) (hc : r.call? = some call)
    (hi : call.connection? = some id) :
    ∃ ref, call.stateRef? = some ref ∧ g.shared.connections.find? id = some ref := by
  have ⟨ref, hr⟩ := Option.isSome_iff_exists.mp (((h.linked hm).linked hc).state (by simp [hi]))
  have ⟨index, hg⟩ := List.getElem?_of_mem hm
  have hh : g.hold? index = some (id, ref) := by
    rw [hold?_of_get hg, Router.hold?_of_call hc]
    simp [Call.hold?, hi, hr]
  exact ⟨ref, hr, h.current hh⟩

-- Until its entry is given up, the requests on a connection have sequence ids from zero on, whichever routers they
-- come from.
theorem Run.sequenced {listener : Listener} (run : Run c listener g ids) : g.Sequenced c ids := by
  have h := run.sound
  constructor
  case gapless =>
    intro id hl
    rw [h.agrees.counted id]
    simpa using ConnectionTable.sequenceIds_eq_range hl
  case current => exact h.exists_state
  case addressed =>
    intro step hb
    cases hs : g.turn? step
    case none      =>
      have he : g.effects c step = [] := by simp [effects, Shared.since, (step_of_none hs).1]
      exact absurd (he ▸ rfl) hb
    case some turn =>
      obtain ⟨_, ht⟩ := h.trades (c := c) hs
      obtain ⟨hr, hx⟩ := step_of_turn (c := c) hs
      obtain ⟨id, hi⟩ := Option.isSome_iff_exists.mp (ht.begins_isSome hb)
      refine ⟨_, _, _, id, rfl, (focus?_of_turn hs).trans hi, fun id' hi' => ?_⟩
      rw [hx, connection?_turned_self hr] at hi'
      exact Option.some.inj ((ht.begins_connection? hb hi').symm.trans hi)
  case evicts_iff =>
    intro step id
    cases hs : g.turn? step
    case none      => simp [not_evicts_of_none hs]
    case some turn =>
      obtain ⟨_, ht⟩ := h.trades (c := c) hs
      rw [h.evicts_iff hs ht, ht.gone]
      constructor
      case mp  =>
        rintro ⟨hn, hg⟩
        exact ⟨hn, _, _, _, rfl, hg⟩
      case mpr =>
        rintro ⟨hn, _, _, _, ⟨⟩, hg⟩
        exact ⟨hn, hg⟩
  case renewed =>
    intro step id ref he hf
    cases hs : g.turn? step
    case none      => exact absurd he (not_evicts_of_none hs)
    case some turn =>
      obtain ⟨_, ht⟩ := h.trades (c := c) hs
      rw [(step_of_turn hs).2] at hf
      obtain ⟨ht, hl⟩ := ht.renewed ((h.evicts_iff hs ht).mp he).2 hf
      exact ⟨by simp [focus?_of_turn hs, ht], hl⟩

-- A connection goes from one router to another, after the response to its first call.
theorem Run.sequenced_handover :
    let c := Surroundings.plain fun _ _ => .ready ⟨7⟩ ⟨"10.0.0.1:9090"⟩
    ∃ g ids, Run c { table := .toCluster "a" } g ids ∧ ids ⟨7⟩ = [0, 1] ∧ g.Sequenced c ids := by
  intro c
  have run₁ : Run c { table := .toCluster "a" } _ _ := .step .start .create (by decide +kernel)
  have run₂ := run₁.step .create (by decide +kernel)
  have run₃ := run₂.step (.event 0 (.messageBegin (.call "ping"))) (by decide +kernel)
  have run₄ := run₃.step (.event 0 (.clusterData [0x78] false)) (by decide +kernel)
  have run₅ := run₄.step (.event 1 (.messageBegin (.call "pong"))) (by decide +kernel)
  exact ⟨_, _, run₅, by decide +kernel, run₅.sequenced⟩

end RpcProxy.Gateway
