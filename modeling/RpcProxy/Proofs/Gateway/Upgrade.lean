import Mathlib.Logic.Function.Basic
import RpcProxy.Proofs.Gateway.Sequence
import RpcProxy.Proofs.Router.Negotiation

namespace RpcProxy

-- Whether an effect belongs to the history of a connection, if the call with some lease has brought it about.
def Effect.concerns (lease : Lease) (id : ConnectionId) : Effect → Bool
  | offeredUpgrade _ request? => request?.isSome && lease.id == id
  | completedUpgrade _        => lease.id == id
  | encodedBegin ..           => lease.upgrades && lease.id == id
  | wrote id' ..              => lease.upgrades && id' == id
  | _                         => false

def Effect.isRequest : Effect → Bool
  | encodedBegin .. => true
  | wrote ..        => true
  | _               => false

-- A milestone concerns the connection of the party.
theorem Negotiation.placed {lease? lease'? : Option Lease} {t t' : ConnectionTable} {ms : List Effect} {e : Effect}
    (h : Negotiation lease? t ms lease'? t') (he : e ∈ ms) : ∃ party, lease'?.or lease? = some party ∧
      (e.concerns party party.id ∨ e.isRequest ∧ party.upgrades = false) := by
  cases h
  case keeps  => cases he
  case leaves => cases he
  case asks   =>
    refine ⟨_, rfl, .inl ?_⟩
    simp only [List.mem_cons, List.not_mem_nil, or_false] at he
    obtain rfl | rfl := he
    all_goals simp [Effect.concerns, Lease.id]
  case starts upgrades _ _ =>
    refine ⟨_, rfl, ?_⟩
    obtain rfl := List.mem_singleton.mp he
    cases upgrades <;> simp [Effect.concerns, Effect.isRequest]
  case completes hl hl' =>
    simp only [List.mem_cons, List.not_mem_nil, or_false] at he
    cases hl'
    case inl hl' =>
      refine ⟨_, by rw [hl']; rfl, .inl ?_⟩
      obtain rfl | rfl := he
      all_goals simp [Effect.concerns]
    case inr hl' =>
      refine ⟨_, by rw [hl', hl]; rfl, .inl ?_⟩
      obtain rfl | rfl := he
      all_goals simp [Effect.concerns]
  case writes upgrades _ _ hl =>
    obtain rfl := List.mem_singleton.mp he
    refine ⟨_, by rw [hl]; rfl, ?_⟩
    cases upgrades <;> simp [Effect.concerns, Effect.isRequest, Lease.id]

theorem Router.Negotiates.placed {r : Router} {s : Shared} {x : Router × Shared} {es : List Effect}
    {gone? : Option ConnectionId} {e : Effect} (hn : r.Negotiates s x es gone?) (he : e ∈ milestones es) : ∃ party,
    x.1.lease?.or r.lease? = some party ∧ (e.concerns party party.id ∨ e.isRequest ∧ party.upgrades = false) := by
  obtain ⟨party, hp, hc⟩ := hn.negotiation.placed he
  refine ⟨party, ?_, hc⟩
  cases hl : x.1.lease?
  case some lease => simpa [hl] using hp
  case none       =>
    cases gone?
    case none   => simpa [hl] using hp
    case some k => simp [hl] at hp

namespace Gateway

def lease? (g : Gateway) (index : Nat) : Option Lease :=
  g.routers[index]?.bind (·.lease?)

-- The lease that the router of a step has after it, or else before it.
def party? (c : Surroundings) (g : Gateway) (step : Step) : Option Lease :=
  (g.turn? step).bind fun turn => ((g.step c step).2.lease? turn.1).or (g.lease? turn.1)

-- What has been done about the upgrade of each connection since its entry was evicted, with the requests on it of the
-- calls that know upgrades.
def record (c : Surroundings) (g : Gateway) (step : Step) (histories : ConnectionId → List Effect)
    (id : ConnectionId) : List Effect :=
  (if g.Evicts c step id then [] else histories id) ++
    (g.effects c step).filter fun e => (g.party? c step).any (e.concerns · id)

-- The service of a gateway up to some time, with the progress of each decoder and the history of each connection. The
-- turns of the routers come in any order, and each of them is legal for its router.
inductive Service (c : Surroundings) (listener : Listener) :
    Gateway → (Nat → Phase) → (ConnectionId → List Effect) → Prop
  | start : Service c listener { listener } (fun _ => .between) fun _ => []
  | idle {g : Gateway} (service : Service c listener g phases histories) (step : Step) (h : g.turn? step = none) :
    Service c listener (g.step c step).2 phases histories
  | turn {g : Gateway} (service : Service c listener g phases histories) (step : Step)
      (h : g.turn? step = some (index, r, callback)) (legal : Legal r (phases index) callback phase)
      (permits : g.Permits c step) :
    Service c listener (g.step c step).2 (Function.update phases index phase) (g.record c step histories)

-- An upgrade was asked for, and the reply is not complete.
inductive Asked (id : ConnectionId) : List Effect → Prop
  | mk : Asked id [.offeredUpgrade i (some q), .wrote id q false]

-- The history of a connection, with whether it is marked as upgraded.
inductive History (id : ConnectionId) : Bool → List Effect → Prop
  | fresh : History id false []
  | asked (h : Asked id log) : History id false log
  | upgraded (h : Asked id log) (requests : ∀ e ∈ rest, e.isRequest) :
    History id true (log ++ .completedUpgrade i :: rest)

namespace History

variable {id : ConnectionId} {b : Bool} {log : List Effect}

theorem not_asked (h : History id true log) : ¬ Asked id log := by
  cases h
  case upgraded h _ =>
    cases h
    nofun

theorem extend (h : History id b log) (es : List Effect) (hb : es ≠ [] → b) (requests : ∀ e ∈ es, e.isRequest) :
    History id b (log ++ es) := by
  by_cases he : es = []
  case pos => simpa [he] using h
  case neg =>
    cases h
    case fresh    => simp at hb; exact absurd hb he
    case asked    => simp at hb; exact absurd hb he
    case upgraded h rest =>
      rw [List.append_assoc, List.cons_append]
      exact .upgraded h (List.forall_mem_append.mpr ⟨rest, requests⟩)

theorem not_asked_extend (h : History id b log) (es : List Effect) (hb : es ≠ [] → b)
    (requests : ∀ e ∈ es, e.isRequest) (hn : ¬ Asked id log) : ¬ Asked id (log ++ es) := by
  by_cases he : es = []
  case pos => simpa [he] using hn
  case neg => exact (hb he ▸ h.extend es hb requests).not_asked

theorem marked_of_begun (h : History id b log) (hm : .encodedBegin i message bytes ∈ log) : b := by
  cases h
  case fresh    => cases hm
  case asked h  =>
    cases h
    simp at hm
  case upgraded => rfl

end History

-- The histories of connections agree with the table, and with the leases that routers have.
structure Negotiated (t : ConnectionTable) (leases : Nat → Option Lease) (histories : ConnectionId → List Effect) :
    Prop where
  history : ∀ id, History id (t.isUpgraded id) (histories id)
  waits   : ∀ {i lease}, leases i = some lease → lease.awaits → Asked lease.id (histories lease.id)
  ready   : ∀ {i lease}, leases i = some lease → lease.awaits = false → lease.upgrades → t.isUpgraded lease.id
  -- Somebody waits for the reply.
  held    : ∀ {id}, Asked id (histories id) → ∃ i lease, leases i = some lease ∧ lease.id = id ∧ lease.awaits

-- No other router has the connection.
def Sole (leases : Nat → Option Lease) (index : Nat) (k : ConnectionId) : Prop :=
  ∀ i lease, i ≠ index → leases i = some lease → lease.id ≠ k

namespace Negotiated

variable {t t' : ConnectionTable} {leases : Nat → Option Lease} {histories : ConnectionId → List Effect}
  {lease : Lease} {lease'? : Option Lease} {index : Nat} {k : ConnectionId} {ms : List Effect}

-- What becomes of the only connection that a turn is about.
theorem turn (h : Negotiated t leases histories) (sole : Sole leases index k) (lease'? : Option Lease)
    (log : List Effect) (flags : ∀ id, id ≠ k → t'.isUpgraded id = t.isUpgraded id)
    (old : ∀ lease, leases index = some lease → lease.id = k) (new : ∀ lease, lease'? = some lease → lease.id = k)
    (history : History k (t'.isUpgraded k) log)
    (waits : ∀ lease, lease'? = some lease → lease.awaits → Asked k log)
    (ready : ∀ lease, lease'? = some lease → lease.awaits = false → lease.upgrades → t'.isUpgraded k)
    (held : Asked k log → ∃ lease, lease'? = some lease ∧ lease.awaits) :
    Negotiated t' (Function.update leases index lease'?) (Function.update histories k log) where
  history id := by
    by_cases hi : id = k
    case pos => simpa [hi] using history
    case neg => simpa [hi, flags id hi] using h.history id
  waits {i lease} hl ha := by
    by_cases hi : i = index
    case pos =>
      rw [hi, Function.update_self] at hl
      simpa [new lease hl] using waits lease hl ha
    case neg =>
      rw [Function.update_of_ne hi] at hl
      simpa [sole i lease hi hl] using h.waits hl ha
  ready {i lease} hl ha hu := by
    by_cases hi : i = index
    case pos =>
      rw [hi, Function.update_self] at hl
      simpa [new lease hl] using ready lease hl ha hu
    case neg =>
      rw [Function.update_of_ne hi] at hl
      simpa [flags _ (sole i lease hi hl)] using h.ready hl ha hu
  held {id} ha := by
    by_cases hi : id = k
    case pos =>
      rw [hi, Function.update_self] at ha
      obtain ⟨lease, hl, ha⟩ := held ha
      exact ⟨index, lease, by simpa using hl, hi ▸ new lease hl, ha⟩
    case neg =>
      rw [Function.update_of_ne hi] at ha
      obtain ⟨i, lease, hl, he, ha⟩ := h.held ha
      have hn : i ≠ index := fun hn => hi (he ▸ old lease (hn ▸ hl))
      exact ⟨i, lease, by simpa [hn] using hl, he, ha⟩

-- Nobody waits for a connection if the only router that may have it does not.
theorem not_asked (h : Negotiated t leases histories) (sole : Sole leases index k)
    (idle : ∀ lease, leases index = some lease → lease.awaits = false) : ¬ Asked k (histories k) := by
  intro ha
  obtain ⟨i, lease, hl, hk, ha⟩ := h.held ha
  by_cases hi : i = index
  case pos => simp [idle lease (hi ▸ hl)] at ha
  case neg => exact sole i lease hi hl hk

theorem fresh (h : Negotiated t leases histories) (sole : Sole leases index k) (free : leases index = none)
    (plain : t.isUpgraded k = false) : histories k = [] := by
  have hk := plain ▸ h.history k
  have ha := h.not_asked sole (by simp [free])
  generalize histories k = log at hk ha
  cases hk
  case fresh    => rfl
  case asked hl => exact absurd hl ha

-- The entry of a connection is given up.
theorem forget (h : Negotiated t leases histories) (gone? : Option ConnectionId)
    (old : ∀ id, gone? = some id → ∀ lease, leases index = some lease → lease.id = id)
    (sole : ∀ id, gone? = some id → Sole leases index id) :
    Negotiated (t.without gone?) (Function.update leases index (if gone?.isSome then none else leases index))
      fun id => if gone? = some id then [] else histories id := by
  cases gone?
  case none   => simpa using h
  case some k =>
    have hk : (t.remove k).isUpgraded k = false := ConnectionTable.isUpgraded_of_none ConnectionTable.find?_remove_self
    have hh : (fun id => if some k = some id then [] else histories id) = Function.update histories k [] := by
      funext id
      simp [Function.update_apply, eq_comm]
    rw [hh]
    exact h.turn (sole k rfl) none [] (fun id hi => ConnectionTable.isUpgraded_remove_ne hi) (old k rfl) nofun
      (hk ▸ .fresh) nofun nofun nofun

-- A call that does not wait for a reply lets go of its connection.
theorem leaves (h : Negotiated t leases histories) (hl : leases index = some lease) (idle : lease.awaits = false)
    (sole : Sole leases index lease.id) : Negotiated t (Function.update leases index none) histories := by
  have held : ¬ Asked lease.id (histories lease.id) := h.not_asked sole (by simp [hl, idle])
  have h' : Negotiated t _ _ := h.turn sole none (histories lease.id) (fun _ _ => rfl) (by simp [hl]) nofun
    (h.history lease.id) nofun nofun fun ha => absurd ha held
  simpa using h'

section

variable (h : Negotiated t leases histories) (sole : Sole leases index k)

include h sole

-- A connection is handed to a router that has none.
theorem asks {r : RouterId} {q : Bytes} (wf : t.WellFormed) (free : leases index = none)
    (plain : ((t.getOrCreate k).2.state (t.getOrCreate k).1).upgraded = false) :
    Negotiated (t.getOrCreate k).2 (Function.update leases index (some ⟨(k, (t.getOrCreate k).1), true, true⟩))
      (Function.update histories k (histories k ++ [.offeredUpgrade r (some q), .wrote k q false])) := by
  have plain : (t.getOrCreate k).2.isUpgraded k = false := by
    rwa [ConnectionTable.isUpgraded_of_find? ConnectionTable.find?_getOrCreate_self]
  have fresh : histories k = [] := h.fresh sole free (ConnectionTable.isUpgraded_getOrCreate wf ▸ plain)
  rw [fresh, List.nil_append]
  refine h.turn sole _ _ (fun _ _ => ConnectionTable.isUpgraded_getOrCreate wf) (by simp [free]) (by simp [Lease.id])
    ?_ (fun _ _ _ => .mk) (by simp) fun _ => ⟨_, rfl, rfl⟩
  rw [plain]
  exact .asked .mk

theorem starts {upgrades : Bool} {es : List Effect} (wf : t.WellFormed) (free : leases index = none)
    (ready : upgrades → ((t.getOrCreate k).2.state (t.getOrCreate k).1).upgraded) (hu : es ≠ [] → upgrades)
    (requests : ∀ e ∈ es, e.isRequest) :
    Negotiated ((t.getOrCreate k).2.modify (t.getOrCreate k).1 .advance)
      (Function.update leases index (some ⟨(k, (t.getOrCreate k).1), upgrades, false⟩))
      (Function.update histories k (histories k ++ es)) := by
  have flags (id : ConnectionId) :
      ((t.getOrCreate k).2.modify (t.getOrCreate k).1 .advance).isUpgraded id = t.isUpgraded id := by
    rw [ConnectionTable.isUpgraded_advance, ConnectionTable.isUpgraded_getOrCreate wf]
  have ready : upgrades → t.isUpgraded k := by
    rwa [← ConnectionTable.isUpgraded_getOrCreate wf,
      ConnectionTable.isUpgraded_of_find? ConnectionTable.find?_getOrCreate_self]
  have hu : es ≠ [] → t.isUpgraded k := fun he => ready (hu he)
  have history := (h.history k).extend es hu requests
  have held := (h.history k).not_asked_extend es hu requests (h.not_asked sole (by simp [free]))
  exact h.turn sole _ _ (fun id _ => flags id) (by simp [free]) (by simp [Lease.id]) (flags k ▸ history) (by simp)
    (by simpa [flags] using ready) fun ha => absurd ha held

-- The reply to the upgrade request is complete.
theorem completes {r : RouterId} {es : List Effect} {ref : StateRef} (wf : t.WellFormed)
    (hl : leases index = some ⟨(k, ref), true, true⟩)
    (hl' : lease'? = some ⟨(k, ref), true, false⟩ ∨ lease'? = none) (hf : t.find? k = some ref)
    (requests : ∀ e ∈ es, e.isRequest) :
    Negotiated ((t.modify ref .upgrade).modify ref .advance) (Function.update leases index lease'?)
      (Function.update histories k (histories k ++ .completedUpgrade r :: es)) := by
  have marked : ((t.modify ref .upgrade).modify ref .advance).isUpgraded k = true := by
    rw [ConnectionTable.isUpgraded_advance]
    exact ConnectionTable.isUpgraded_upgrade_self wf hf
  have history : History k true (histories k ++ .completedUpgrade r :: es) := .upgraded (h.waits hl rfl) requests
  have new : ∀ lease, lease'? = some lease → lease = ⟨(k, ref), true, false⟩ := by
    cases hl'
    case inl hl' => simp [hl', eq_comm]
    case inr hl' => simp [hl']
  refine h.turn sole _ _ (fun id hi => ?_) (by simp [hl, Lease.id]) (fun lease hl => new lease hl ▸ rfl)
    (marked ▸ history) (fun lease hl ha => ?_) (fun _ _ _ _ => marked) fun ha => absurd ha history.not_asked
  · rw [ConnectionTable.isUpgraded_advance, ConnectionTable.isUpgraded_upgrade_ne wf hf hi]
  · simp [new lease hl] at ha

theorem writes {upgrades : Bool} {es : List Effect} {ref : StateRef}
    (hl : leases index = some ⟨(k, ref), upgrades, false⟩) (hu : es ≠ [] → upgrades)
    (requests : ∀ e ∈ es, e.isRequest) : Negotiated t leases (Function.update histories k (histories k ++ es)) := by
  have ready : upgrades → t.isUpgraded k := h.ready hl rfl
  have hu : es ≠ [] → t.isUpgraded k := fun he => ready (hu he)
  have history := (h.history k).extend es hu requests
  have held := (h.history k).not_asked_extend es hu requests (h.not_asked sole (by simp [hl]))
  have h' : Negotiated t _ _ := h.turn sole (leases index) _ (fun _ _ => rfl) (by simp [hl, Lease.id])
    (by simp [hl, Lease.id]) history (by simp [hl]) (by simpa [hl] using ready) fun ha => absurd ha held
  simpa using h'

end

-- The effects of a turn are entered into the history of the connection that it is about.
theorem record_eq {party? : Option Lease} (k : ConnectionId) (log : List Effect)
    (here : ms.filter (fun e => party?.any (e.concerns · k)) = log)
    (elsewhere : ∀ id, id ≠ k → ms.filter (fun e => party?.any (e.concerns · id)) = []) :
    (fun id => histories id ++ ms.filter fun e => party?.any (e.concerns · id)) =
      Function.update histories k (histories k ++ log) := by
  funext id
  by_cases hi : id = k
  case pos => simp [hi, here]
  case neg => simp [hi, elsewhere id hi]

theorem goesOn (h : Negotiated t leases histories) (index : Nat) (hn : Negotiation (leases index) t ms lease'? t')
    (wf : t.WellFormed) (current : ∀ lease, leases index = some lease → t.find? lease.id = some lease.hold.2)
    (sole : ∀ party, lease'?.or (leases index) = some party → Sole leases index party.id) :
    Negotiated t' (Function.update leases index lease'?)
      fun id => histories id ++ ms.filter fun e => (lease'?.or (leases index)).any (e.concerns · id) := by
  cases hn
  case keeps => simpa using h
  case leaves idle =>
    cases hl : leases index
    case none       => simpa [← hl] using h
    case some lease => simpa using h.leaves hl (idle lease hl) (sole lease (by simp [hl]))
  case asks r q k free plain =>
    rw [record_eq k [.offeredUpgrade r (some q), .wrote k q false] (by simp [Effect.concerns, Lease.id])
      fun id hi => by simp [Effect.concerns, Lease.id, hi.symm]]
    exact h.asks (sole _ rfl) wf free plain
  case starts r message bytes k upgrades free ready =>
    rw [record_eq k (if upgrades then [.encodedBegin r message bytes] else [])
      (by cases upgrades <;> simp [Effect.concerns, Lease.id])
      fun id hi => by simp [Effect.concerns, Lease.id, hi.symm]]
    exact h.starts (sole _ rfl) wf free ready (by simp) (by simp [Effect.isRequest])
  case completes k ref r r' message bytes hl hl' =>
    have hp : lease'?.or (leases index) = some ⟨(k, ref), true, false⟩ ∨
        lease'?.or (leases index) = some ⟨(k, ref), true, true⟩ := by
      cases hl' <;> simp_all
    have sole : Sole leases index k := hp.elim (sole _) (sole _)
    rw [record_eq k [.completedUpgrade r, .encodedBegin r' message bytes]
      (by cases hp <;> simp_all [Effect.concerns, Lease.id])
      fun id hi => by cases hp <;> simp_all [Effect.concerns, Lease.id, hi.symm]]
    exact h.completes sole wf hl hl' (current _ hl) (by simp [Effect.isRequest])
  case writes k ref upgrades bytes endStream hl =>
    rw [record_eq k (if upgrades then [.wrote k bytes endStream] else [])
      (by cases upgrades <;> simp [hl, Effect.concerns])
      fun id hi => by simp [hl, Effect.concerns, hi.symm]]
    rw [Function.update_eq_self]
    exact h.writes (sole ⟨(k, ref), upgrades, false⟩ (by simp [hl])) hl (by simp) (by simp [Effect.isRequest])

end Negotiated

section

variable {c : Surroundings} {listener : Listener} {g : Gateway} {r : Router} {callback : Callback} {x : Router × Shared}
  {es : List Effect} {gone? : Option ConnectionId} {index index' : Nat} {id : ConnectionId} {step : Step}
  {phase : Phase} {phases : Nat → Phase} {ids ids' : ConnectionId → List Int}
  {histories : ConnectionId → List Effect} {lease lease' : Lease}

-- Only milestones are entered into a history.
theorem filter_milestones {party? : Option Lease} : (milestones es).filter (fun e => party?.any (e.concerns · id)) =
    es.filter fun e => party?.any (e.concerns · id) := by
  have h (e : Effect) : (party?.any (e.concerns · id) && e.isMilestone) = party?.any (e.concerns · id) := by
    cases party? <;> cases e <;> simp [Effect.concerns, Effect.isMilestone, Bool.and_comm]
  rw [milestones, List.filter_filter]
  exact List.filter_congr fun e _ => h e

-- A router that gives its lease up before has none that the milestones could be about.
theorem party_of_negotiates (hn : r.Negotiates g.shared x es gone?) :
    es.filter (fun e => (x.1.lease?.or r.lease?).any (e.concerns · id)) = (milestones es).filter fun e =>
      (x.1.lease?.or (if gone?.isSome then none else r.lease?)).any (e.concerns · id) := by
  rw [← filter_milestones]
  have hm := hn.negotiation
  cases gone?
  case none   => rfl
  case some k =>
    cases hl : x.1.lease?
    case none       => simp [Negotiation.nil_of_none (hl ▸ hm)]
    case some lease => rfl

theorem lease?_of_get (h : g.routers[index]? = some r) : g.lease? index = r.lease? := by
  simp [lease?, h]

theorem lease?_turned (h : g.routers[index]? = some r) :
    (g.turned index x).lease? = Function.update g.lease? index x.1.lease? := by
  funext i
  by_cases hi : i = index
  case pos => simp [lease?, hi, routers_turned_self h]
  case neg => simp [lease?, hi, routers_turned_ne hi]

theorem lease?_of_none (h : g.turn? step = none) : (g.step c step).2.lease? index = g.lease? index :=
  bind_of_none Router.lease?_of_idle h

theorem party?_of_turn (h : g.turn? step = some (index, r, callback)) :
    g.party? c step = (r.handle c callback g.shared).1.lease?.or r.lease? := by
  obtain ⟨hr, hx⟩ := step_of_turn (c := c) h
  simp [party?, h, hx, lease?_of_get hr, lease?_turned hr]

theorem evicts_iff_of_negotiates (sound : g.Sound ids) (hr : g.routers[index]? = some r)
    (hn : r.Negotiates g.shared x es gone?) (hx : (g.step c step).2 = g.turned index x) :
    g.Evicts c step id ↔ gone? = some id := by
  obtain ⟨_, grows⟩ := hn.negotiation.grows
  have iff {ref : StateRef} (hf : g.shared.connections.find? id = some ref) :
      (g.step c step).2.shared.connections.find? id ≠ g.shared.connections.find? id ↔ gone? = some id := by
    rw [hx, hf]
    exact grows.find?_ne_iff sound.agrees.wellFormed hf
  constructor
  case mp =>
    rintro ⟨hf, hne⟩
    obtain ⟨ref, hf⟩ := Option.ne_none_iff_exists'.mp hf
    exact (iff hf).mp hne
  case mpr =>
    intro hg
    obtain ⟨ref, hh⟩ := (sound.linked (List.mem_of_getElem? hr)).exists_hold (hn.owned id hg)
    have hf := sound.current ((hold?_of_get hr).trans hh)
    exact ⟨by simp [hf], (iff hf).mpr hg⟩

theorem hold?_of_lease (h : g.lease? index = some lease) : g.hold? index = some (lease.id, lease.hold.2) := by
  obtain ⟨r, hr, hl⟩ := Option.bind_eq_some_iff.mp h
  simp [hold?, hr, Router.hold?_eq_lease?, hl, Lease.id]

-- No two routers have the same connection.
theorem Sound.lease_ne (sound : g.Sound ids) (h : g.lease? index = some lease) (h' : g.lease? index' = some lease')
    (hi : index ≠ index') : lease.id ≠ lease'.id := by
  intro he
  have hh' : g.hold? index' = some (lease.id, lease'.hold.2) := he ▸ hold?_of_lease h'
  exact hi (sound.apart (hold?_of_lease h) hh')

theorem Sound.exists_lease (sound : g.Sound ids) (hr : g.routers[index]? = some r) (hi : r.connection? = some id) :
    ∃ lease, g.lease? index = some lease ∧ lease.id = id := by
  obtain ⟨ref, hh⟩ := (sound.linked (List.mem_of_getElem? hr)).exists_hold hi
  rw [Router.hold?_eq_lease?] at hh
  obtain ⟨lease, hl, hh⟩ := Option.map_eq_some_iff.mp hh
  exact ⟨lease, (lease?_of_get hr).trans hl, by simp [Lease.id, hh]⟩

theorem Sound.sole (sound : g.Sound ids) (h : g.lease? index = some lease) : Sole g.lease? index lease.id :=
  fun _ _ hi hl => sound.lease_ne hl h hi

-- Nobody else has the connection that a turn is about, whether the router had it before or has just taken it.
theorem Sound.sole_party (sound : g.Sound ids) (sound' : (g.turned index x).Sound ids')
    (hr : g.routers[index]? = some r)
    (hp : x.1.lease?.or (if gone?.isSome then none else g.lease? index) = some lease) :
    Sole g.lease? index lease.id := by
  have hl' : (g.turned index x).lease? = Function.update g.lease? index x.1.lease? := lease?_turned hr
  cases Option.or_eq_some_iff.mp hp
  case inl hp =>
    -- The other routers keep what they have.
    have sole : Sole (g.turned index x).lease? index lease.id := sound'.sole (by simpa [hl'] using hp)
    exact fun i lease' hi hl => sole i lease' hi (by simpa [hl', hi] using hl)
  case inr hp =>
    cases gone?
    case none   => exact sound.sole hp.2
    case some _ => cases hp.2

theorem Sound.negotiated (sound : g.Sound ids) (sound' : (g.turned index x).Sound ids')
    (h : Negotiated g.shared.connections g.lease? histories) (hr : g.routers[index]? = some r)
    (hn : r.Negotiates g.shared x es gone?) :
    Negotiated x.2.connections (g.turned index x).lease? fun id =>
      (if gone? = some id then [] else histories id) ++
        es.filter fun e => (x.1.lease?.or r.lease?).any (e.concerns · id) := by
  have hl : g.lease? index = r.lease? := lease?_of_get hr
  have hl' : (g.turned index x).lease? = Function.update g.lease? index x.1.lease? := lease?_turned hr
  have own : ∀ id, gone? = some id → ∃ lease, g.lease? index = some lease ∧ lease.id = id :=
    fun id hg => sound.exists_lease hr (hn.owned id hg)
  have forgotten := h.forget gone?
    (fun id hg lease hl => by
      obtain ⟨lease', hl', hi⟩ := own id hg
      exact Option.some.inj (hl.symm.trans hl') ▸ hi)
    fun id hg => by
      obtain ⟨lease, hl, rfl⟩ := own id hg
      exact sound.sole hl
  have current : ∀ lease, (if gone?.isSome then none else g.lease? index) = some lease →
      (g.shared.connections.without gone?).find? lease.id = some lease.hold.2 := fun lease hl => by
    cases gone?
    case none   => exact sound.current (hold?_of_lease hl)
    case some _ => cases hl
  have negotiation := hn.negotiation
  rw [← hl] at negotiation
  have goesOn := forgotten.goesOn index (by simpa using negotiation) sound.agrees.without.wellFormed
    (by simpa using current) fun party hp i lease hi hl =>
      sound.sole_party sound' hr (by simpa using hp) i lease hi (by simpa [hi] using hl)
  simpa [hl', party_of_negotiates hn, hl] using goesOn

end

-- What a service brings about, and what any next step does.
structure UpgradesOnce (c : Surroundings) (g : Gateway) (phases : Nat → Phase)
    (histories : ConnectionId → List Effect) : Prop where
  history  : ∀ id, History id (g.shared.connections.isUpgraded id) (histories id)
  -- A call that knows upgrades begins its request on a connection that is marked as upgraded.
  begun    : ∀ {step index r callback phase i message bytes}, g.turn? step = some (index, r, callback) →
    Legal r (phases index) callback phase → g.Permits c step → .encodedBegin i message bytes ∈ g.effects c step →
    ∃ party, g.party? c step = some party ∧
      (party.upgrades → (g.step c step).2.shared.connections.isUpgraded party.id)
  -- The decoder of responses gets nothing of the reply to an upgrade request.
  unread   : ∀ {index r id} data endStream, g.routers[index]? = some r → r.connection? = some id →
    Asked id (histories id) → ∃ done es,
      g.effects c (.event index (.clusterData data endStream)) = .readUpgrade r.id data done :: es ∧ readings es = []
  -- Only the requests of calls that do not know upgrades are left out of the histories.
  recorded : ∀ {step index r callback phase}, g.turn? step = some (index, r, callback) →
    Legal r (phases index) callback phase → ∀ e ∈ g.effects c step, e.isMilestone →
    ∃ party, g.party? c step = some party ∧
      (e ∈ g.record c step histories party.id ∨ e.isRequest ∧ party.upgrades = false)

namespace Service

variable {c : Surroundings} {listener : Listener} {g : Gateway} {r : Router} {callback : Callback} {call : Call}
  {index : Nat} {id : ConnectionId} {step : Step} {phase : Phase} {phases : Nat → Phase}
  {histories : ConnectionId → List Effect}

theorem run (service : Service c listener g phases histories) : ∃ ids, Run c listener g ids := by
  induction service
  case start => exact ⟨_, .start⟩
  case idle step h ih =>
    obtain ⟨_, run⟩ := ih
    exact ⟨_, run.step step (by simp [Permits, h])⟩
  case turn step _ _ permits ih =>
    obtain ⟨_, run⟩ := ih
    exact ⟨_, run.step step permits⟩

-- Nothing is known of a router that is not there yet.
theorem between (service : Service c listener g phases histories) (hl : g.routers.length ≤ index) :
    phases index = .between := by
  induction service
  case start => rfl
  case idle step h ih =>
    refine ih (Nat.le_trans ?_ hl)
    cases (step_of_none (c := c) h).2
    case inl hr => exact Nat.le_of_eq (congrArg List.length hr.symm)
    case inr hr =>
      obtain ⟨_, _, hr⟩ := hr
      simp [hr]
  case turn phases _ index' r callback phase g _ step h legal permits ih =>
    obtain ⟨hr, hx⟩ := step_of_turn (c := c) h
    obtain ⟨hi, _⟩ := List.getElem?_eq_some_iff.mp hr
    have hl : g.routers.length ≤ index := by simpa [hx, turned] using hl
    have hn : index ≠ index' := Nat.ne_of_gt (Nat.lt_of_lt_of_le hi hl)
    simp [hn, ih hl]

-- Each router goes through a legal run.
theorem exists_run (service : Service c listener g phases histories) (hr : g.routers[index]? = some r) :
    ∃ id table turns, RpcProxy.Run c id table r (phases index) turns := by
  induction service generalizing r
  case start => cases hr
  case idle service step h ih =>
    cases router_of_none h hr
    case inl hr  => exact ih hr
    case inr new =>
      obtain ⟨hl, id, table, rfl⟩ := new
      exact ⟨id, table, [], service.between hl ▸ .start⟩
  case turn phases _ index' r' callback phase g _ step h legal permits ih =>
    obtain ⟨hr', hx⟩ := step_of_turn (c := c) h
    rw [hx] at hr
    by_cases hi : index = index'
    case pos =>
      subst hi
      obtain ⟨id, table, turns, run⟩ := ih hr'
      rw [routers_turned_self hr'] at hr
      obtain rfl := Option.some.inj hr
      have run := run.turn legal (r'.handle c callback g.shared).eta.symm
      exact ⟨id, table, _, by simpa using run⟩
    case neg =>
      rw [routers_turned_ne hi] at hr
      simpa [hi] using ih hr

theorem negotiates (service : Service c listener g phases histories) (codec : c.Upgrades)
    (h : g.turn? step = some (index, r, callback)) (legal : Legal r (phases index) callback phase) :
    ∃ gone?, r.Negotiates g.shared (r.handle c callback g.shared) (g.effects c step) gone? := by
  obtain ⟨hr, hx⟩ := step_of_turn (c := c) h
  obtain ⟨id, table, turns, run⟩ := service.exists_run hr
  have moves := Router.moves (c := c) (s := g.shared) run.serves legal
  obtain ⟨es, gone?, hn⟩ := moves.negotiates codec fun call hc => run.exists_stage hc
  have he : g.effects c step = es := by
    rw [effects, hx]
    exact Shared.since_eq hn.transcript
  exact ⟨gone?, he ▸ hn⟩

theorem negotiated (service : Service c listener g phases histories) (codec : c.Upgrades) :
    Negotiated g.shared.connections g.lease? histories := by
  induction service
  case start =>
    exact { history := fun _ => .fresh, waits := nofun, ready := nofun, held := nofun }
  case idle step h ih =>
    have hl : (Gateway.step c _ step).2.lease? = _ := funext fun _ => lease?_of_none (c := c) h
    rw [(step_of_none h).1, hl]
    exact ih
  case turn histories index r callback phase g service step h legal permits ih =>
    obtain ⟨hr, hx⟩ := step_of_turn (c := c) h
    obtain ⟨ids, run⟩ := service.run
    obtain ⟨gone?, hn⟩ := service.negotiates codec h legal
    have he : g.record c step histories = fun id => (if gone? = some id then [] else histories id) ++
        (g.effects c step).filter fun e =>
          ((r.handle c callback g.shared).1.lease?.or r.lease?).any (e.concerns · id) := by
      funext id
      simp only [record, evicts_iff_of_negotiates run.sound hr hn hx, party?_of_turn h]
    have sound := (run.step step permits).sound
    rw [hx] at sound ⊢
    exact he ▸ run.sound.negotiated sound ih hr hn

theorem recorded (service : Service c listener g phases histories) (codec : c.Upgrades)
    (h : g.turn? step = some (index, r, callback)) (legal : Legal r (phases index) callback phase)
    (he : e ∈ g.effects c step) (hm : e.isMilestone) : ∃ party, g.party? c step = some party ∧
      (e ∈ g.record c step histories party.id ∨ e.isRequest ∧ party.upgrades = false) := by
  obtain ⟨gone?, hn⟩ := service.negotiates codec h legal
  obtain ⟨party, hp, hc⟩ := hn.placed (List.mem_filter.mpr ⟨he, hm⟩)
  have hp : g.party? c step = some party := (party?_of_turn h).trans hp
  refine ⟨party, hp, hc.imp_left fun hc => List.mem_append_right _ (List.mem_filter.mpr ⟨he, ?_⟩)⟩
  simpa [hp] using hc

theorem begun (service : Service c listener g phases histories) (codec : c.Upgrades)
    (h : g.turn? step = some (index, r, callback)) (legal : Legal r (phases index) callback phase)
    (permits : g.Permits c step) (he : .encodedBegin i message bytes ∈ g.effects c step) :
    ∃ party, g.party? c step = some party ∧
      (party.upgrades → (g.step c step).2.shared.connections.isUpgraded party.id) := by
  obtain ⟨party, hp, hc⟩ := service.recorded codec h legal he rfl
  refine ⟨party, hp, fun hu => ?_⟩
  have hm := hc.resolve_right (by simp [hu])
  exact (((service.turn step h legal permits).negotiated codec).history party.id).marked_of_begun hm

-- The call that waits for the reply gets it.
theorem unread (service : Service c listener g phases histories) (codec : c.Upgrades) (data : Bytes) (endStream : Bool)
    (hr : g.routers[index]? = some r) (hi : r.connection? = some id) (asked : Asked id (histories id)) :
    ∃ done es, g.effects c (.event index (.clusterData data endStream)) = .readUpgrade r.id data done :: es ∧
      readings es = [] := by
  obtain ⟨ids, run⟩ := service.run
  obtain ⟨lease, hl, he⟩ := run.sound.exists_lease hr hi
  obtain ⟨index', lease', hl', he', waits⟩ := (service.negotiated codec).held asked
  have hn : index = index' := Decidable.byContradiction fun hn => run.sound.lease_ne hl hl' hn (he.trans he'.symm)
  subst hn
  obtain rfl := Option.some.inj (hl.symm.trans hl')
  obtain ⟨call, hc, hl⟩ := Option.bind_eq_some_iff.mp ((lease?_of_get hr).symm.trans hl)
  obtain ⟨hold, _, rfl⟩ := Option.map_eq_some_iff.mp hl
  obtain ⟨done, es, ht, hes⟩ := Call.receive_of_reply c data endStream g.shared waits
  refine ⟨done, es, ?_, hes⟩
  obtain ⟨id, table, turns, run⟩ := service.exists_run hr
  have hi : call.router = r.id := (run.serves.router hc).trans run.serves.named.symm
  have h : g.turn? (.event index (.clusterData data endStream)) =
      some (index, r, .event (.clusterData data endStream)) := by
    simp [turn?, hr]
  rw [effects, (step_of_turn h).2]
  apply Shared.since_eq
  simpa only [turned, Router.handle, Router.apply, Router.receive_of_call hc, hi] using ht

-- Until the entry of a connection is given up, its upgrade is asked for and completed at most once, and no call that
-- knows upgrades has a request on it before.
theorem upgradesOnce (service : Service c listener g phases histories) (codec : c.Upgrades) :
    UpgradesOnce c g phases histories where
  history  := (service.negotiated codec).history
  begun    := service.begun codec
  unread   := service.unread codec
  recorded h legal _ he hm := service.recorded codec h legal he hm

end Service

namespace Upgrade

-- The pool always has the same connection, and calls negotiate an upgrade of it.
def surroundings : Surroundings :=
  { Surroundings.plain fun _ _ => .ready ⟨7⟩ ⟨"10.0.0.1:9090"⟩ with
    downstream _ _ := ⟨.framed, .twitter⟩
    upgradeRequest? _ _ _ state := if state.upgraded then none else some [0x75] }

theorem surroundings_upgrades : surroundings.Upgrades where
  offers _ _ _ state _ := by cases h : state.upgraded <;> simp [surroundings, h]
  marks _ _ _ := rfl

end Upgrade

-- A connection is upgraded for a call of one router, and the next call on it comes from another one.
open Upgrade in
theorem Service.upgradesOnce_handover :
    ∃ g phases histories, Service surroundings { table := .toCluster "a" } g phases histories ∧
      histories ⟨7⟩ = [.offeredUpgrade ⟨0⟩ (some [0x75]), .wrote ⟨7⟩ [0x75] false, .completedUpgrade ⟨0⟩,
        .encodedBegin ⟨0⟩ (.call "ping") [], .wrote ⟨7⟩ [] false,
        .encodedBegin ⟨1⟩ { Message.call "pong" with sequenceId := 1 } []] ∧
      UpgradesOnce surroundings g phases histories := by
  have idle : Service surroundings { table := .toCluster "a" } _ _ _ := .idle .start .create rfl
  have made := idle.idle .create rfl
  have asked := made.turn (.event 0 (.messageBegin (.call "ping"))) rfl (.decode rfl rfl) (by decide +kernel)
  have upgraded := asked.turn (.event 0 (.clusterData [0x6f] false)) rfl (.clusterData rfl) (by decide +kernel)
  have sent := upgraded.turn (.event 0 .messageEnd) rfl (.decode rfl rfl) (by decide +kernel)
  have answered := sent.turn (.event 0 (.clusterData [0x78] false)) rfl (.clusterData rfl) (by decide +kernel)
  have again := answered.turn (.event 1 (.messageBegin (.call "pong"))) rfl (.decode rfl rfl) (by decide +kernel)
  exact ⟨_, _, _, again, rfl, again.upgradesOnce surroundings_upgrades⟩

end Gateway

end RpcProxy
