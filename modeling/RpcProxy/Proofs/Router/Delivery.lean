import RpcProxy.Proofs.Call.Carriage
import RpcProxy.Proofs.Router.Direction
import RpcProxy.Proofs.Router.Reception
import RpcProxy.Proofs.Routing.Chance
import RpcProxy.Proofs.Routing.Service

namespace RpcProxy

namespace Router

-- The rule gives the message its route, and the cluster of the route has a pool.
structure Pools (c : Surroundings) (r : Router) (rule : RouteRule) (message : Message) (s : Shared) : Prop where
  won    : ∃ i, r.table.winner? message (c.random (r.discard s).transcript) = some i ∧ r.table.rules[i]? = some rule
  pooled : ∃ request pool, .askedForPool request (some pool) ∈ s.since (r.beginMessage c message s).2.2

-- A call bears a copy of the message, and so does everything that its codec is given.
structure Upholds (r : Router) (sent : Message) (es : List Effect) : Prop where
  held    : ∀ call, r.call? = some call → call.message.IsCopyOf sent
  encoded : ∀ m ∈ encodedMessages es, m.IsCopyOf sent

-- Up to the next message, the cluster is sent a copy of the given one and nothing else. There is a call for it unless
-- there is no connection, and its codec has been given the message once its request is in flight.
structure Delivers (c : Surroundings) (r : Router) (message sent : Message) (s : Shared) : Prop where
  called   : ∃ pool answer, .acquired pool answer ∈ s.since (r.beginMessage c message s).2.2 ∧
    ((∀ reason host?, answer ≠ .failed reason host?) → (r.beginMessage c message s).2.1.isActive)
  upheld   : ∀ r' turns, Onward c (r.beginMessage c message s).2.1 r' turns →
    r'.Upholds sent (s.since (r.beginMessage c message s).2.2 ++ Turn.effectsOf turns)
  inFlight : ∀ r' turns, Onward c (r.beginMessage c message s).2.1 r' turns → r'.isInFlight →
    encodedMessages (s.since (r.beginMessage c message s).2.2 ++ Turn.effectsOf turns) ≠ []

variable {r r' r'' : Router} {call : Call} {s : Shared} {x : Call × Shared} {es es' : List Effect} {callback : Callback}

-- No call is made, the one that there is keeps its message, and the codec is given no other.
structure Bears (r r' : Router) (es : List Effect) : Prop where
  kept    : ∀ call', r'.call? = some call' → ∃ call, r.call? = some call ∧ call'.message.IsCopyOf call.message
  encoded : ∀ m ∈ encodedMessages es, ∃ call, r.call? = some call ∧ m.IsCopyOf call.message

namespace Bears

-- The call goes or stays, and the codec is given nothing.
theorem of_none (hk : r'.call? = none ∨ r'.call? = r.call?) (he : openings es = []) : r.Bears r' es where
  kept call' hc' := by
    cases hk
    case inl hk => simp [hk] at hc'
    case inr hk => exact ⟨call', hk ▸ hc', .refl _⟩
  encoded := by simp [encodedMessages_of_openings he]

theorem idle (r : Router) (s : Shared) : r.Bears r (s.since s) := by
  rw [Shared.since_eq (List.append_nil _).symm]
  exact of_none (.inr rfl) rfl

theorem trans (h : r.Bears r' es) (h' : r'.Bears r'' es') : r.Bears r'' (es ++ es') where
  kept call'' hc'' := by
    obtain ⟨call', hc', copy'⟩ := h'.kept call'' hc''
    obtain ⟨call, hc, copy⟩ := h.kept call' hc'
    exact ⟨call, hc, copy'.trans copy⟩
  encoded m hm := by
    rw [encodedMessages_append] at hm
    cases List.mem_append.mp hm
    case inl hm => exact h.encoded m hm
    case inr hm =>
      obtain ⟨call', hc', copy'⟩ := h'.encoded m hm
      obtain ⟨call, hc, copy⟩ := h.kept call' hc'
      exact ⟨call, hc, copy'.trans copy⟩

-- What an operation means for a call, it means for the router that keeps the call.
theorem keep (hc : r.call? = some call) (h : call.Bears s x) : r.Bears (r.keep x.1) (s.since x.2) where
  kept call' hk := by
    refine ⟨call, hc, ?_⟩
    cases ht : x.1.isTerminal <;> simp [keep_call?, ht] at hk
    exact hk ▸ h.message
  encoded := by
    obtain ⟨es, ht, encoded⟩ := h.encoded
    rw [Shared.since_eq ht]
    exact fun m hm => ⟨call, hc, encoded m hm⟩

theorem withCall {f : Call → Shared → Call × Shared} (h : ∀ call : Call, call.Bears s (f call s)) :
    r.Bears (r.withCall f s).1 (s.since (r.withCall f s).2) := by
  cases hc : r.call?
  case none      =>
    rw [withCall_of_none hc]
    exact idle r s
  case some call =>
    rw [withCall_of_call hc]
    exact keep hc (h call)

end Bears

theorem endTransport_bears (r : Router) (s : Shared) :
    r.Bears (r.endTransport s).1 (s.since (r.endTransport s).2) := by
  by_cases ho : ∃ call, r.call? = some call ∧ call.message.isOneway
  case pos =>
    obtain ⟨call, hc, ho⟩ := ho
    rw [endTransport_of_oneway hc ho, Shared.since_eq Call.finish_transcript]
    exact .of_none (.inl rfl) (by simp)
  case neg =>
    rw [endTransport_of_other (by simpa using ho)]
    exact .idle r s

theorem poolReady_bears (c : Surroundings) (r : Router) (id : ConnectionId) (host : Host) (s : Shared) :
    r.Bears (r.poolReady c id host s).1 (s.since (r.poolReady c id host s).2) := by
  cases hc : r.call?
  case none      =>
    have hx : r.poolReady c id host s = (r, ((s.emit (.closed id .noFlush)).forget id).emit (.released id)) := by
      simp [poolReady, hc]
    rw [hx, Shared.since_eq (List.append_assoc ..)]
    exact .of_none (.inr rfl) rfl
  case some call =>
    rw [poolReady_of_call hc]
    exact .keep hc (Call.connect_bears ..)

theorem receive_bears (c : Surroundings) (r : Router) (data : Bytes) (endStream : Bool) (s : Shared) :
    r.Bears (r.receive c data endStream s).2.1 (s.since (r.receive c data endStream s).2.2) := by
  cases hc : r.call?
  case none      => simpa [receive, hc] using Bears.idle r s
  case some call =>
    rw [receive_of_call hc]
    exact .keep hc (Call.receive_bears ..)

theorem openings_discardEffects : openings r.discardEffects = [] := by
  cases hc : r.call? <;> simp [discardEffects, hc]

theorem handle_bears (c : Surroundings) (r : Router) (s : Shared)
    (same : ∀ message, callback ≠ .event (.messageBegin message)) :
    r.Bears (r.handle c callback s).1 (s.since (r.handle c callback s).2) := by
  cases callback
  case destroy     =>
    have hs : s.since (r.destroy s).2 = r.discardEffects := Shared.since_eq discard_transcript
    rw [handle, hs]
    exact .of_none (.inl rfl) openings_discardEffects
  case event event =>
    cases event
    case transportBegin           => exact .idle r s
    case messageBegin message     => exact absurd rfl (same message)
    case messageBody body         => exact .withCall fun call => call.writeBody_bears c body r.passthrough s
    case messageEnd               => exact .withCall fun call => call.endRequest_bears c s
    case transportEnd             => exact endTransport_bears r s
    case poolReady id host        => exact poolReady_bears c r id host s
    case poolFailure reason host? => exact .withCall fun call => call.failToConnect_bears reason host? s
    case clusterData data ended   => exact receive_bears c r data ended s
    case remoteClose              => exact .withCall fun call => call.lose_bears _ s
    case localClose               => exact .withCall fun call => call.lose_bears _ s

end Router

theorem Onward.bears {c : Surroundings} {r₀ r : Router} (onward : Onward c r₀ r turns) :
    r₀.Bears r (Turn.effectsOf turns) := by
  induction onward
  case start => exact .of_none (.inr rfl) rfl
  case turn r _ _ s r' s' _ _ same hx ih =>
    rw [Turn.effectsOf_cons]
    exact ih.trans (by simpa [hx] using Router.handle_bears c r s same)

namespace Router

variable {c : Surroundings} {r r' : Router} {message sent : Message} {s s' : Shared} {es es' : List Effect}
  {route : Destination} {rule : RouteRule} {request : PoolRequest} {pool : PoolId}

theorem Upholds.append (h : r.Upholds sent es) (h' : r.Bears r' es') : r'.Upholds sent (es ++ es') where
  held call' hc' := by
    obtain ⟨call, hc, copy⟩ := h'.kept call' hc'
    exact copy.trans (h.held call hc)
  encoded m hm := by
    rw [encodedMessages_append] at hm
    cases List.mem_append.mp hm
    case inl hm => exact h.encoded m hm
    case inr hm =>
      obtain ⟨call, hc, copy⟩ := h'.encoded m hm
      exact copy.trans (h.held call hc)

theorem openings_of_routing : (∀ e ∈ es, e.isRouting) → openings es = [] :=
  filter_of_routing fun e => by cases e <;> simp

-- What is done before a pool is chosen gives the codec nothing.
theorem exists_unencoded_of_routed {n : Nat} (routed : ((r.discard s).emit (.drew n)).Routed s' es) :
    ∃ lead, s'.transcript = s.transcript ++ lead ∧ openings lead = [] := by
  refine ⟨r.discardEffects ++ .drew n :: es, by simp [routed.transcript], ?_⟩
  simp [openings_discardEffects, openings_of_routing routed.routing]

theorem launch_upholds (c : Surroundings) (r : Router) (route : Destination) (leg : Leg) (pool : PoolId)
    (message : Message) (ht : s'.transcript = s.transcript ++ es) (he : openings es = []) :
    let x := (r.launch c route leg pool message s').2
    x.1.Upholds (route.outgoing message) (s.since x.2) := by
  let call : Call := { router := r.id, cluster := route.cluster, pool, leg, message := route.outgoing message }
  let y := (call.start c (s'.emit (.madeCodec r.id leg))).2
  have made : (s'.emit (.madeCodec r.id leg)).transcript = s.transcript ++ (es ++ [.madeCodec r.id leg]) := by
    simp [ht]
  have hb : call.Bears s y := (Call.start_bears ..).after rfl made (by simp [he])
  obtain ⟨es', ht', encoded⟩ := hb.encoded
  show (r.keep y.1).Upholds (route.outgoing message) (s.since y.2)
  refine ⟨fun call' hk => ?_, Shared.since_eq ht' ▸ encoded⟩
  cases hl : y.1.isTerminal <;> simp [keep_call?, hl] at hk
  exact hk ▸ hb.message

-- The call that is made of a message bears it as its route says.
theorem beginMessage_upholds (hr : r.table.route? message (c.random (r.discard s).transcript) = some route) :
    (r.beginMessage c message s).2.1.Upholds (route.outgoing message)
      (s.since (r.beginMessage c message s).2.2) := by
  obtain ⟨p, call?, target⟩ := (beginMessage_directs c r message s).exists_cleared
  have target : (r.beginMessage c message s).2.1.route? = some route := by
    rw [target]
    exact hr
  have hx : (r.beginMessage c message s).2 = (r.beginMessage (c.withPools c.acquire) message s).2 := rfl
  rw [hx] at target ⊢
  cases beginMessage_reaches c r message s
  case answer r' e s' es routed named idle hx =>
    obtain ⟨lead, ht, unencoded⟩ := exists_unencoded_of_routed routed
    have ht : (r'.reply e s').transcript = s.transcript ++ (lead ++ [.replied r'.id e true]) := by
      rw [reply, Shared.emit_transcript, ht, List.append_assoc]
    rw [hx, Shared.since_eq ht]
    have replied : openings (lead ++ [.replied r'.id e true]) = [] := by simp [unencoded]
    exact ⟨by simp [idle], by simp [encodedMessages_of_openings replied]⟩
  case pool r' route' leg pool s' es routed named target' hx =>
    obtain ⟨lead, ht, unencoded⟩ := exists_unencoded_of_routed routed
    rw [hx] at target ⊢
    obtain rfl : route' = route := Option.some.inj (target'.symm.trans target)
    exact launch_upholds _ r' route' leg pool message ht unencoded

theorem encodedMessages_ne_nil_of_opens (h : opens es) : encodedMessages es ≠ [] := by
  obtain ⟨e, he, opening⟩ := List.any_eq_true.mp h
  cases e <;> simp only [Effect.isOpening, Bool.false_eq_true] at opening
  case encodedBegin id m bytes => exact List.ne_nil_of_mem (List.mem_filterMap.mpr ⟨_, he, rfl⟩)

-- A request is in flight only after its message has been encoded.
theorem encodedMessages_of_isInFlight {turns : List Turn}
    (onward : Onward c (r.beginMessage c message s).2.1 r' turns) (inFlight : r'.isInFlight) :
    encodedMessages (s.since (r.beginMessage c message s).2.2 ++ Turn.effectsOf turns) ≠ [] := by
  obtain ⟨⟨way, describes, _⟩, _, later⟩ := beginMessage_received c r message s
  rw [encodedMessages_append, Ne, List.append_eq_nil_iff, not_and_or]
  cases way
  case started =>
    obtain ⟨_, _, call, _, _, encoded⟩ := describes
    exact .inl (encodedMessages_ne_nil_of_opens (List.any_eq_true.mpr ⟨_, encoded, rfl⟩))
  case waiting =>
    obtain ⟨_, _, paused⟩ := describes
    exact .inr (encodedMessages_ne_nil_of_opens ((later r' turns onward).1 paused inFlight))
  case failed  =>
    -- There is no call, and no turn makes one.
    obtain ⟨_, _, inactive⟩ := describes
    cases hc' : r'.call?
    case none       => simp [isInFlight_of_none hc'] at inFlight
    case some call' =>
      obtain ⟨call, hc, _⟩ := onward.bears.kept call' hc'
      simp [isActive, hc] at inactive

-- A message that comes to a pool is delivered as its route says.
theorem delivers_of_route? (hr : r.table.route? message (c.random (r.discard s).transcript) = some route)
    (asked : .askedForPool request (some pool) ∈ s.since (r.beginMessage c message s).2.2) :
    r.Delivers c message (route.outgoing message) s where
  called := by
    obtain ⟨_, _, answer, acquired, sent⟩ := (beginMessage_directs c r message s).sent asked
    refine ⟨pool, answer, acquired, fun h => ?_⟩
    obtain ⟨call, _, hc, _⟩ := sent h
    simp [isActive, hc]
  upheld r' turns onward := (beginMessage_upholds hr).append onward.bears
  inFlight r' turns := encodedMessages_of_isInFlight

theorem Pools.delivers (h : r.Pools c rule message s) : ∃ route : Destination,
    r.Delivers c message (route.outgoing message) s ∧ route.stripService = rule.stripService := by
  obtain ⟨⟨i, hw, hi⟩, request, pool, asked⟩ := h
  obtain ⟨⟨rule', route, hi', resolves⟩, -⟩ := RouteTable.winner?_eq_some_iff.mp hw
  obtain rfl : rule' = rule := Option.some.inj (hi'.symm.trans hi)
  have hr := (RouteTable.route?_of_winner? hw hi).trans resolves
  exact ⟨route, delivers_of_route? hr asked, (RouteRule.of_resolve? resolves).1⟩

end Router

namespace RouteRule

variable {config : Config.Route} {rule : RouteRule}

-- A call that a service rule takes is one of its service, and its cluster is sent the rest of the method name if the
-- rule asks for that. A rule that does not ask for it sends the message as it is.
theorem ofConfig_delivers (h : ofConfig config = .ok rule) :
    (∀ service, config.takes.IsForService service → config.action.stripService →
      ∀ message, rule.takes message → message.service? = some service ∧
        ∃ method, message.method? = some (service ++ ":" ++ method) ∧
          ∀ c (r : Router) s, r.Pools c rule message s →
            r.Delivers c message { message with method? := some method } s) ∧
    (config.action.stripService = false →
      ∀ message c (r : Router) s, r.Pools c rule message s → r.Delivers c message message s) := by
  have strips := (built h).rest.2.2
  constructor
  case left  =>
    intro service hs strip message ht
    obtain ⟨hservice, method, hm⟩ := names_service h hs ht
    refine ⟨hservice, method, hm, fun c r s pools => ?_⟩
    obtain ⟨route, delivers, same⟩ := pools.delivers
    rwa [Destination.outgoing, same, strips, if_pos strip, Message.stripService_of_method hs.plain hm] at delivers
  case right =>
    intro strip message c r s pools
    obtain ⟨route, delivers, same⟩ := pools.delivers
    rwa [Destination.outgoing, same, strips, if_neg (by simp [strip])] at delivers

def billing : Config.Route where
  takes  := { service := some "Billing:" }
  action := { cluster := some "a", stripService := true }

-- The pool has a connection at once.
theorem ofConfig_delivers_billing : ∃ rule, ofConfig billing = .ok rule ∧
    let c := Surroundings.plain fun _ _ => .ready ⟨7⟩ ⟨"10.0.0.1:9090"⟩
    let r : Router := { id := ⟨0⟩, table := .ofRules "services" [rule] }
    r.Pools c rule (.call "Billing:charge") {} ∧ r.Delivers c (.call "Billing:charge") (.call "charge") {} := by
  have built : ofConfig billing = .ok _ := rfl
  have service : billing.takes.IsForService "Billing" := ⟨.inr rfl, by simp [billing], by simp, rfl⟩
  obtain ⟨-, method, hm, delivers⟩ := (ofConfig_delivers built).1 "Billing" service rfl (.call "Billing:charge") rfl
  obtain rfl : method = "charge" := by
    simpa [Message.call, ← String.toList_inj] using hm.symm
  refine ⟨_, built, ?_⟩
  intro c r
  have asked : (Shared.since {} (r.beginMessage c (.call "Billing:charge") {}).2.2)[3]? =
      some (.askedForPool _ (some _)) := rfl
  have pools : r.Pools c _ (.call "Billing:charge") {} := ⟨⟨0, rfl, rfl⟩, _, _, List.mem_of_getElem? asked⟩
  exact ⟨pools, delivers c r _ pools⟩

end RouteRule

end RpcProxy
