import RpcProxy.Proofs.Call.Connection
import RpcProxy.Proofs.Router.Run

namespace RpcProxy

-- The connection that is handed over with a callback.
def Callback.handed? (es : List Effect) : Callback → Option ConnectionId
  | .event (.poolReady id _) => some id
  | _                        => (handings es).head?

def Callback.isReady : Callback → Bool
  | .event (.poolReady ..) => true
  | _                      => false

def Callback.isClose : Callback → Bool
  | .event .remoteClose => true
  | .event .localClose  => true
  | _                   => false

namespace Router

variable {c : Surroundings} {r : Router} {call : Call} {s : Shared} {message : Message}
  {x : Router × Shared}

def connection? (r : Router) : Option ConnectionId :=
  r.call?.bind (·.connection?)

def hold? (r : Router) : Option Hold :=
  r.call?.bind (·.hold?)

-- The connection that is handed to the call of the router.
def taken? (r : Router) (es : List Effect) : Callback → Option ConnectionId
  | .event (.poolReady id _) => r.call?.map fun _ => id
  | _                        => (handings es).head?

-- The ways in which a router gives the entry of a connection up. It closes the connection, is told that the
-- connection of its call has closed, or is handed a connection that nobody awaits.
inductive GivesUp (r : Router) (es : List Effect) (id : ConnectionId) : Callback → Prop
  | closes (h : id ∈ closings es) : GivesUp r es id callback
  | loses (h : callback.isClose) (hi : r.connection? = some id) : GivesUp r es id callback
  | declines (h : r.call? = none) : GivesUp r es id (.event (.poolReady id host))

structure Linked (r : Router) : Prop where
  live   : ∀ {call}, r.call? = some call → call.isTerminal = false
  linked : ∀ {call}, r.call? = some call → call.Linked

structure Trades (r : Router) (s : Shared) (x : Router × Shared) (callback : Callback) (es : List Effect)
    (gone? : Option ConnectionId) : Prop where
  transcript : x.2.transcript = s.transcript ++ es
  gone       : ∀ id, gone? = some id ↔ r.GivesUp es id callback
  owned      : ∀ id, gone? = some id → r.connection? = some id ∨ callback.handed? es = some id
  deal       : Deal (r.taken? es callback) (if gone?.isSome then none else r.hold?)
    (s.connections.without gone?) (begins es) x.1.hold? x.2.connections
  linked     : x.1.Linked

theorem Linked.of_idle (h : r.call? = none) : r.Linked := by
  constructor
  all_goals simp [h]

theorem Linked.keep (ht : call.isTerminal = false → call.Linked) : (r.keep call).Linked := by
  cases hl : call.isTerminal
  case false =>
    have hk : (r.keep call).call? = some call := by simp [keep_call?, hl]
    constructor
    all_goals simp only [hk, Option.some.injEq, forall_eq']
    · exact hl
    · exact ht hl
  case true => exact .of_idle (by simp [keep_call?, hl])

theorem keep_hold? (h : call.isTerminal → call.hold? = none) : (r.keep call).hold? = call.hold? := by
  cases hl : call.isTerminal
  case false => simp [hold?, keep_call?, hl]
  case true  => simp [hold?, keep_call?, hl, h hl]

theorem hold?_of_call (hc : r.call? = some call) : r.hold? = call.hold? := by
  simp [hold?, hc]

theorem connection?_of_call (hc : r.call? = some call) : r.connection? = call.connection? := by
  simp [connection?, hc]

theorem taken?_of_handings {es : List Effect} (hr : callback.isReady = false) (h : handings es = []) :
    r.taken? es callback = none := by
  unfold taken?
  split
  case h_1 => cases hr
  case h_2 => rw [h, List.head?_nil]

-- A callback that is one operation on the call.
theorem Trades.of_call {y : Call × Shared} {es : List Effect} {handed? gone? : Option ConnectionId}
    (hc : r.call? = some call) (h : call.Trades s y es handed? gone?)
    (hh : r.taken? es callback = handed?) (hg : ∀ id, gone? = some id ↔ r.GivesUp es id callback) :
    r.Trades s (r.keep y.1, y.2) callback es gone? where
  transcript   := h.transcript
  gone         := hg
  owned id hid := .inl (by rw [connection?_of_call hc, ← h.owned (by simp [hid]), hid])
  deal         := by
    rw [hh, hold?_of_call hc, keep_hold? h.freed]
    exact h.deal
  linked       := .keep h.linked

-- A call gives up what it closes, unless it has lost its connection.
theorem givesUp_iff {es : List Effect} {gone? : Option ConnectionId} (hc : r.call? = some call)
    (h : closings es = gone?.toList) (hl : callback.isClose = false) :
    ∀ id, gone? = some id ↔ r.GivesUp es id callback := by
  intro id
  constructor
  case mp  => exact fun hid => .closes (by simp [h, hid])
  case mpr =>
    intro hg
    cases hg
    case closes hm      => simpa [h, eq_comm] using hm
    case loses hi hl'   => exact absurd (hl.symm.trans hl') Bool.false_ne_true
    case declines hn    => exact nomatch hc.symm.trans hn

-- What becomes of the connections by a message that finds no call under way.
inductive Opens (s : Shared) (x : Router × Shared) : Prop
  | of_deal (es : List Effect) (handed? : Option ConnectionId)
      (transcript : x.2.transcript = s.transcript ++ es) (closed : closings es = [])
      (handed : handings es = handed?.toList)
      (deal : Deal handed? none s.connections (begins es) x.1.hold? x.2.connections) (linked : x.1.Linked)

theorem Opens.after {s' : Shared} {es : List Effect} (h : Opens s' x) (ht : s'.transcript = s.transcript ++ es)
    (hc : s'.connections = s.connections) (hl : links es = []) : Opens s x := by
  cases h
  case of_deal es' handed? ht' closed handed deal linked =>
    refine .of_deal (es ++ es') handed? (by simp [ht, ht']) ?_ ?_ ?_ linked
    · rw [closings_append, closings_of_links hl, closed, List.append_nil]
    · rw [handings_append, handings_of_links hl, handed, List.nil_append]
    · rw [begins_append, begins_of_links hl, List.nil_append, ← hc]
      exact deal

theorem links_of_routing {es : List Effect} (h : ∀ e ∈ es, e.isRouting) : links es = [] :=
  filter_of_routing (fun e => by cases e <;> simp) h

theorem reply_opens {e : Exception} (hc : r.call? = none) : Opens s (r, r.reply e s) := by
  have hh : r.hold? = none := by simp [hold?, hc]
  exact .of_deal _ none rfl rfl rfl (hh ▸ .keeps) (.of_idle hc)

theorem launch_opens (c : Surroundings) (r : Router) (route : Destination) (leg : Leg) (pool : PoolId)
    (message : Message) (s : Shared) : Opens s (r.launch c route leg pool message s).2 := by
  let call : Call := {
    router := r.id, cluster := route.cluster, pool, leg,
    message := if route.stripService then message.stripService.1 else message }
  have hl : call.Linked := { state := nofun, upgrade := nofun }
  have ⟨es, handed?, hc, hh, ht⟩ := Call.start_trades c (s.emit (.madeCodec r.id leg)) hl rfl
  have hd := ht.deal
  rw [← keep_hold? (r := r) ht.freed] at hd
  exact .after (.of_deal es handed? ht.transcript hc hh hd (.keep ht.linked)) rfl rfl rfl

theorem Opens.routed {s' : Shared} {es : List Effect} (h : Opens s' x) (hr : s.Routed s' es) : Opens s x :=
  h.after hr.transcript hr.connections (links_of_routing hr.routing)

theorem beginMessage_opens (c : Surroundings) (r : Router) (message : Message) (s : Shared) :
    Opens (r.discard s) (r.beginMessage c message s).2 := by
  have he : (r.beginMessage c message s).2 = (r.beginMessage (c.withPools c.acquire) message s).2 := rfl
  rw [he]
  cases beginMessage_reaches c r message s
  case answer r' e s' es routed _ idle hx =>
    rw [hx]
    exact ((reply_opens idle).routed routed).routed (.cons (.refl _) rfl)
  case pool r' route leg pool s' es routed _ _ hx =>
    rw [hx]
    exact ((launch_opens _ r' route leg pool message s').routed routed).routed (.cons (.refl _) rfl)

theorem discard_connections : (r.discard s).connections = s.connections.without r.connection? := by
  cases hc : r.call? <;> simp [discard, connection?, hc]

theorem links_discardEffects : links r.discardEffects = closures r.connection? := by
  cases hc : r.call? <;> simp [discardEffects, connection?, hc]

theorem closings_discardEffects : closings r.discardEffects = r.connection?.toList := by
  rw [← closings_links, links_discardEffects, closings_closures]

theorem handings_discardEffects : handings r.discardEffects = [] := by
  rw [← handings_links, links_discardEffects, handings_closures]

theorem begins_discardEffects : begins r.discardEffects = [] := by
  rw [← begins_links, links_discardEffects, begins_closures]

-- A router without a connection holds none.
theorem hold?_of_connection? (h : r.connection? = none) : r.hold? = none := by
  cases hc : r.call?
  case none => simp [hold?, hc]
  case some call =>
    rw [connection?_of_call hc] at h
    rw [hold?_of_call hc, Call.hold?_of_none h]

theorem discard_givesUp {es : List Effect} (hc : closings es = r.connection?.toList)
    (hr : callback.isReady = false) :
    ∀ id, r.connection? = some id ↔ r.GivesUp es id callback := by
  intro id
  constructor
  case mp  => exact fun hid => .closes (by simp [hc, hid])
  case mpr =>
    intro hg
    cases hg
    case closes hm  => simpa [hc, eq_comm] using hm
    case loses hi _ => exact hi
    case declines   => cases hr

theorem beginMessage_trades (c : Surroundings) (r : Router) (message : Message) (s : Shared) :
    ∃ es gone?, r.Trades s (r.beginMessage c message s).2 (.event (.messageBegin message)) es gone? := by
  cases beginMessage_opens c r message s
  case of_deal es handed? ht closed handed deal linked =>
    have hh : r.taken? (r.discardEffects ++ es) (.event (.messageBegin message)) = handed? := by
      simp only [taken?, handings_append, handings_discardEffects, handed]
      cases handed? <;> rfl
    have hn : (if r.connection?.isSome then none else r.hold?) = none := by
      cases hi : r.connection?
      case none   => simp [hold?_of_connection? hi]
      case some i => rfl
    refine ⟨r.discardEffects ++ es, r.connection?, {
      transcript := by simp [ht], gone := discard_givesUp ?_ rfl, owned := fun id hid => .inl hid,
      deal := ?_, linked }⟩
    · simp [closed, closings_discardEffects]
    · rw [hh, hn, begins_append, begins_discardEffects, ← discard_connections]
      exact deal

-- A callback that does nothing.
theorem trades_nothing (h : r.Linked) (hc : r.call? = none ∨ callback.isClose = false)
    (hr : callback.isReady = false) :
    r.Trades s (r, s) callback [] none where
  transcript := (List.append_nil _).symm
  gone id    := by
    refine iff_of_false nofun fun hg => ?_
    cases hg
    case closes hm   => cases hm
    case loses hi hl =>
      cases hc
      case inl hc => simp [connection?, hc] at hi
      case inr hc => exact Bool.false_ne_true (hc.symm.trans hl)
    case declines    => cases hr
  owned      := nofun
  deal       := by
    rw [taken?_of_handings hr rfl]
    exact .keeps
  linked     := h

theorem destroy_trades (r : Router) (s : Shared) :
    r.Trades s (r.destroy s) .destroy r.discardEffects r.connection? where
  transcript := discard_transcript
  gone       := discard_givesUp closings_discardEffects rfl
  owned id h := .inl h
  deal       := by
    rw [begins_discardEffects]
    show Deal _ _ _ _ none (r.discard s).connections
    rw [discard_connections]
    exact .drops
  linked     := .of_idle rfl

theorem endTransport_trades (s : Shared) (h : r.Linked) :
    ∃ es gone?, r.Trades s (r.endTransport s) (.event .transportEnd) es gone? := by
  by_cases ho : ∃ call, r.call? = some call ∧ call.message.isOneway
  case pos =>
    have ⟨call, hc, ho⟩ := ho
    have hn : links call.finishEffects = [] := by simp
    have hk : r.keep (call.finish s).1 = { r with call? := none } := by
      simp [keep, Call.finish_isTerminal]
    rw [endTransport_of_oneway hc ho, ← hk]
    refine ⟨_, none, .of_call hc (call.finish_trades s) ?_ (givesUp_iff hc (closings_of_links hn) rfl)⟩
    simp [taken?, handings_of_links hn]
  case neg =>
    have hn : ∀ call, r.call? = some call → call.message.isOneway = false := by simpa using ho
    rw [endTransport_of_other hn]
    exact ⟨_, _, trades_nothing h (.inr rfl) rfl⟩

theorem poolReady_trades (c : Surroundings) (r : Router) (id : ConnectionId) (host : Host) (s : Shared) :
    ∃ es gone?, r.Trades s (r.poolReady c id host s) (.event (.poolReady id host)) es gone? := by
  cases hc : r.call?
  case some call =>
    have ⟨es, hcl, _, ht⟩ := Call.connect_trades c call id host s
    rw [poolReady_of_call hc]
    exact ⟨es, none, .of_call hc ht (by simp [taken?, hc]) (givesUp_iff hc hcl rfl)⟩
  case none =>
    have hx : r.poolReady c id host s =
        (r, ((s.emit (.closed id .noFlush)).forget id).emit (.released id)) := by simp [poolReady, hc]
    rw [hx]
    refine ⟨[.closed id .noFlush, .released id], some id, {
      transcript := by simp, gone := ?_, owned := fun _ h => .inr h, deal := ?_, linked := .of_idle hc }⟩
    · intro id'
      constructor
      case mp  =>
        rintro ⟨⟩
        exact .declines hc
      case mpr =>
        intro hg
        cases hg
        case closes hm   => simpa [closings, Effect.closed?, eq_comm] using hm
        case loses hl    => cases hl
        case declines    => rfl
    · have hh : r.hold? = none := by simp [hold?, hc]
      rw [hh]
      exact .keeps

-- The connection of the call has closed.
theorem lose_trades (reason : ConnectionFailure) (s : Shared) (hl : callback.isClose) (h : r.Linked)
    (hr : callback.isReady = false) :
    ∃ es gone?, r.Trades s (r.withCall (·.lose reason) s) callback es gone? := by
  cases hc : r.call?
  case none =>
    rw [withCall_of_none hc]
    exact ⟨_, _, trades_nothing h (.inl hc) hr⟩
  case some call =>
    have hn : links (call.failEffects reason) = [] := by simp
    rw [withCall_of_call hc]
    refine ⟨_, _, .of_call hc (call.lose_trades reason s) (taken?_of_handings hr (handings_of_links hn))
      fun id => ?_⟩
    constructor
    case mp  => exact fun hi => .loses hl (by rw [connection?_of_call hc, hi])
    case mpr =>
      intro hg
      cases hg
      case closes hm  => simp [closings_of_links hn] at hm
      case loses hi _ => rw [← connection?_of_call hc, hi]
      case declines   => cases hr

-- An operation that has nothing to do with connections.
theorem withCall_trades (f : Call → Shared → Call × Shared) (s : Shared) (h : r.Linked)
    (hf : ∀ {call : Call}, call.Linked → call.isTerminal = false →
      ∃ es, links es = [] ∧ call.Trades s (f call s) es none none)
    (hl : callback.isClose = false) (hr : callback.isReady = false) :
    ∃ es gone?, r.Trades s (r.withCall f s) callback es gone? := by
  cases hc : r.call?
  case none =>
    rw [withCall_of_none hc]
    exact ⟨_, _, trades_nothing h (.inl hc) hr⟩
  case some call =>
    have ⟨es, hn, ht⟩ := hf (h.linked hc) (h.live hc)
    rw [withCall_of_call hc]
    exact ⟨es, none, .of_call hc ht (taken?_of_handings hr (handings_of_links hn))
      (givesUp_iff hc (closings_of_links hn) hl)⟩

theorem receive_trades (c : Surroundings) (data : Bytes) (endStream : Bool) (s : Shared) (h : r.Linked) :
    ∃ es gone?,
      r.Trades s (r.receive c data endStream s).2 (.event (.clusterData data endStream)) es gone? := by
  cases hc : r.call?
  case none =>
    have hx : (r.receive c data endStream s).2 = (r, s) := by simp [receive, hc]
    rw [hx]
    exact ⟨_, _, trades_nothing h (.inl hc) rfl⟩
  case some call =>
    obtain ⟨es, gone?, hcl, hn, ht⟩ := call.receive_trades c data endStream s (h.linked hc) (h.live hc)
    rw [receive_of_call hc]
    exact ⟨es, gone?, .of_call hc ht (by simp [taken?, hn]) (givesUp_iff hc hcl rfl)⟩

theorem handle_trades (c : Surroundings) (callback : Callback) (s : Shared) (h : r.Linked) :
    ∃ es gone?, r.Trades s (r.handle c callback s) callback es gone? := by
  cases callback
  case destroy => exact ⟨_, _, destroy_trades r s⟩
  case event event =>
    cases event
    case transportBegin           => exact ⟨_, _, trades_nothing h (.inr rfl) rfl⟩
    case messageBegin message     => exact beginMessage_trades c r message s
    case messageBody body         =>
      exact withCall_trades _ s h (fun h => Call.writeBody_trades c body r.passthrough s h) rfl rfl
    case messageEnd               => exact withCall_trades _ s h (Call.endRequest_trades c s) rfl rfl
    case transportEnd             => exact endTransport_trades s h
    case poolReady id host        => exact poolReady_trades c r id host s
    case poolFailure reason host? =>
      exact withCall_trades _ s h (fun {call} _ _ => call.failToConnect_trades reason host? s) rfl rfl
    case clusterData data ended   => exact receive_trades c data ended s h
    case remoteClose              => exact lose_trades .remoteClose s rfl h rfl
    case localClose               => exact lose_trades .localClose s rfl h rfl

theorem handed?_of_taken? {es : List Effect} {id : ConnectionId} (h : r.taken? es callback = some id) :
    callback.handed? es = some id := by
  unfold taken? at h
  split at h
  case h_1 =>
    cases hc : r.call? <;> simp only [hc, Option.map_none, Option.map_some, reduceCtorEq] at h
    exact h
  case h_2 hn =>
    unfold Callback.handed?
    split
    case h_1 => exact absurd rfl (hn _ _)
    case h_2 => exact h

theorem connection?_of_hold {id : ConnectionId} {ref : StateRef} (h : r.hold? = some (id, ref)) :
    r.connection? = some id := by
  have ⟨call, hc, hh⟩ := Option.bind_eq_some_iff.mp h
  have ⟨_, hi, hr⟩ := Option.bind_eq_some_iff.mp hh
  have ⟨_, _, he⟩ := Option.map_eq_some_iff.mp hr
  rw [connection?_of_call hc, hi, (Prod.mk.inj he).1]

theorem Linked.exists_hold {id : ConnectionId} (h : r.Linked) (hi : r.connection? = some id) :
    ∃ ref, r.hold? = some (id, ref) := by
  have ⟨call, hc, hi⟩ := Option.bind_eq_some_iff.mp hi
  have ⟨ref, hr⟩ := Option.isSome_iff_exists.mp ((h.linked hc).state (by simp [hi]))
  exact ⟨ref, by simp [hold?_of_call hc, Call.hold?, hi, hr]⟩

theorem or_connection?_of_hold {es : List Effect} {gone? : Option ConnectionId} {id : ConnectionId}
    (h : (r.taken? es callback).or ((if gone?.isSome then none else r.hold?).map (·.1)) = some id) :
    (r.taken? es callback).or r.connection? = some id := by
  cases ht : r.taken? es callback
  case some _ => simpa [ht] using h
  case none   =>
    cases gone?
    case some _ => simp [ht] at h
    case none   =>
      have ⟨ref, hh⟩ : ∃ ref, r.hold? = some (id, ref) := by simpa [ht] using h
      simpa using connection?_of_hold hh

namespace Trades

variable {es : List Effect} {gone? : Option ConnectionId} {id : ConnectionId} {ref : StateRef}

-- An entry goes away just if it is given up.
theorem find?_ne_iff (h : r.Trades s x callback es gone?) (hw : s.connections.WellFormed)
    (hf : s.connections.find? id = some ref) :
    x.2.connections.find? id ≠ some ref ↔ gone? = some id :=
  h.deal.grows.find?_ne_iff hw hf

-- An entry that is there in its place is a new one.
theorem renewed (h : r.Trades s x callback es gone?) (hg : gone? = some id)
    (hf : x.2.connections.find? id = some ref) :
    r.taken? es callback = some id ∧ s.connections.states.length ≤ ref.index := by
  subst hg
  exact h.deal.grows.entered ConnectionTable.find?_remove_self hf

-- A request goes to the connection that is handed over, or else to the one that the call has.
theorem begins_isSome (h : r.Trades s x callback es gone?) (hb : begins es ≠ []) :
    ((r.taken? es callback).or r.connection?).isSome := by
  have ⟨_, hi⟩ := Option.isSome_iff_exists.mp (h.deal.isSome_of_begun hb)
  rw [or_connection?_of_hold hi]
  rfl

-- A call that goes on after its request has begun has that connection.
theorem begins_connection? (h : r.Trades s x callback es gone?) (hb : begins es ≠ [])
    (hi : x.1.connection? = some id) : (r.taken? es callback).or r.connection? = some id :=
  have ⟨_, hh⟩ := h.linked.exists_hold hi
  or_connection?_of_hold (h.deal.hold_of_begun hb hh)

end Trades

end Router

end RpcProxy
