import RpcProxy.Proofs.Router.Conduct

namespace RpcProxy

-- What a router is called with.
inductive Callback
  | event (event : RouterEvent)
  | destroy

-- How far the decoder has come with a message.
inductive Phase
  | between
  | body
  | ended

-- A message may begin at any time, which leaves the one before incomplete.
def Phase.next? : Phase → RouterEvent → Option Phase
  | phase,  .transportBegin => some phase
  | _,      .messageBegin _ => some .body
  | .body,  .messageBody _  => some .body
  | .body,  .messageEnd     => some .ended
  | .ended, .transportEnd   => some .between
  | _,      _               => none

-- An event by which a call goes on. The others begin or end a call, or mean nothing to it.
def RouterEvent.isForCall : RouterEvent → Bool
  | transportBegin => false
  | messageBegin _ => false
  | transportEnd   => false
  | _              => true

namespace Router

def isPending (r : Router) : Bool :=
  r.call?.any (·.pending)

def isConnected (r : Router) : Bool :=
  r.call?.any (·.connection?.isSome)

def handle (c : Surroundings) (r : Router) (callback : Callback) (s : Shared) : Router × Shared :=
  match callback with
  | .event event => (r.apply c event s).2
  | .destroy     => r.destroy s

end Router

inductive Legal (r : Router) : Phase → Callback → Phase → Prop
  | decode (order : phase.next? event = some phase') (ready : r.isPaused = false) :
    Legal r phase (.event event) phase'
  | poolReady (pending : r.isPending) : Legal r phase (.event (.poolReady connection host)) phase
  | poolFailure (pending : r.isPending) : Legal r phase (.event (.poolFailure reason host?)) phase
  | clusterData (connected : r.isConnected) : Legal r phase (.event (.clusterData data endStream)) phase
  | remoteClose (connected : r.isConnected) : Legal r phase (.event .remoteClose) phase
  | localClose (connected : r.isConnected) : Legal r phase (.event .localClose) phase
  | destroy : Legal r phase .destroy .between

structure Turn where
  before   : Router
  callback : Callback
  effects  : List Effect
  after    : Router

-- A run with its turns, the latest one first. Between any two turns the other routers may have changed what is
-- shared in any way.
inductive Run (c : Surroundings) (id : RouterId) (table : RouteTable) :
    Router → Phase → List Turn → Prop
  | start : Run c id table { id, table } .between []
  | turn (run : Run c id table r phase turns) (legal : Legal r phase callback phase')
    (hx : r.handle c callback s = (r', s')) :
    Run c id table r' phase' (⟨r, callback, s.since s', r'⟩ :: turns)

namespace Router

-- What holds of a router between its turns.
structure Serves (r : Router) (id : RouterId) : Prop where
  named  : r.id = id
  live   : ∀ {call}, r.call? = some call → call.isTerminal = false
  sound  : ∀ {call}, r.call? = some call → call.Sound
  router : ∀ {call}, r.call? = some call → call.router = id

-- What a turn comes to.
inductive Turns (c : Surroundings) (r : Router) (s : Shared) : Callback → Router × Shared → Prop
  | begins (h : Begins r.id message ((r.discard s).emit (.drew (c.random (r.discard s).transcript))) x) :
    Turns c r s (.event (.messageBegin message)) x
  | drives (hc : r.call? = some call) (h : r.Drives call s x) (he : event.isForCall) :
    Turns c r s (.event event) x
  | completes (hc : r.call? = some call) (ho : call.message.isOneway) :
    Turns c r s (.event .transportEnd) ({ r with call? := none }, (call.finish s).2)
  | idles (he : ∀ message, event ≠ .messageBegin message) : Turns c r s (.event event) (r, s)
  | destroys : Turns c r s .destroy (r.destroy s)

variable {c : Surroundings} {r : Router} {call : Call} {s : Shared} {id : RouterId}

theorem exists_of_isPending (h : r.isPending) : ∃ call, r.call? = some call ∧ call.pending := by
  simpa [isPending, Option.any_eq_true] using h

theorem exists_of_isConnected (h : r.isConnected) :
    ∃ call, r.call? = some call ∧ call.connection?.isSome := by
  simpa [isConnected, Option.any_eq_true] using h

-- A call that holds a connection does not wait for another one.
theorem Serves.not_pending (h : r.Serves id) (hc : r.call? = some call) (hi : call.connection?.isSome) :
    call.pending = false := by
  cases hp : call.pending
  case false => rfl
  case true  => simp [(h.sound hc hp).1] at hi

theorem decode_turns (h : r.Serves id) (ho : Phase.next? phase event = some phase') :
    Turns c r s (.event event) (r.apply c event s).2 := by
  cases event <;> simp only [Phase.next?, reduceCtorEq] at ho
  case transportBegin => exact .idles nofun
  case messageBegin message => exact .begins (beginMessage_begins c r message s)
  case messageBody body =>
    cases hc : r.call?
    case none      => simpa [apply, withCall_of_none hc] using .idles nofun
    case some call =>
      have hd := Call.writeBody_conduct c body r.passthrough s (h.live hc) (h.sound hc)
      exact .drives hc (withCall_drives (fun call => call.writeBody c body r.passthrough) hc hd) rfl
  case messageEnd =>
    cases hc : r.call?
    case none      => simpa [apply, withCall_of_none hc] using .idles nofun
    case some call =>
      have hd := Call.endRequest_conduct c s (h.live hc) (h.sound hc)
      exact .drives hc (withCall_drives (·.endRequest c) hc hd) rfl
  case transportEnd =>
    by_cases ho : ∃ call, r.call? = some call ∧ call.message.isOneway
    case pos =>
      have ⟨call, hc, ho⟩ := ho
      simpa [apply, endTransport_of_oneway hc ho] using .completes hc ho
    case neg =>
      have hn : ∀ call, r.call? = some call → call.message.isOneway = false := by simpa using ho
      simpa [apply, endTransport_of_other hn] using .idles nofun

theorem handle_turns (c : Surroundings) (s : Shared) (h : r.Serves id)
    (hl : Legal r phase callback phase') : Turns c r s callback (r.handle c callback s) := by
  cases hl
  case decode event _ ho => exact decode_turns h ho
  case poolReady hp =>
    have ⟨call, hc, _⟩ := exists_of_isPending hp
    exact .drives hc (poolReady_drives hc) rfl
  case poolFailure reason host? hp =>
    have ⟨call, hc, hp⟩ := exists_of_isPending hp
    have hd : call.Conduct s (call.failToConnect reason host? s) :=
      Call.failToConnect_conduct host? s fun _ => (h.sound hc hp).2
    exact .drives hc (withCall_drives (·.failToConnect reason host?) hc hd) rfl
  case clusterData hi =>
    have ⟨call, hc, hi⟩ := exists_of_isConnected hi
    exact .drives hc (receive_drives hc (h.live hc) (h.not_pending hc hi)) rfl
  case remoteClose hi =>
    have ⟨call, hc, _⟩ := exists_of_isConnected hi
    exact .drives hc (withCall_drives (·.lose .remoteClose) hc (Call.lose_conduct s nofun)) rfl
  case localClose hi =>
    have ⟨call, hc, _⟩ := exists_of_isConnected hi
    exact .drives hc (withCall_drives (·.lose .localClose) hc (Call.lose_conduct s nofun)) rfl
  case destroy => exact .destroys

@[simp]
theorem keep_id : (r.keep call).id = r.id :=
  rfl

theorem keep_call? : (r.keep call).call? = if call.isTerminal then none else some call :=
  rfl

theorem Serves.of_idle (hi : r.id = id) (hc : r.call? = none) : r.Serves id := by
  constructor
  all_goals simp [hc, hi]

-- An operation keeps the call of a router in order, or the router gives the call up.
theorem Serves.keep {y : Call × Shared} (hi : r.id = id) (hr : call.router = id)
    (h : call.Conduct s y) : (r.keep y.1).Serves id := by
  cases h
  case goesOn es ht hc live sound =>
    have hk : (r.keep y.1).call? = some y.1 := by simp [keep_call?, live]
    constructor
    all_goals simp only [hk, keep_id, Option.some.injEq, forall_eq']
    · exact hi
    · exact live
    · exact sound
    · exact hc.router.trans hr
  case finishes h _ => exact .of_idle hi (by simp [keep_call?, h.ended])
  case fails h _    => exact .of_idle hi (by simp [keep_call?, h.ended])

theorem Serves.drives {x : Router × Shared} (hr : r.Serves id) (hc : r.call? = some call)
    (h : r.Drives call s x) : x.1.Serves id := by
  have ⟨y, hy, hx⟩ := h
  exact hx ▸ .keep hr.named (hr.router hc) hy

theorem Serves.begins {x : Router × Shared} (h : Begins id message s x) : x.1.Serves id := by
  cases h
  case refused named _ _ idle _ _ => exact .of_idle named idle
  case created _ named _ y h hx router _ _ _ => exact hx ▸ .keep named router h

theorem Turns.serves {x : Router × Shared} (h : Turns c r s callback x) (hr : r.Serves id) :
    x.1.Serves id := by
  cases h
  case begins h      => exact .begins (hr.named ▸ h)
  case drives hc _ h => exact hr.drives hc h
  case completes     => exact .of_idle hr.named rfl
  case idles         => exact hr
  case destroys      => exact .of_idle hr.named rfl

end Router

theorem Run.serves {id : RouterId} (run : Run c id table r phase turns) : r.Serves id := by
  induction run
  case start => exact .of_idle rfl rfl
  case turn legal hx ih =>
    exact (hx ▸ Router.handle_turns c _ ih legal).serves ih

-- Only the pools may answer in different ways at different times.
def Surroundings.plain (acquire : Transcript → PoolId → Acquisition) : Surroundings where
  random _                 := 0
  cluster? _ _             := some { maintenance := false, options? := none }
  pool? _ _                := some ⟨"pool"⟩
  acquire                  := acquire
  downstream _ _           := ⟨.framed, .binary⟩
  upgradeRequest? _ _ _ _  := none
  readUpgrade _ _ _        := ⟨true, []⟩
  marksUpgraded _ _ _      := true
  encodeBegin _ _ _ _      := []
  encodeBody _ _ _ body    := body
  encodeEnd _ _ _          := []
  frame _ _ _ _ bytes      := bytes
  readResponse _ _ _       := ⟨.complete, []⟩
  responseKind? _ _        := some .reply
  responseSucceeded _ _    := true

-- Every call goes to one cluster.
def RouteTable.toCluster (cluster : String) : RouteTable where
  name  := "all"
  rules := [{
    matcher := ⟨.method "", false⟩, headers := [], target := .static cluster, criteria := none,
    rateLimits := ⟨[]⟩, stripService := false }]

end RpcProxy
