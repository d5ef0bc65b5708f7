import Mathlib.Logic.ExistsUnique
import RpcProxy.Proofs.Call.Opening
import RpcProxy.Proofs.Router.Awaiting

namespace RpcProxy

-- The ways in which a message is received.
inductive Reception
  | started
  | waiting
  | failed

-- The router answers the beginning of a message in this way, with what it has done until then.
def Reception.Describes (id : RouterId) (status : DecodingStatus) (r : Router) (es : List Effect) : Reception → Prop
  | started => status = .continue ∧ notices es = [] ∧ ∃ call, r.call? = some call ∧ call.state = .inFlight ∧
      .encodedBegin id call.message call.buffer ∈ es
  | waiting => status = .stop ∧ notices es = [] ∧ r.isPaused
  | failed  => status = .stop ∧ (notices es).length = 1 ∧ r.isActive = false

namespace Router

-- What may be called at any time: the decoder waits while the router is paused, a pool answers only while a connection
-- is awaited, and a connection tells only the call that holds it.
inductive Allows (r : Router) : Callback → Prop
  | decode (h : event.isDecode) (ready : r.isPaused = false) : Allows r (.event event)
  | poolReady (pending : r.isPending) : Allows r (.event (.poolReady connection host))
  | poolFailure (pending : r.isPending) : Allows r (.event (.poolFailure reason host?))
  | clusterData (connected : r.isConnected) : Allows r (.event (.clusterData data endStream))
  | remoteClose (connected : r.isConnected) : Allows r (.event .remoteClose)
  | localClose (connected : r.isConnected) : Allows r (.event .localClose)
  | destroy : Allows r .destroy

end Router

-- A run from any state of a router up to the next message, the latest turn first. Between any two turns the other
-- routers may have changed what is shared in any way.
inductive Onward (c : Surroundings) (r₀ : Router) : Router → List Turn → Prop
  | start : Onward c r₀ r₀ []
  | turn (onward : Onward c r₀ r turns) (allowed : r.Allows callback)
      (same : ∀ message, callback ≠ .event (.messageBegin message)) (hx : r.handle c callback s = (r', s')) :
    Onward c r₀ r' (⟨r, callback, s.since s', r'⟩ :: turns)

-- All that is done in some turns.
def Turn.effectsOf (turns : List Turn) : List Effect :=
  turns.reverse.flatMap (·.effects)

namespace Router

-- The request of the call under way is in flight.
def isInFlight (r : Router) : Bool :=
  r.call?.any (·.state == .inFlight)

-- The call under way waits, or it makes nobody wait.
def Stands (r : Router) (id : RouterId) (waiting : Bool) : Prop :=
  ∀ call, r.call? = some call → call.Stance waiting ∧ call.router = id

-- How a router has come to its state by some effects.
inductive Progress (id : RouterId) (waiting : Bool) (r : Router) (es : List Effect) : Prop
  | stays (told : continuations es = []) (unopened : opens es = false) (stands : r.Stands id waiting)
  | begins (waited : waiting) (told : continuations es = [.continued id]) (opened : opens es)
      (stands : r.Stands id false)

variable {c : Surroundings} {r r' : Router} {call : Call} {s : Shared} {id : RouterId} {message : Message}
  {waiting : Bool} {es es' : List Effect} {x : Call × Shared} {callback : Callback} {event : RouterEvent}

theorem isInFlight_of_none (hc : r.call? = none) : r.isInFlight = false := by
  simp [isInFlight, hc]

theorem keep_isInFlight : (r.keep call).isInFlight = (call.state == .inFlight) := by
  cases hs : call.state <;> simp [isInFlight, keep, Call.isTerminal, CallState.isTerminal, hs]

-- The decoder may go on if the request of the call is in flight.
theorem start_status (c : Surroundings) (call : Call) (s : Shared) (state : call.state = .acquiring) :
    (call.start c s).1 = if (call.start c s).2.1.state == .inFlight then .continue else .stop := by
  cases ha : c.acquire s.transcript call.pool
  case pending             => simp [Call.start, ha, state]
  case ready k host        => simp [Call.start, ha]
  case failed reason host? =>
    have hs : (call.start c s).2.1.state ≠ .inFlight := by
      intro hs
      have dead : (call.start c s).2.1.isTerminal := by
        rw [Call.start_of_failed ha]
        exact Call.fail_isTerminal
      simp [Call.isTerminal, hs, CallState.isTerminal] at dead
    rw [if_neg (by simpa using hs)]
    simp [Call.start, ha]

-- The status by which a message is answered, as it should be.
def Answers (x : DecodingStatus × Router × Shared) : Prop :=
  x.1 = if x.2.1.isInFlight then .continue else .stop

theorem reply_answers {e : Exception} (hc : r.call? = none) : Answers (.stop, r, r.reply e s) := by
  simp [Answers, isInFlight_of_none hc]

theorem launch_answers (c : Surroundings) (r : Router) (route : Destination) (leg : Leg) (pool : PoolId)
    (message : Message) (s : Shared) : Answers (r.launch c route leg pool message s) := by
  let call : Call := {
    router := r.id, cluster := route.cluster, pool, leg,
    message := if route.stripService then message.stripService.1 else message }
  have hs := start_status c call (s.emit (.madeCodec r.id leg)) rfl
  have hk : (r.launch c route leg pool message s).2.1 = r.keep (call.start c (s.emit (.madeCodec r.id leg))).2.1 := rfl
  rw [Answers, hk, keep_isInFlight]
  exact hs

theorem balance_answers (c : Surroundings) (route : Destination) (cluster : Cluster) (message : Message) (s : Shared)
    (hc : r.call? = none) : Answers (r.balance c route cluster message s) := by
  unfold balance
  dsimp only
  cases c.pool? s.transcript ⟨route.cluster, .default, route.criteria, message.headers⟩
  case none      => exact reply_answers hc
  case some pool => exact launch_answers ..

theorem forward_answers (c : Surroundings) (route : Destination) (message : Message) (s : Shared)
    (hc : r.call? = none) : Answers (r.forward c route message s) := by
  unfold forward
  dsimp only
  cases c.cluster? s.transcript route.cluster
  case none         => exact reply_answers hc
  case some cluster =>
    dsimp only
    split
    case isTrue  => exact reply_answers hc
    case isFalse => exact balance_answers c route cluster message _ hc

theorem beginMessage_answers (c : Surroundings) (r : Router) (message : Message) (s : Shared) :
    Answers (r.beginMessage c message s) := by
  unfold beginMessage
  dsimp only
  cases r.table.route? message (c.random (r.discard s).transcript)
  case none       => exact reply_answers rfl
  case some route => exact forward_answers c route message _ rfl

-- The stance of the call under way is that of its router.
theorem Stands.of_call (hc : r.call? = some call) (stance : call.Stance waiting) (router : call.router = id) :
    r.Stands id waiting := by
  intro call' hc'
  obtain rfl := Option.some.inj (hc.symm.trans hc')
  exact ⟨stance, router⟩

theorem Stands.of_none (hc : r.call? = none) : r.Stands id waiting := by
  simp [Stands, hc]

theorem Stands.isPaused (h : r.Stands id waiting) : r.Stands id r.isPaused := by
  intro call hc
  obtain ⟨stance, router⟩ := h call hc
  rw [isPaused_of_call hc, stance.isPaused_eq]
  exact ⟨stance, router⟩

-- A call that waits is not in flight.
theorem Stands.not_isInFlight (h : r.Stands id true) : r.isInFlight = false := by
  cases hc : r.call?
  case none      => exact isInFlight_of_none hc
  case some call =>
    have paused : call.isPaused := (h call hc).1.isPaused_eq
    cases hs : call.state <;> simp_all [isInFlight, Call.isPaused]

-- A router that has done what comes before a call is described by what becomes of the call.
theorem launch_describes {s' : Shared} (c : Surroundings) (r : Router) (route : Destination) (leg : Leg) (pool : PoolId)
    (message : Message) (ht : s'.transcript = s.transcript ++ es) (silent : notices es = []) (named : r.id = id) :
    let x := r.launch c route leg pool message s'
    (∃ way : Reception, way.Describes id (if x.2.1.isInFlight then .continue else .stop) x.2.1 (s.since x.2.2)) ∧
      x.2.1.Stands id x.2.1.isPaused := by
  let call : Call := {
    router := r.id, cluster := route.cluster, pool, leg,
    message := if route.stripService then message.stripService.1 else message }
  let y := (call.start c (s'.emit (.madeCodec r.id leg))).2
  have hs {es' : List Effect} (hy : y.2.transcript = (s'.emit (.madeCodec r.id leg)).transcript ++ es') :
      s.since y.2 = es ++ .madeCodec r.id leg :: es' :=
    Shared.since_eq (by simp [hy, ht])
  have hn (es' : List Effect) : notices (es ++ .madeCodec r.id leg :: es') = notices es' := by
    simp [silent]
  have h : call.Receives (s'.emit (.madeCodec r.id leg)) y := Call.start_receives c _ rfl rfl rfl rfl
  show (∃ way : Reception, way.Describes id (if (r.keep y.1).isInFlight then .continue else .stop) (r.keep y.1)
    (s.since y.2)) ∧ (r.keep y.1).Stands id (r.keep y.1).isPaused
  cases h
  case starts es' hy told encoded state stance router =>
    have hc : (r.keep y.1).call? = some y.1 := by simp [keep_call?, Call.isTerminal, state, CallState.isTerminal]
    have hk : (r.keep y.1).isInFlight := by simp [keep_isInFlight, state]
    refine ⟨⟨.started, ?_, ?_, y.1, hc, state, ?_⟩, (Stands.of_call hc stance (router.trans named)).isPaused⟩
    · rw [hk, if_pos rfl]
    · rw [hs hy, hn, told]
    · rw [hs hy]
      exact List.mem_append_right _ (.tail _ (named ▸ encoded))
  case waits es' hy told stance router =>
    have paused : y.1.isPaused := stance.isPaused_eq
    have live : y.1.isTerminal = false := by
      cases ht : y.1.isTerminal
      case false => rfl
      case true  => simp [Call.isPaused_of_isTerminal ht] at paused
    have hc : (r.keep y.1).call? = some y.1 := by simp [keep_call?, live]
    have stands : (r.keep y.1).Stands id true := .of_call hc stance (router.trans named)
    refine ⟨⟨.waiting, ?_, ?_, ?_⟩, stands.isPaused⟩
    · simp [stands.not_isInFlight]
    · rw [hs hy, hn, told]
    · rw [keep_isPaused, paused]
  case fails es' hy dead told =>
    have hc : (r.keep y.1).call? = none := by simp [keep_call?, dead]
    refine ⟨⟨.failed, ?_, ?_, ?_⟩, Stands.of_none hc⟩
    · simp [isInFlight_of_none hc]
    · rw [hs hy, hn, told]
    · simp [isActive, hc]

-- What is done before a pool is chosen is nothing to the caller.
theorem exists_silent_of_routed {s' : Shared} {n : Nat} (routed : ((r.discard s).emit (.drew n)).Routed s' es) :
    ∃ lead, s'.transcript = s.transcript ++ lead ∧ notices lead = [] := by
  have discarded : notices r.discardEffects = [] := by
    cases hc : r.call? <;> simp [discardEffects, hc]
  have silent := (aside_of_routing routed.routing).silent
  exact ⟨r.discardEffects ++ .drew n :: es, by simp [routed.transcript], by simp [discarded, silent]⟩

theorem beginMessage_describes (c : Surroundings) (r : Router) (message : Message) (s : Shared) :
    let x := r.beginMessage c message s
    (∃ way : Reception, way.Describes r.id x.1 x.2.1 (s.since x.2.2)) ∧ x.2.1.Stands r.id x.2.1.isPaused := by
  have hs : (r.beginMessage c message s).1 = _ := beginMessage_answers c r message s
  have he : (r.beginMessage c message s).2 = (r.beginMessage (c.withPools c.acquire) message s).2 := rfl
  dsimp only
  rw [hs, he]
  cases beginMessage_reaches c r message s
  case answer r' e s' es routed named idle hx =>
    obtain ⟨lead, ht, silent⟩ := exists_silent_of_routed routed
    have ht : (r'.reply e s').transcript = s.transcript ++ (lead ++ [.replied r'.id e true]) := by
      rw [reply, Shared.emit_transcript, ht, List.append_assoc]
    rw [hx]
    refine ⟨⟨.failed, ?_, ?_, ?_⟩, Stands.of_none idle⟩
    · simp [isInFlight_of_none idle]
    · simp [Shared.since_eq ht, silent]
    · simp [isActive, idle]
  case pool r' route leg pool s' es routed named _ hx =>
    obtain ⟨lead, ht, silent⟩ := exists_silent_of_routed routed
    rw [hx]
    exact launch_describes _ r' route leg pool message ht silent named

theorem Progress.append (h : Progress id waiting r es)
    (h' : ∀ waiting, r.Stands id waiting → Progress id waiting r' es') : Progress id waiting r' (es ++ es') := by
  cases h
  case stays told unopened stands =>
    cases h' waiting stands
    case stays told' unopened' stands' =>
      exact .stays (by simp [told, told']) (by simp [opens_append, unopened, unopened']) stands'
    case begins waited told' opened stands' =>
      exact .begins waited (by simp [told, told']) (by simp [opens_append, opened]) stands'
  case begins waited told opened stands =>
    -- A request that has begun does not begin again.
    cases h' false stands
    case stays told' _ stands' => exact .begins waited (by simp [told, told']) (by simp [opens_append, opened]) stands'
    case begins waited' _ _ _  => cases waited'

theorem Stands.idle (h : r.Stands id waiting) (s : Shared) : Progress id waiting r (s.since s) := by
  rw [Shared.since_eq (List.append_nil _).symm]
  exact .stays rfl rfl h

-- The call under way is driven on.
theorem keep_progress (hc : r.call? = some call) (stands : r.Stands id waiting) (h : call.Opens waiting s x) :
    Progress id waiting (r.keep x.1) (s.since x.2) := by
  obtain ⟨_, rfl⟩ := stands call hc
  have kept {waiting : Bool} (stance : x.1.isTerminal = false → x.1.Stance waiting ∧ x.1.router = call.router) :
      (r.keep x.1).Stands call.router waiting := by
    intro call' hk
    cases ht : x.1.isTerminal <;> simp [keep_call?, ht] at hk
    exact hk ▸ stance ht
  cases h
  case stays es ht told unopened stance =>
    rw [Shared.since_eq ht]
    exact .stays told unopened (kept stance)
  case begins es ht waited told opened stance =>
    rw [Shared.since_eq ht]
    exact .begins waited told opened (kept stance)

theorem decode_progress (c : Surroundings) (s : Shared) (stands : r.Stands id waiting) (decode : event.isDecode)
    (ready : r.isPaused = false) (same : ∀ message, event ≠ .messageBegin message) :
    Progress id waiting (r.apply c event s).2.1 (s.since (r.apply c event s).2.2) := by
  cases hc : r.call?
  case none =>
    have hx : (r.apply c event s).2 = (r, s) := by
      cases event <;> simp only [RouterEvent.isDecode, Bool.false_eq_true] at decode
      case messageBegin message => exact absurd rfl (same message)
      all_goals simp [apply, endTransport, withCall, hc]
    rw [hx]
    exact stands.idle s
  case some call =>
    obtain ⟨stance, _⟩ := stands call hc
    obtain rfl : waiting = false := by rw [← stance.isPaused_eq, ← isPaused_of_call hc, ready]
    cases event <;> simp only [RouterEvent.isDecode, Bool.false_eq_true] at decode
    case transportBegin       => exact stands.idle s
    case messageBegin message => exact absurd rfl (same message)
    case messageBody body     =>
      rw [apply, withCall_of_call hc]
      exact keep_progress hc stands (Call.writeBody_opens c body r.passthrough s stance)
    case messageEnd           =>
      rw [apply, withCall_of_call hc]
      exact keep_progress hc stands (Call.endRequest_opens c s stance)
    case transportEnd         =>
      cases ho : call.message.isOneway
      case false =>
        have hn : ∀ call, r.call? = some call → call.message.isOneway = false := by simp [hc, ho]
        rw [apply, endTransport_of_other hn]
        exact stands.idle s
      case true =>
        have hk : r.keep (call.finish s).1 = { r with call? := none } := by simp [keep, Call.finish_isTerminal]
        rw [apply, endTransport_of_oneway hc ho, ← hk]
        exact keep_progress hc stands (Call.finish_opens s)

theorem handle_progress (c : Surroundings) (s : Shared) (stands : r.Stands id waiting) (allowed : r.Allows callback)
    (same : ∀ message, callback ≠ .event (.messageBegin message)) :
    Progress id waiting (r.handle c callback s).1 (s.since (r.handle c callback s).2) := by
  cases allowed
  case decode event decode ready => exact decode_progress c s stands decode ready fun m h => same m (h ▸ rfl)
  case poolReady k host pending =>
    obtain ⟨call, hc, hp⟩ := exists_of_isPending pending
    obtain ⟨stance, _⟩ := stands call hc
    rw [handle, apply, poolReady_of_call hc]
    cases stance
    case acquiring _ reply  => exact keep_progress hc stands (Call.connect_opens c k host s hp reply)
    case upgrading handed _ => simp [handed] at hp
    case ready handed _     => simp [handed] at hp
  case poolFailure reason host? pending =>
    obtain ⟨call, hc, _⟩ := exists_of_isPending pending
    rw [handle, apply, withCall_of_call hc]
    exact keep_progress hc stands (Call.failToConnect_opens host? s)
  case clusterData data endStream connected =>
    obtain ⟨call, hc, hi⟩ := exists_of_isConnected connected
    obtain ⟨stance, _⟩ := stands call hc
    simp only [handle, apply, receive_of_call hc]
    exact keep_progress hc stands (Call.receive_opens data endStream s stance hi)
  case remoteClose connected =>
    obtain ⟨call, hc, _⟩ := exists_of_isConnected connected
    rw [handle, apply, withCall_of_call hc]
    exact keep_progress hc stands (Call.lose_opens s)
  case localClose connected =>
    obtain ⟨call, hc, _⟩ := exists_of_isConnected connected
    rw [handle, apply, withCall_of_call hc]
    exact keep_progress hc stands (Call.lose_opens s)
  case destroy =>
    have quiet : continuations r.discardEffects = [] ∧ openings r.discardEffects = [] := by
      cases hc : r.call? <;> simp [discardEffects, hc]
    have hs : s.since (r.destroy s).2 = r.discardEffects := Shared.since_eq discard_transcript
    rw [handle, hs]
    exact .stays quiet.1 (opens_of_openings quiet.2) (Stands.of_none rfl)

end Router

theorem Turn.effectsOf_cons {turn : Turn} {turns : List Turn} :
    effectsOf (turn :: turns) = effectsOf turns ++ turn.effects := by
  simp [effectsOf]

theorem Onward.progress {c : Surroundings} {r₀ r : Router} {id : RouterId} {waiting : Bool}
    (onward : Onward c r₀ r turns) (stands : r₀.Stands id waiting) : r.Progress id waiting (Turn.effectsOf turns) := by
  induction onward
  case start => exact .stays rfl rfl stands
  case turn s r' s' _ allowed same hx ih =>
    rw [Turn.effectsOf_cons]
    exact ih.append fun waiting stands => by simpa [hx] using Router.handle_progress c s stands allowed same

namespace Reception

variable {id : RouterId} {status : DecodingStatus} {r : Router} {es : List Effect} {way way' : Reception}

theorem Describes.unique (h : way.Describes id status r es) (h' : way'.Describes id status r es) : way = way' := by
  have hp : r.isPaused → r.isActive := by
    cases hc : r.call? <;> simp [Router.isPaused, Router.isActive, hc]
  cases way <;> cases way' <;> simp only [Describes] at h h' <;> simp_all

end Reception

-- Every message is received in exactly one way, and the decoder is told nothing meanwhile. Up to the next message it is
-- told once to go on if it has to wait and the request begins, and otherwise not at all.
theorem Router.beginMessage_received (c : Surroundings) (r : Router) (message : Message) (s : Shared) :
    let x := r.beginMessage c message s
    (∃! way : Reception, way.Describes r.id x.1 x.2.1 (s.since x.2.2)) ∧ continuations (s.since x.2.2) = [] ∧
      ∀ r' turns, Onward c x.2.1 r' turns →
        (x.2.1.isPaused → r'.isInFlight → opens (Turn.effectsOf turns)) ∧
        continuations (Turn.effectsOf turns) =
          if x.2.1.isPaused && opens (Turn.effectsOf turns) then [.continued r.id] else [] := by
  obtain ⟨⟨way, describes⟩, stands⟩ := beginMessage_describes c r message s
  obtain ⟨_, _, told⟩ := apply_messageBegin c r message s
  refine ⟨⟨way, describes, fun way' h => h.unique describes⟩, told.since, fun r' turns onward => ?_⟩
  cases onward.progress stands
  case stays told unopened stands =>
    refine ⟨fun paused inFlight => ?_, by simp [told, unopened]⟩
    rw [paused] at stands
    simp [stands.not_isInFlight] at inFlight
  case begins waited told opened _ => exact ⟨fun _ _ => opened, by simp [told, waited, opened]⟩

-- The pool has a connection later.
theorem Router.beginMessage_received_later :
    let c := Surroundings.plain fun _ _ => .pending
    let x := Router.beginMessage c { id := ⟨0⟩, table := .toCluster "a" } (.call "ping") {}
    ∃ r turns, Onward c x.2.1 r turns ∧ x.2.1.isPaused ∧ r.isInFlight ∧
      continuations (Turn.effectsOf turns) = [.continued ⟨0⟩] := by
  intro c x
  let y := x.2.1.handle c (.event (.poolReady ⟨7⟩ ⟨"10.0.0.1:9090"⟩)) x.2.2
  have onward : Onward c x.2.1 y.1 _ := .turn .start (.poolReady rfl) (by simp) y.eta.symm
  obtain ⟨opened, told⟩ :=
    (beginMessage_received c { id := ⟨0⟩, table := .toCluster "a" } (.call "ping") {}).2.2 _ _ onward
  have paused : x.2.1.isPaused := rfl
  have inFlight : y.1.isInFlight := rfl
  exact ⟨_, _, onward, paused, inFlight, by rw [told, paused, opened paused inFlight]; rfl⟩

end RpcProxy
