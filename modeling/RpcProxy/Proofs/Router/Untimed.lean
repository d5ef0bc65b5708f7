import RpcProxy.Proofs.Call.Untimed
import RpcProxy.Proofs.Router.Awaiting

namespace RpcProxy.Router

variable {c : Surroundings} {answer answer' : Acquisition} {r : Router} {s s' : Shared} {event : RouterEvent}
  {es : List RouterEvent} {message : Message} {connection : ConnectionId} {host : Host}

theorem keep_matching {y y' : Call × Shared} (h : Matching y y') :
    Matching (r.keep y.1, y.2) (r.keep y'.1, y'.2) :=
  ⟨congrArg r.keep h.same, h.shared⟩

theorem withCall_matching {f f' : Call → Shared → Call × Shared} (h : s.Matches s')
    (hf : ∀ call, Matching (f call s) (f' call s')) : Matching (r.withCall f s) (r.withCall f' s') := by
  unfold withCall
  split
  case h_1 call _ => exact keep_matching (hf call)
  case h_2        => exact ⟨rfl, h⟩

-- An event means the same at any time.
theorem apply_matching (r : Router) (h : s.Matches s') (he : ∀ message, event ≠ .messageBegin message) :
    Matching (r.apply (c.untimed answer) event s).2 (r.apply (c.untimed answer') event s').2 := by
  cases event
  case transportBegin             => exact ⟨rfl, h⟩
  case messageBegin message       => exact absurd rfl (he message)
  case messageBody body           => exact withCall_matching h fun call => call.writeBody_matching body _ h
  case messageEnd                 => exact withCall_matching h fun call => call.endRequest_matching h
  case poolFailure reason host?   => exact withCall_matching h fun call => Call.fail_matching _ reason h
  case remoteClose                => exact withCall_matching h fun call => call.lose_matching .remoteClose h
  case localClose                 => exact withCall_matching h fun call => call.lose_matching .localClose h
  case transportEnd =>
    simp only [apply, endTransport]
    split
    case h_1 call _ =>
      split
      · exact ⟨rfl, (call.finish_matching h).shared⟩
      · exact ⟨rfl, h⟩
    case h_2 => exact ⟨rfl, h⟩
  case poolReady connection host =>
    simp only [apply, poolReady]
    split
    case h_1 call _ => exact keep_matching (call.connect_matching call.pending call.pending connection host h)
    case h_2        => exact ⟨rfl, ((h.emit _).forget connection).emit _⟩
  case clusterData data endStream =>
    simp only [apply, receive]
    split
    case h_1 call _ => exact keep_matching (call.receive_matching data endStream h)
    case h_2        => exact ⟨rfl, h⟩

theorem applyAll_matching {x x' : Router × Shared} (h : Matching x x')
    (he : ∀ e ∈ es, ∀ message, e ≠ .messageBegin message) :
    Matching (x.1.applyAll (c.untimed answer) x.2 es) (x'.1.applyAll (c.untimed answer') x'.2 es) := by
  induction es generalizing x x'
  case nil         => exact h
  case cons e _ ih =>
    have ⟨he, hes⟩ := List.forall_mem_cons.mp he
    rw [applyAll_cons, applyAll_cons, h.same]
    exact ih (x'.1.apply_matching h.shared he) hes

theorem Awaits.ne_messageBegin (h : r.Awaits c s es) : ∀ e ∈ es, ∀ message, e ≠ .messageBegin message := by
  induction h
  case nothing             => exact List.forall_mem_nil _
  case connection _ _ _ ih => exact List.forall_mem_cons.mpr ⟨nofun, ih⟩
  case reply _ _ _ ih      => exact List.forall_mem_cons.mpr ⟨nofun, ih⟩

-- What is awaited does not depend on the times either.
theorem Awaits.matching (ha : r.Awaits (c.untimed answer) s es) (h : s.Matches s') :
    r.Awaits (c.untimed answer') s' es := by
  induction ha generalizing s'
  case nothing hp => exact .nothing hp
  case connection es r s connection host call hc hs _ ih =>
    have hx : Matching (r.apply (c.untimed answer) (.poolReady connection host) s).2
        (r.apply (c.untimed answer') (.poolReady connection host) s').2 := r.apply_matching h nofun
    exact .connection call hc hs (hx.same ▸ ih hx.shared)
  case reply es r s data endStream call hc hs _ ih =>
    have hx : Matching (r.apply (c.untimed answer) (.clusterData data endStream) s).2
        (r.apply (c.untimed answer') (.clusterData data endStream) s').2 := r.apply_matching h nofun
    exact .reply call hc hs (hx.same ▸ ih hx.shared)

-- A call whose connection comes later goes on as one that was given the connection when it began.
theorem launch_matching (r : Router) (route : Destination) (leg : Leg) (pool : PoolId) (message : Message)
    (s : Shared) :
    let x := (r.launch (c.untimed .pending) route leg pool message s).2
    Matching (x.1.apply (c.untimed .pending) (.poolReady connection host) x.2).2
      (r.launch (c.untimed (.ready connection host)) route leg pool message s).2 := by
  let call : Call := {
    router := r.id, cluster := route.cluster, pool, leg,
    message := if route.stripService then message.stripService.1 else message }
  let s := s.emit (.madeCodec r.id leg)
  have h : (s.emit (.acquired pool .pending)).Matches (s.emit (.acquired pool (.ready connection host))) :=
    Shared.Matches.append ⟨rfl, rfl⟩ rfl rfl rfl rfl
  exact keep_matching (call.connect_matching true false connection host h)

theorem messageBegin_matching (r : Router) (message : Message) (connection : ConnectionId) (host : Host)
    (s : Shared) (hp : (r.apply (c.untimed .pending) (.messageBegin message) s).2.1.isPaused) :
    let x := (r.apply (c.untimed .pending) (.messageBegin message) s).2
    Matching (x.1.apply (c.untimed .pending) (.poolReady connection host) x.2).2
      (r.apply (c.untimed (.ready connection host)) (.messageBegin message) s).2 := by
  have he (answer : Acquisition) : (r.apply (c.untimed answer) (.messageBegin message) s).2 =
      (r.beginMessage ((c.untimed .pending).withPools fun _ _ => answer) message s).2 := rfl
  cases beginMessage_reaches (c.untimed .pending) r message s
  case answer r' e s' es _ _ idle hx =>
    rw [he, hx] at hp
    simp [isPaused, idle] at hp
  case pool r' route leg pool s' es _ _ _ hx =>
    rw [he, he, hx, hx]
    exact r'.launch_matching route leg pool message s'

-- The rest of the message, with the reply to an upgrade request, goes as it would without the waiting.
theorem message_matching (r : Router) (message : Message) (s : Shared) {awaited : List RouterEvent}
    (ha : (r.apply (c.untimed .pending) (.messageBegin message) s).2.1.Awaits (c.untimed .pending)
      (r.apply (c.untimed .pending) (.messageBegin message) s).2.2 (.poolReady connection host :: awaited))
    (he : ∀ e ∈ es, e.isPart) :
    (r.apply (c.untimed (.ready connection host)) (.messageBegin message) s).2.1.Awaits
      (c.untimed (.ready connection host))
      (r.apply (c.untimed (.ready connection host)) (.messageBegin message) s).2.2 awaited ∧
    Matching
      (r.applyAll (c.untimed .pending) s
        (.messageBegin message :: .poolReady connection host :: (awaited ++ es)))
      (r.applyAll (c.untimed (.ready connection host)) s (.messageBegin message :: (awaited ++ es))) := by
  have ⟨hp, ha⟩ := ha.cons
  have hx := messageBegin_matching r message connection host s hp
  have hn : ∀ e ∈ awaited ++ es, ∀ message, e ≠ .messageBegin message := by
    refine List.forall_mem_append.mpr ⟨ha.ne_messageBegin, ?_⟩
    rintro _ h message rfl
    exact Bool.false_ne_true (he _ h)
  exact ⟨hx.same ▸ ha.matching hx.shared, applyAll_matching hx hn⟩

end RpcProxy.Router
