import RpcProxy.Proofs.Call.Continuation
import RpcProxy.Proofs.Router.Run

namespace RpcProxy

-- The events by which the decoder goes on with a message.
def RouterEvent.isPart : RouterEvent → Bool
  | messageBody _ => true
  | messageEnd    => true
  | transportEnd  => true
  | _             => false

-- What the decoder says of a message after its beginning.
def parts (bodies : List Bytes) : List RouterEvent :=
  bodies.map .messageBody ++ [.messageEnd, .transportEnd]

theorem isPart_of_parts {bodies : List Bytes} {e : RouterEvent} (h : e ∈ parts bodies) : e.isPart := by
  simp only [parts, List.mem_append, List.mem_map, List.mem_cons, List.not_mem_nil, or_false] at h
  rcases h with ⟨_, _, rfl⟩ | rfl | rfl <;> rfl

-- On the way to a pool the decoder is told nothing.
theorem Shared.Routed.continued {s s' : Shared} {es : List Effect} (h : s.Routed s' es) : s.Continued s' [] := by
  refine ⟨es, h.transcript, List.filter_eq_nil_iff.mpr fun e he => ?_⟩
  cases e <;> first | exact Bool.false_ne_true | cases h.routing _ he

namespace Router

def applyAll (c : Surroundings) (r : Router) (s : Shared) : List RouterEvent → Router × Shared
  | []          => (r, s)
  | event :: es =>
    let (_, r, s) := r.apply c event s
    applyAll c r s es

-- The events that a call awaits before its request may begin: its connection if the pool still owes it, and then
-- the reply to the upgrade request if there is one, up to the bytes that complete it.
inductive Awaits (c : Surroundings) : Router → Shared → List RouterEvent → Prop
  | nothing (h : r.isPaused = false) : Awaits c r s []
  | connection (call : Call) (hc : r.call? = some call) (hs : call.state = .acquiring)
      (ha : Awaits c (r.apply c (.poolReady connection host) s).2.1
        (r.apply c (.poolReady connection host) s).2.2 es) :
      Awaits c r s (.poolReady connection host :: es)
  | reply (call : Call) (hc : r.call? = some call) (hs : call.state = .upgrading)
      (ha : Awaits c (r.apply c (.clusterData data endStream) s).2.1
        (r.apply c (.clusterData data endStream) s).2.2 es) :
      Awaits c r s (.clusterData data endStream :: es)

-- A router that makes the decoder wait waits for something itself.
def Waits (r : Router) : Prop :=
  ∀ call, r.call? = some call → call.isPaused → call.router = r.id ∧ call.Waits

variable {c : Surroundings} {r : Router} {call : Call} {s : Shared} {event : RouterEvent}
  {es es' : List RouterEvent} {id : RouterId} {message : Message}

theorem applyAll_cons : r.applyAll c s (event :: es) =
    (r.apply c event s).2.1.applyAll c (r.apply c event s).2.2 es :=
  rfl

theorem applyAll_append : r.applyAll c s (es ++ es') =
    (r.applyAll c s es).1.applyAll c (r.applyAll c s es).2 es' := by
  induction es generalizing r s
  case nil        => rfl
  case cons e _ ih => exact ih

-- A call that has ended does not wait.
theorem keep_isPaused : (r.keep call).isPaused = call.isPaused := by
  cases ht : call.isTerminal
  case false => simp [isPaused, keep, ht]
  case true  => simp [isPaused, keep, ht, Call.isPaused_of_isTerminal ht]

theorem Waits.keep (h : call.isPaused → call.router = r.id ∧ call.Waits) : (r.keep call).Waits := by
  intro call' hc hp
  cases ht : call.isTerminal <;> simp only [keep_call?, ht, if_true, Bool.false_eq_true, if_false, reduceCtorEq,
    Option.some.injEq] at hc
  case false => exact hc ▸ h (hc ▸ hp)

-- No part of a message makes the decoder wait, or is answered to it.
theorem apply_part (c : Surroundings) (s : Shared) (h : r.isPaused = false) (he : event.isPart) :
    (r.apply c event s).2.1.isPaused = false ∧ s.Continued (r.apply c event s).2.2 [] := by
  cases hc : r.call?
  case none =>
    have hx : (r.apply c event s).2 = (r, s) := by
      cases event <;> simp only [RouterEvent.isPart, Bool.false_eq_true] at he
      all_goals simp [apply, endTransport, withCall, hc]
    rw [hx]
    exact ⟨h, .refl s⟩
  case some call =>
    have hp : call.isPaused = false := isPaused_of_call hc ▸ h
    cases event <;> simp only [RouterEvent.isPart, Bool.false_eq_true] at he
    case messageBody body =>
      rw [apply, withCall_of_call hc]
      refine ⟨keep_isPaused.trans ?_, Call.writeBody_shows fun _ => rfl⟩
      unfold Call.writeBody
      split <;> exact hp
    case messageEnd =>
      rw [apply, withCall_of_call hc]
      refine ⟨keep_isPaused.trans ?_, Call.endRequest_shows fun _ => rfl⟩
      unfold Call.endRequest
      split
      · exact hp
      · rfl
    case transportEnd =>
      simp only [apply, endTransport, hc]
      split
      · exact ⟨rfl, _, Call.finish_transcript, by simp⟩
      · exact ⟨h, .refl s⟩

theorem applyAll_parts (c : Surroundings) (s : Shared) (h : r.isPaused = false) (he : ∀ e ∈ es, e.isPart) :
    (r.applyAll c s es).1.isPaused = false ∧ s.Continued (r.applyAll c s es).2 [] := by
  induction es generalizing r s
  case nil         => exact ⟨h, .refl s⟩
  case cons e _ ih =>
    have ⟨he, hes⟩ := List.forall_mem_cons.mp he
    have ⟨hp, told⟩ := apply_part c s h he
    have ⟨hps, tolds⟩ := ih (r.apply c e s).2.2 hp hes
    exact ⟨hps, told.trans tolds⟩

-- A call that awaits something makes the decoder wait.
theorem Awaits.cons (h : r.Awaits c s (event :: es)) : r.isPaused ∧
    (r.apply c event s).2.1.Awaits c (r.apply c event s).2.2 es := by
  cases h
  case connection call hs hc ha => exact ⟨by simp [isPaused_of_call hc, Call.isPaused, hs], ha⟩
  case reply call hs hc ha      => exact ⟨by simp [isPaused_of_call hc, Call.isPaused, hs], ha⟩

theorem Awaits.eq_nil_iff (h : r.Awaits c s es) : es = [] ↔ r.isPaused = false := by
  cases es
  case nil  =>
    cases h
    case nothing hp => simp [hp]
  case cons => simp [h.cons.1]

-- The event that is awaited reaches the call that waits.
theorem Awaits.awakens (h : r.Awaits c s (event :: es)) (hw : r.Waits) : ∃ call y, r.call? = some call ∧
    call.router = r.id ∧ call.Awakens s y ∧ (r.apply c event s).2 = (r.keep y.1, y.2) := by
  cases h
  case connection connection host call hs hc _ =>
    have ⟨hr, hw⟩ := hw call hc (by simp [Call.isPaused, hs])
    exact ⟨call, _, hc, hr, Call.connect_awakens (hw.pool hs), poolReady_of_call hc⟩
  case reply data endStream call hs hc _ =>
    have ⟨hr, hw⟩ := hw call hc (by simp [Call.isPaused, hs])
    have ha : call.Awakens s (call.receive c data endStream s).2 := Call.receive_awakens hs (hw.reply hs)
    exact ⟨call, _, hc, hr, ha, by simp [apply, receive_of_call hc]⟩

-- The decoder is told to go on with the last of the awaited events, and never before.
theorem Awaits.continued_once (h : r.Awaits c s es) (hw : r.Waits) :
    (r.applyAll c s es).1.isPaused = false ∧
    s.Continued (r.applyAll c s es).2 (if es = [] then [] else [.continued r.id]) := by
  induction es generalizing r s
  case nil         => exact ⟨h.eq_nil_iff.mp rfl, .refl s⟩
  case cons e es ih =>
    have ⟨call, y, hc, hr, ha, hx⟩ := h.awakens hw
    have ⟨_, h⟩ := h.cons
    rw [applyAll_cons]
    rw [hx] at h ⊢
    cases ha
    case waits paused router waits told =>
      have hp : (r.keep y.1).isPaused := keep_isPaused.trans paused
      have hn : es ≠ [] := fun hn => by simp [h.eq_nil_iff.mp hn] at hp
      have ⟨hl, tolds⟩ := ih h (.keep fun _ => ⟨router.trans hr, waits⟩)
      rw [if_neg hn] at tolds
      exact ⟨hl, told.trans tolds⟩
    case goesOn resumed told =>
      obtain rfl := h.eq_nil_iff.mpr (keep_isPaused.trans resumed)
      exact ⟨keep_isPaused.trans resumed, hr ▸ told⟩

theorem discard_continued (r : Router) (s : Shared) : s.Continued (r.discard s) [] := by
  refine ⟨_, discard_transcript, ?_⟩
  unfold discardEffects
  split <;> simp

theorem launch_setsOut (c : Surroundings) (r : Router) (route : Destination) (leg : Leg) (pool : PoolId)
    (message : Message) (s : Shared) : (r.launch c route leg pool message s).2.1.Waits ∧
    (r.launch c route leg pool message s).2.1.id = r.id ∧
    s.Continued (r.launch c route leg pool message s).2.2 [] := by
  let call : Call := {
    router := r.id, cluster := route.cluster, pool, leg,
    message := if route.stripService then message.stripService.1 else message }
  have h : call.SetsOut (s.emit (.madeCodec r.id leg)) (call.start c (s.emit (.madeCodec r.id leg))).2 :=
    Call.start_setsOut c _ rfl rfl
  exact ⟨.keep fun hp => ⟨h.router hp, h.waits hp⟩, rfl, h.told.emit rfl⟩

-- A message that has just begun has told the decoder nothing yet.
theorem apply_messageBegin (c : Surroundings) (r : Router) (message : Message) (s : Shared) :
    (r.apply c (.messageBegin message) s).2.1.Waits ∧ (r.apply c (.messageBegin message) s).2.1.id = r.id ∧
    s.Continued (r.apply c (.messageBegin message) s).2.2 [] := by
  have hd : s.Continued ((r.discard s).emit (.drew (c.random (r.discard s).transcript))) [] :=
    (discard_continued r s).trans (.emit (.refl _) rfl)
  have he : (r.apply c (.messageBegin message) s).2 = (r.beginMessage (c.withPools c.acquire) message s).2 := rfl
  rw [he]
  cases beginMessage_reaches c r message s
  case answer r' e s' es routed named idle hx =>
    rw [hx]
    exact ⟨by simp [Waits, idle], named, hd.trans (routed.continued.trans (.emit (.refl _) rfl))⟩
  case pool r' route leg pool s' es routed named _ hx =>
    have ⟨hw, hi, told⟩ := launch_setsOut (c.withPools c.acquire) r' route leg pool message s'
    rw [hx]
    exact ⟨hw, hi.trans named, hd.trans (routed.continued.trans told)⟩

-- However long a message waits, the decoder is told once to go on, and not at all if it does not wait.
theorem message_continued (c : Surroundings) (r : Router) (message : Message) (s : Shared)
    (ha : (r.apply c (.messageBegin message) s).2.1.Awaits c (r.apply c (.messageBegin message) s).2.2 es)
    (he : ∀ e ∈ es', e.isPart) :
    s.Continued (r.applyAll c s (.messageBegin message :: (es ++ es'))).2
      (if es = [] then [] else [.continued r.id]) := by
  have ⟨hw, hi, told⟩ := apply_messageBegin c r message s
  have ⟨hp, told'⟩ := ha.continued_once hw
  have ⟨_, told''⟩ := applyAll_parts c ((r.apply c (.messageBegin message) s).2.1.applyAll c
    (r.apply c (.messageBegin message) s).2.2 es).2 hp he
  rw [applyAll_cons, applyAll_append]
  simpa [hi] using told.trans (told'.trans told'')

end Router

end RpcProxy
