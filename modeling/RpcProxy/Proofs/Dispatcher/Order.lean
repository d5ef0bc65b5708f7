import RpcProxy.Dispatcher

namespace RpcProxy

-- An event of which a router is told, in the state in which it is told.
structure Application where
  router : Router
  shared : Shared
  event  : RouterEvent

-- Applications that follow one another: each one starts in the state that the one before it leaves.
inductive Applied (c : Surroundings) : Router × Shared → List Application → Router × Shared → Prop
  | nil  : Applied c x [] x
  | cons : Applied c (r.apply c e s).2 as x → Applied c (r, s) (⟨r, s, e⟩ :: as) x

-- An event that reaches a dispatcher. Other routers may have changed what is shared since the last one.
structure Delivery where
  event  : RouterEvent
  shared : Shared

abbrev events (as : List Application) : List RouterEvent :=
  as.map (·.event)

namespace Dispatcher

variable {c : Surroundings} {d : Dispatcher}

-- The applications of a replay.
def replayed (c : Surroundings) (router : Router) (s : Shared) : List RouterEvent → List Application
  | []            => []
  | event :: held =>
    if router.isPaused then []
    else
      let (_, router', s') := router.apply c event s
      ⟨router, s, event⟩ :: replayed c router' s' held

-- The applications of a dispatch, which are none if the event is held back.
def applications (c : Surroundings) (d : Dispatcher) (x : Delivery) : List Application :=
  if x.event.isDecode && (d.router.isPaused || !d.held.isEmpty) then []
  else
    let (_, router, s) := d.router.apply c x.event x.shared
    ⟨d.router, x.shared, x.event⟩ :: replayed c router s d.held

-- Feeds events to a dispatcher one by one.
def feed (c : Surroundings) (d : Dispatcher) : List Delivery → Dispatcher
  | []      => d
  | x :: xs => feed c (d.dispatch c x.event x.shared).1 xs

def applied (c : Surroundings) (d : Dispatcher) : List Delivery → List Application
  | []      => []
  | x :: xs => d.applications c x ++ applied c (d.dispatch c x.event x.shared).1 xs

theorem replay_applied {r : Router} {s : Shared} {held : List RouterEvent} :
    Applied c (r, s) (replayed c r s held) ((replay c r s held).1.router, (replay c r s held).2) := by
  induction held generalizing r s
  case nil => exact .nil
  case cons event held hi =>
    simp only [replayed, replay]
    split
    · exact .nil
    · exact .cons hi

-- A replay goes through the held events from the front, and keeps the others.
theorem replayed_append_held (c : Surroundings) (r : Router) (s : Shared) (held : List RouterEvent) :
    events (replayed c r s held) ++ (replay c r s held).1.held = held := by
  induction held generalizing r s
  case nil => rfl
  case cons event held hi =>
    simp only [replayed, replay]
    split
    · rfl
    · simp [hi]

theorem replayed_resumed {r : Router} {s : Shared} {held : List RouterEvent} {a : Application}
    (h : a ∈ replayed c r s held) : a.router.isPaused = false := by
  induction held generalizing r s
  case nil => simp [replayed] at h
  case cons event held hi =>
    simp only [replayed] at h
    split at h
    · simp at h
    · cases List.mem_cons.mp h
      case inl hp h => simp [h, hp]
      case inr h => exact hi h

theorem replay_waiting {r : Router} {s : Shared} {held : List RouterEvent}
    (h : (replay c r s held).1.held ≠ []) : (replay c r s held).1.router.isPaused := by
  induction held generalizing r s
  case nil => simp [replay] at h
  case cons event held hi =>
    simp only [replay] at h ⊢
    split
    case isTrue hp => exact hp
    case isFalse hp =>
      simp only [hp] at h
      exact hi h

-- What holds between two dispatches: only events of the decoder are held back, and only for a reason.
structure Orderly (d : Dispatcher) : Prop where
  decode  : ∀ e ∈ d.held, e.isDecode
  waiting : d.held ≠ [] → d.router.isPaused

theorem Orderly.start (r : Router) : Orderly { router := r } where
  decode  := by simp
  waiting := by simp

-- An event is held back or applied at once, after which held events are replayed.
theorem Orderly.cases (o : d.Orderly) (x : Delivery) :
    (x.event.isDecode ∧ d.router.isPaused ∧ d.applications c x = [] ∧
      d.dispatch c x.event x.shared = ({ d with held := d.held ++ [x.event] }, x.shared)) ∨
    ((x.event.isDecode → d.router.isPaused = false ∧ d.held = []) ∧
      ∃ r s, (d.router.apply c x.event x.shared).2 = (r, s) ∧
        d.applications c x = ⟨d.router, x.shared, x.event⟩ :: replayed c r s d.held ∧
        d.dispatch c x.event x.shared = replay c r s d.held) := by
  by_cases h : x.event.isDecode && (d.router.isPaused || !d.held.isEmpty)
  case pos =>
    have ⟨hd, hw⟩ := Bool.and_eq_true_iff.mp h
    refine .inl ⟨hd, ?_, by simp [applications, h], by simp [dispatch, h]⟩
    cases Bool.or_eq_true_iff.mp hw
    case inl hp => exact hp
    case inr hh => exact o.waiting (by simpa using hh)
  case neg =>
    refine .inr ⟨fun hd => ?_, _, _, rfl, by simp [applications, h], by simp [dispatch, h]⟩
    simpa [hd] using h

theorem Orderly.dispatch (o : d.Orderly) (x : Delivery) :
    (d.dispatch c x.event x.shared).1.Orderly := by
  cases o.cases (c := c) x
  case inl h =>
    have ⟨hd, hp, _, he⟩ := h
    rw [he]
    refine { decode := fun e h => ?_, waiting := fun _ => hp }
    cases List.mem_append.mp h
    case inl h => exact o.decode e h
    case inr h => exact List.mem_singleton.mp h ▸ hd
  case inr h =>
    have ⟨_, r, s, _, _, he⟩ := h
    rw [he]
    refine { decode := fun e h => ?_, waiting := replay_waiting }
    have hr := replayed_append_held c r s d.held
    exact o.decode e (hr ▸ List.mem_append_right _ h)

theorem Orderly.feed (o : d.Orderly) (xs : List Delivery) : (d.feed c xs).Orderly := by
  induction xs generalizing d
  case nil => exact o
  case cons x _ hi => exact hi (o.dispatch x)

-- What a dispatcher owes to those who feed it.
structure Faithful (received : List RouterEvent) (applied : List Application) (d : Dispatcher) :
    Prop where
  -- No event of the decoder is lost, doubled or moved.
  order   : (events applied).filter (·.isDecode) ++ d.held = received.filter (·.isDecode)
  -- Every other event is applied once.
  once    : (events applied).filter (!·.isDecode) = received.filter (!·.isDecode)
  resumed : ∀ a ∈ applied, a.event.isDecode → a.router.isPaused = false
  waiting : d.held ≠ [] → d.router.isPaused

-- What happens during one dispatch.
structure Prompt (c : Surroundings) (d : Dispatcher) (x : Delivery) : Prop where
  applied : Applied c (d.router, x.shared) (d.applications c x)
    ((d.dispatch c x.event x.shared).1.router, (d.dispatch c x.event x.shared).2)
  -- An event that does not come from the decoder is the first to be applied, and only events that were held
  -- back follow it.
  first   : x.event.isDecode = false →
    ∃ as, d.applications c x = ⟨d.router, x.shared, x.event⟩ :: as ∧ events as <+: d.held

theorem Orderly.prompt (o : d.Orderly) (x : Delivery) : Prompt c d x := by
  cases o.cases (c := c) x
  case inl h =>
    have ⟨hd, _, ha, he⟩ := h
    refine { applied := ?_, first := fun hn => absurd hd (by simp [hn]) }
    rw [ha, he]
    exact .nil
  case inr h =>
    have ⟨_, r, s, hr, ha, he⟩ := h
    refine { applied := ?_, first := fun _ => ⟨_, ha, _, replayed_append_held c r s d.held⟩ }
    rw [ha, he]
    exact .cons (hr ▸ replay_applied)

-- The events that a dispatch applies.
theorem Orderly.dispatch_order (o : d.Orderly) (x : Delivery) :
    (events (d.applications c x)).filter (·.isDecode) ++ (d.dispatch c x.event x.shared).1.held =
      d.held ++ [x.event].filter (·.isDecode) := by
  cases o.cases (c := c) x
  case inl h =>
    have ⟨hd, _, ha, he⟩ := h
    simp [ha, he, hd]
  case inr h =>
    have ⟨hx, r, s, _, ha, he⟩ := h
    have hr := replayed_append_held c r s d.held
    have hf : (events (replayed c r s d.held)).filter (·.isDecode) = events (replayed c r s d.held) :=
      List.filter_eq_self.mpr fun e h => o.decode e (hr ▸ List.mem_append_left _ h)
    rw [ha, he, events, List.map_cons, List.filter_cons]
    split
    case isTrue hd =>
      have ⟨_, hh⟩ := hx hd
      simp [hh, replayed, replay, hd]
    case isFalse hd => simp [hf, hr, hd]

theorem Orderly.dispatch_once (o : d.Orderly) (x : Delivery) :
    (events (d.applications c x)).filter (!·.isDecode) = [x.event].filter (!·.isDecode) := by
  cases o.cases (c := c) x
  case inl h =>
    have ⟨hd, _, ha, _⟩ := h
    simp [ha, hd]
  case inr h =>
    have ⟨_, r, s, _, ha, _⟩ := h
    have hr := replayed_append_held c r s d.held
    have hf : (events (replayed c r s d.held)).filter (!·.isDecode) = [] :=
      List.filter_eq_nil_iff.mpr fun e h => by simp [o.decode e (hr ▸ List.mem_append_left _ h)]
    simp only [ha, events, List.map_cons, List.filter_cons, hf, List.filter_nil]

theorem Orderly.dispatch_resumed (o : d.Orderly) {x : Delivery} {a : Application}
    (h : a ∈ d.applications c x) (hd : a.event.isDecode) : a.router.isPaused = false := by
  cases o.cases (c := c) x
  case inl hx => simp [hx.2.2.1] at h
  case inr hx =>
    have ⟨hx, _, _, _, ha, _⟩ := hx
    cases List.mem_cons.mp (ha ▸ h)
    case inl h =>
      subst h
      exact (hx hd).1
    case inr h => exact replayed_resumed h

theorem Orderly.feed_order (o : d.Orderly) (xs : List Delivery) :
    (events (d.applied c xs)).filter (·.isDecode) ++ (d.feed c xs).held =
      d.held ++ (xs.map (·.event)).filter (·.isDecode) := by
  induction xs generalizing d
  case nil => simp [Dispatcher.applied, Dispatcher.feed]
  case cons x xs hi =>
    calc (events (d.applied c (x :: xs))).filter (·.isDecode) ++ (d.feed c (x :: xs)).held
      _ = (events (d.applications c x)).filter (·.isDecode) ++
            ((d.dispatch c x.event x.shared).1.held ++ (xs.map (·.event)).filter (·.isDecode)) := by
        simp [Dispatcher.applied, Dispatcher.feed, ← hi (o.dispatch x)]
      _ = d.held ++ ((x :: xs).map (·.event)).filter (·.isDecode) := by
        rw [← List.append_assoc, o.dispatch_order x, List.append_assoc, ← List.filter_append]
        rfl

theorem Orderly.feed_once (o : d.Orderly) (xs : List Delivery) :
    (events (d.applied c xs)).filter (!·.isDecode) =
      (xs.map (·.event)).filter (!·.isDecode) := by
  induction xs generalizing d
  case nil => rfl
  case cons x xs hi =>
    rw [Dispatcher.applied, events, List.map_append, List.filter_append, o.dispatch_once x,
      hi (o.dispatch x), ← List.filter_append]
    rfl

theorem Orderly.feed_resumed (o : d.Orderly) {xs : List Delivery} {a : Application}
    (h : a ∈ d.applied c xs) (hd : a.event.isDecode) : a.router.isPaused = false := by
  induction xs generalizing d
  case nil => simp [Dispatcher.applied] at h
  case cons x xs hi =>
    cases List.mem_append.mp h
    case inl h => exact o.dispatch_resumed h hd
    case inr h => exact hi (o.dispatch x) h

-- Holding back is faithful for any router, any surroundings and any events in any order.
theorem feed_faithful (c : Surroundings) (router : Router) (xs : List Delivery) :
    let d : Dispatcher := { router }
    Faithful (xs.map (·.event)) (d.applied c xs) (d.feed c xs) ∧ ∀ x, Prompt c (d.feed c xs) x := by
  have o := Orderly.start router
  refine ⟨{ order := ?_, once := o.feed_once xs, resumed := fun _ => o.feed_resumed, waiting := ?_ },
    (o.feed xs).prompt⟩
  · simp [o.feed_order xs]
  · exact (o.feed xs).waiting

end Dispatcher

end RpcProxy
