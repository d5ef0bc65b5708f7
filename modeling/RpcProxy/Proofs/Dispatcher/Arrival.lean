import RpcProxy.Proofs.Dispatcher.Order
import RpcProxy.Proofs.Router.Untimed

namespace RpcProxy

-- The events of the decoder and the other ones arrive each in their own order, but in any way one between another.
structure Interleaves (decoded others es : List RouterEvent) : Prop where
  decoded : es.filter (·.isDecode) = decoded
  others  : es.filter (!·.isDecode) = others

-- The events that follow the beginning of a message. All that is awaited comes, the rest of the message comes, and
-- nothing else.
structure Arrives (c : Surroundings) (r : Router) (s : Shared) (message : Message) (bodies : List Bytes)
    (awaited es : List RouterEvent) : Prop where
  awaits : (r.apply c (.messageBegin message) s).2.1.Awaits c (r.apply c (.messageBegin message) s).2.2 awaited
  order  : Interleaves (parts bodies) awaited es

variable {c : Surroundings} {r : Router} {s : Shared} {message : Message} {bodies : List Bytes}
  {es held decoded awaited : List RouterEvent}

-- With nothing to wait for, the rest of the message is all that arrives.
theorem Interleaves.eq_decoded (h : Interleaves decoded [] es) : es = decoded := by
  rw [← h.decoded, eq_comm, List.filter_eq_self]
  simpa [List.filter_eq_nil_iff] using h.others

namespace Dispatcher

def dispatchAll (c : Surroundings) (d : Dispatcher) (s : Shared) : List RouterEvent → Dispatcher × Shared
  | []          => (d, s)
  | event :: es =>
    let (d, s) := d.dispatch c event s
    dispatchAll c d s es

theorem replay_parts (h : r.isPaused = false) (hp : ∀ e ∈ held, e.isPart) : replay c r s held =
    ({ router := (r.applyAll c s held).1 }, (r.applyAll c s held).2) := by
  induction held generalizing r s
  case nil         => rfl
  case cons e _ ih =>
    have ⟨he, hes⟩ := List.forall_mem_cons.mp hp
    simp only [replay, h, Bool.false_eq_true, if_false]
    exact ih (Router.apply_part c s h he).1 hes

theorem replay_paused (h : r.isPaused) : replay c r s held = ({ router := r, held }, s) := by
  cases held <;> simp [replay, h]

-- As long as the router is not paused, a dispatcher is no more than a router.
theorem dispatchAll_parts (h : r.isPaused = false) (hp : ∀ e ∈ es, e.isPart) :
    dispatchAll c { router := r } s es =
      ({ router := (r.applyAll c s es).1 }, (r.applyAll c s es).2) := by
  induction es generalizing r s
  case nil         => rfl
  case cons e _ ih =>
    have ⟨he, hes⟩ := List.forall_mem_cons.mp hp
    have hd : dispatch c { router := r } e s =
        ({ router := (r.apply c e s).2.1 }, (r.apply c e s).2.2) := by simp [dispatch, h, replay]
    rw [dispatchAll, hd]
    exact ih (Router.apply_part c s h he).1 hes

-- However the events arrive, the router sees those that it awaits first, then those that were held back, and
-- then the others.
theorem dispatchAll_interleaved (h : r.isPaused) (ha : r.Awaits c s awaited)
    (hi : Interleaves decoded awaited es) (hd : ∀ e ∈ decoded, e.isPart) (hh : ∀ e ∈ held, e.isPart) :
    dispatchAll c { router := r, held } s es =
      ({ router := (r.applyAll c s (awaited ++ (held ++ decoded))).1 },
        (r.applyAll c s (awaited ++ (held ++ decoded))).2) := by
  -- Each event either joins the ones that are held back or is the next one that is awaited.
  induction es generalizing r s awaited held decoded
  case nil =>
    have hn := ha.eq_nil_iff.mp hi.others.symm
    simp [hn] at h
  case cons e es ih =>
    cases he : e.isDecode
    case true =>
      obtain rfl : e :: es.filter (·.isDecode) = decoded := by simpa [he] using hi.decoded
      obtain rfl : es.filter (!·.isDecode) = awaited := by simpa [he] using hi.others
      obtain ⟨hp, hd⟩ := List.forall_mem_cons.mp hd
      have hx : dispatch c { router := r, held } e s = ({ router := r, held := held ++ [e] }, s) := by
        simp [dispatch, he, h]
      rw [dispatchAll, hx]
      have hh : ∀ e' ∈ held ++ [e], e'.isPart := by simpa [or_imp, forall_and, hp] using hh
      simpa using ih h ha ⟨rfl, rfl⟩ hd hh
    case false =>
      obtain rfl : es.filter (·.isDecode) = decoded := by simpa [he] using hi.decoded
      obtain rfl : e :: es.filter (!·.isDecode) = awaited := by simpa [he] using hi.others
      obtain ⟨_, ha⟩ := ha.cons
      have hx : dispatch c { router := r, held } e s =
          replay c (r.apply c e s).2.1 (r.apply c e s).2.2 held := by simp [dispatch, he]
      rw [dispatchAll, hx, List.cons_append, Router.applyAll_cons]
      cases hp : (r.apply c e s).2.1.isPaused
      case true  =>
        rw [replay_paused hp]
        exact ih hp ha ⟨rfl, rfl⟩ hd hh
      case false =>
        -- Nothing else is awaited, so all other events are parts of the message.
        have hn := ha.eq_nil_iff.mpr hp
        have hes : es = es.filter (·.isDecode) := Interleaves.eq_decoded ⟨rfl, hn⟩
        rw [← hes] at hd ⊢
        rw [hn, List.nil_append, Router.applyAll_append, replay_parts hp hh]
        exact dispatchAll_parts (Router.applyAll_parts c _ hp hh).1 hd

-- The message comes to the same as if the decoder had come with it after all that it had to wait for.
theorem dispatchAll_arrives (hr : r.isActive = false) (h : Arrives c r s message bodies awaited es) :
    let x := r.applyAll c s (.messageBegin message :: (awaited ++ parts bodies))
    dispatchAll c { router := r } s (.messageBegin message :: es) = ({ router := x.1 }, x.2) := by
  have ⟨ha, hi⟩ := h
  have hc : r.call? = none := by simpa [Router.isActive] using hr
  have hx : dispatch c { router := r } (.messageBegin message) s =
      ({ router := (r.apply c (.messageBegin message) s).2.1 },
        (r.apply c (.messageBegin message) s).2.2) := by
    simp [dispatch, Router.isPaused, hc, replay]
  rw [dispatchAll, hx]
  cases hp : (r.apply c (.messageBegin message) s).2.1.isPaused
  case true  => exact dispatchAll_interleaved hp ha hi (fun _ => isPart_of_parts) (List.forall_mem_nil _)
  case false =>
    obtain rfl := ha.eq_nil_iff.mpr hp
    obtain rfl := hi.eq_decoded
    exact dispatchAll_parts hp fun _ => isPart_of_parts

-- Whatever comes first, the message is written and counted in the same way, and nothing stays behind. The decoder
-- is told once to go on if there is anything to wait for. Where nobody looks at the times, a connection that comes
-- later also comes to the same as one that the pool hands over at once.
theorem arrival_irrelevant (c : Surroundings) (r : Router) (message : Message) (bodies : List Bytes)
    (s : Shared) (idle : r.isActive = false) :
    (∀ awaited es, Arrives c r s message bodies awaited es →
      let x := r.applyAll c s (.messageBegin message :: (awaited ++ parts bodies))
      dispatchAll c { router := r } s (.messageBegin message :: es) = ({ router := x.1 }, x.2) ∧
      continuations (s.since x.2) = if awaited = [] then [] else [.continued r.id]) ∧
    ∀ connection host awaited es es',
      Arrives (c.untimed .pending) r s message bodies (.poolReady connection host :: awaited) es →
      Interleaves (parts bodies) awaited es' →
      Matching
        (dispatchAll (c.untimed .pending) { router := r } s (.messageBegin message :: es))
        (dispatchAll (c.untimed (.ready connection host)) { router := r } s
          (.messageBegin message :: es')) := by
  refine ⟨fun awaited es h => ⟨dispatchAll_arrives idle h, ?continued⟩,
    fun connection host awaited es es' h hi => ?matching⟩
  case continued =>
    exact (r.message_continued c message s h.awaits fun _ => isPart_of_parts).since
  case matching =>
    have hp : ∀ e ∈ parts bodies, e.isPart := fun _ => isPart_of_parts
    have ⟨ha, hx⟩ := r.message_matching message s h.awaits hp
    rw [dispatchAll_arrives idle h, dispatchAll_arrives idle ⟨ha, hi⟩]
    exact ⟨congrArg (Dispatcher.mk · []) hx.same, hx.shared⟩

namespace Arrival

-- Each connection comes later and needs an upgrade, whose reply ends with a certain byte.
def surroundings : Surroundings :=
  { Surroundings.plain fun _ _ => .pending with
    downstream _ _          := ⟨.framed, .twitter⟩
    upgradeRequest? _ _ _ _ := some [0x75]
    readUpgrade _ _ data    := ⟨data.contains 0x6b, []⟩ }

def caller : Router :=
  { id := ⟨0⟩, table := .toCluster "a" }

def reply : List RouterEvent :=
  [.clusterData [0x6f] false, .clusterData [0x6b] false]

def promised : List RouterEvent :=
  .poolReady ⟨7⟩ ⟨"10.0.0.1:9090"⟩ :: reply

-- The whole message is there before the upgrade is complete.
def mixed : List RouterEvent :=
  [.messageBody [0x61], .poolReady ⟨7⟩ ⟨"10.0.0.1:9090"⟩, .messageBody [0x62], .messageEnd,
    .clusterData [0x6f] false, .transportEnd, .clusterData [0x6b] false]

-- The message does not come before the upgrade is complete.
def ordered : List RouterEvent :=
  reply ++ parts [[0x61], [0x62]]

theorem arrives : Arrives surroundings caller {} (.call "ping") [[0x61], [0x62]] promised mixed where
  awaits := .connection _ rfl rfl (.reply _ rfl rfl (.reply _ rfl rfl (.nothing rfl)))
  order  := ⟨rfl, rfl⟩

end Arrival

open Arrival in
theorem arrival_of_upgrade : caller.isActive = false ∧
    (Arrives surroundings caller {} (.call "ping") [[0x61], [0x62]] promised mixed ∧
      let x := caller.applyAll surroundings {}
        (.messageBegin (.call "ping") :: (promised ++ parts [[0x61], [0x62]]))
      dispatchAll surroundings { router := caller } {} (.messageBegin (.call "ping") :: mixed) =
        ({ router := x.1 }, x.2) ∧
      continuations (Shared.since {} x.2) = [.continued ⟨0⟩]) ∧
    Arrives (surroundings.untimed .pending) caller {} (.call "ping") [[0x61], [0x62]] promised mixed ∧
    Interleaves (parts [[0x61], [0x62]]) reply ordered ∧
    Matching
      (dispatchAll (surroundings.untimed .pending) { router := caller } {}
        (.messageBegin (.call "ping") :: mixed))
      (dispatchAll (surroundings.untimed (.ready ⟨7⟩ ⟨"10.0.0.1:9090"⟩)) { router := caller } {}
        (.messageBegin (.call "ping") :: ordered)) :=
  have h := arrival_irrelevant surroundings caller (.call "ping") [[0x61], [0x62]] {} rfl
  ⟨rfl, ⟨arrives, h.1 promised mixed arrives⟩, arrives, ⟨rfl, rfl⟩,
    h.2 ⟨7⟩ ⟨"10.0.0.1:9090"⟩ reply mixed ordered arrives ⟨rfl, rfl⟩⟩

end Dispatcher

end RpcProxy
