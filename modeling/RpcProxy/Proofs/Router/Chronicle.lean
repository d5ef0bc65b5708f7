import RpcProxy.Proofs.Router.Life
import RpcProxy.Proofs.Router.Outcome

namespace RpcProxy

structure CallLog where
  message     : Message
  route?      : Option Destination
  -- Whether the body is copied as it is.
  passthrough : Bool
  incidents   : List Incident := []

structure Chronicle where
  -- The log of the call under way.
  current? : Option CallLog := none
  ended    : List (CallLog × Ending) := []
  -- What has happened while there was no call.
  outside  : List Incident := []

namespace Chronicle

def logs (ch : Chronicle) : List CallLog :=
  ch.current?.toList ++ ch.ended.map (·.1)

-- Enters incidents into the log of the call under way, which may end with them.
def enter (ch : Chronicle) (incidents : List Incident) (ending? : Option Ending) : Chronicle :=
  match ch.current? with
  | none     => { ch with outside := ch.outside ++ incidents }
  | some log =>
    let log := { log with incidents := log.incidents ++ incidents }
    match ending? with
    | none        => { ch with current? := some log }
    | some ending => { ch with current? := none, ended := (log, ending) :: ch.ended }

-- Begins a log for a message, if a call is created for it.
def begin (ch : Chronicle) (message : Message) (r : Router) (es : List Effect) (ending? : Option Ending) :
    Chronicle :=
  let incidents := .told (.messageBegin message) :: es.map .did
  if creates es then
    { ch with current? := some { message, route? := r.route?, passthrough := r.passthrough } }.enter incidents ending?
  else { ch with outside := ch.outside ++ incidents }

-- What is done before chance is asked for a new message concerns the call before it.
def file (ch : Chronicle) (turn : Turn) : Chronicle :=
  let ending? (es : List Effect) := if turn.after.isActive then none else some (turn.callback.ending es)
  match turn.callback with
  | .event (.messageBegin message) =>
    let es := turn.effects.dropWhile (!·.isDraw)
    let ch := ch.enter ((turn.effects.takeWhile (!·.isDraw)).map .did) (some .replaced)
    ch.begin message turn.after es (ending? es)
  | .event event => ch.enter (.told event :: turn.effects.map .did) (ending? turn.effects)
  | .destroy     => ch.enter (turn.effects.map .did) (ending? turn.effects)

def ofTurns : List Turn → Chronicle
  | []            => {}
  | turn :: turns => (ofTurns turns).file turn

end Chronicle

-- The call was given up by its router.
def Ending.isAbandonment : Ending → Bool
  | replaced  => true
  | destroyed => true
  | _         => false

def Origin.log (o : Origin) (incidents : List Incident) : CallLog where
  message     := o.message
  route?      := some o.route
  passthrough := o.passthrough
  incidents   := incidents

-- A log in which the call has ended.
inductive CallLog.Closed (c : Surroundings) (id : RouterId) : CallLog → Ending → Prop
  | ended (life : Life c id o phase log call) (dead : call.isTerminal) (own : ending.isAbandonment = false) :
    Closed c id (o.log log) ending
  | abandoned (life : Life c id o phase log call) (live : call.isTerminal = false) (h : ending.isAbandonment) :
    Closed c id (o.log (log ++ (call.releaseEffects true).map .did)) ending

-- A log is that of a life, with what was done to give the call up where that was its end.
theorem CallLog.Closed.exists_life {c : Surroundings} {id : RouterId} {log : CallLog} {ending : Ending}
    (closed : log.Closed c id ending) : ∃ o phase call is rest, log = o.log (is ++ rest) ∧ Life c id o phase is call ∧
      (rest = [] ∨ rest = (call.releaseEffects true).map .did) := by
  cases closed
  case ended is call life _ _     => exact ⟨_, _, call, is, [], by rw [List.append_nil], life, .inl rfl⟩
  case abandoned is call life _ _ => exact ⟨_, _, call, is, _, rfl, life, .inr rfl⟩

-- Without a call, the decoder may go on, and messages are routed and answered.
def Incident.IsOutside : Incident → Prop
  | told event => event.isDecode
  | did effect => effect.isRouting ∨ effect.isReply

namespace Chronicle

structure InOrder (ch : Chronicle) (c : Surroundings) (id : RouterId) : Prop where
  ended   : ∀ x ∈ ch.ended, x.1.Closed c id x.2
  outside : ∀ i ∈ ch.outside, i.IsOutside

-- A chronicle that has followed a router up to its last turn.
structure Follows (ch : Chronicle) (c : Surroundings) (id : RouterId) (r : Router) (phase : Phase) : Prop
    extends ch.InOrder c id where
  idle : r.call? = none → ch.current? = none
  busy : ∀ {call}, r.call? = some call → ∃ o log, ch.current? = some (o.log log) ∧ Life c id o phase log call ∧
    o.passthrough = r.passthrough

variable {ch : Chronicle} {c : Surroundings} {id : RouterId} {r r' : Router} {phase phase' : Phase} {s : Shared}
  {o : Origin} {call : Call} {ending : Ending} {log incidents : List Incident} {message : Message} {es : List Effect}

theorem enter_of_none {ending? : Option Ending} (h : ch.current? = none) :
    ch.enter incidents ending? = { ch with outside := ch.outside ++ incidents } := by
  simp [enter, h]

theorem InOrder.start : InOrder {} c id where
  ended   := by simp
  outside := by simp

theorem InOrder.beside (h : ch.InOrder c id) (ho : ∀ i ∈ incidents, i.IsOutside) :
    { ch with outside := ch.outside ++ incidents }.InOrder c id where
  ended   := h.ended
  outside := List.forall_mem_append.mpr ⟨h.outside, ho⟩

theorem InOrder.close (h : ch.InOrder c id) {x : CallLog × Ending} (hx : x.1.Closed c id x.2) :
    { ch with current? := none, ended := x :: ch.ended }.InOrder c id where
  ended   := List.forall_mem_cons.mpr ⟨hx, h.ended⟩
  outside := h.outside

theorem InOrder.follows (h : ch.InOrder c id) (hc : r.call? = none) (hi : ch.current? = none) :
    ch.Follows c id r phase where
  toInOrder := h
  idle _    := hi
  busy hc'  := nomatch hc.symm.trans hc'

-- The log goes on with the call, or it is closed.
theorem InOrder.enter (h : ch.InOrder c id) (hl : ch.current? = some (o.log log))
    (life : Life c id o phase (log ++ incidents) call) (hp : o.passthrough = r.passthrough)
    (own : ending.isAbandonment = false) :
    (ch.enter incidents (if (r.keep call).isActive then none else some ending)).Follows c id (r.keep call) phase := by
  simp only [Chronicle.enter, hl]
  cases ht : call.isTerminal
  case false =>
    have hk : (r.keep call).call? = some call := by simp [Router.keep_call?, ht]
    simp only [Router.isActive, hk, Option.isSome_some, if_true]
    refine { ended := h.ended, outside := h.outside, idle := ?_, busy := ?_ }
    · simp [hk]
    · rintro call' hc
      obtain rfl := Option.some.inj (hk.symm.trans hc)
      exact ⟨o, log ++ incidents, rfl, life, hp⟩
  case true =>
    have hk : (r.keep call).call? = none := by simp [Router.keep_call?, ht]
    simp only [Router.isActive, hk, Option.isSome_none, Bool.false_eq_true, if_false]
    exact (h.close (.ended life ht own)).follows hk rfl

-- The call under way is abandoned, if there is one.
theorem Follows.discard (h : ch.Follows c id r phase) (hr : r.Serves id) (ending : Ending)
    (ha : ending.isAbandonment) :
    (ch.enter (r.discardEffects.map .did) (some ending)).InOrder c id ∧
      (ch.enter (r.discardEffects.map .did) (some ending)).current? = none := by
  cases hc : r.call?
  case none =>
    have hn : ch.current? = none := h.idle hc
    simp only [Router.discardEffects, hc, enter_of_none hn]
    exact ⟨h.toInOrder.beside (by simp), hn⟩
  case some call =>
    obtain ⟨o, log, hl, life, _⟩ := h.busy hc
    simp only [Router.discardEffects, hc, Chronicle.enter, hl]
    exact ⟨h.toInOrder.close (.abandoned life (hr.live hc) ha), trivial⟩

-- A message for which there is no call.
theorem InOrder.refuse {ending? : Option Ending} (h : ch.InOrder c id) (hi : ch.current? = none)
    (hc : r.call? = none) (hn : creates es = false) (ho : ∀ e ∈ es, e.isRouting ∨ e.isReply) :
    (ch.begin message r es ending?).Follows c id r phase := by
  simp only [Chronicle.begin, hn, Bool.false_eq_true, if_false]
  have hi' : ∀ i ∈ Incident.told (.messageBegin message) :: es.map .did, i.IsOutside := by
    refine List.forall_mem_cons.mpr ⟨rfl, ?_⟩
    simpa [Incident.IsOutside] using ho
  exact (h.beside hi').follows hc hi

-- A message that has become a call.
theorem InOrder.launch (h : ch.InOrder c id)
    (life : Life c id o phase (.told (.messageBegin o.message) :: es.map .did) call) (hn : creates es)
    (hr : r.route? = some o.route) (hp : r.passthrough = o.passthrough) (own : ending.isAbandonment = false) :
    (ch.begin o.message (r.keep call) es (if (r.keep call).isActive then none else some ending)).Follows c id
      (r.keep call) phase := by
  have hl : some { message := o.message, route? := (r.keep call).route?, passthrough := (r.keep call).passthrough } =
      some (o.log []) := by
    simp only [Router.keep, hr, hp]
    rfl
  have hi : { ch with current? := some (o.log []) }.InOrder c id := ⟨h.ended, h.outside⟩
  simp only [Chronicle.begin, hn, if_true, hl]
  exact hi.enter rfl life hp.symm own

theorem ending_own (es : List Effect) (event : RouterEvent) :
    (Callback.ending es (.event event)).isAbandonment = false := by
  cases event
  case transportEnd => rfl
  all_goals
    simp only [Callback.ending]
    split
    all_goals rfl

-- The effects of a message are divided where chance is asked.
theorem file_messageBegin {x : Router × Shared} {n : Nat}
    (ht : x.2.transcript = (r.discard s).transcript ++ .drew n :: es) :
    ch.file ⟨r, .event (.messageBegin message), s.since x.2, x.1⟩ =
      (ch.enter (r.discardEffects.map .did) (some .replaced)).begin message x.1 (.drew n :: es)
        (if x.1.isActive then none
          else some (Callback.ending (.drew n :: es) (.event (.messageBegin message)))) := by
  have hs : s.since x.2 = r.discardEffects ++ .drew n :: es := Shared.since_eq (by simp [ht])
  have hd : (Effect.drew n :: es).takeWhile (!·.isDraw) = [] ∧
      (Effect.drew n :: es).dropWhile (!·.isDraw) = .drew n :: es := by
    simp
  simp only [Chronicle.file, hs, List.takeWhile_append_of_pos Journal.discardEffects_not_isDraw,
    List.dropWhile_append_of_pos Journal.discardEffects_not_isDraw, hd, List.append_nil]

-- A message that the router answers itself.
theorem Follows.file_answers {n : Nat} {e : Exception} {s' : Shared} (h : ch.Follows c id r phase) (hr : r.Serves id)
    (routed : ((r.discard s).emit (.drew n)).Routed s' es) (idle : r'.call? = none) :
    (ch.file ⟨r, .event (.messageBegin message), s.since (r'.reply e s'), r'⟩).Follows c id r' phase' := by
  obtain ⟨hi, hn⟩ := h.discard hr .replaced rfl
  have ht : (r'.reply e s').transcript = (r.discard s).transcript ++ .drew n :: (es ++ [.replied r'.id e true]) := by
    simp [Router.reply, routed.transcript]
  rw [file_messageBegin (x := (r', r'.reply e s')) ht]
  refine hi.refuse hn idle ?_ ?_
  · rw [creates_cons, creates_append, creates_of_routing routed.routing]
    rfl
  · simp only [List.mem_cons, List.mem_append, List.not_mem_nil, or_false]
    rintro e' (rfl | he | rfl)
    · exact .inl rfl
    · exact .inl (routed.routing e' he)
    · exact .inr rfl

-- A message for which a call is created.
theorem Follows.file_launches {n : Nat} {s' : Shared} (h : ch.Follows c id r phase) (hr : r.Serves id)
    (routed : ((r.discard s).emit (.drew n)).Routed s' es) (target : r'.route? = some o.route)
    (verbatim : r'.passthrough = o.passthrough) :
    (ch.file ⟨r, .event (.messageBegin o.message), s.since (o.begin c r.id s').2,
      r'.keep (o.begin c r.id s').1⟩).Follows c id (r'.keep (o.begin c r.id s').1) .body := by
  obtain ⟨hi, _⟩ := h.discard hr .replaced rfl
  obtain ⟨es', ht⟩ := o.begin_transcript c r.id s'
  have life : Life c r.id o .body _ _ :=
    .begins s' (.drew n :: es) (List.forall_mem_cons.mpr ⟨rfl, routed.routing⟩)
  rw [Shared.since_eq ht] at life
  have hd : (o.begin c r.id s').2.transcript =
      (r.discard s).transcript ++ .drew n :: (es ++ .madeCodec r.id o.leg :: es') := by
    simp [ht, routed.transcript]
  have hn : creates (.drew n :: (es ++ .madeCodec r.id o.leg :: es')) := by
    simp
  rw [file_messageBegin (x := (r'.keep (o.begin c r.id s').1, (o.begin c r.id s').2)) hd]
  exact hi.launch (hr.named ▸ life) hn target verbatim (ending_own _ _)

-- The decoder goes on with a message that has no call.
theorem Follows.file_idles {event : RouterEvent} (h : ch.Follows c id r phase) (hc : r.call? = none)
    (hd : event.isDecode) (he : ∀ message, event ≠ .messageBegin message) :
    (ch.file ⟨r, .event event, s.since s, r⟩).Follows c id r phase' := by
  have hs : s.since s = [] := Shared.since_eq (List.append_nil _).symm
  have hn : ch.current? = none := h.idle hc
  have hf {ending? : Option Ending} : (ch.enter [.told event] ending?).Follows c id r phase' := by
    rw [enter_of_none hn]
    exact (h.toInOrder.beside (by simpa [Incident.IsOutside] using hd)).follows hc hn
  cases event
  case messageBegin message => exact absurd rfl (he message)
  all_goals
    simp only [Chronicle.file, hs]
    exact hf

theorem Follows.file {x : Router × Shared} (h : ch.Follows c id r phase) (hr : r.Serves id)
    (hm : Router.Moves c r s phase callback phase' x) :
    (ch.file ⟨r, callback, s.since x.2, x.1⟩).Follows c id x.1 phase' := by
  cases hm
  case answers routed named idle       => exact h.file_answers hr routed idle
  case launches routed target verbatim => exact h.file_launches hr routed target verbatim
  case takes call event y hc hy =>
    obtain ⟨o, log, hl, life, hp⟩ := h.busy hc
    have hk := h.toInOrder.enter hl (life.takes (hr.live hc) (hp ▸ hy)) hp
      (ending_own (s.since y.2) event)
    cases hy
    all_goals exact hk
  case idles event hc hd he => exact h.file_idles hc hd he
  case destroys =>
    have hs : s.since (r.discard s) = r.discardEffects := Shared.since_eq Router.discard_transcript
    obtain ⟨hi, hn⟩ := h.discard hr .destroyed rfl
    simp only [Chronicle.file, Router.destroy, hs]
    exact hi.follows rfl hn

theorem Follows.exists_life {log : CallLog} (h : ch.Follows c id r phase) (hl : log ∈ ch.logs) :
    ∃ o phase call is rest, log = o.log (is ++ rest) ∧ Life c id o phase is call ∧
      (rest = [] ∨ rest = (call.releaseEffects true).map .did) := by
  cases List.mem_append.mp hl
  case inl hl =>
    have hl : ch.current? = some log := Option.mem_toList.mp hl
    cases hc : r.call?
    case none      => simp [h.idle hc] at hl
    case some call =>
      obtain ⟨o, is, ho, life, _⟩ := h.busy hc
      obtain rfl := Option.some.inj (ho.symm.trans hl)
      exact ⟨o, phase, call, is, [], by rw [List.append_nil], life, .inl rfl⟩
  case inr hl =>
    obtain ⟨x, hx, rfl⟩ := List.mem_map.mp hl
    exact (h.ended x hx).exists_life

end Chronicle

variable {c : Surroundings} {id : RouterId} {table : RouteTable} {r : Router}

-- What is logged is the life of a call that has ended by itself, was abandoned or is still under way, and nothing is
-- done for a call otherwise.
theorem Run.follows (run : Run c id table r phase turns) : (Chronicle.ofTurns turns).Follows c id r phase := by
  induction run
  case start => exact Chronicle.InOrder.start.follows rfl rfl
  case turn s _ _ run legal hx ih =>
    have hm := Router.moves (c := c) (s := s) run.serves legal
    exact ih.file run.serves (hx ▸ hm)

end RpcProxy
