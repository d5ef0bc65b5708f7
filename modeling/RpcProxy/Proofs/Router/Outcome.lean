import RpcProxy.Proofs.Router.Run

namespace RpcProxy

-- What was done on behalf of a call.
structure Account where
  oneway  : Bool
  effects : List Effect := []

inductive Ending
  -- The response was complete.
  | responded
  -- No response is awaited after the message.
  | oneway
  -- A new message has begun.
  | replaced
  | destroyed
  | failed

structure Journal where
  -- The account of the call under way.
  current? : Option Account := none
  ended    : List (Account × Ending) := []
  -- What was done for each message that did not become a call.
  refused  : List (List Effect) := []
  -- What was done while there was no call.
  stray    : List Effect := []

-- How a call has ended that is not there after a callback with the given effects.
def Callback.ending (es : List Effect) : Callback → Ending
  | .destroy             => .destroyed
  | .event .transportEnd => .oneway
  | .event _             => if completes es then .responded else .failed

namespace Journal

-- Charges effects to the call under way, which may end with them.
def charge (j : Journal) (es : List Effect) (ending? : Option Ending) : Journal :=
  match j.current? with
  | none         => { j with stray := j.stray ++ es }
  | some account =>
    let account := { account with effects := account.effects ++ es }
    match ending? with
    | none        => { j with current? := some account }
    | some ending => { j with current? := none, ended := (account, ending) :: j.ended }

-- Opens an account for a message, if a call is created for it.
def enter (j : Journal) (message : Message) (es : List Effect) (ending? : Option Ending) : Journal :=
  if creates es then { j with current? := some { oneway := message.isOneway } }.charge es ending?
  else { j with refused := es :: j.refused }

-- What is done before chance is asked for a new message concerns the call before it.
def file (j : Journal) (turn : Turn) : Journal :=
  let ending? (es : List Effect) := if turn.after.isActive then none else some (turn.callback.ending es)
  match turn.callback with
  | .event (.messageBegin message) =>
    let es := turn.effects.dropWhile (!·.isDraw)
    (j.charge (turn.effects.takeWhile (!·.isDraw)) (some .replaced)).enter message es (ending? es)
  | _                              => j.charge turn.effects (ending? turn.effects)

def ofTurns : List Turn → Journal
  | []            => {}
  | turn :: turns => (ofTurns turns).file turn

end Journal

abbrev Effect.isReply : Effect → Bool
  | replied .. => true
  | _          => false

-- What the caller hears of a call, by the way in which it has ended.
def Ending.Tells (id : RouterId) (es : List Effect) : Ending → Prop
  | failed => (∃ e, notices es = [.replied id e true]) ∨ notices es = [.resetDownstream id]
  | _      => notices es = []

-- An exception is for those who await a reply and have seen nothing of it.
def Account.RepliesFairly (account : Account) : Prop :=
  account.effects.any (·.isReply) → account.oneway = false ∧ readings account.effects = []

-- A call under way is one of which nothing is told. After its end nothing is done for a call.
structure Journal.Answered (j : Journal) (id : RouterId) : Prop where
  ended   : ∀ x ∈ j.ended, x.2.Tells id x.1.effects
  replies : ∀ x ∈ j.ended, x.1.RepliesFairly
  current : ∀ account, j.current? = some account → notices account.effects = []
  refused : ∀ es ∈ j.refused, ∃ e, notices es = [.replied id e true]
  stray   : j.stray = []

-- The account of a call agrees with the call.
structure Account.Tracks (account : Account) (call : Call) : Prop where
  silent : notices account.effects = []
  oneway : account.oneway = call.message.isOneway
  unread : call.responseStarted = false → readings account.effects = []

inductive Journal.Tracks : Option Account → Option Call → Prop
  | idle : Tracks none none
  | busy (h : account.Tracks call) : Tracks (some account) (some call)

namespace Journal

variable {j : Journal} {id : RouterId} {account : Account} {call : Call} {s : Shared} {es : List Effect}
  {r : Router}

-- A reply is a notice.
theorem any_isReply (es : List Effect) : es.any (·.isReply) = (notices es).any (·.isReply) := by
  rw [notices, List.any_filter]
  congr 1
  funext e
  cases e <;> rfl

theorem repliesFairly_of_silent (h : notices account.effects = []) : account.RepliesFairly := by
  simp [Account.RepliesFairly, any_isReply account.effects, h]

theorem charge_of_idle {ending? : Option Ending} (h : j.current? = none) : j.charge [] ending? = j := by
  cases j
  simp_all [charge]

@[simp]
theorem charge_nothing : j.charge [] none = j := by
  cases hj : j.current?
  case none         => exact charge_of_idle hj
  case some account =>
    cases j
    simp_all [charge]

theorem Answered.start : Answered {} id where
  ended   := by simp
  replies := by simp
  current := by simp
  refused := by simp
  stray   := rfl

-- An account that is closed.
theorem Answered.close {ending : Ending} (h : j.Answered id) (hj : j.current? = some account)
    (ht : ending.Tells id (account.effects ++ es))
    (hr : { account with effects := account.effects ++ es }.RepliesFairly) :
    (j.charge es (some ending)).Answered id := by
  simp only [charge, hj]
  constructor
  case ended   => exact List.forall_mem_cons.mpr ⟨ht, h.ended⟩
  case replies => exact List.forall_mem_cons.mpr ⟨hr, h.replies⟩
  case current => nofun
  case refused => exact h.refused
  case stray   => exact h.stray

theorem charge_closed {ending : Ending} (hj : j.current? = some account) :
    (j.charge es (some ending)).current? = none := by
  simp [charge, hj]

theorem Answered.extend (h : j.Answered id) (hj : j.current? = some account)
    (hn : notices (account.effects ++ es) = []) : (j.charge es none).Answered id := by
  simp only [charge, hj]
  exact { h with current := by simpa only [Option.some.injEq, forall_eq'] using hn }

-- A call that ends well is one of which nothing is told.
theorem Answered.close_silent {ending : Ending} (h : j.Answered id) (hj : j.current? = some account)
    (hs : notices es = []) (he : ∀ es, notices es = [] → ending.Tells id es) :
    (j.charge es (some ending)).Answered id := by
  have hn : notices (account.effects ++ es) = [] := by simp [h.current _ hj, hs]
  exact h.close hj (he _ hn) (repliesFairly_of_silent hn)

-- A journal that is in order, for a router after its last turn.
structure Keeps (j : Journal) (r : Router) (id : RouterId) : Prop where
  answered : j.Answered id
  tracks   : Tracks j.current? r.call?

theorem Keeps.idle (h : j.Keeps r id) (hc : r.call? = none) : j.current? = none := by
  generalize hj : j.current? = a
  have ht := hc ▸ hj ▸ h.tracks
  cases ht
  rfl

theorem Keeps.busy (h : j.Keeps r id) (hc : r.call? = some call) :
    ∃ account, j.current? = some account ∧ account.Tracks call := by
  generalize hj : j.current? = a
  have ht := hc ▸ hj ▸ h.tracks
  cases ht
  case busy account ht => exact ⟨account, rfl, ht⟩

-- The account goes on with the call, or it is closed with the call's only outcome.
theorem Keeps.conduct {y : Call × Shared} {ending : Ending} (h : j.Answered id)
    (hj : j.current? = some account) (ht : account.Tracks call) (hr : call.router = id)
    (hy : call.Conduct s y)
    (he : ending = if completes (s.since y.2) then .responded else .failed) :
    (j.charge (s.since y.2) (if (r.keep y.1).isActive then none else some ending)).Keeps (r.keep y.1) id := by
  cases hy
  case goesOn es hs hc live _ =>
    have hk : (r.keep y.1).call? = some y.1 := by simp [Router.keep_call?, live]
    have hn : notices (account.effects ++ es) = [] := by simp [ht.silent, hc.silent]
    simp only [Shared.since_eq hs, Router.isActive, hk, Option.isSome_some, if_true]
    refine ⟨h.extend hj hn, ?_⟩
    simp only [charge, hj, hk]
    refine .busy { silent := hn, oneway := ht.oneway.trans hc.oneway.symm, unread := fun hu => ?_ }
    have ⟨hu, hes⟩ := hc.unread hu
    simp [ht.unread hu, hes]
  case finishes es hs hf complete =>
    have hk : (r.keep y.1).call? = none := by simp [Router.keep_call?, hf.ended]
    simp only [Shared.since_eq hs, complete, if_true] at he
    simp only [Shared.since_eq hs, Router.isActive, hk, Option.isSome_none, he]
    refine ⟨h.close_silent hj hf.silent fun _ hn => hn, ?_⟩
    rw [hk]
    exact charge_closed hj ▸ .idle
  case fails es hs hf incomplete =>
    have hk : (r.keep y.1).call? = none := by simp [Router.keep_call?, hf.ended]
    simp only [Shared.since_eq hs, incomplete] at he
    simp only [Shared.since_eq hs, Router.isActive, hk, Option.isSome_none, he]
    have hn : notices (account.effects ++ es) = notices es := by simp [ht.silent]
    refine ⟨h.close hj ?tells ?fair, ?tracks⟩
    case tells =>
      cases hf.notice
      case inl h => exact .inr (hr ▸ hn.trans h)
      case inr h =>
        have ⟨⟨e, h⟩, _⟩ := h
        exact .inl ⟨e, hr ▸ hn.trans h⟩
    case fair =>
      unfold Account.RepliesFairly
      rw [any_isReply, hn]
      cases hf.notice
      case inl h => simp [h]
      case inr h =>
        have ⟨_, ho, hu, hes⟩ := h
        exact fun _ => ⟨ht.oneway.trans ho, by simp [ht.unread hu, hes]⟩
    case tracks =>
      rw [hk]
      exact charge_closed hj ▸ .idle

-- The call under way is abandoned, if there is one.
theorem Keeps.discard (h : j.Keeps r id) (ending : Ending)
    (he : ∀ es, notices es = [] → ending.Tells id es) :
    (j.charge r.discardEffects (some ending)).Answered id ∧
      (j.charge r.discardEffects (some ending)).current? = none := by
  cases hc : r.call? <;> simp only [Router.discardEffects, hc]
  case none =>
    rw [charge_of_idle (h.idle hc)]
    exact ⟨h.answered, h.idle hc⟩
  case some call =>
    obtain ⟨account, hj, _⟩ := h.busy hc
    exact ⟨h.answered.close_silent hj (by simp) he, charge_closed hj⟩

theorem Keeps.enter {x : Router × Shared} (h : j.Answered id) (hj : j.current? = none)
    (hb : Router.Begins id message s x) :
    (j.enter message (s.since x.2)
      (if x.1.isActive then none
        else some (Callback.ending (s.since x.2) (.event (.messageBegin message))))).Keeps x.1 id := by
  cases hb
  case refused named es ht idle uncreated answer =>
    simp only [Journal.enter, Shared.since_eq ht, uncreated]
    refine ⟨{ h with refused := ?_ }, ?_⟩
    · exact List.forall_mem_cons.mpr ⟨answer, h.refused⟩
    · simpa only [hj, idle] using .idle
  case created r named call y hy hx router kind unread created =>
    have ho : message.isOneway = call.message.isOneway := by simp only [Message.isOneway, kind]
    have ha : ({ oneway := message.isOneway } : Account).Tracks call :=
      { silent := rfl, oneway := ho, unread := fun _ => rfl }
    subst hx
    simp only [Journal.enter, created, if_true]
    exact .conduct { h with current := by simp } rfl ha router hy rfl

theorem discardEffects_not_isDraw : ∀ e ∈ r.discardEffects, !e.isDraw := by
  cases hc : r.call? <;> simp only [Router.discardEffects, hc]
  case none      => exact List.forall_mem_nil _
  case some call =>
    cases hi : call.connection? <;> cases hp : call.pending <;>
      simp [Call.releaseEffects, Call.cancelEffects, hi, hp]

theorem Keeps.file {x : Router × Shared} (h : j.Keeps r id) (hr : r.Serves id)
    (ht : Router.Turns c r s callback x) : (j.file ⟨r, callback, s.since x.2, x.1⟩).Keeps x.1 id := by
  cases ht
  case begins message hb =>
    have hb : Router.Begins id message _ x := hr.named ▸ hb
    have ⟨es, ht⟩ := hb.transcript
    have he : (r.discard s).since x.2 = .drew (c.random (r.discard s).transcript) :: es :=
      Shared.since_eq (by simp [ht])
    have hs : s.since x.2 = r.discardEffects ++ (r.discard s).since x.2 := by
      rw [he]
      exact Shared.since_eq (by simp [ht])
    have hd : ((r.discard s).since x.2).takeWhile (!·.isDraw) = [] ∧
        ((r.discard s).since x.2).dropWhile (!·.isDraw) = (r.discard s).since x.2 := by
      simp [he]
    have ⟨ha, hj⟩ := h.discard .replaced fun _ hn => hn
    simp only [Journal.file, hs, List.takeWhile_append_of_pos discardEffects_not_isDraw,
      List.dropWhile_append_of_pos discardEffects_not_isDraw, hd, List.append_nil]
    exact .enter ha hj (hb.after (.cons (.refl _) rfl))
  case drives call event hc he hd =>
    have ⟨account, hj, ht⟩ := h.busy hc
    have ⟨y, hy, hx⟩ := hd
    subst hx
    have hk := Keeps.conduct (r := r) h.answered hj ht (hr.router hc) hy rfl
    cases event <;> first | exact hk | cases he
  case completes call hc ho =>
    have ⟨account, hj, _⟩ := h.busy hc
    have hs : s.since (call.finish s).2 = call.finishEffects := Shared.since_eq Call.finish_transcript
    simp only [Journal.file, hs]
    exact ⟨h.answered.close_silent hj (by simp) fun _ hn => hn, charge_closed hj ▸ .idle⟩
  case idles event he =>
    have hs : s.since s = [] := Shared.since_eq (List.append_nil _).symm
    have hf : (ending : Ending) → j.charge [] (if r.isActive then none else some ending) = j := by
      intro ending
      cases hc : r.call?
      case none      => exact charge_of_idle (h.idle hc)
      case some call => simp [Router.isActive, hc]
    cases event
    case messageBegin message => exact absurd rfl (he message)
    all_goals simpa only [Journal.file, hs, hf] using h
  case destroys =>
    have hs : s.since (r.discard s) = r.discardEffects := Shared.since_eq Router.discard_transcript
    have ⟨ha, hj⟩ := h.discard .destroyed fun _ hn => hn
    simp only [Journal.file, Router.destroy, hs]
    exact ⟨ha, hj ▸ .idle⟩

end Journal

variable {c : Surroundings} {id : RouterId} {table : RouteTable} {r : Router}

theorem Run.keeps (run : Run c id table r phase turns) : (Journal.ofTurns turns).Keeps r id := by
  induction run
  case start => exact ⟨.start, .idle⟩
  case turn s _ _ run legal hx ih =>
    have ht := Router.handle_turns c s run.serves legal
    exact Journal.Keeps.file ih run.serves (hx ▸ ht)

-- The caller hears of a call exactly if it has failed, and then once.
theorem Run.answered (run : Run c id table r phase turns) :
    (Journal.ofTurns turns).Answered id ∧ (Journal.ofTurns turns).current?.isSome = r.isActive := by
  refine ⟨run.keeps.answered, ?_⟩
  cases hc : r.call?
  case none      => simp [Router.isActive, hc, run.keeps.idle hc]
  case some call =>
    have ⟨account, hj, _⟩ := run.keeps.busy hc
    simp [Router.isActive, hc, hj]

-- The pool does not come up with a connection.
theorem Run.answered_timeout :
    let c := Surroundings.plain fun _ _ => .pending
    ∃ r turns, Run c ⟨0⟩ (.toCluster "a") r .body turns ∧ (Journal.ofTurns turns).ended.length = 1 ∧
      (Journal.ofTurns turns).Answered ⟨0⟩ ∧ (Journal.ofTurns turns).current?.isSome = r.isActive := by
  intro c
  let begun := Router.handle c { id := ⟨0⟩, table := .toCluster "a" }
    (.event (.messageBegin (.call "ping"))) {}
  let failed := begun.1.handle c (.event (.poolFailure .timeout none)) begun.2
  have run₁ : Run c ⟨0⟩ (.toCluster "a") begun.1 .body _ := .turn .start (.decode rfl rfl) begun.eta.symm
  have run₂ : Run c ⟨0⟩ (.toCluster "a") failed.1 .body _ := .turn run₁ (.poolFailure rfl) failed.eta.symm
  exact ⟨_, _, run₂, rfl, run₂.answered⟩

end RpcProxy
