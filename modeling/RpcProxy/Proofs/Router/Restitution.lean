import RpcProxy.Proofs.Router.Possession
import RpcProxy.Proofs.Router.Statistics

namespace RpcProxy

-- The connection is closed just if the call was abandoned or its response could not be decoded.
def CallLog.GivenBack (log : CallLog) (ending : Ending) : Prop :=
  RpcProxy.GivenBack (ending.isAbandonment || Incident.breaks log.incidents) (possessions log.incidents)

-- More completions have come than acquisitions were left pending.
def Overdrawn (is : List Incident) : Prop :=
  is.countP (·.isPending) < is.countP (·.isCompletion)

-- A pool comes back to an acquisition that is pending still, and no response is complete for a call whose acquisition
-- is pending.
def Turn.IsTimely (turn : Turn) : Prop :=
  match turn.callback with
  | .event (.poolReady ..)   => turn.before.isPending
  | .event (.poolFailure ..) => turn.before.isPending
  | .event (.clusterData ..) => turn.before.isPending → completes turn.effects = false
  | _                        => True

namespace Chronicle

-- All calls that have ended have given back what they had, and nobody else had anything.
structure GivesBack (ch : Chronicle) : Prop where
  ended   : ∀ x ∈ ch.ended, x.1.GivenBack x.2
  outside : possessions ch.outside = []

-- The call under way has what it has not given back.
structure Minds (ch : Chronicle) (r : Router) : Prop extends ch.GivesBack where
  idle : r.call? = none → ch.current? = none
  busy : ∀ {call}, r.call? = some call → ∃ log, ch.current? = some log ∧ call.Possesses (possessions log.incidents) ∧
    Incident.breaks log.incidents = false

-- Something has gone wrong that nothing can set right.
inductive Spoilt (ch : Chronicle) : Prop
  | ended (hx : x ∈ ch.ended) (kept : ¬ x.1.GivenBack x.2)
  | outside (taken : possessions ch.outside ≠ [])
  | current (hl : ch.current? = some log) (overdrawn : Overdrawn (possessions log.incidents))

-- As long as all goes well, and no longer, the chronicle is in order.
def Tells (ch : Chronicle) (r : Router) (well : Prop) : Prop :=
  well ∧ ch.Minds r ∨ ¬ well ∧ ch.Spoilt

end Chronicle

section

variable {is js : List Incident} {es : List Effect} {closes : Bool} {k : ConnectionId} {hs : List Incident}
  {pool : PoolId} {event : RouterEvent} {writes : List Bytes}

theorem Tallies.acquisitions_eq_zero {before after : Option String} (h : Tallies 0 before after es) :
    acquisitions es = 0 := by
  have routed := h.routed
  have requested := h.requested
  omega

-- Without an acquisition nothing is left pending.
theorem countP_isPending_of_acquisitions (h : acquisitions es = 0) :
    (es.map Incident.did).countP (·.isPending) = 0 := by
  rw [acquisitions, List.countP_eq_zero] at h
  rw [List.countP_map, List.countP_eq_zero]
  intro e he
  have hn := h e he
  cases e <;> simp_all [Effect.isAcquisition]

-- It is not set right without another acquisition.
theorem Overdrawn.append (h : Overdrawn is) (settled : js.countP (·.isPending) = 0) :
    Overdrawn (is ++ possessions js) := by
  have settled : (possessions js).countP (·.isPending) = 0 := Nat.le_zero.mp (settled ▸ List.filter_sublist.countP_le)
  simp only [Overdrawn, List.countP_append] at h ⊢
  omega

@[simp]
theorem countP_isPending_writing : (writing k writes).countP (·.isPending) = 0 := by
  simp [writing, List.countP_map, List.countP_eq_zero]

@[simp]
theorem countP_isCompletion_writing : (writing k writes).countP (·.isCompletion) = 0 := by
  simp [writing, List.countP_map, List.countP_eq_zero]

-- A connection is handed to a call once.
theorem Handed.balanced (h : Handed pool k hs) : hs.countP (·.isPending) = hs.countP (·.isCompletion) := by
  cases h <;> rfl

theorem GivenBack.not_overdrawn (h : GivenBack closes is) : ¬ Overdrawn is := by
  cases h
  case refused   => simp [Overdrawn]
  case failed    => simp [Overdrawn]
  case cancelled => simp [Overdrawn]
  case released handed _ =>
    cases closes <;> simp [Overdrawn, handed.balanced]

-- An acquisition that is left pending and nothing else.
theorem not_givenBack_of_pending : ¬ GivenBack closes [.did (.acquired pool .pending)] := by
  generalize hi : [Incident.did (.acquired pool .pending)] = is
  intro back
  cases back
  case refused   => simp at hi
  case failed    => simp at hi
  case cancelled => simp at hi
  case released  => simpa using congrArg List.getLast? hi

-- A pool that comes back to a call once more has come back too often.
theorem Call.Possesses.overdrawn {call : Call} (h : call.Possesses is) (handed : call.pending = false)
    (completion : event.isCompletion) : Overdrawn (is ++ [.told event]) := by
  cases h
  case awaits pending _ _ => simp [handed] at pending
  case holds h            => simp [Overdrawn, h.balanced, completion]

end

namespace Chronicle

variable {ch : Chronicle} {incidents : List Incident} {ending? : Option Ending} {ending : Ending} {log : CallLog}
  {c : Surroundings} {r r' : Router} {call : Call} {x : CallLog × Ending} {s : Shared} {es : List Effect}
  {message : Message}

theorem ended_of_enter (hx : x ∈ ch.ended) : x ∈ (ch.enter incidents ending?).ended := by
  unfold enter
  split
  · exact hx
  · dsimp only
    split
    · exact hx
    · exact List.mem_cons_of_mem _ hx

theorem taken_of_enter (h : possessions ch.outside ≠ []) : possessions (ch.enter incidents ending?).outside ≠ [] := by
  unfold enter
  split
  · simp [h]
  · dsimp only
    split
    · exact h
    · exact h

theorem enter_current? : (ch.enter incidents (some ending)).current? = none := by
  unfold enter
  split
  case h_1 hl => exact hl
  case h_2    => rfl

-- A call that is overdrawn stays so, and does not give back what it has.
theorem spoilt_of_overdrawn (hl : ch.current? = some log)
    (overdrawn : Overdrawn (possessions (log.incidents ++ incidents))) : (ch.enter incidents ending?).Spoilt := by
  simp only [enter, hl]
  cases ending?
  case none        => exact .current rfl overdrawn
  case some ending =>
    exact .ended (List.mem_cons_self ..) fun back => GivenBack.not_overdrawn back overdrawn

theorem Spoilt.enter (h : ch.Spoilt) (settled : incidents.countP (·.isPending) = 0) :
    (ch.enter incidents ending?).Spoilt := by
  cases h
  case ended hx kept        => exact .ended (ended_of_enter hx) kept
  case outside taken        => exact .outside (taken_of_enter taken)
  case current hl overdrawn =>
    refine spoilt_of_overdrawn hl ?_
    rw [possessions, List.filter_append]
    exact overdrawn.append settled

theorem Spoilt.begin (h : ch.Spoilt) (hi : ch.current? = none) : (ch.begin message r es ending?).Spoilt := by
  unfold Chronicle.begin
  dsimp only
  split
  case isTrue  =>
    cases h
    case ended hx kept => exact .ended (ended_of_enter hx) kept
    case outside taken => exact .outside (taken_of_enter taken)
    case current hl _  => cases hi.symm.trans hl
  case isFalse =>
    cases h
    case ended hx kept => exact .ended hx kept
    case outside taken => exact .outside (by simp [taken])
    case current hl _  => cases hi.symm.trans hl

-- Only the beginning of a message divides its effects.
theorem file_event {event : RouterEvent} (he : ∀ message, event ≠ .messageBegin message) :
    ch.file ⟨r, .event event, es, r'⟩ = ch.enter (.told event :: es.map .did)
      (if r'.isActive then none else some (Callback.ending es (.event event))) := by
  cases event
  case messageBegin message => exact absurd rfl (he message)
  all_goals rfl

-- Only a message makes a router ask for a connection.
theorem countP_isPending_of_apply {event : RouterEvent} (coherent : r.Coherent) (c : Surroundings) (s : Shared)
    (he : ∀ message, event ≠ .messageBegin message) :
    ((s.since (r.apply c event s).2.2).map Incident.did).countP (·.isPending) = 0 := by
  have quiet : (⟨.event event, s⟩ : Encounter).isMessage = false := by
    cases event
    case messageBegin message => exact absurd rfl (he message)
    all_goals rfl
  have tallies := Router.handle_tallies c ⟨.event event, s⟩ coherent
  rw [quiet] at tallies
  exact countP_isPending_of_acquisitions tallies.acquisitions_eq_zero

theorem countP_isPending_of_discard : (r.discardEffects.map Incident.did).countP (·.isPending) = 0 := by
  have tallies := (Router.destroy_tallies r {}).acquisitions_eq_zero
  rw [Router.destroy, Shared.since_eq Router.discard_transcript] at tallies
  exact countP_isPending_of_acquisitions tallies

theorem Spoilt.file (h : ch.Spoilt) (coherent : r.Coherent) (c : Surroundings) (callback : Callback) (s : Shared) :
    (ch.file ⟨r, callback, s.since (r.handle c callback s).2, (r.handle c callback s).1⟩).Spoilt := by
  cases callback
  case destroy     =>
    have hs : s.since (r.discard s) = r.discardEffects := Shared.since_eq Router.discard_transcript
    simp only [Router.handle, Router.destroy, Chronicle.file, hs]
    exact h.enter countP_isPending_of_discard
  case event event =>
    by_cases he : ∃ message, event = .messageBegin message
    case pos =>
      obtain ⟨message, rfl⟩ := he
      obtain ⟨es, ht⟩ := (Router.beginMessage_begins c r message s).transcript
      have ht : (r.beginMessage c message s).2.2.transcript =
          (r.discard s).transcript ++ .drew (c.random (r.discard s).transcript) :: es := by
        simpa using ht
      rw [Router.handle, Router.apply, file_messageBegin ht]
      exact (h.enter countP_isPending_of_discard).begin enter_current?
    case neg =>
      have settled := countP_isPending_of_apply coherent c s (not_exists.mp he)
      rw [Router.handle, file_event (not_exists.mp he)]
      exact h.enter (by simpa using settled)

theorem possessions_did : possessions (es.map .did) = (holdings es).map .did :=
  List.filter_map ..

-- Nobody has anything to give back before there is a call.
theorem holdings_of_routing (h : ∀ e ∈ es, e.isRouting) : holdings es = [] :=
  filter_of_routing (fun e => by cases e <;> simp) h

theorem Tells.minds {well : Prop} (h : ch.Tells r well) (hw : well) : ch.Minds r := by
  cases h
  case inl h => exact h.2
  case inr h => exact absurd hw h.1

-- The call under way is abandoned, if there is one.
theorem Minds.discard (h : ch.Minds r) (ending : Ending) (abandoned : ending.isAbandonment) :
    (ch.enter (r.discardEffects.map .did) (some ending)).GivesBack := by
  cases hc : r.call?
  case none      =>
    rw [enter_of_none (h.idle hc)]
    simpa [Router.discardEffects, hc] using h.toGivesBack
  case some call =>
    obtain ⟨log, hl, possesses, -⟩ := h.busy hc
    have back := possesses.givenBack true
    rw [← Call.holdings_releaseEffects, ← possessions_did, ← List.filter_append] at back
    simp only [Router.discardEffects, hc, Chronicle.enter, hl]
    refine { ended := List.forall_mem_cons.mpr ⟨?_, h.ended⟩, outside := h.outside }
    rwa [CallLog.GivenBack, abandoned, Bool.true_or]

theorem GivesBack.minds (h : ch.GivesBack) (hc : r.call? = none) (hi : ch.current? = none) : ch.Minds r where
  toGivesBack := h
  idle _      := hi
  busy hc'    := nomatch hc.symm.trans hc'

-- The log goes on with the call, or it is closed.
theorem GivesBack.enter {pending : Bool} {told : List Incident} {y : Call × Shared} (h : ch.GivesBack)
    (hl : ch.current? = some log) (unbroken : Incident.breaks log.incidents = false)
    (disposes : Disposes pending (possessions log.incidents ++ told) s y)
    (hp : possessions incidents = told ++ (holdings (s.since y.2)).map .did)
    (hb : Incident.breaks incidents = breaks (s.since y.2)) (own : ending.isAbandonment = false) :
    (ch.enter incidents (if (r.keep y.1).isActive then none else some ending)).Tells (r.keep y.1)
      (pending → completes (s.since y.2) = false) := by
  have hp : possessions (log.incidents ++ incidents) =
      possessions log.incidents ++ told ++ (holdings (s.since y.2)).map .did := by
    rw [possessions, List.filter_append, List.append_assoc]
    exact congrArg _ hp
  have hb : Incident.breaks (log.incidents ++ incidents) = breaks (s.since y.2) := by
    rw [Incident.breaks_append, unbroken, hb, Bool.false_or]
  simp only [Chronicle.enter, hl]
  cases disposes
  case goesOn es ht possesses unbroken timely =>
    rw [Shared.since_eq ht] at hp hb ⊢
    have hk : (r.keep y.1).call? = some y.1 := by simp [Router.keep_call?, possesses.live]
    simp only [Router.isActive, hk, Option.isSome_some, if_true]
    refine .inl ⟨timely, { ended := h.ended, outside := h.outside, idle := by simp [hk], busy := ?_ }⟩
    rintro call hc
    obtain rfl := Option.some.inj (hk.symm.trans hc)
    exact ⟨_, rfl, hp ▸ possesses, hb.trans unbroken⟩
  case ends es ht dead givenBack timely =>
    rw [Shared.since_eq ht] at hp hb ⊢
    have hk : (r.keep y.1).call? = none := by simp [Router.keep_call?, dead]
    simp only [Router.isActive, hk, Option.isSome_none, Bool.false_eq_true, if_false]
    have back : CallLog.GivenBack { log with incidents := log.incidents ++ incidents } ending := by
      rwa [CallLog.GivenBack, own, Bool.false_or, hb, hp]
    have h : GivesBack { ch with current? := none, ended := (_, ending) :: ch.ended } :=
      ⟨List.forall_mem_cons.mpr ⟨back, h.ended⟩, h.outside⟩
    exact .inl ⟨timely, h.minds hk rfl⟩
  case forgets owed es ht dead untimely kept =>
    rw [Shared.since_eq ht] at hp ⊢
    have hk : (r.keep y.1).call? = none := by simp [Router.keep_call?, dead]
    simp only [Router.isActive, hk, Option.isSome_none, Bool.false_eq_true, if_false]
    have back : ¬ CallLog.GivenBack { log with incidents := log.incidents ++ incidents } ending := by
      rw [CallLog.GivenBack, hp, kept]
      exact not_givenBack_of_pending
    exact .inr ⟨by simp [untimely], .ended (List.mem_cons_self ..) back⟩

-- A message that the router answers itself.
theorem Minds.answers {n : Nat} {e : Exception} {s' : Shared} (h : ch.Minds r)
    (routed : ((r.discard s).emit (.drew n)).Routed s' es) (idle : r'.call? = none) :
    (ch.file ⟨r, .event (.messageBegin message), s.since (r'.reply e s'), r'⟩).Minds r' := by
  have back := h.discard .replaced rfl
  have ht : (r'.reply e s').transcript = (r.discard s).transcript ++ .drew n :: (es ++ [.replied r'.id e true]) := by
    simp [Router.reply, routed.transcript]
  have hn : creates (.drew n :: (es ++ [.replied r'.id e true])) = false := by
    rw [creates_cons, creates_append, creates_of_routing routed.routing]
    rfl
  have aside : holdings es = [] := holdings_of_routing routed.routing
  rw [file_messageBegin (x := (r', r'.reply e s')) ht]
  simp only [Chronicle.begin, hn, Bool.false_eq_true, if_false]
  have outside := back.outside
  exact GivesBack.minds ⟨back.ended, by simp_all⟩ idle enter_current?

-- A message for which a call is created.
theorem Minds.launches {n : Nat} {s' : Shared} (o : Origin) (h : ch.Minds r)
    (routed : ((r.discard s).emit (.drew n)).Routed s' es) :
    (ch.file ⟨r, .event (.messageBegin o.message), s.since (o.begin c r.id s').2,
      r'.keep (o.begin c r.id s').1⟩).Minds (r'.keep (o.begin c r.id s').1) := by
  obtain ⟨es', ht⟩ := o.begin_transcript c r.id s'
  have hd : (o.begin c r.id s').2.transcript =
      (r.discard s).transcript ++ .drew n :: (es ++ .madeCodec r.id o.leg :: es') := by
    simp [ht, routed.transcript]
  have hn : creates (.drew n :: (es ++ .madeCodec r.id o.leg :: es')) := by
    simp
  have aside : holdings es = [] := holdings_of_routing routed.routing
  let log : CallLog := { message := o.message, route? := r'.route?, passthrough := r'.passthrough }
  let incidents := Incident.told (.messageBegin o.message) ::
    (.drew n :: (es ++ .madeCodec r.id o.leg :: es')).map .did
  have hp : possessions incidents = [] ++ (holdings (s'.since (o.begin c r.id s').2)).map .did := by
    rw [Shared.since_eq ht]
    simp [incidents, List.filter_map, Function.comp_def, aside]
  have hb : Incident.breaks incidents = breaks (s'.since (o.begin c r.id s').2) := by
    rw [Shared.since_eq ht, Incident.breaks_told, Incident.breaks_did]
    simp [breaks_of_routing routed.routing]
  have begun : Disposes false (possessions log.incidents ++ []) s' (o.begin c r.id s') :=
    Call.begin_disposes o c r.id s'
  have back := h.discard .replaced rfl
  have opened : GivesBack { ch.enter (r.discardEffects.map .did) (some .replaced) with current? := some log } :=
    ⟨back.ended, back.outside⟩
  rw [file_messageBegin (x := (r'.keep (o.begin c r.id s').1, (o.begin c r.id s').2)) hd]
  simp only [Chronicle.begin, hn, if_true]
  exact (opened.enter rfl rfl begun hp hb (ending_own _ _)).minds (by simp)

theorem Tells.congr {well well' : Prop} (h : ch.Tells r well) (hw : well ↔ well') : ch.Tells r well' :=
  propext hw ▸ h

theorem isTimely_iff {event : RouterEvent} : Turn.IsTimely ⟨r, .event event, es, r'⟩ ↔
    (event.isCompletion → r.isPending) ∧ (event.isData && r.isPending → completes es = false) := by
  cases event <;> simp [Turn.IsTimely, RouterEvent.isData]

-- An event for which there is no call.
theorem Minds.idles {event : RouterEvent} (h : ch.Minds r) (c : Surroundings) (s : Shared) (hc : r.call? = none)
    (he : ∀ message, event ≠ .messageBegin message) :
    let turn : Turn := ⟨r, .event event, s.since (r.apply c event s).2.2, (r.apply c event s).2.1⟩
    (ch.file turn).Tells turn.after turn.IsTimely := by
  intro turn
  have hi := h.idle hc
  cases completion : event.isCompletion
  case false =>
    have hs : s.since s = [] := Shared.since_eq (List.append_nil _).symm
    have outside := h.outside
    simp only [turn, Router.apply_of_none c s hc he completion, hs, file_event he, enter_of_none hi]
    refine .inl ⟨isTimely_iff.mpr ⟨by simp [completion], fun _ => rfl⟩, GivesBack.minds ⟨h.ended, ?_⟩ hc hi⟩
    simp_all
  case true  =>
    have untimely : ¬ turn.IsTimely := by
      rw [isTimely_iff]
      simp [completion, Router.isPending, hc]
    refine .inr ⟨untimely, .outside ?_⟩
    simp [turn, file_event he, enter_of_none hi, completion]

-- An event that the call takes.
theorem Minds.takes {event : RouterEvent} (h : ch.Minds r) (coherent : r.Coherent) (c : Surroundings) (s : Shared)
    (hc : r.call? = some call) (he : ∀ message, event ≠ .messageBegin message)
    (ready : event.isDecode → r.isPaused = false) :
    let turn : Turn := ⟨r, .event event, s.since (r.apply c event s).2.2, (r.apply c event s).2.1⟩
    (ch.file turn).Tells turn.after turn.IsTimely := by
  intro turn
  obtain ⟨log, hl, possesses, unbroken⟩ := h.busy hc
  have hp : r.isPending = call.pending := by simp [Router.isPending, hc]
  by_cases owed : event.isCompletion → call.pending
  case pos =>
    let y := call.take c r.passthrough event s
    have hx : (r.apply c event s).2 = (r.keep y.1, y.2) := Router.apply_of_call c s hc (coherent call hc).1.live he
    have disposes := possesses.take c r.passthrough event s (Router.isPaused_of_call hc ▸ ready) owed
    have hd : possessions (.told event :: (s.since y.2).map .did) =
        (if event.isCompletion then [.told event] else []) ++ (holdings (s.since y.2)).map .did := by
      rw [← possessions_did]
      cases completion : event.isCompletion <;> simp [completion]
    have same : (event.isData && call.pending → completes (s.since y.2) = false) ↔ turn.IsTimely := by
      rw [isTimely_iff, hx, hp]
      exact (and_iff_right owed).symm
    have told := h.toGivesBack.enter (r := r) hl unbroken disposes hd
      (Incident.breaks_told.trans Incident.breaks_did) (ending_own (s.since y.2) event)
    have told := told.congr same
    simpa only [turn, file_event he, hx] using told
  case neg =>
    obtain ⟨completion, handed⟩ := Classical.not_imp.mp owed
    have untimely : ¬ turn.IsTimely := fun timely => owed (hp ▸ (isTimely_iff.mp timely).1)
    have settled := countP_isPending_of_apply coherent c s he
    have overdrawn := (possesses.overdrawn (Bool.eq_false_iff.mpr handed) completion).append settled
    refine .inr ⟨untimely, ?_⟩
    rw [file_event he]
    refine spoilt_of_overdrawn hl ?_
    simpa [completion] using overdrawn

theorem Minds.begins {phase phase' : Phase} {x : Router × Shared} (h : ch.Minds r)
    (moves : Router.Moves c r s phase (.event (.messageBegin message)) phase' x) :
    (ch.file ⟨r, .event (.messageBegin message), s.since x.2, x.1⟩).Minds x.1 := by
  cases moves
  case answers routed _ idle     => exact h.answers routed idle
  case launches o _ _ routed _ _ => exact h.launches o routed
  case takes takes               => cases takes
  case idles he                  => exact absurd rfl (he message)

theorem Minds.file (h : ch.Minds r) (coherent : r.Coherent) (c : Surroundings) (callback : Callback) (s : Shared)
    (ready : ∀ event, callback = .event event → event.isDecode → r.isPaused = false) :
    let turn : Turn := ⟨r, callback, s.since (r.handle c callback s).2, (r.handle c callback s).1⟩
    (ch.file turn).Tells turn.after turn.IsTimely := by
  intro turn
  cases callback
  case destroy     =>
    have hs : s.since (r.discard s) = r.discardEffects := Shared.since_eq Router.discard_transcript
    refine .inl ⟨trivial, ?_⟩
    simp only [turn, Router.handle, Router.destroy, Chronicle.file, hs]
    exact (h.discard .destroyed rfl).minds rfl enter_current?
  case event event =>
    by_cases he : ∃ message, event = .messageBegin message
    case pos =>
      obtain ⟨message, rfl⟩ := he
      refine .inl ⟨trivial, ?_⟩
      exact h.begins (Router.beginMessage_moves c r message s .between)
    case neg =>
      have he := not_exists.mp he
      cases hc : r.call?
      case none      => exact h.idles c s hc he
      case some call => exact h.takes coherent c s hc he (ready event rfl)

-- A router without a call has no log open.
theorem file_current? {turn : Turn} (hc : turn.after.call? = none) : (ch.file turn).current? = none := by
  obtain ⟨before, callback, es, after⟩ := turn
  have idle : after.isActive = false := by simp_all [Router.isActive]
  cases callback
  case destroy     => simpa [Chronicle.file, idle] using enter_current?
  case event event =>
    cases event
    case messageBegin message =>
      simp only [Chronicle.file, Chronicle.begin, idle]
      split
      · exact enter_current?
      · exact enter_current?
    all_goals simpa [Chronicle.file, idle] using enter_current?

theorem Spoilt.not_givesBack (h : ch.Spoilt) (hi : ch.current? = none) : ¬ ch.GivesBack := by
  intro back
  cases h
  case ended hx kept => exact kept (back.ended _ hx)
  case outside taken => exact taken back.outside
  case current hl _  => cases hi.symm.trans hl

theorem Tells.givesBack_iff {well : Prop} (h : ch.Tells r well) (hi : ch.current? = none) : ch.GivesBack ↔ well := by
  cases h
  case inl h => exact iff_of_true h.2.toGivesBack h.1
  case inr h => exact iff_of_false (h.2.not_givesBack hi) h.1

end Chronicle

-- The turns of a router that takes events of the decoder only while it is not paused, and all others at any time, the
-- latest turn first.
inductive Succession (c : Surroundings) (id : RouterId) (table : RouteTable) : Router → List Turn → Prop
  | start : Succession c id table { id, table } []
  | turn (before : Succession c id table r turns) (callback : Callback) (s : Shared)
      (ready : ∀ event, callback = .event event → event.isDecode → r.isPaused = false) :
    Succession c id table (r.handle c callback s).1
      (⟨r, callback, s.since (r.handle c callback s).2, (r.handle c callback s).1⟩ :: turns)

namespace Succession

variable {c : Surroundings} {id : RouterId} {table : RouteTable} {r : Router} {turns : List Turn}

theorem coherent (h : Succession c id table r turns) : r.Coherent := by
  induction h
  case start                    => exact .of_idle rfl
  case turn callback s ready ih => exact Router.handle_coherent c callback s ih

theorem tells (h : Succession c id table r turns) :
    (Chronicle.ofTurns turns).Tells r (∀ turn ∈ turns, turn.IsTimely) := by
  induction h
  case start                           =>
    exact .inl ⟨List.forall_mem_nil _, Chronicle.GivesBack.minds ⟨List.forall_mem_nil _, rfl⟩ rfl rfl⟩
  case turn before callback s ready ih =>
    cases ih
    case inl ih =>
      obtain ⟨timely, minds⟩ := ih
      exact (minds.file before.coherent c callback s ready).congr
        (List.forall_mem_cons.trans (and_iff_left timely)).symm
    case inr ih =>
      obtain ⟨untimely, spoilt⟩ := ih
      exact .inr ⟨fun timely => untimely (List.forall_mem_cons.mp timely).2,
        spoilt.file before.coherent c callback s⟩

-- A router that has no call any more.
theorem givesBack_iff (h : Succession c id table r turns) (hc : r.call? = none) :
    (Chronicle.ofTurns turns).current? = none ∧
    ((Chronicle.ofTurns turns).GivesBack ↔ ∀ turn ∈ turns, turn.IsTimely) := by
  have hi : (Chronicle.ofTurns turns).current? = none := by
    cases h
    case start => rfl
    case turn  => exact Chronicle.file_current? hc
  exact ⟨hi, h.tells.givesBack_iff hi⟩

end Succession

end RpcProxy
