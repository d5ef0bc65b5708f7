import RpcProxy.Proofs.Call.Effects
import RpcProxy.Proofs.Exchange.Table

namespace RpcProxy

-- An effect by which the course of a connection can be followed from outside.
abbrev Effect.isLink : Effect → Bool
  | acquired ..     => true
  | closed ..       => true
  | encodedBegin .. => true
  | _               => false

abbrev links (es : List Effect) : List Effect :=
  es.filter (·.isLink)

def Effect.closed? : Effect → Option ConnectionId
  | closed id _ => some id
  | _           => none

def Effect.handed? : Effect → Option ConnectionId
  | acquired _ (.ready id _) => some id
  | _                        => none

def Effect.sequenceId? : Effect → Option Int
  | encodedBegin _ message _ => some message.sequenceId
  | _                        => none

def closings (es : List Effect) : List ConnectionId :=
  es.filterMap (·.closed?)

-- The connections that pools have handed over at once.
def handings (es : List Effect) : List ConnectionId :=
  es.filterMap (·.handed?)

-- The sequence ids of the requests that were begun.
def begins (es : List Effect) : List Int :=
  es.filterMap (·.sequenceId?)

section

variable {e : Effect} {es es' : List Effect}

theorem closings_links : closings (links es) = closings es :=
  filterMap_of_filter fun e => by cases e <;> simp [Effect.closed?]

theorem handings_links : handings (links es) = handings es :=
  filterMap_of_filter fun e => by cases e <;> simp [Effect.handed?]

theorem begins_links : begins (links es) = begins es :=
  filterMap_of_filter fun e => by cases e <;> simp [Effect.sequenceId?]

theorem closings_of_links (h : links es = []) : closings es = [] := by
  rw [← closings_links, h]
  rfl

theorem handings_of_links (h : links es = []) : handings es = [] := by
  rw [← handings_links, h]
  rfl

theorem begins_of_links (h : links es = []) : begins es = [] := by
  rw [← begins_links, h]
  rfl

@[simp]
theorem closings_cons : closings (e :: es) = e.closed?.toList ++ closings es := by
  cases h : e.closed? <;> simp [closings, h]

@[simp]
theorem handings_cons : handings (e :: es) = e.handed?.toList ++ handings es := by
  cases h : e.handed? <;> simp [handings, h]

@[simp]
theorem closings_append : closings (es ++ es') = closings es ++ closings es' :=
  List.filterMap_append ..

@[simp]
theorem handings_append : handings (es ++ es') = handings es ++ handings es' :=
  List.filterMap_append ..

@[simp]
theorem begins_append : begins (es ++ es') = begins es ++ begins es' :=
  List.filterMap_append ..

@[simp]
theorem begins_closures {id? : Option ConnectionId} : begins (closures id?) = [] := by
  cases id? <;> rfl

@[simp]
theorem closings_closures {id? : Option ConnectionId} : closings (closures id?) = id?.toList := by
  cases id? <;> rfl

@[simp]
theorem handings_closures {id? : Option ConnectionId} : handings (closures id?) = [] := by
  cases id? <;> rfl

end

-- A connection together with the state that a call keeps of it.
abbrev Hold :=
  ConnectionId × StateRef

-- What happens to a table and to the hold of a call on one of its entries, with the sequence ids that are
-- given out.
inductive Deal (handed? : Option ConnectionId) (hold? : Option Hold) (t : ConnectionTable) :
    List Int → Option Hold → ConnectionTable → Prop
  | keeps : Deal handed? hold? t [] hold? t
  | drops : Deal handed? hold? t [] none t
  | attaches {id : ConnectionId} (h : handed? = some id) :
    Deal handed? hold? t [] (some (id, (t.getOrCreate id).1)) (t.getOrCreate id).2
  | starts {id : ConnectionId} (h : handed? = some id) :
    Deal handed? hold? t [(((t.getOrCreate id).2.state (t.getOrCreate id).1).nextSequence : Int)]
      (some (id, (t.getOrCreate id).1)) ((t.getOrCreate id).2.modify (t.getOrCreate id).1 .advance)
  | resumes {id : ConnectionId} (h : handed? = none) (hh : hold? = some (id, ref))
      (ht : t' = t ∨ t' = t.modify ref .upgrade) (hh' : hold'? = hold? ∨ hold'? = none) :
    Deal handed? hold? t [((t'.state ref).nextSequence : Int)] hold'? (t'.modify ref .advance)

namespace Deal

variable {handed? focus? : Option ConnectionId} {hold? hold'? : Option Hold} {t t' : ConnectionTable}
  {begun : List Int} {id : ConnectionId} {ref : StateRef} {ids : ConnectionId → List Int}

theorem grows (h : Deal handed? hold? t begun hold'? t') : t.Grows t' handed? := by
  cases h
  case keeps        => exact .refl
  case drops        => exact .refl
  case attaches h   => exact h ▸ .getOrCreate
  case starts h     => exact h ▸ .modify .getOrCreate
  case resumes ht _ =>
    cases ht
    case inl ht => exact ht ▸ .modify .refl
    case inr ht => exact ht ▸ .modify (.modify .refl)

-- A hold is the one that was there before, or one on the connection that was handed over.
theorem hold_cases (h : Deal handed? hold? t begun hold'? t') (hh' : hold'? = some (id, ref)) :
    handed? = some id ∧ t'.find? id = some ref ∨ hold? = some (id, ref) := by
  cases h
  case keeps => exact .inr hh'
  case drops => cases hh'
  case attaches h =>
    obtain ⟨rfl, rfl⟩ := Prod.mk.inj (Option.some.inj hh')
    exact .inl ⟨h, ConnectionTable.find?_getOrCreate_self⟩
  case starts h =>
    obtain ⟨rfl, rfl⟩ := Prod.mk.inj (Option.some.inj hh')
    exact .inl ⟨h, ConnectionTable.find?_getOrCreate_self⟩
  case resumes _ hk =>
    cases hk
    case inl hk => exact .inr (hk ▸ hh')
    case inr hk => cases hk.symm.trans hh'

theorem isSome_of_begun (h : Deal handed? hold? t begun hold'? t') (hb : begun ≠ []) :
    (handed?.or (hold?.map (·.1))).isSome := by
  cases h
  case keeps             => exact absurd rfl hb
  case drops             => exact absurd rfl hb
  case attaches          => exact absurd rfl hb
  case starts h          => rw [h]; rfl
  case resumes h hh' _ _ => rw [h, hh']; rfl

theorem hold_of_begun (h : Deal handed? hold? t begun hold'? t') (hb : begun ≠ [])
    (hh' : hold'? = some (id, ref)) : handed?.or (hold?.map (·.1)) = some id := by
  cases h
  case keeps    => exact absurd rfl hb
  case drops    => exact absurd rfl hb
  case attaches => exact absurd rfl hb
  case starts h =>
    rw [h, (Prod.mk.inj (Option.some.inj hh')).1]
    rfl
  case resumes h hh _ hk =>
    cases hk
    case inl hk =>
      rw [h, ← hk, hh']
      rfl
    case inr hk => cases hk.symm.trans hh'

-- The sequence ids that are given out are the next ones of the connection in the focus.
theorem agrees (h : Deal handed? hold? t begun hold'? t') (ha : t.Agrees ids)
    (hh : ∀ {id ref}, hold? = some (id, ref) → t.find? id = some ref)
    (hf : ∀ {id}, handed?.or (hold?.map (·.1)) = some id → focus? = some id) :
    t'.Agrees fun id => ids id ++ if focus? = some id then begun else [] := by
  cases h
  case keeps      => simpa using ha
  case drops      => simpa using ha
  case attaches h => simpa using ha.getOrCreate
  case starts h   =>
    rw [hf (by rw [h]; rfl)]
    simp only [Option.some.injEq]
    exact ha.getOrCreate.advance ConnectionTable.find?_getOrCreate_self
  case resumes h hh' ht _ =>
    rw [hf (by rw [h, hh']; rfl)]
    simp only [Option.some.injEq]
    cases ht
    case inl ht => exact ht ▸ ha.advance (hh hh')
    case inr ht => exact ht ▸ (ha.upgrade (hh hh')).advance (hh hh')

end Deal

namespace Call

variable {c : Surroundings} {call : Call} {s : Shared} {id : ConnectionId} {host : Host}
  {reason : ConnectionFailure} {ref : StateRef}

def hold? (call : Call) : Option Hold :=
  call.connection?.bind fun id => call.stateRef?.map (id, ·)

-- A call with a connection has the state of it, and only such a call awaits the reply to an upgrade request.
structure Linked (call : Call) : Prop where
  state   : call.connection?.isSome → call.stateRef?.isSome
  upgrade : call.upgradeReply → call.connection?.isSome

-- An operation that first gives up the entry of the call's connection, if one is named, and then deals with the
-- table.
structure Trades (call : Call) (s : Shared) (x : Call × Shared) (es : List Effect)
    (handed? gone? : Option ConnectionId) : Prop where
  transcript : x.2.transcript = s.transcript ++ es
  owned      : gone?.isSome → gone? = call.connection?
  deal       : Deal handed? (if gone?.isSome then none else call.hold?) (s.connections.without gone?)
    (begins es) x.1.hold? x.2.connections
  linked     : x.1.isTerminal = false → x.1.Linked
  freed      : x.1.isTerminal → x.1.hold? = none

@[simp]
theorem chargeTime_connections : (call.chargeTime s).2.connections = s.connections := by
  unfold chargeTime
  split <;> rfl

@[simp]
theorem release_connections {close : Bool} : (call.release close s).2.connections =
    if close then s.connections.without call.connection? else s.connections := by
  cases hi : call.connection? <;> cases close <;> cases hp : call.pending <;> simp [release, hi, hp]

@[simp]
theorem finish_connections : (call.finish s).2.connections = s.connections := by
  simp [finish]

@[simp]
theorem abandon_connections :
    (call.abandon s).2.connections = s.connections.without call.connection? := by
  simp [abandon]

@[simp]
theorem report_connections : (call.report reason s).connections = s.connections := by
  cases reason <;> simp only [report, Shared.emit_connections, Shared.judge_connections]
  all_goals split <;> simp

@[simp]
theorem fail_connections : (call.fail reason s).2.connections = s.connections := by
  unfold fail
  dsimp only
  split <;> simp

@[simp]
theorem cutShort_connections : (call.cutShort s).2.connections = s.connections := by
  simp [cutShort]

@[simp]
theorem breakOff_connections :
    (call.breakOff s).2.connections = s.connections.without call.connection? := by
  simp [breakOff]

@[simp]
theorem classify_connections : (call.classify c s).2.connections = s.connections := by
  unfold classify
  split
  case h_1 => dsimp only; split <;> rfl
  all_goals rfl

@[simp]
theorem respond_connections : (call.respond c s).2.connections = s.connections := by
  simp [respond]

theorem lose_connections :
    (call.lose reason s).2.connections = s.connections.without call.connection? := by
  cases hi : call.connection? <;> simp [lose, hi]

theorem upgraded_connections (h : call.stateRef? = some ref) :
    (call.upgraded c s).connections = s.connections ∨
    (call.upgraded c s).connections = s.connections.modify ref .upgrade := by
  simp only [upgraded, h]
  split
  · exact .inr rfl
  · exact .inl rfl

theorem startRequest_connections {resume : Bool} (h : call.stateRef? = some ref) :
    (call.startRequest c resume s).2.connections = s.connections.modify ref .advance := by
  cases resume <;> simp [startRequest, h, Shared.takeSequence, ConnectionTable.takeSequence]

theorem hold?_of_none (h : call.connection? = none) : call.hold? = none := by
  simp [hold?, h]

@[simp]
theorem finish_hold? : (call.finish s).1.hold? = none :=
  hold?_of_none (by rw [finish_fst])

@[simp]
theorem fail_hold? : (call.fail reason s).1.hold? = none := by
  unfold fail
  dsimp only
  split <;> rfl

-- An operation that ends the call and lets go of its connection.
theorem Trades.of_end {x : Call × Shared} {es : List Effect} {gone? : Option ConnectionId}
    (ht : x.2.transcript = s.transcript ++ es) (he : x.1.isTerminal) (hh : x.1.hold? = none)
    (hc : x.2.connections = s.connections.without gone?) (hb : begins (links es) = [])
    (ho : gone?.isSome → gone? = call.connection?) : call.Trades s x es none gone? where
  transcript := ht
  owned      := ho
  deal       := by
    rw [← begins_links, hb, hh, hc]
    exact .drops
  linked h   := by simp [he] at h
  freed _    := hh

theorem finish_trades (call : Call) (s : Shared) :
    call.Trades s (call.finish s) call.finishEffects none none :=
  .of_end finish_transcript finish_isTerminal finish_hold? (by simp) (by simp [begins]) nofun

theorem fail_trades (call : Call) (reason : ConnectionFailure) (s : Shared) :
    call.Trades s (call.fail reason s) (call.failEffects reason) none none :=
  .of_end fail_transcript fail_isTerminal fail_hold? (by simp) (by simp [begins]) nofun

theorem lose_trades (call : Call) (reason : ConnectionFailure) (s : Shared) :
    call.Trades s (call.lose reason s) (call.failEffects reason) none call.connection? :=
  .of_end lose_transcript lose_isTerminal fail_hold? lose_connections (by simp [begins]) fun _ => rfl

theorem cutShort_trades (call : Call) (s : Shared) :
    call.Trades s (call.cutShort s) call.cutShortEffects none none :=
  .of_end cutShort_transcript cutShort_isTerminal fail_hold? (by simp) (by simp [begins]) nofun

theorem breakOff_trades (call : Call) (s : Shared) :
    call.Trades s (call.breakOff s) call.breakOffEffects none call.connection? :=
  .of_end breakOff_transcript breakOff_isTerminal fail_hold? (by simp) (by simp) fun _ => rfl

theorem respond_trades (c : Surroundings) (call : Call) (s : Shared) :
    call.Trades s (call.respond c s) (call.respondEffects c s) none none :=
  .of_end respond_transcript respond_isTerminal finish_hold? (by simp) (by simp [begins]) nofun

theorem links_startEffects {resume : Bool} : links (call.startEffects c resume s) =
    [.encodedBegin call.router (call.numbered s)
      (c.encodeBegin s.transcript call.router call.leg (call.numbered s))] := by
  cases resume <;> simp [startEffects]

@[simp]
theorem closings_startEffects {resume : Bool} : closings (call.startEffects c resume s) = [] := by
  rw [← closings_links, links_startEffects]
  rfl

@[simp]
theorem handings_startEffects {resume : Bool} : handings (call.startEffects c resume s) = [] := by
  rw [← handings_links, links_startEffects]
  rfl

theorem begins_startEffects {resume : Bool} (h : call.stateRef? = some ref) :
    begins (call.startEffects c resume s) = [((s.connections.state ref).nextSequence : Int)] := by
  rw [← begins_links, links_startEffects]
  simp [begins, Effect.sequenceId?, numbered, h]

theorem connect_trades (c : Surroundings) (call : Call) (id : ConnectionId) (host : Host) (s : Shared) :
    ∃ es, closings es = [] ∧ handings es = [] ∧
      call.Trades s (call.connect c id host s) es (some id) none := by
  cases ho : call.offered? c id host s
  case some request =>
    rw [connect_of_offer ho]
    have hl : links (.judged host .connected :: .offeredUpgrade call.router (some request) ::
        .wrote id (call.buffer ++ request) false :: releases call.connection?) = [] := by
      simp
    refine ⟨_, closings_of_links hl, handings_of_links hl,
      { transcript := rfl, owned := nofun, deal := ?_, linked := ?_, freed := nofun }⟩
    · rw [begins_of_links hl]
      exact .attaches rfl
    · exact fun _ => { state := fun _ => rfl, upgrade := fun _ => rfl }
  case none =>
    rw [connect_of_no_offer ho]
    have hl : links (.judged host .connected :: call.offerEffects none ++ releases call.connection?) = [] := by
      simp
    refine ⟨(.judged host .connected :: call.offerEffects none ++ releases call.connection?) ++ _, ?_, ?_,
      { transcript := by simp; rfl, owned := nofun, deal := ?_, linked := ?_, freed := ?_ }⟩
    · rw [closings_append, closings_of_links hl, closings_startEffects]
      rfl
    · rw [handings_append, handings_of_links hl, handings_startEffects]
      rfl
    · rw [begins_append, begins_of_links hl, begins_startEffects rfl, startRequest_connections rfl,
        startRequest_fst]
      exact .starts rfl
    · rw [startRequest_fst]
      exact fun _ => { state := fun _ => rfl, upgrade := fun _ => rfl }
    · rw [startRequest_fst]
      nofun

-- Nothing has changed about the table and the connection of the call.
structure Rests (call : Call) (s : Shared) (x : Call × Shared) : Prop where
  connections : x.2.connections = s.connections
  connection  : x.1.connection? = call.connection?
  state       : x.1.stateRef? = call.stateRef?

theorem Rests.hold? {x : Call × Shared} (h : call.Rests s x) : x.1.hold? = call.hold? := by
  simp only [Call.hold?, h.connection, h.state]

-- An operation is judged together with what the call has done just before.
theorem Trades.after {call' : Call} {s' : Shared} {x : Call × Shared} {es es' : List Effect}
    {handed? gone? : Option ConnectionId} (h : call'.Trades s' x es' handed? gone?)
    (ht : s'.transcript = s.transcript ++ es) (hb : begins es = []) (hr : call.Rests s (call', s')) :
    call.Trades s x (es ++ es') handed? gone? where
  transcript := by rw [h.transcript, ht, List.append_assoc]
  owned g    := hr.connection ▸ h.owned g
  deal       := by
    rw [begins_append, hb, List.nil_append, ← hr.connections, ← hr.hold?]
    exact h.deal
  linked     := h.linked
  freed      := h.freed

-- An operation after which the call goes on as before with its connection.
theorem Trades.of_rest {x : Call × Shared} {es : List Effect} (h : call.Linked)
    (ht : x.2.transcript = s.transcript ++ es) (hb : begins es = []) (hr : call.Rests s x)
    (hl : x.1.isTerminal = false) (hu : x.1.upgradeReply = call.upgradeReply) :
    call.Trades s x es none none where
  transcript := ht
  owned      := nofun
  deal       := by
    rw [hb, hr.connections, hr.hold?]
    exact .keeps
  linked _   := {
    state := by rw [hr.connection, hr.state]; exact h.state,
    upgrade := by rw [hu, hr.connection]; exact h.upgrade }
  freed ht   := by simp [hl] at ht

theorem failToConnect_trades (call : Call) (reason : ConnectionFailure) (host? : Option Host) (s : Shared) :
    ∃ es, links es = [] ∧ call.Trades s (call.failToConnect reason host? s) es none none :=
  ⟨_, by simp, (fail_trades _ reason s).after (List.append_nil _).symm rfl ⟨rfl, rfl, rfl⟩⟩

theorem start_trades (c : Surroundings) (s : Shared) (h : call.Linked) (hl : call.isTerminal = false) :
    ∃ es handed?, closings es = [] ∧ handings es = handed?.toList ∧
      call.Trades s (call.start c s).2 es handed? none := by
  cases ha : c.acquire s.transcript call.pool <;> simp only [start, ha]
  case pending => exact ⟨[_], none, rfl, rfl, .of_rest h rfl rfl ⟨rfl, rfl, rfl⟩ hl rfl⟩
  case ready id host =>
    have ⟨es, hc, hh, ht⟩ := connect_trades c call id host (s.emit (.acquired call.pool (.ready id host)))
    exact ⟨_, some id, by simp [hc, Effect.closed?], by simp [hh, Effect.handed?],
      ht.after Shared.emit_transcript rfl ⟨rfl, rfl, rfl⟩⟩
  case failed reason host? =>
    have ⟨es, hn, ht⟩ :=
      failToConnect_trades call reason host? (s.emit (.acquired call.pool (.failed reason host?)))
    exact ⟨_, none, by simp [closings_of_links hn, Effect.closed?],
      by simp [handings_of_links hn, Effect.handed?], ht.after Shared.emit_transcript rfl ⟨rfl, rfl, rfl⟩⟩

theorem writeBody_trades (c : Surroundings) (body : Bytes) (passthrough : Bool) (s : Shared)
    (h : call.Linked) (hl : call.isTerminal = false) :
    ∃ es, links es = [] ∧ call.Trades s (call.writeBody c body passthrough s) es none none := by
  unfold writeBody
  split
  · exact ⟨[], rfl, .of_rest h (by simp) rfl ⟨rfl, rfl, rfl⟩ hl rfl⟩
  · exact ⟨_, rfl, .of_rest h Shared.emit_transcript rfl ⟨rfl, rfl, rfl⟩ hl rfl⟩

theorem endRequest_trades (c : Surroundings) (s : Shared) (h : call.Linked)
    (hl : call.isTerminal = false) :
    ∃ es, links es = [] ∧ call.Trades s (call.endRequest c s) es none none := by
  cases hi : call.connection? <;> simp only [endRequest, hi]
  case none => exact ⟨[], rfl, .of_rest h (by simp) rfl ⟨rfl, rfl, rfl⟩ hl rfl⟩
  case some =>
    refine ⟨_, ?_, .of_rest h (by simp only [Shared.emit_transcript, List.append_assoc]; rfl) ?_
      ⟨rfl, hi.symm, rfl⟩ rfl rfl⟩
    · rfl
    · rfl

-- The state of the connection whose upgrade is awaited.
theorem Linked.exists_hold (h : call.Linked) (hu : call.upgradeReply) :
    ∃ id ref, call.stateRef? = some ref ∧ call.hold? = some (id, ref) := by
  have ⟨id, hi⟩ := Option.isSome_iff_exists.mp (h.upgrade hu)
  have ⟨ref, hr⟩ := Option.isSome_iff_exists.mp (h.state (h.upgrade hu))
  exact ⟨id, ref, hr, by simp [hold?, hi, hr]⟩

section

variable {s' : Shared} {es : List Effect}

-- A request that begins after the reply to the upgrade request has the next sequence id of its connection.
theorem resume_deal {hold'? : Option Hold} (hr : call.stateRef? = some ref)
    (hh : call.hold? = some (id, ref)) (hb : begins es = [])
    (hc : s'.connections = s.connections ∨ s'.connections = s.connections.modify ref .upgrade)
    (hh' : hold'? = call.hold? ∨ hold'? = none) :
    Deal none call.hold? s.connections (begins (es ++ call.startEffects c true s')) hold'?
      (call.startRequest c true s').2.connections := by
  rw [begins_append, hb, begins_startEffects hr, startRequest_connections hr]
  exact .resumes rfl hh hc hh'

theorem resume_trades (h : call.Linked) (hr : call.stateRef? = some ref)
    (hh : call.hold? = some (id, ref)) (ht : s'.transcript = s.transcript ++ es) (hb : begins es = [])
    (hc : s'.connections = s.connections ∨ s'.connections = s.connections.modify ref .upgrade) :
    call.Trades s (call.startRequest c true s') (es ++ call.startEffects c true s') none none where
  transcript := by rw [startRequest_transcript, ht, List.append_assoc]
  owned      := nofun
  deal       := resume_deal hr hh hb hc (.inl (by rw [startRequest_fst]; rfl))
  linked _   := by
    rw [startRequest_fst]
    exact { state := h.state, upgrade := h.upgrade }
  freed      := by
    rw [startRequest_fst]
    nofun

-- The connection has ended, so the call lets go of it at once.
theorem resume_cutShort_trades (call : Call) (hr : call.stateRef? = some ref)
    (hh : call.hold? = some (id, ref)) (ht : s'.transcript = s.transcript ++ es) (hb : begins es = [])
    (hc : s'.connections = s.connections ∨ s'.connections = s.connections.modify ref .upgrade) :
    let x := call.startRequest c true s'
    call.Trades s (x.1.cutShort x.2) (es ++ call.startEffects c true s' ++ x.1.cutShortEffects)
      none none where
  transcript := by
    rw [cutShort_transcript, startRequest_transcript, ht]
    simp only [List.append_assoc]
  owned      := nofun
  deal       := by
    have hn (call : Call) : links call.cutShortEffects = [] := by simp
    rw [begins_append, begins_of_links (hn _), List.append_nil, cutShort_connections]
    exact resume_deal hr hh hb hc (.inr fail_hold?)
  linked h   := by simp [cutShort_isTerminal] at h
  freed _    := fail_hold?

end

theorem readUpgrade_trades (c : Surroundings) (data : Bytes) (endStream : Bool) (s : Shared)
    (h : call.Linked) (hl : call.isTerminal = false) (hu : call.upgradeReply) :
    ∃ es, closings es = [] ∧ handings es = [] ∧
      call.Trades s (call.readUpgrade c data endStream s).2 es none none := by
  cases hd : (c.readUpgrade s.transcript call.router data).outcome
  case false =>
    rw [readUpgrade_of_waiting hd]
    exact ⟨_, rfl, rfl, .of_rest h Shared.emit_transcript rfl ⟨rfl, rfl, rfl⟩ hl rfl⟩
  case true =>
    have ⟨id, ref, hr, hh⟩ := h.exists_hold hu
    have h' : ({ call with upgradeReply := false } : Call).Linked := { state := h.state, upgrade := nofun }
    have ht : (call.upgraded c (s.emit (.readUpgrade call.router data true))).transcript =
        s.transcript ++ [Effect.readUpgrade call.router data true, Effect.completedUpgrade call.router] := by
      simp [hr]
    have hc : (call.upgraded c (s.emit (.readUpgrade call.router data true))).connections = s.connections ∨
        (call.upgraded c (s.emit (.readUpgrade call.router data true))).connections =
          s.connections.modify ref .upgrade := upgraded_connections hr
    rw [readUpgrade_of_done hd]
    cases endStream
    case false =>
      have hx := resume_trades (c := c) h' hr hh ht rfl hc
      refine ⟨_, ?_, ?_, hx.after (List.append_nil _).symm rfl ⟨rfl, rfl, rfl⟩⟩
      all_goals simp [Effect.closed?, Effect.handed?]
    case true =>
      have hx := resume_cutShort_trades (c := c) { call with upgradeReply := false } hr hh ht rfl hc
      refine ⟨_, ?_, ?_, hx.after (List.append_nil _).symm rfl ⟨rfl, rfl, rfl⟩⟩
      · simp [Effect.closed?, closings_of_links]
      · simp [Effect.handed?, handings_of_links]

theorem readResponse_trades (c : Surroundings) (data : Bytes) (endStream : Bool) (s : Shared)
    (h : call.Linked) (hl : call.isTerminal = false) :
    ∃ es gone?, closings es = gone?.toList ∧ handings es = [] ∧
      call.Trades s (call.readResponse c data endStream s).2 es none gone? := by
  rw [readResponse_eq]
  dsimp only
  generalize (c.readResponse (call.opened s).transcript call.router data).outcome = status
  have ht : ((call.opened s).emit (.readResponse call.router data status)).transcript =
      s.transcript ++ (call.openEffects ++ [Effect.readResponse call.router data status]) := by
    simp [opened]
  have hn : links (call.openEffects ++ [Effect.readResponse call.router data status]) = [] := by
    simp
  cases status
  case complete =>
    refine ⟨_, none, ?_, ?_, (respond_trades ..).after ht (begins_of_links hn) ⟨rfl, rfl, rfl⟩⟩
    · exact closings_of_links (by simp)
    · exact handings_of_links (by simp)
  case broken =>
    refine ⟨_, _, ?_, ?_, (breakOff_trades ..).after ht (begins_of_links hn) ⟨rfl, rfl, rfl⟩⟩
    · rw [← closings_links]
      simp
    · rw [← handings_links]
      simp
  case more =>
    dsimp only
    split
    case isTrue  =>
      refine ⟨_, none, ?_, ?_, (cutShort_trades ..).after ht (begins_of_links hn) ⟨rfl, rfl, rfl⟩⟩
      · exact closings_of_links (by simp)
      · exact handings_of_links (by simp)
    case isFalse =>
      exact ⟨_, none, closings_of_links hn, handings_of_links hn,
        .of_rest h ht (begins_of_links hn) ⟨rfl, rfl, rfl⟩ hl rfl⟩

theorem receive_trades (c : Surroundings) (data : Bytes) (endStream : Bool) (s : Shared)
    (h : call.Linked) (hl : call.isTerminal = false) :
    ∃ es gone?, closings es = gone?.toList ∧ handings es = [] ∧
      call.Trades s (call.receive c data endStream s).2 es none gone? := by
  have h' : ({ call with responseSize := call.responseSize + data.length } : Call).Linked := ⟨h.1, h.2⟩
  unfold receive
  dsimp only
  split
  case isTrue hu =>
    have ⟨es, hc, hh, ht⟩ := readUpgrade_trades c data endStream s h' hl hu
    exact ⟨_, none, hc, hh, ht.after (List.append_nil _).symm rfl ⟨rfl, rfl, rfl⟩⟩
  case isFalse =>
    have ⟨es, gone?, hc, hh, ht⟩ := readResponse_trades c data endStream s h' hl
    exact ⟨_, gone?, hc, hh, ht.after (List.append_nil _).symm rfl ⟨rfl, rfl, rfl⟩⟩

end Call

end RpcProxy
