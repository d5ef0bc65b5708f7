import RpcProxy.Proofs.Call.Effects

namespace RpcProxy.Call

variable {c : Surroundings} {call : Call} {s : Shared}

-- A call that has a connection, and whose response is not complete.
structure Attached (call : Call) : Prop where
  handed     : call.pending = false
  connection : call.connection?.isSome
  state      : call.stateRef?.isSome
  incomplete : call.responseComplete = false
  untimed    : call.timed = false

-- A call acquires its connection as long as the pool owes it one, and as long as it has none.
structure Coherent (call : Call) : Prop where
  live         : call.isTerminal = false
  pending      : call.pending ↔ call.state = .acquiring
  unconnected  : call.connection? = none ↔ call.state = .acquiring
  state        : call.stateRef?.isSome = call.connection?.isSome
  -- Only a call with a connection awaits the reply to an upgrade request.
  upgradeReply : call.upgradeReply → call.connection?.isSome
  incomplete   : call.responseComplete = false
  untimed      : call.timed = false

-- What an operation leaves of a call, if it does not end it.
def Leaves (call call' : Call) : Prop :=
  call'.isTerminal = false → call'.Coherent ∧ call'.cluster = call.cluster

theorem Leaves.of_isTerminal {call' : Call} (h : call'.isTerminal) : call.Leaves call' :=
  fun hl => absurd h (by simp [hl])

theorem Coherent.of_attached (h : call.Attached) (hl : call.isTerminal = false)
    (hs : call.state ≠ .acquiring) : call.Coherent where
  live           := hl
  pending        := by simp [h.handed, hs]
  unconnected    := iff_of_false (Option.isSome_iff_ne_none.mp h.connection) hs
  state          := by rw [h.state, h.connection]
  upgradeReply _ := h.connection
  incomplete     := h.incomplete
  untimed        := h.untimed

theorem Coherent.attached (h : call.Coherent) (hi : call.connection?.isSome) : call.Attached where
  handed     := by
    have hs : call.state ≠ .acquiring := fun hs => by simp [h.unconnected.mpr hs] at hi
    simpa using mt h.pending.mp hs
  connection := hi
  state      := h.state.trans hi
  incomplete := h.incomplete
  untimed    := h.untimed

theorem startRequest_leaves (c : Surroundings) (resume : Bool) (s : Shared) (h : call.Attached) :
    call.Leaves (call.startRequest c resume s).1 := by
  rw [startRequest_fst]
  exact fun _ => ⟨.of_attached ⟨h.handed, h.connection, h.state, h.incomplete, h.untimed⟩ rfl nofun, rfl⟩

theorem connect_leaves (c : Surroundings) (id : ConnectionId) (host : Host) (s : Shared)
    (hc : call.responseComplete = false) (ht : call.timed = false) :
    call.Leaves (call.connect c id host s).1 := by
  have ha : (call.holding id host (s.connections.getOrCreate id).1).Attached := ⟨rfl, rfl, rfl, hc, ht⟩
  cases ho : call.offered? c id host s
  case some request =>
    rw [connect_of_offer ho]
    exact fun _ => ⟨.of_attached ⟨rfl, rfl, rfl, hc, ht⟩ rfl nofun, rfl⟩
  case none =>
    rw [connect_of_no_offer ho]
    exact startRequest_leaves c call.pending _ ha

theorem failToConnect_leaves (call : Call) (reason : ConnectionFailure) (host? : Option Host) (s : Shared) :
    call.Leaves (call.failToConnect reason host? s).1 :=
  .of_isTerminal fail_isTerminal

-- A new call has its connection, waits for it, or has ended.
theorem start_leaves (c : Surroundings) (s : Shared) (hs : call.state = .acquiring)
    (hi : call.connection? = none) (hr : call.stateRef? = none) (hu : call.upgradeReply = false)
    (hc : call.responseComplete = false) (ht : call.timed = false) :
    call.Leaves (call.start c s).2.1 := by
  cases ha : c.acquire s.transcript call.pool <;> simp only [start, ha]
  case pending            =>
    refine fun hl => ⟨?_, rfl⟩
    exact {
      live := hl, pending := by simp [hs], unconnected := by simp [hs, hi], state := by simp [hi, hr],
      upgradeReply := by simp [hu], incomplete := hc, untimed := ht }
  case ready id host      => exact connect_leaves c id host _ hc ht
  case failed reason host => exact failToConnect_leaves call reason host _

theorem writeBody_leaves (c : Surroundings) (body : Bytes) (passthrough : Bool) (s : Shared)
    (h : call.Coherent) : call.Leaves (call.writeBody c body passthrough s).1 := by
  cases passthrough
  all_goals exact fun _ => ⟨{ h with }, rfl⟩

-- A request is only written if there is a connection for it.
theorem endRequest_leaves (c : Surroundings) (s : Shared) (h : call.Coherent) :
    call.Leaves (call.endRequest c s).1 := by
  cases hi : call.connection? <;> simp only [endRequest, hi]
  case none    => exact fun _ => ⟨h, rfl⟩
  case some id =>
    have ha := h.attached (hi ▸ rfl)
    exact fun _ => ⟨.of_attached ⟨ha.handed, rfl, ha.state, ha.incomplete, ha.untimed⟩ rfl (by simp), rfl⟩

theorem readUpgrade_leaves (c : Surroundings) (data : Bytes) (endStream : Bool) (s : Shared)
    (h : call.Coherent) (hu : call.upgradeReply) :
    call.Leaves (call.readUpgrade c data endStream s).2.1 := by
  have ha := h.attached (h.upgradeReply hu)
  cases hd : (c.readUpgrade s.transcript call.router data).outcome
  case false =>
    rw [readUpgrade_of_waiting hd]
    exact fun _ => ⟨h, rfl⟩
  case true  =>
    rw [readUpgrade_of_done hd]
    cases endStream
    case true  => exact .of_isTerminal cutShort_isTerminal
    case false =>
      have ha : { call with upgradeReply := false }.Attached :=
        ⟨ha.handed, ha.connection, ha.state, ha.incomplete, ha.untimed⟩
      exact startRequest_leaves c true _ ha

theorem readResponse_leaves (c : Surroundings) (data : Bytes) (endStream : Bool) (s : Shared)
    (h : call.Coherent) : call.Leaves (call.readResponse c data endStream s).2.1 := by
  rw [readResponse_eq]
  cases (c.readResponse (call.opened s).transcript call.router data).outcome
  case complete => exact .of_isTerminal respond_isTerminal
  case broken   => exact .of_isTerminal breakOff_isTerminal
  case more     =>
    cases endStream
    case true  => exact .of_isTerminal cutShort_isTerminal
    case false => exact fun _ => ⟨{ h with }, rfl⟩

theorem receive_leaves (c : Surroundings) (data : Bytes) (endStream : Bool) (s : Shared)
    (h : call.Coherent) : call.Leaves (call.receive c data endStream s).2.1 := by
  have h : { call with responseSize := call.responseSize + data.length }.Coherent := { h with }
  simp only [receive]
  split
  case isTrue hu => exact readUpgrade_leaves c data endStream s h hu
  case isFalse   => exact readResponse_leaves c data endStream s h

end RpcProxy.Call
