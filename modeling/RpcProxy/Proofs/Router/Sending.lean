import RpcProxy.Proofs.Router.Course

namespace RpcProxy

-- The body of a request consists of the chunks as they came, or of their encodings in the same order.
def Carries (c : Surroundings) (id : RouterId) (leg : Leg) (passthrough : Bool) (chunks : List Bytes)
    (encodings : List (Bytes × Bytes)) (body : Bytes) : Prop :=
  if passthrough then body = chunks.flatten
  else encodings.map (·.1) = chunks ∧ body = (encodings.map (·.2)).flatten ∧
    ∀ encoding ∈ encodings, ∃ t, encoding.2 = c.encodeBody t id leg encoding.1

-- What goes to the cluster for a call, with all that it is made of.
structure Traffic where
  -- The connections that are handed to the call.
  connections : List ConnectionId := []
  -- What the codec answers when it is asked for an upgrade request.
  offers      : List (Option Bytes) := []
  -- The beginnings of messages with their encodings.
  openings    : List (Message × Bytes) := []
  chunks      : List Bytes := []
  -- The chunks that are encoded anew, with their encodings.
  encodings   : List (Bytes × Bytes) := []
  -- Whether the message has ended.
  ended       : Bool := false
  -- The encodings of the ends of messages.
  endings     : List Bytes := []
  -- The encoded messages with their frames.
  framings    : List (Bytes × Bytes) := []
  sizes       : List (Option Nat) := []
  writes      : List (ConnectionId × Bytes) := []

namespace Traffic

def append (x y : Traffic) : Traffic where
  connections := x.connections ++ y.connections
  offers      := x.offers ++ y.offers
  openings    := x.openings ++ y.openings
  chunks      := x.chunks ++ y.chunks
  encodings   := x.encodings ++ y.encodings
  ended       := x.ended || y.ended
  endings     := x.endings ++ y.endings
  framings    := x.framings ++ y.framings
  sizes       := x.sizes ++ y.sizes
  writes      := x.writes ++ y.writes

-- The bytes on the connections of the call.
def bytes (x : Traffic) : List Bytes :=
  x.writes.map (·.2)

def upgradeRequests (x : Traffic) : List Bytes :=
  x.offers.filterMap fun request? => request?

-- The frame of a request: the message under the sequence id that it was given, its body and its end, each encoded
-- once and framed together.
inductive Frames (x : Traffic) (c : Surroundings) (id : RouterId) (leg : Leg) (passthrough : Bool) (sent : Message) :
    Bytes → Prop
  | mk (numbered : message = { sent with sequenceId := (n : Nat) })
      (opened : x.openings = [(message, opening)] ∧ opening = c.encodeBegin t id leg message)
      (carried : Carries c id leg passthrough x.chunks x.encodings body)
      (closed : x.endings = [closing] ∧ closing = c.encodeEnd t' id leg)
      (framed : x.framings = [(opening ++ body ++ closing, frame)] ∧
        frame = c.frame t'' id leg message (opening ++ body ++ closing)) :
    Frames x c id leg passthrough sent frame

structure Sends (x : Traffic) (c : Surroundings) (id : RouterId) (leg : Leg) (passthrough : Bool) (sent : Message) :
    Prop where
  single    : x.connections.length ≤ 1
  addressed : ∀ write ∈ x.writes, write.1 ∈ x.connections
  -- The codec is asked once, about the connection that the call was handed, if the encoding knows upgrades.
  asked     : x.connections ≠ [] ∧ leg.encoding.supportsUpgrade →
    ∃ t state, x.offers = [c.upgradeRequest? t id leg state]
  unasked   : ¬(x.connections ≠ [] ∧ leg.encoding.supportsUpgrade) → x.offers = []
  waiting   : x.ended = false → x.bytes = x.upgradeRequests ∧ x.sizes = []
  -- The size of a request is that of all bytes that were written.
  written   : x.ended → ∃ frame, x.Frames c id leg passthrough sent frame ∧
    x.bytes = x.upgradeRequests ++ [frame] ∧ x.sizes = [some x.bytes.flatten.length]

end Traffic

-- What one incident means for the traffic of a call.
def Incident.traffic : Incident → Traffic
  | told (.messageBody body)            => { chunks := [body] }
  | told .messageEnd                    => { ended := true }
  | told (.poolReady id _)              => { connections := [id] }
  | did (.acquired _ (.ready id _))     => { connections := [id] }
  | did (.offeredUpgrade _ request?)    => { offers := [request?] }
  | did (.encodedBegin _ message bytes) => { openings := [(message, bytes)] }
  | did (.encodedBody _ body bytes)     => { encodings := [(body, bytes)] }
  | did (.encodedEnd _ bytes)           => { endings := [bytes] }
  | did (.framed _ request frame)       => { framings := [(request, frame)] }
  | did (.sampled .requestSize _ size?) => { sizes := [size?] }
  | did (.wrote id bytes _)             => { writes := [(id, bytes)] }
  | _                                   => {}

def traffic : List Incident → Traffic
  | []      => {}
  | i :: is => i.traffic.append (traffic is)

-- The call sends its message to the cluster of its route, without the service where the route says so.
def CallLog.Sends (log : CallLog) (c : Surroundings) (id : RouterId) : Prop :=
  ∃ route leg, log.route? = some route ∧ .did (.madeCodec id leg) ∈ log.incidents ∧
    (traffic log.incidents).Sends c id leg log.passthrough
      (if route.stripService then log.message.stripService.1 else log.message)

variable {c : Surroundings} {id : RouterId} {o : Origin} {phase : Phase} {call : Call} {leg : Leg}
  {is js hs ps bs : List Incident} {k : ConnectionId} {q? : Option Bytes} {passthrough : Bool}

theorem Traffic.append_empty (x : Traffic) : x.append {} = x := by
  simp [append]

theorem Traffic.empty_append (x : Traffic) : append {} x = x := by
  simp [append]

theorem Traffic.append_assoc (x y z : Traffic) : (x.append y).append z = x.append (y.append z) := by
  simp [append, Bool.or_assoc]

theorem traffic_append : traffic (is ++ js) = (traffic is).append (traffic js) := by
  induction is
  case nil          => exact (Traffic.empty_append _).symm
  case cons i is ih => simp [traffic, ih, Traffic.append_assoc]

theorem Incident.traffic_of_not_dealing {i : Incident} (h : i.isDealing = false) : i.traffic = {} := by
  cases i
  case told event => cases event <;> first | rfl | cases h
  case did effect =>
    cases effect
    case sampled histogram _ _ => cases histogram <;> first | rfl | cases h
    all_goals first | rfl | cases h

-- Only the dealings of a call matter.
theorem traffic_dealings : traffic (Incident.dealings is) = traffic is := by
  induction is
  case nil => rfl
  case cons i is ih =>
    cases hi : i.isDealing
    case true  => simp only [Incident.dealings, List.filter_cons, hi, if_true, traffic, ← ih]
    case false =>
      simpa [Incident.dealings, hi, traffic, Incident.traffic_of_not_dealing hi, Traffic.empty_append] using ih

theorem Handed.traffic_eq (h : Handed pool k hs) : traffic hs = { connections := [k] } := by
  cases h <;> rfl

-- The codec was asked if the encoding knows upgrades.
structure Offered (c : Surroundings) (id : RouterId) (leg : Leg) (q? : Option Bytes)
    (offers : List (Option Bytes)) : Prop where
  requests : (offers.filterMap fun request? => request?) = q?.toList
  asked    : leg.encoding.supportsUpgrade → ∃ t state, offers = [c.upgradeRequest? t id leg state]
  unasked  : leg.encoding.supportsUpgrade = false → offers = []

theorem Offered.of_answer (offer : leg.encoding.supportsUpgrade) (hq : c.upgradeRequest? t id leg state = q?) :
    Offered c id leg q? [q?] where
  requests  := by cases q? <;> rfl
  asked _   := ⟨t, state, by rw [hq]⟩
  unasked h := by simp [offer] at h

theorem Prepared.traffic_eq (h : Prepared c id leg k q? ps) : ∃ offers,
    traffic ps = { offers, writes := (q?.map (k, ·)).toList } ∧ Offered c id leg q? offers := by
  cases h
  case plain h           => exact ⟨[], rfl, rfl, by simp [h], fun _ => rfl⟩
  case ready offer hq    => exact ⟨_, rfl, .of_answer offer hq⟩
  case upgraded offer hq => exact ⟨_, rfl, .of_answer offer hq⟩

theorem Pieces.traffic_eq (h : Pieces c id leg passthrough chunks body bs) : ∃ encodings,
    traffic bs = { chunks, encodings } ∧ Carries c id leg passthrough chunks encodings body := by
  induction h
  case none => exact ⟨[], rfl, by cases passthrough <;> simp [Carries]⟩
  case copied chunks body bs chunk _ verbatim ih =>
    obtain ⟨encodings, ht, hb⟩ := ih
    simp only [Carries, verbatim, if_true] at hb
    refine ⟨encodings, ?_, by simp [Carries, verbatim, hb]⟩
    rw [traffic_append, ht]
    simp [traffic, Incident.traffic, Traffic.append]
  case encoded chunks body bs chunk _ verbatim t ih =>
    obtain ⟨encodings, ht, hb⟩ := ih
    simp only [Carries, verbatim, Bool.false_eq_true, if_false] at hb
    obtain ⟨hc, hb, he⟩ := hb
    refine ⟨encodings ++ [(chunk, c.encodeBody t id leg chunk)], ?_, ?_⟩
    · rw [traffic_append, ht]
      simp [traffic, Incident.traffic, Traffic.append]
    · simp only [Carries, verbatim, Bool.false_eq_true, if_false]
      refine ⟨by simp [hc], by simp [hb], fun encoding hm => ?_⟩
      cases List.mem_append.mp hm
      case inl hm => exact he encoding hm
      case inr hm => exact ⟨t, by rw [List.mem_singleton.mp hm]⟩

-- The traffic of a request that has been encoded so far.
theorem Encoded.traffic_eq (h : Encoded c id o k q? message request is) :
    ∃ (n : Nat) (offers : List (Option Bytes)) (t : Transcript) (chunks : List Bytes)
      (encodings : List (Bytes × Bytes)) (body : Bytes),
      traffic is = {
        connections := [k], offers, openings := [(message, c.encodeBegin t id o.leg message)], chunks, encodings,
        writes := (q?.map (k, ·)).toList } ∧
      message = { o.sent with sequenceId := (n : Nat) } ∧ Offered c id o.leg q? offers ∧
      Carries c id o.leg o.passthrough chunks encodings body ∧
      request = c.encodeBegin t id o.leg message ++ body := by
  cases h
  case mk handed prepared numbered t pieces =>
    obtain ⟨offers, hp, offered⟩ := prepared.traffic_eq
    obtain ⟨encodings, hb, carries⟩ := pieces.traffic_eq
    refine ⟨_, offers, t, _, encodings, _, ?_, numbered, offered, carries, rfl⟩
    rw [traffic_append, traffic_append, handed.traffic_eq, hp, traffic, hb]
    simp [Incident.traffic, Traffic.append]

-- Nothing is sent without a connection.
theorem Traffic.Sends.empty {sent : Message} : Traffic.Sends {} c id leg passthrough sent where
  single    := by simp
  addressed := by simp
  asked     := by simp
  unasked _ := rfl
  waiting _ := ⟨rfl, rfl⟩
  written   := by simp

-- What is sent over one connection.
theorem Traffic.Sends.of_offered {x : Traffic} {sent : Message} (hc : x.connections = [k])
    (offered : Offered c id leg q? x.offers) (addressed : ∀ write ∈ x.writes, write.1 = k)
    (waiting : x.ended = false → x.bytes = q?.toList ∧ x.sizes = [])
    (written : x.ended → ∃ frame, x.Frames c id leg passthrough sent frame ∧
      x.bytes = q?.toList ++ [frame] ∧ x.sizes = [some x.bytes.flatten.length]) :
    x.Sends c id leg passthrough sent where
  single    := by simp [hc]
  addressed := by simpa [hc] using addressed
  asked h   := offered.asked h.2
  unasked h := offered.unasked (by simpa [hc] using h)
  waiting   := by rwa [upgradeRequests, offered.requests]
  written   := by rwa [upgradeRequests, offered.requests]

-- The traffic of a call that has sent its request.
theorem Sent.sends (sent : Sent c id o k q? message is) :
    (traffic is).Sends c id o.leg o.passthrough o.sent := by
  cases sent
  case mk request is closing t' frame t'' size encoded hc hf hn =>
    obtain ⟨n, offers, t, chunks, encodings, body, ht, numbered, offered, carries, hr⟩ := encoded.traffic_eq
    let x : Traffic := {
      connections := [k], offers, openings := [(message, c.encodeBegin t id o.leg message)], chunks, encodings,
      ended := true, endings := [closing], framings := [(request ++ closing, frame)], sizes := [some size],
      writes := (q?.map (k, ·)).toList ++ [(k, frame)] }
    have hx : traffic (is ++ [Incident.told .messageEnd, Incident.did (.encodedEnd id closing),
        Incident.did (.framed id (request ++ closing) frame),
        Incident.did (.sampled .requestSize o.route.cluster (some size)),
        Incident.did (.wrote k frame false)]) = x := by
      rw [traffic_append, ht]
      simp [traffic, Incident.traffic, Traffic.append, x]
    have frames : x.Frames c id o.leg o.passthrough o.sent frame := by
      subst hr
      exact .mk numbered ⟨rfl, rfl⟩ carries ⟨rfl, hc⟩ ⟨rfl, hf⟩
    have bytes : x.bytes = q?.toList ++ [frame] := by cases q? <;> rfl
    rw [hx]
    refine .of_offered rfl offered ?_ nofun fun _ => ⟨frame, frames, bytes, ?_⟩
    · cases q? <;> simp [x]
    · rw [bytes, show x.sizes = [some size] from rfl, hn]
      cases q? <;> simp

theorem Stage.sends (stage : Stage c id o call phase is) :
    (traffic is).Sends c id o.leg o.passthrough o.sent := by
  cases stage
  case acquiring => exact .empty
  case upgrading k hs t state q _ _ _ _ _ handed offer hq =>
    have ht : traffic (hs ++ [Incident.did (.offeredUpgrade id (some q)), Incident.did (.wrote k q false)]) =
        { connections := [k], offers := [some q], writes := [(k, q)] } := by
      rw [traffic_append, handed.traffic_eq]
      rfl
    rw [ht]
    exact .of_offered rfl (.of_answer offer hq) (by simp) (fun _ => ⟨rfl, rfl⟩) nofun
  case inFlight k q? _ _ _ _ encoded =>
    obtain ⟨n, offers, t, chunks, encodings, body, ht, _, offered, _⟩ := encoded.traffic_eq
    rw [ht]
    refine .of_offered rfl offered ?_ (fun _ => ⟨?_, rfl⟩) nofun
    all_goals cases q? <;> simp [Traffic.bytes]
  case awaiting sent => exact sent.sends

theorem Settled.sends (settled : Settled c id o closes is) :
    (traffic is).Sends c id o.leg o.passthrough o.sent := by
  cases settled
  case refused   => exact .empty
  case failed    => exact .empty
  case cancelled => exact .empty
  case released is k stage _ =>
    have hn : traffic ((if closes then [Incident.did (.closed k .noFlush)] else []) ++ [Incident.did (.released k)]) =
        {} := by
      cases closes <;> rfl
    rw [List.append_assoc, traffic_append, hn, Traffic.append_empty]
    exact stage.sends

theorem Life.madeCodec (life : Life c id o phase log call) : .did (.madeCodec id o.leg) ∈ log := by
  induction life
  case begins s routing _ =>
    obtain ⟨es, ht⟩ := o.begin_transcript c id s
    simp [Shared.since_eq ht]
  case takes ih => exact List.mem_append_left _ ih

-- The log of a call that has taken its course, with anything after that which is nothing to the request.
theorem Life.sends (life : Life c id o phase log call) (is : List Incident) (hn : traffic is = {}) :
    (o.log (log ++ is)).Sends c id := by
  refine ⟨o.route, o.leg, rfl, List.mem_append_left _ life.madeCodec, ?_⟩
  show (traffic (log ++ is)).Sends c id o.leg o.passthrough o.sent
  rw [traffic_append, hn, Traffic.append_empty, ← traffic_dealings]
  cases life.course
  case goesOn stage _  => exact stage.sends
  case settles settled => exact settled.sends

theorem traffic_releaseEffects {close : Bool} : traffic ((call.releaseEffects close).map .did) = {} := by
  cases hi : call.connection? <;> cases hp : call.pending <;> cases close <;>
    simp [Call.releaseEffects, Call.cancelEffects, hi, hp, traffic, Incident.traffic, Traffic.append_empty]

theorem CallLog.Closed.sends {log : CallLog} (closed : log.Closed c id ending) : log.Sends c id := by
  obtain ⟨o, _, call, is, rest, rfl, life, rfl | rfl⟩ := closed.exists_life
  · exact life.sends [] rfl
  · exact life.sends _ traffic_releaseEffects

namespace Chronicle

variable {ch : Chronicle} {r : Router}

theorem Follows.sends (h : ch.Follows c id r phase) : ∀ log ∈ ch.logs, log.Sends c id := by
  intro log hl
  obtain ⟨o, _, call, is, rest, rfl, life, rfl | rfl⟩ := h.exists_life hl
  · exact life.sends [] rfl
  · exact life.sends _ traffic_releaseEffects

-- Nothing is written while there is no call.
theorem Follows.unsent (h : ch.Follows c id r phase) :
    ∀ i ∈ ch.outside, i.traffic.writes = [] ∧ i.traffic.sizes = [] := by
  intro i hi
  have ho := h.outside i hi
  cases i
  case told event =>
    cases event
    all_goals exact ⟨rfl, rfl⟩
  case did effect =>
    rw [Incident.traffic_of_not_dealing ho.not_isDealing]
    exact ⟨rfl, rfl⟩

end Chronicle

variable {table : RouteTable} {r : Router}

-- What every call of a run has sent, whether it has ended or not. Nothing else is written.
theorem Run.logs_send (run : Run c id table r phase turns) :
    (∀ log ∈ (Chronicle.ofTurns turns).logs, log.Sends c id) ∧
    ∀ i ∈ (Chronicle.ofTurns turns).outside, i.traffic.writes = [] ∧ i.traffic.sizes = [] :=
  ⟨run.follows.sends, run.follows.unsent⟩

namespace Sending

-- Calls negotiate an upgrade of their connection, and the codec marks the parts of a request.
def surroundings : Surroundings :=
  { Surroundings.plain fun _ _ => .pending with
    downstream _ _ := ⟨.framed, .twitter⟩
    upgradeRequest? _ _ _ state := if state.upgraded then none else some [0x75]
    encodeBegin _ _ _ message := [0x62, message.method.length.toUInt8]
    encodeBody _ _ _ body := 0x2e :: body
    encodeEnd _ _ _ := [0x65]
    frame _ _ _ _ bytes := bytes.length.toUInt8 :: bytes }

end Sending

-- A message whose body comes in two chunks, on a connection that has to be upgraded.
theorem Run.logs_send_upgrade :
    ∃ r turns, Run Sending.surroundings ⟨0⟩ (.toCluster "a") r .ended turns ∧
      (Chronicle.ofTurns turns).logs.map (fun log => (traffic log.incidents).writes) =
        [[(⟨7⟩, [0x75]), (⟨7⟩, [7, 0x62, 4, 0x2e, 1, 0x2e, 2, 0x65])]] ∧
      (∀ log ∈ (Chronicle.ofTurns turns).logs, log.Sends Sending.surroundings ⟨0⟩) ∧
      ∀ i ∈ (Chronicle.ofTurns turns).outside, i.traffic.writes = [] ∧ i.traffic.sizes = [] := by
  let c := Sending.surroundings
  let x₁ := Router.handle c { id := ⟨0⟩, table := .toCluster "a" } (.event (.messageBegin (.call "ping"))) {}
  let x₂ := x₁.1.handle c (.event (.poolReady ⟨7⟩ ⟨"10.0.0.1:9090"⟩)) x₁.2
  let x₃ := x₂.1.handle c (.event (.clusterData [0x6f] false)) x₂.2
  let x₄ := x₃.1.handle c (.event (.messageBody [1])) x₃.2
  let x₅ := x₄.1.handle c (.event (.messageBody [2])) x₄.2
  let x₆ := x₅.1.handle c (.event .messageEnd) x₅.2
  have run₁ : Run c ⟨0⟩ (.toCluster "a") x₁.1 .body _ := .turn .start (.decode rfl rfl) x₁.eta.symm
  have run₂ : Run c ⟨0⟩ (.toCluster "a") x₂.1 .body _ := .turn run₁ (.poolReady rfl) x₂.eta.symm
  have run₃ : Run c ⟨0⟩ (.toCluster "a") x₃.1 .body _ := .turn run₂ (.clusterData rfl) x₃.eta.symm
  have run₄ : Run c ⟨0⟩ (.toCluster "a") x₄.1 .body _ := .turn run₃ (.decode rfl rfl) x₄.eta.symm
  have run₅ : Run c ⟨0⟩ (.toCluster "a") x₅.1 .body _ := .turn run₄ (.decode rfl rfl) x₅.eta.symm
  have run₆ : Run c ⟨0⟩ (.toCluster "a") x₆.1 .ended _ := .turn run₅ (.decode rfl rfl) x₆.eta.symm
  exact ⟨_, _, run₆, by decide +kernel, run₆.logs_send⟩

end RpcProxy
