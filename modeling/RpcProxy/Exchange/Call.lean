import RpcProxy.Exchange.Surroundings

namespace RpcProxy

-- A call first acquires a connection, which may need an upgrade before it takes requests. Then the request is in
-- flight until it has been written, and the response is awaited until it is complete.
inductive CallState
  | acquiring
  | upgrading
  | inFlight
  | awaiting
  | complete
  | reset
  deriving DecidableEq, Repr

def CallState.isTerminal : CallState → Bool
  | complete => true
  | reset    => true
  | _        => false

-- Whether the decoder of the caller's leg may go on.
inductive DecodingStatus
  | continue
  | stop
  deriving DecidableEq, Repr

structure Call where
  router  : RouterId
  cluster : String
  pool    : PoolId
  -- The leg between the proxy and the cluster.
  leg     : Leg
  -- As it is sent to the cluster.
  message : Message
  state   : CallState := .acquiring
  -- Whether the pool still owes a connection.
  pending : Bool := false
  connection? : Option ConnectionId := none
  stateRef?   : Option StateRef := none
  -- Whether bytes of the cluster belong to the reply to an upgrade request.
  upgradeReply : Bool := false
  host?        : Option Host := none
  -- The part of the request that is not written yet.
  buffer       : Bytes := []
  requestSize  : Nat := 0
  responseSize : Nat := 0
  requestComplete  : Bool := false
  responseStarted  : Bool := false
  responseComplete : Bool := false
  -- Whether the time of the response was recorded.
  timed            : Bool := false

namespace Call

def isTerminal (call : Call) : Bool :=
  call.state.isTerminal

-- Whether the request has no connection to go to yet.
def isPaused (call : Call) : Bool :=
  call.state == .acquiring || call.state == .upgrading

-- Records once how long the response took, if the request was complete.
def chargeTime (call : Call) (s : Shared) : Call × Shared :=
  if call.timed || !call.requestComplete then (call, s)
  else ({ call with timed := true }, s.emit (.sampled .requestTime call.cluster none))

-- Lets go of what the call holds: a pending acquisition is cancelled, a connection is given back. If it
-- is closed before, its state is forgotten as well.
def release (call : Call) (close : Bool) (s : Shared) : Call × Shared :=
  let s := if call.pending then s.emit (.cancelled call.pool) else s
  let s := match call.connection? with
    | some id =>
      let s := if close then (s.emit (.closed id .noFlush)).forget id else s
      s.emit (.released id)
    | none    => s
  ({ call with pending := false, connection? := none, stateRef? := none, upgradeReply := false }, s)

-- Ends the response. The connection goes back to its pool, and its state is kept.
def finish (call : Call) (s : Shared) : Call × Shared :=
  let (call, s) := call.chargeTime s
  ({ call with responseComplete := true, connection? := none, stateRef? := none, state := .complete },
    s.release call.connection?)

-- Abandons the call and closes its connection.
def abandon (call : Call) (s : Shared) : Call × Shared :=
  let (call, s) := call.release true s
  ({ call with state := if call.state = .complete then .complete else .reset }, s)

def connectionFailure (host? : Option Host) : Exception :=
  .internalError ("connection failure '" ++ (host?.map (·.address)).getD "to upstream" ++ "'")

-- What the host and the caller are told about a failure.
def report (call : Call) (reason : ConnectionFailure) (s : Shared) : Shared :=
  match reason with
  | .overflow   =>
    s.emit (.replied call.router (.internalError "upstream request: too many connections") true)
  | .localClose => (s.judge call.host? .connectFailed).emit (.resetDownstream call.router)
  | reason      =>
    let s := s.judge call.host? (if reason = .timeout then .timedOut else .connectFailed)
    if call.responseStarted then s.emit (.resetDownstream call.router)
    else s.emit (.replied call.router (connectionFailure call.host?) true)

-- Ends the call by a failure. A one-way call has nobody who awaits a reply, so the caller's connection
-- is reset.
def fail (call : Call) (reason : ConnectionFailure) (s : Shared) : Call × Shared :=
  let call := { call with state := .reset }
  if call.message.isOneway then call.release false (s.emit (.resetDownstream call.router))
  else
    let (call, s) := call.chargeTime s
    call.release false (call.report reason s)

-- Begins the request on the connection of the call.
def startRequest (c : Surroundings) (call : Call) (resume : Bool) (s : Shared) : Call × Shared :=
  let (sequence, s) := match call.stateRef? with
    | some ref =>
      let (n, s) := s.takeSequence ref
      ((n : Int), s)
    | none     => (call.message.sequenceId, s)
  let message := { call.message with sequenceId := sequence }
  let bytes := c.encodeBegin s.transcript call.router call.leg message
  let s := s.emit (.encodedBegin call.router message bytes)
  let s := if resume then s.emit (.continued call.router) else s
  ({ call with message, buffer := call.buffer ++ bytes, state := .inFlight }, s)

-- The request for an upgrade, if the encoding knows one and the connection still needs it.
def upgradeRequest (c : Surroundings) (call : Call) (ref : StateRef) (s : Shared) :
    Option Bytes × Shared :=
  if call.leg.encoding.supportsUpgrade then
    let request? := c.upgradeRequest? s.transcript call.router call.leg (s.connections.state ref)
    (request?, s.emit (.offeredUpgrade call.router request?))
  else (none, s)

-- Takes a connection over. One that the call holds already goes back to its pool.
def connect (c : Surroundings) (call : Call) (id : ConnectionId) (host : Host) (s : Shared) :
    Call × Shared :=
  let resume := call.pending
  let s := s.emit (.judged host .connected)
  let (ref, s) := s.stateOf id
  let old? := call.connection?
  let call := { call with pending := false, host? := some host }
  let held := { call with connection? := some id, stateRef? := some ref }
  match call.upgradeRequest c ref s with
  | (some request, s) =>
    let bytes := call.buffer ++ request
    ({ held with
        buffer := [], requestSize := call.requestSize + bytes.length, upgradeReply := true,
        state := .upgrading },
      (s.emit (.wrote id bytes false)).release old?)
  | (none, s)         => held.startRequest c resume (s.release old?)

def failToConnect (call : Call) (reason : ConnectionFailure) (host? : Option Host) (s : Shared) :
    Call × Shared :=
  { call with pending := false, host? := host?.or call.host? }.fail reason s

-- Asks the pool for a connection. The decoder may go on only if the request can be encoded at once.
def start (c : Surroundings) (call : Call) (s : Shared) : DecodingStatus × Call × Shared :=
  let answer := c.acquire s.transcript call.pool
  let s := s.emit (.acquired call.pool answer)
  match answer with
  | .pending             => (.stop, { call with pending := true }, s)
  | .ready id host       =>
    let (call, s) := call.connect c id host s
    (if call.state = .inFlight then .continue else .stop, call, s)
  | .failed reason host? =>
    let (call, s) := call.failToConnect reason host? s
    (.stop, call, s)

def writeBody (c : Surroundings) (call : Call) (body : Bytes) (passthrough : Bool) (s : Shared) :
    Call × Shared :=
  if passthrough then ({ call with buffer := call.buffer ++ body }, s)
  else
    let bytes := c.encodeBody s.transcript call.router call.leg body
    ({ call with buffer := call.buffer ++ bytes }, s.emit (.encodedBody call.router body bytes))

-- Writes the request in one frame. Without a connection nothing happens.
def endRequest (c : Surroundings) (call : Call) (s : Shared) : Call × Shared :=
  match call.connection? with
  | none    => (call, s)
  | some id =>
    let bytes := c.encodeEnd s.transcript call.router call.leg
    let s := s.emit (.encodedEnd call.router bytes)
    let request := call.buffer ++ bytes
    let frame := c.frame s.transcript call.router call.leg call.message request
    let s := s.emit (.framed call.router request frame)
    let size := call.requestSize + frame.length
    let s := s.emit (.sampled .requestSize call.cluster (some size))
    ({ call with buffer := [], requestSize := size, requestComplete := true, state := .awaiting },
      s.emit (.wrote id frame false))

-- Counts a complete response, and tells whether it was a success.
def classify (c : Surroundings) (call : Call) (s : Shared) : Bool × Shared :=
  let count counter (s : Shared) := s.emit (.counted counter (some call.cluster))
  match c.responseKind? s.transcript call.router with
  | some .reply     =>
    let s := count .responseReply s
    if c.responseSucceeded s.transcript call.router then (true, count .replySuccess s)
    else (false, count .replyError s)
  | some .exception => (false, count .responseException s)
  | _               => (false, count .responseInvalidKind s)

-- Ends a call whose response has been decoded.
def respond (c : Surroundings) (call : Call) (s : Shared) : Call × Shared :=
  let s := s.emit (.sampled .responseSize call.cluster (some call.responseSize))
  let (succeeded, s) := call.classify c s
  call.finish (s.judge call.host? (if succeeded then .requestSucceeded else .requestFailed))

-- Ends a call whose response cannot be decoded. Its connection is closed, and the caller's connection goes
-- with it.
def breakOff (call : Call) (s : Shared) : Call × Shared :=
  let (call, s) := call.abandon (s.judge call.host? .requestFailed)
  call.fail .localClose s

-- Ends a call whose connection ended before the response was complete.
def cutShort (call : Call) (s : Shared) : Call × Shared :=
  let (call, s) := call.finish s
  call.fail .remoteClose s

-- Reads bytes of the reply to an upgrade request. Once the reply is complete the request begins.
def readUpgrade (c : Surroundings) (call : Call) (data : Bytes) (endStream : Bool) (s : Shared) :
    Bytes × Call × Shared :=
  let ⟨done, left⟩ := c.readUpgrade s.transcript call.router data
  let s := s.emit (.readUpgrade call.router data done)
  if !done then (left, call, s)
  else
    let s := match call.stateRef? with
      | some ref =>
        let marks := c.marksUpgraded s.transcript call.router call.leg
        let s := s.emit (.completedUpgrade call.router)
        if marks then s.upgrade ref else s
      | none     => s
    let (call, s) := { call with upgradeReply := false }.startRequest c true s
    (left, if endStream then call.cutShort s else (call, s))

-- Hands bytes of the response to the decoder of the caller's leg.
def readResponse (c : Surroundings) (call : Call) (data : Bytes) (endStream : Bool) (s : Shared) :
    Bytes × Call × Shared :=
  let s := if call.responseStarted then s else s.emit (.startedResponse call.router call.leg)
  let call := { call with responseStarted := true }
  let ⟨status, left⟩ := c.readResponse s.transcript call.router data
  let s := s.emit (.readResponse call.router data status)
  match status with
  | .complete => (left, call.respond c s)
  | .broken   => (left, call.breakOff s)
  | .more     => (left, if endStream then call.cutShort s else (call, s))

-- Takes bytes of the cluster, and returns those that nobody read.
def receive (c : Surroundings) (call : Call) (data : Bytes) (endStream : Bool) (s : Shared) :
    Bytes × Call × Shared :=
  let call := { call with responseSize := call.responseSize + data.length }
  if call.upgradeReply then call.readUpgrade c data endStream s
  else call.readResponse c data endStream s

-- Ends a call whose connection was closed, and forgets the state of the connection.
def lose (call : Call) (reason : ConnectionFailure) (s : Shared) : Call × Shared :=
  let id? := call.connection?
  let (call, s) := call.fail reason s
  (call, match id? with
    | some id => s.forget id
    | none    => s)

end Call

end RpcProxy
