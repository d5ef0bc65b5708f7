import RpcProxy.Config.ProtocolOptions
import RpcProxy.Routing.Table
import RpcProxy.Exchange.Call

namespace RpcProxy

-- Everything that can happen to a router.
inductive RouterEvent
  -- From the decoder of the caller's leg.
  | transportBegin
  | messageBegin (message : Message)
  | messageBody (body : Bytes)
  | messageEnd
  | transportEnd
  -- From the pool.
  | poolReady (connection : ConnectionId) (host : Host)
  | poolFailure (reason : ConnectionFailure) (host? : Option Host)
  -- From the connection to the cluster.
  | clusterData (data : Bytes) (endStream : Bool)
  | remoteClose
  | localClose

def RouterEvent.isDecode : RouterEvent → Bool
  | transportBegin => true
  | messageBegin _ => true
  | messageBody _  => true
  | messageEnd     => true
  | transportEnd   => true
  | _              => false

-- What a router answers to an event.
inductive Answer
  | status (status : DecodingStatus)
  -- The bytes of the cluster that nobody read.
  | left (bytes : Bytes)
  | none
  deriving Repr

-- The router of one caller's connection. It drives one call at a time, until the response has been relayed or the call
-- has failed.
structure Router where
  id     : RouterId
  table  : RouteTable
  route? : Option Destination := none
  -- Whether the body of the current call is copied as it is.
  passthrough : Bool := false
  call?  : Option Call := none

namespace Router

def isPaused (r : Router) : Bool :=
  r.call?.any (·.isPaused)

def isActive (r : Router) : Bool :=
  r.call?.isSome

-- Keeps a call unless it has ended.
def keep (r : Router) (call : Call) : Router :=
  { r with call? := if call.isTerminal then none else some call }

def reply (r : Router) (e : Exception) (s : Shared) : Shared :=
  s.emit (.replied r.id e true)

-- Abandons the call that is under way, if there is one.
def discard (r : Router) (s : Shared) : Shared :=
  match r.call? with
  | some call => (call.abandon s).2
  | none      => s

def requestCounter : Option MessageKind → Counter
  | some .call   => .requestCall
  | some .oneway => .requestOneway
  | _            => .requestInvalidKind

-- The leg to a cluster. Options that cannot be used are ignored.
def clusterLeg (cluster : Cluster) (downstream : Leg) : Leg :=
  match cluster.options? with
  | some options =>
    match options.validate with
    | .ok _    => options.leg downstream
    | .error _ => downstream
  | none         => downstream

-- Starts the call on a pool of its cluster.
def launch (c : Surroundings) (r : Router) (route : Destination) (leg : Leg) (pool : PoolId)
    (message : Message) (s : Shared) : DecodingStatus × Router × Shared :=
  let message := if route.stripService then message.stripService.1 else message
  let s := s.emit (.madeCodec r.id leg)
  let call : Call := { router := r.id, cluster := route.cluster, pool, leg, message }
  let (status, call, s) := call.start c s
  (status, r.keep call, s)

-- Asks for a pool of a cluster that takes calls.
def balance (c : Surroundings) (r : Router) (route : Destination) (cluster : Cluster)
    (message : Message) (s : Shared) : DecodingStatus × Router × Shared :=
  let downstream := c.downstream s.transcript r.id
  let leg := clusterLeg cluster downstream
  let r := { r with passthrough := downstream.passesThrough leg }
  let request : PoolRequest := ⟨route.cluster, .default, route.criteria, message.headers⟩
  let pool? := c.pool? s.transcript request
  let s := s.emit (.askedForPool request pool?)
  match pool? with
  | some pool => r.launch c route leg pool message s
  | none      =>
    let s := s.emit (.counted .noHealthyHost none)
    (.stop, r, r.reply (.internalError ("no healthy upstream for '" ++ route.cluster ++ "'")) s)

-- Looks up the cluster of a routed call.
def forward (c : Surroundings) (r : Router) (route : Destination) (message : Message) (s : Shared) :
    DecodingStatus × Router × Shared :=
  let r := { r with route? := some route }
  let cluster? := c.cluster? s.transcript route.cluster
  let s := s.emit (.lookedUp route.cluster cluster?)
  match cluster? with
  | none         =>
    let s := s.emit (.counted .unknownCluster none)
    (.stop, r, r.reply (.internalError ("unknown cluster '" ++ route.cluster ++ "'")) s)
  | some cluster =>
    let s := s.emit (.counted (requestCounter message.kind?) (some route.cluster))
    if cluster.maintenance then
      let s := s.emit (.counted .maintenanceMode none)
      (.stop, r, r.reply (.internalError ("maintenance mode for cluster '" ++ route.cluster ++ "'")) s)
    else r.balance c route cluster message s

-- Routes a call. One that is still under way is abandoned before.
def beginMessage (c : Surroundings) (r : Router) (message : Message) (s : Shared) :
    DecodingStatus × Router × Shared :=
  let s := r.discard s
  let r := { r with route? := none, passthrough := false, call? := none }
  let random := c.random s.transcript
  let s := s.emit (.drew random)
  match r.table.route? message random with
  | some route => r.forward c route message s
  | none       =>
    let s := s.emit (.counted .routeMissing none)
    (.stop, r, r.reply (.unknownMethod ("no route for method '" ++ message.method ++ "'")) s)

-- A one-way call ends with its message, since no response will come.
def endTransport (r : Router) (s : Shared) : Router × Shared :=
  match r.call? with
  | some call =>
    if call.message.isOneway then ({ r with call? := none }, (call.finish s).2) else (r, s)
  | none      => (r, s)

-- A connection that no call awaits is closed.
def poolReady (c : Surroundings) (r : Router) (id : ConnectionId) (host : Host) (s : Shared) :
    Router × Shared :=
  match r.call? with
  | some call =>
    let (call, s) := call.connect c id host s
    (r.keep call, s)
  | none      => (r, ((s.emit (.closed id .noFlush)).forget id).emit (.released id))

-- Applies a change of the call under way, which may end it.
def withCall (r : Router) (f : Call → Shared → Call × Shared) (s : Shared) : Router × Shared :=
  match r.call? with
  | some call =>
    let (call, s) := f call s
    (r.keep call, s)
  | none      => (r, s)

def receive (c : Surroundings) (r : Router) (data : Bytes) (endStream : Bool) (s : Shared) :
    Bytes × Router × Shared :=
  match r.call? with
  | some call =>
    let (left, call, s) := call.receive c data endStream s
    (left, r.keep call, s)
  | none      => (data, r, s)

def apply (c : Surroundings) (r : Router) (event : RouterEvent) (s : Shared) :
    Answer × Router × Shared :=
  match event with
  | .transportBegin            => (.status .continue, r, s)
  | .messageBegin message      =>
    let (status, r, s) := r.beginMessage c message s
    (.status status, r, s)
  | .messageBody body          =>
    (.status .continue, r.withCall (fun call => call.writeBody c body r.passthrough) s)
  | .messageEnd                => (.status .continue, r.withCall (fun call => call.endRequest c) s)
  | .transportEnd              => (.status .continue, r.endTransport s)
  | .poolReady id host         => (.none, r.poolReady c id host s)
  | .poolFailure reason host?  => (.none, r.withCall (fun call => call.failToConnect reason host?) s)
  | .clusterData data endStream =>
    let (left, r, s) := r.receive c data endStream s
    (.left left, r, s)
  | .remoteClose               => (.none, r.withCall (fun call => call.lose .remoteClose) s)
  | .localClose                => (.none, r.withCall (fun call => call.lose .localClose) s)

-- Ends the router with the caller's connection.
def destroy (r : Router) (s : Shared) : Router × Shared :=
  ({ r with call? := none, route? := none }, r.discard s)

end Router

end RpcProxy
