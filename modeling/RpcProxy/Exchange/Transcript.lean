import RpcProxy.Config.Basic
import RpcProxy.Exception
import RpcProxy.Message
import RpcProxy.Metric
import RpcProxy.Exchange.ConnectionTable

namespace RpcProxy

abbrev Bytes := List UInt8

-- A caller's connection, and the router that serves it.
structure RouterId where
  number : Nat
  deriving DecidableEq, Repr

structure PoolId where
  name : String
  deriving DecidableEq, Repr

structure Host where
  address : String
  deriving DecidableEq, Repr

-- Why a connection cannot be had, or was lost during a call.
inductive ConnectionFailure
  -- Too many connections.
  | overflow
  -- The proxy closed it.
  | localClose
  -- The cluster closed or refused it.
  | remoteClose
  | timeout
  deriving DecidableEq, Repr

-- The answer of a pool that is asked for a connection. A pending one is followed later by a connection
-- or a failure.
inductive Acquisition
  | ready (connection : ConnectionId) (host : Host)
  | failed (reason : ConnectionFailure) (host? : Option Host)
  | pending
  deriving DecidableEq, Repr

structure Cluster where
  maintenance : Bool
  options?    : Option Config.ProtocolOptions
  deriving DecidableEq, Repr

inductive Priority
  | default
  | high
  deriving DecidableEq, Repr

-- What the load balancer of a cluster is told when a pool is asked for.
structure PoolRequest where
  cluster  : String
  priority : Priority
  criteria : Option Criteria
  headers  : HeaderMap

-- What the health check of a host is told.
inductive Verdict
  | connected
  | connectFailed
  | timedOut
  | requestSucceeded
  | requestFailed
  deriving DecidableEq, Repr

inductive CloseKind
  | flushWrite
  | noFlush
  deriving DecidableEq, Repr

-- How far a response has been decoded.
inductive ResponseStatus
  | more
  | complete
  -- The bytes cannot be decoded.
  | broken
  deriving DecidableEq, Repr

-- What a router does, with the answer where it asks for something.
inductive Effect
  | drew (random : Nat)
  | lookedUp (name : String) (cluster? : Option Cluster)
  | counted (counter : Counter) (cluster? : Option String)
  -- A time has no value here.
  | sampled (histogram : Histogram) (cluster : String) (value? : Option Nat)
  | askedForPool (request : PoolRequest) (pool? : Option PoolId)
  | madeCodec (router : RouterId) (leg : Leg)
  | acquired (pool : PoolId) (answer : Acquisition)
  | cancelled (pool : PoolId)
  | judged (host : Host) (verdict : Verdict)
  | wrote (connection : ConnectionId) (bytes : Bytes) (endStream : Bool)
  | closed (connection : ConnectionId) (kind : CloseKind)
  -- The connection goes back to its pool.
  | released (connection : ConnectionId)
  -- The codec was asked whether the connection needs an upgrade, and for the request of it.
  | offeredUpgrade (router : RouterId) (request? : Option Bytes)
  | readUpgrade (router : RouterId) (bytes : Bytes) (done : Bool)
  | completedUpgrade (router : RouterId)
  -- What the codec appended to a request.
  | encodedBegin (router : RouterId) (message : Message) (bytes : Bytes)
  | encodedBody (router : RouterId) (body bytes : Bytes)
  | encodedEnd (router : RouterId) (bytes : Bytes)
  | framed (router : RouterId) (request frame : Bytes)
  -- To the caller.
  | replied (router : RouterId) (exception : Exception) (endStream : Bool)
  | resetDownstream (router : RouterId)
  | continued (router : RouterId)
  | startedResponse (router : RouterId) (leg : Leg)
  | readResponse (router : RouterId) (bytes : Bytes) (status : ResponseStatus)

-- The oldest effect is the first one.
abbrev Transcript := List Effect

end RpcProxy
