import RpcProxy.Exchange.Transcript

namespace RpcProxy

-- What a reader of bytes makes of a chunk.
structure Consumed (α : Type) where
  outcome : α
  -- The bytes that it does not take.
  left    : Bytes
  deriving Repr

-- All that a router asks and does not decide itself. An answer may depend on all that happened before, so nothing is
-- assumed about how the surroundings behave.
structure Surroundings where
  random : Transcript → Nat
  cluster? : Transcript → String → Option Cluster
  pool? : Transcript → PoolRequest → Option PoolId
  acquire : Transcript → PoolId → Acquisition
  -- The caller's leg.
  downstream : Transcript → RouterId → Leg
  -- The request to append where the connection still needs an upgrade.
  upgradeRequest? : Transcript → RouterId → Leg → ConnectionState → Option Bytes
  -- Whether the reply to the upgrade request has been read.
  readUpgrade : Transcript → RouterId → Bytes → Consumed Bool
  -- Whether the finished upgrade marks the connection as upgraded.
  marksUpgraded : Transcript → RouterId → Leg → Bool
  -- What the codec appends for a part of a request.
  encodeBegin : Transcript → RouterId → Leg → Message → Bytes
  encodeBody : Transcript → RouterId → Leg → Bytes → Bytes
  encodeEnd : Transcript → RouterId → Leg → Bytes
  -- The frame around the parts of a request.
  frame : Transcript → RouterId → Leg → Message → Bytes → Bytes
  readResponse : Transcript → RouterId → Bytes → Consumed ResponseStatus
  responseKind? : Transcript → RouterId → Option MessageKind
  responseSucceeded : Transcript → RouterId → Bool

-- What the routers of a proxy share.
structure Shared where
  connections : ConnectionTable := {}
  transcript  : Transcript := []

namespace Shared

def emit (s : Shared) (e : Effect) : Shared :=
  { s with transcript := s.transcript ++ [e] }

def forget (s : Shared) (id : ConnectionId) : Shared :=
  { s with connections := s.connections.remove id }

def stateOf (s : Shared) (id : ConnectionId) : StateRef × Shared :=
  let (ref, connections) := s.connections.getOrCreate id
  (ref, { s with connections })

def takeSequence (s : Shared) (ref : StateRef) : Nat × Shared :=
  let (n, connections) := s.connections.takeSequence ref
  (n, { s with connections })

def upgrade (s : Shared) (ref : StateRef) : Shared :=
  { s with connections := s.connections.modify ref .upgrade }

def release (s : Shared) (connection? : Option ConnectionId) : Shared :=
  match connection? with
  | some id => s.emit (.released id)
  | none    => s

def judge (s : Shared) (host? : Option Host) (verdict : Verdict) : Shared :=
  match host? with
  | some host => s.emit (.judged host verdict)
  | none      => s

end Shared

end RpcProxy
