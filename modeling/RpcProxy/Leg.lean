namespace RpcProxy

-- How messages are delimited on a leg.
inductive Transport
  | framed
  | unframed
  | header
  -- Detected from the first bytes of the caller, and never valid for the leg of a cluster.
  | auto
  deriving DecidableEq, Repr, Inhabited

-- How a message is encoded on a leg.
inductive Encoding
  | binary
  | laxBinary
  | compact
  -- The encoding that negotiates an upgrade of the connection before its first call.
  | twitter
  | auto
  deriving DecidableEq, Repr, Inhabited

namespace Transport

def name : Transport → String
  | framed   => "framed"
  | unframed => "unframed"
  | header   => "header"
  | auto     => "auto"

end Transport

namespace Encoding

def name : Encoding → String
  | binary    => "binary"
  | laxBinary => "binary/non-strict"
  | compact   => "compact"
  | twitter   => "twitter"
  | auto      => "auto"

def supportsUpgrade : Encoding → Bool
  | twitter => true
  | _       => false

end Encoding

-- One leg of a call: the side of the caller, or the side of the cluster that serves it.
structure Leg where
  transport : Transport
  encoding  : Encoding
  deriving DecidableEq, Repr, Inhabited

-- The body of a call is copied as it is when both legs are framed and share an encoding that knows no
-- upgrade.
def Leg.passesThrough (caller cluster : Leg) : Bool :=
  caller.transport == .framed && cluster.transport == .framed &&
    caller.encoding == cluster.encoding && cluster.encoding != .twitter

end RpcProxy
