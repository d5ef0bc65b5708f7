import RpcProxy.Config.Basic
import RpcProxy.Config.Problem

namespace RpcProxy.Config.ProtocolOptions

-- The leg of a cluster is encoded by the proxy, so neither part of it can be left to detection.
def validate (o : ProtocolOptions) : Except Cause Unit :=
  if o.transport = some .auto then .error .automaticTransport
  else if o.encoding = some .auto then .error .automaticEncoding
  else .ok ()

-- The way of the cluster's leg, given the way of the caller's leg.
def leg (o : ProtocolOptions) (downstream : Leg) : Leg :=
  ⟨o.transport.getD downstream.transport, o.encoding.getD downstream.encoding⟩

end RpcProxy.Config.ProtocolOptions
