import RpcProxy.Proofs.Call.Effects

namespace RpcProxy

-- An effect by which bytes of the cluster are read or measured, or that says how they have to be read.
abbrev Effect.isRelay : Effect → Bool
  | madeCodec ..              => true
  | offeredUpgrade _ (some _) => true
  | readUpgrade ..            => true
  | startedResponse ..        => true
  | readResponse ..           => true
  | sampled .responseSize ..  => true
  | _                         => false

abbrev relays (es : List Effect) : List Effect :=
  es.filter (·.isRelay)

namespace Call

variable {c : Surroundings} {call : Call} {s : Shared} {id : ConnectionId}

-- The call with a chunk that has come from its cluster.
def heard (call : Call) (data : Bytes) : Call :=
  { call with responseSize := call.responseSize + data.length }

-- Of what has to do with the response, only that its upgrade is complete is new about a call.
theorem resume_fields (c : Surroundings) (call : Call) (data : Bytes) (s : Shared) :
    (call.resume c data s).1.upgradeReply = false ∧
    (call.resume c data s).1.responseSize = call.responseSize ∧
    (call.resume c data s).1.responseStarted = call.responseStarted ∧
    (call.resume c data s).1.connection? = call.connection? := by
  simp [resume, startRequest_fst]

theorem relays_respondEffects :
    relays (call.respondEffects c s) = [.sampled .responseSize call.cluster (some call.responseSize)] := by
  simp

end Call

end RpcProxy
