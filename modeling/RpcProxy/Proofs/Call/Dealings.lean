import RpcProxy.Proofs.Call.Conduct

namespace RpcProxy

-- An effect that concerns the connection of a call, or the request that is written to it.
abbrev Effect.isDealing : Effect → Bool
  | acquired ..            => true
  | cancelled _            => true
  | wrote ..               => true
  | closed ..              => true
  | released _             => true
  | offeredUpgrade ..      => true
  | completedUpgrade _     => true
  | encodedBegin ..        => true
  | encodedBody ..         => true
  | encodedEnd ..          => true
  | framed ..              => true
  | sampled .requestSize .. => true
  | _                      => false

-- The decoder cannot make sense of the response.
abbrev Effect.isBreak : Effect → Bool
  | readResponse _ _ .broken => true
  | _                        => false

abbrev dealings (es : List Effect) : List Effect :=
  es.filter (·.isDealing)

def breaks (es : List Effect) : Bool :=
  es.any (·.isBreak)

section

variable {e : Effect} {es es' : List Effect}

@[simp]
theorem breaks_nil : breaks [] = false :=
  rfl

@[simp]
theorem breaks_cons : breaks (e :: es) = (e.isBreak || breaks es) :=
  rfl

@[simp]
theorem breaks_append : breaks (es ++ es') = (breaks es || breaks es') :=
  List.any_append

theorem breaks_of_readings (h : readings es = []) : breaks es = false := by
  refine List.any_eq_false.mpr fun e he hb => ?_
  have hr := List.filter_eq_nil_iff.mp h e he
  cases e <;> simp_all

end

namespace Call

variable {call : Call} {close : Bool}

-- A call that ends lets go of what it holds.
@[simp]
theorem dealings_releaseEffects : dealings (call.releaseEffects close) = call.releaseEffects close := by
  rw [dealings, filter_releaseEffects, releaseEffects_eq]
  simp

end Call

end RpcProxy
