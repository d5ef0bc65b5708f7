import RpcProxy.Proofs.Routing.Prescription

namespace RpcProxy

-- The rule is for a service, which may be written with its colon or without. No other colon belongs to it.
structure Config.Match.IsForService (m : Config.Match) (service : String) : Prop where
  named    : m.service = some service ∨ m.service = some (service ++ ":")
  nonempty : m.service ≠ some ""
  plain    : ':' ∉ service.toList
  upright  : m.invert = false

namespace Message

variable {message : Message} {service method : String}

-- A name is split at its first colon, whatever comes behind it.
theorem splitService?_append (h : ':' ∉ service.toList) :
    splitService? (service ++ ":" ++ method) = some (service, method) := by
  have front : ∀ c ∈ service.toList, (c != ':') = true := by
    intro c hc
    simpa using ne_of_mem_of_not_mem hc h
  have hs : (service ++ ":" ++ method).toList.span (· != ':') = (service.toList, ':' :: method.toList) := by
    rw [List.span_eq_takeWhile_dropWhile, String.toList_append, String.toList_append, List.append_assoc,
      List.takeWhile_append_of_pos front, List.dropWhile_append_of_pos front]
    simp
  rw [splitService?, hs]
  simp

theorem service?_of_method (h : ':' ∉ service.toList) (hm : message.method? = some (service ++ ":" ++ method)) :
    message.service? = some service := by
  simp [service?, hm, splitService?_append h]

theorem stripService_of_method (h : ':' ∉ service.toList) (hm : message.method? = some (service ++ ":" ++ method)) :
    message.stripService = ({ message with method? := some method }, true) := by
  simp [stripService, hm, splitService?_append h]

end Message

namespace RouteRule

variable {config : Config.Route} {rule : RouteRule} {message : Message} {service : String}

-- With or without its colon, the service stands in front of a method name with one.
theorem front_of_isForService {m : Config.Match} (hs : m.IsForService service) :
    ∃ given, m.service = some given ∧ given ≠ "" ∧
      (if [':'] <:+ given.toList then given.toList else given.toList ++ [':']) = service.toList ++ [':'] := by
  cases hs.named
  case inl hn =>
    have nonempty : service ≠ "" := by simpa [hn] using hs.nonempty
    have bare : ¬ [':'] <:+ service.toList := fun h => hs.plain (h.subset List.mem_cons_self)
    exact ⟨service, hn, nonempty, if_neg bare⟩
  case inr hn =>
    have colon : [':'] <:+ (service ++ ":").toList := by
      rw [String.toList_append]
      exact List.suffix_append ..
    exact ⟨service ++ ":", hn, by simp, (if_pos colon).trans String.toList_append⟩

theorem exists_method_of_names {m : Config.Match} (hs : m.IsForService service) (hn : m.Names message.method?) :
    ∃ method, message.method? = some (service ++ ":" ++ method) := by
  obtain ⟨given, hg, nonempty, front⟩ := front_of_isForService hs
  obtain ⟨name, hm, rest, hr⟩ := (hn.service given hg).resolve_left nonempty
  refine ⟨String.ofList rest, hm.trans (congrArg some ?_)⟩
  rw [← String.toList_inj, ← hr, front]
  simp

-- The calls that a service rule takes are calls of its service.
theorem names_service (h : ofConfig config = .ok rule) (hs : config.takes.IsForService service)
    (ht : rule.takes message) :
    message.service? = some service ∧ ∃ method, message.method? = some (service ++ ":" ++ method) := by
  have names : config.takes.Names message.method? := ((built h).takes message).mp ht |>.name.mpr (by simp [hs.upright])
  obtain ⟨method, hm⟩ := exists_method_of_names hs names
  exact ⟨Message.service?_of_method hs.plain hm, method, hm⟩

end RouteRule

end RpcProxy
