import Mathlib.Data.List.Forall2
import RpcProxy.Routing.Descriptor

namespace RpcProxy

namespace HeaderMap

-- The header is there, with whatever value. The case of ASCII letters in its name does not count.
def Carries (headers : HeaderMap) (name : String) : Prop :=
  ∃ p ∈ headers.entries, p.1.toLower = name.toLower

-- The value is the oldest one of the header.
inductive HasFirst (headers : HeaderMap) (name value : String) : Prop
  | intro (split : headers.entries = before ++ (written, value) :: after) (same : written.toLower = name.toLower)
    (first : ∀ p ∈ before, p.1.toLower ≠ name.toLower)

end HeaderMap

namespace RateLimit

-- The pair that an action adds to the descriptor of a call.
inductive Tells (context : DescriptorContext) : Config.RateLimitAction → DescriptorPair → Prop
  | source : Tells context .sourceCluster ⟨"source_cluster", context.localCluster⟩
  | destination : Tells context .destinationCluster ⟨"destination_cluster", context.routeCluster⟩
  | header (first : context.headers.HasFirst name value) : Tells context (.requestHeaders name key) ⟨key, value⟩
  | generic : Tells context (.genericKey value) ⟨"generic_key", value⟩

-- One of the actions asks for a header that the call does not carry.
def Misses (context : DescriptorContext) (entry : Config.RateLimit) : Prop :=
  ∃ name key, .requestHeaders name key ∈ entry.actions ∧ ¬ context.headers.Carries name

end RateLimit

-- What a policy makes of its configuration.
structure RateLimitPolicy.Describes (policy : RateLimitPolicy) (configs : List Config.RateLimit) : Prop where
  ordered : ∀ stage, (policy.atStage stage).Sublist configs
  -- An entry that is given several times stands in its stage as often.
  staged  : ∀ stage entry,
    (policy.atStage stage).count entry = if entry.stage = stage then configs.count entry else 0
  once    : ∀ entry ∈ configs, ∃! stage, entry ∈ policy.atStage stage
  skipped : ∀ context, ∀ entry ∈ configs,
    RateLimit.descriptor? context entry = none ↔ RateLimit.Misses context entry
  told    : ∀ context, ∀ entry ∈ configs, ∀ descriptor,
    RateLimit.descriptor? context entry = some descriptor ↔
      List.Forall₂ (RateLimit.Tells context) entry.actions descriptor

namespace HeaderMap

variable {headers : HeaderMap} {name value : String}

theorem sameName_iff {a b : String} : sameName a b ↔ a.toLower = b.toLower :=
  beq_iff_eq

theorem first?_eq_some_iff : headers.first? name = some value ↔ headers.HasFirst name value := by
  simp only [first?, Option.map_eq_some_iff, List.find?_eq_some_iff_append, sameName_iff]
  constructor
  case mp  =>
    rintro ⟨⟨written, _⟩, ⟨same, before, after, split, first⟩, rfl⟩
    exact ⟨split, same, by simpa [sameName, normalize] using first⟩
  case mpr =>
    rintro ⟨split, same, first⟩
    exact ⟨_, ⟨same, _, _, split, by simpa [sameName, normalize] using first⟩, rfl⟩

theorem first?_eq_none_iff : headers.first? name = none ↔ ¬ headers.Carries name := by
  simp [first?, Carries, sameName_iff]

end HeaderMap

namespace RateLimit

variable {context : DescriptorContext} {action : Config.RateLimitAction} {pair : DescriptorPair}
  {entry : Config.RateLimit} {descriptor : Descriptor}

theorem pair?_eq_some_iff : pair? context action = some pair ↔ Tells context action pair := by
  constructor
  case mp  =>
    intro h
    cases action
    case requestHeaders name key =>
      obtain ⟨value, hv, rfl⟩ := Option.map_eq_some_iff.mp h
      exact .header (HeaderMap.first?_eq_some_iff.mp hv)
    all_goals
      obtain rfl := Option.some.inj h
      constructor
  case mpr =>
    intro h
    cases h
    case header first => exact Option.map_eq_some_iff.mpr ⟨_, HeaderMap.first?_eq_some_iff.mpr first, rfl⟩
    all_goals rfl

theorem pair?_eq_none_iff : pair? context action = none ↔
    ∃ name key, action = .requestHeaders name key ∧ ¬ context.headers.Carries name := by
  cases action <;> simp [pair?, HeaderMap.first?_eq_none_iff]

section

variable {f : α → Option β} {as : List α} {bs : List β}

theorem mapM_eq_some_iff : as.mapM f = some bs ↔ List.Forall₂ (fun a b => f a = some b) as bs := by
  induction as generalizing bs
  case nil          => simp [eq_comm]
  case cons a as ih =>
    simp only [List.mapM_cons, Option.bind_eq_bind, Option.bind_eq_some_iff, ih, List.forall₂_cons_left_iff]
    constructor
    case mp  =>
      rintro ⟨b, hb, bs', hbs, he⟩
      exact ⟨b, bs', hb, hbs, (Option.some.inj he).symm⟩
    case mpr =>
      rintro ⟨b, bs', hb, hbs, rfl⟩
      exact ⟨b, hb, bs', hbs, rfl⟩

theorem mapM_eq_none_iff : as.mapM f = none ↔ ∃ a ∈ as, f a = none := by
  induction as
  case nil          => simp
  case cons a as ih =>
    rw [List.exists_mem_cons_iff, ← ih, List.mapM_cons]
    cases f a <;> cases as.mapM f <;> simp

end

theorem descriptor?_eq_some_iff :
    descriptor? context entry = some descriptor ↔ List.Forall₂ (Tells context) entry.actions descriptor := by
  simp only [descriptor?, mapM_eq_some_iff, pair?_eq_some_iff]

-- A header that is missing for one action leaves the whole entry without a descriptor.
theorem descriptor?_eq_none_iff : descriptor? context entry = none ↔ Misses context entry := by
  simp only [descriptor?, mapM_eq_none_iff, pair?_eq_none_iff, Misses]
  constructor
  case mp  =>
    rintro ⟨_, asked, name, key, rfl, missing⟩
    exact ⟨name, key, asked, missing⟩
  case mpr =>
    rintro ⟨name, key, asked, missing⟩
    exact ⟨_, asked, name, key, rfl, missing⟩

end RateLimit

namespace RateLimitPolicy

variable {policy : RateLimitPolicy} {entry : Config.RateLimit} {stage : Nat}

theorem mem_atStage_iff : entry ∈ policy.atStage stage ↔ entry ∈ policy.entries ∧ entry.stage = stage := by
  simp [atStage]

theorem count_atStage :
    (policy.atStage stage).count entry = if entry.stage = stage then policy.entries.count entry else 0 := by
  split
  case isTrue h  => exact List.count_filter (by simpa using h)
  case isFalse h => exact List.count_eq_zero.mpr fun hm => h (mem_atStage_iff.mp hm).2

-- The policy of a list of rate limits describes calls by them, all or nothing.
theorem describes (configs : List Config.RateLimit) : Describes ⟨configs⟩ configs where
  ordered _     := List.filter_sublist
  staged _ _    := count_atStage
  once entry hm := ⟨entry.stage, mem_atStage_iff.mpr ⟨hm, rfl⟩, fun _ h => (mem_atStage_iff.mp h).2.symm⟩
  skipped _ _ _ := RateLimit.descriptor?_eq_none_iff
  told _ _ _ _  := RateLimit.descriptor?_eq_some_iff

-- The source could be told, but nobody has told the zone.
example : RateLimit.descriptor? ⟨"backend", "ingress", .ofList [("tenant", "acme")]⟩
    ⟨0, [.sourceCluster, .requestHeaders "zone" "zone"]⟩ = none := by
  decide +kernel

end RateLimitPolicy

end RpcProxy
