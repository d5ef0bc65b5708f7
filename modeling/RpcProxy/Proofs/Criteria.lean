import RpcProxy.Criteria
import RpcProxy.Proofs.Json.Members

namespace RpcProxy.Criteria

variable {criteria own first second : Criteria} {maps : List Criteria} {key k : String} {value : Json}

def Ordered (criteria : Criteria) : Prop :=
  Json.Ordered criteria.entries

def keys (criteria : Criteria) : List String :=
  criteria.entries.map (·.1)

-- Lays one map after the other over the criteria.
def mergeAll (criteria : Criteria) (maps : List Criteria) : Criteria :=
  maps.foldl merge criteria

-- Of some criteria, the last that have the key give it this value.
inductive Prevails (key : String) (value : Json) : List Criteria → Prop
  | here (given : (key, value) ∈ c.entries) (silent : ∀ later ∈ rest, key ∉ later.keys) :
    Prevails key value (c :: rest)
  | later (h : Prevails key value rest) : Prevails key value (c :: rest)

-- What it means that maps which are laid over criteria win over what is there before, each key by itself.
structure LastWins (criteria : Criteria) (maps : List Criteria) : Prop where
  ordered : (criteria.mergeAll maps).Ordered
  entries : ∀ key value, (key, value) ∈ (criteria.mergeAll maps).entries ↔ Prevails key value (criteria :: maps)
  value   : ∀ key value, (criteria.mergeAll maps).get? key = some value ↔ Prevails key value (criteria :: maps)
  missing : ∀ key, (criteria.mergeAll maps).get? key = none ↔ ∀ c ∈ criteria :: maps, key ∉ c.keys
  -- Two more maps may as well be laid over each other before.
  joined  : ∀ first second, first.Ordered → second.Ordered →
    ((criteria.mergeAll maps).merge first).merge second = (criteria.mergeAll maps).merge (first.merge second)
  again   : ∀ last, last.Ordered →
    ((criteria.mergeAll maps).merge last).merge last = (criteria.mergeAll maps).merge last

theorem Ordered.ext {other : Criteria} (h : criteria.Ordered) (h' : other.Ordered)
    (he : ∀ key, criteria.get? key = other.get? key) : criteria = other :=
  congrArg mk (Json.Ordered.ext h h' he)

theorem Ordered.insert (h : criteria.Ordered) : (criteria.insert key value).Ordered :=
  Json.Ordered.insertMember h

@[simp]
theorem get?_insert_self : (criteria.insert key value).get? key = some value :=
  Json.lookup_insertMember_self

theorem get?_insert_ne (h : k ≠ key) : (criteria.insert key value).get? k = criteria.get? k :=
  Json.lookup_insertMember_ne h

theorem Ordered.merge (h : criteria.Ordered) : (criteria.merge own).Ordered := by
  unfold Criteria.merge
  induction own.entries generalizing criteria
  case nil          => exact h
  case cons e es ih => exact ih h.insert

theorem get?_merge (h : own.Ordered) : (criteria.merge own).get? key = (own.get? key).or (criteria.get? key) := by
  obtain ⟨es⟩ := own
  unfold Ordered merge get? at *
  dsimp only at *
  induction es generalizing criteria
  case nil          => rfl
  case cons e es ih =>
    obtain ⟨k, v⟩ := e
    have ⟨hk, hes⟩ := Json.ordered_cons_iff.mp h
    rw [List.foldl_cons, ih hes]
    by_cases he : key = k
    case pos =>
      have hl : es.lookup k = none := Json.lookup_eq_none hk
      have hi : (criteria.insert k v).entries.lookup k = some v := get?_insert_self
      simp [he, hl, hi]
    case neg =>
      have hi : (criteria.insert k v).entries.lookup key = criteria.entries.lookup key := get?_insert_ne he
      rw [Json.lookup_cons_ne he, hi]

theorem Ordered.get?_eq_some_iff (h : criteria.Ordered) :
    criteria.get? key = some value ↔ (key, value) ∈ criteria.entries :=
  Json.Ordered.lookup_eq_some_iff h

theorem get?_eq_none_iff : criteria.get? key = none ↔ key ∉ criteria.keys := by
  rw [get?, keys, List.lookup_eq_none_iff, List.mem_map]
  constructor
  case mp  =>
    rintro h ⟨e, he, rfl⟩
    simpa using h e he
  case mpr =>
    intro h e he
    simpa using fun hk => h ⟨e, he, hk.symm⟩

theorem merge_merge (h : criteria.Ordered) (h₁ : first.Ordered) (h₂ : second.Ordered) :
    (criteria.merge first).merge second = criteria.merge (first.merge second) := by
  refine h.merge.merge.ext h.merge fun key => ?_
  rw [get?_merge h₂, get?_merge h₁, get?_merge h₁.merge, get?_merge h₂, Option.or_assoc]

theorem merge_merge_self (h : criteria.Ordered) (ho : own.Ordered) :
    (criteria.merge own).merge own = criteria.merge own := by
  refine h.merge.merge.ext h.merge fun key => ?_
  rw [get?_merge ho, get?_merge ho, ← Option.or_assoc, Option.or_self]

-- A pair is taken over as it is, from the one side or from the other.
theorem mem_merge_iff (h : criteria.Ordered) (ho : own.Ordered) : (key, value) ∈ (criteria.merge own).entries ↔
    (key, value) ∈ own.entries ∨ key ∉ own.keys ∧ (key, value) ∈ criteria.entries := by
  rw [← h.merge.get?_eq_some_iff, get?_merge ho, Option.or_eq_some_iff, get?_eq_none_iff, ho.get?_eq_some_iff,
    h.get?_eq_some_iff]

theorem Ordered.mergeAll (h : criteria.Ordered) : (criteria.mergeAll maps).Ordered := by
  induction maps generalizing criteria
  case nil              => exact h
  case cons map rest ih => exact ih h.merge

theorem prevails_cons_iff : Prevails key value (criteria :: maps) ↔
    (key, value) ∈ criteria.entries ∧ (∀ later ∈ maps, key ∉ later.keys) ∨ Prevails key value maps := by
  constructor
  case mp  =>
    rintro (⟨given, silent⟩ | h)
    case here  => exact .inl ⟨given, silent⟩
    case later => exact .inr h
  case mpr =>
    rintro (⟨given, silent⟩ | h)
    case inl => exact .here given silent
    case inr => exact .later h

-- It makes no difference whether maps have been laid over those before them.
theorem prevails_merge_iff (h : criteria.Ordered) (ho : own.Ordered) :
    Prevails key value (criteria.merge own :: maps) ↔ Prevails key value (criteria :: own :: maps) := by
  simp only [prevails_cons_iff, mem_merge_iff h ho, List.forall_mem_cons]
  tauto

theorem mem_mergeAll_iff (h : criteria.Ordered) (hm : ∀ map ∈ maps, map.Ordered) :
    (key, value) ∈ (criteria.mergeAll maps).entries ↔ Prevails key value (criteria :: maps) := by
  induction maps generalizing criteria
  case nil              =>
    have never : ¬ Prevails key value [] := nofun
    simp [mergeAll, prevails_cons_iff, never]
  case cons map rest ih =>
    obtain ⟨ho, hm⟩ := List.forall_mem_cons.mp hm
    exact (ih h.merge hm).trans (prevails_merge_iff h ho)

theorem get?_mergeAll_eq_none_iff (hm : ∀ map ∈ maps, map.Ordered) :
    (criteria.mergeAll maps).get? key = none ↔ ∀ c ∈ criteria :: maps, key ∉ c.keys := by
  induction maps generalizing criteria
  case nil              => simp [mergeAll, get?_eq_none_iff]
  case cons map rest ih =>
    obtain ⟨ho, hm⟩ := List.forall_mem_cons.mp hm
    have merged : key ∉ (criteria.merge map).keys ↔ key ∉ criteria.keys ∧ key ∉ map.keys := by
      rw [← get?_eq_none_iff, get?_merge ho, Option.or_eq_none_iff, get?_eq_none_iff, get?_eq_none_iff, and_comm]
    refine (ih hm).trans ?_
    simp only [List.forall_mem_cons, merged, and_assoc]

theorem lastWins (h : criteria.Ordered) (hm : ∀ map ∈ maps, map.Ordered) : criteria.LastWins maps where
  ordered                     := h.mergeAll
  entries _ _                 := mem_mergeAll_iff h hm
  value _ _                   := h.mergeAll.get?_eq_some_iff.trans (mem_mergeAll_iff h hm)
  missing _                   := get?_mergeAll_eq_none_iff hm
  joined _ _ ordered ordered' := merge_merge h.mergeAll ordered ordered'
  again _ ordered             := merge_merge_self h.mergeAll ordered

end RpcProxy.Criteria
