import Mathlib.Data.String.Basic
import RpcProxy.Json.Value

namespace RpcProxy.Json

variable {α : Type} {key k : String} {value : α} {ms ns : List (String × α)}

def Ordered (ms : List (String × α)) : Prop :=
  ms.Pairwise fun m n => m.1 < n.1

theorem ordered_nil : Ordered ([] : List (String × α)) :=
  .nil

theorem ordered_cons_iff {m : String × α} : Ordered (m :: ms) ↔ (∀ n ∈ ms, m.1 < n.1) ∧ Ordered ms :=
  List.pairwise_cons

theorem lookup_cons_ne (h : k ≠ key) : ((key, value) :: ms).lookup k = ms.lookup k := by
  simp [List.lookup_cons, beq_false_of_ne h]

theorem lookup_eq_none (h : ∀ m ∈ ms, key < m.1) : ms.lookup key = none := by
  refine List.lookup_eq_none_iff.mpr fun m hm => ?_
  simpa using (h m hm).ne

theorem lookup_insertMember_self : (insertMember key value ms).lookup key = some value := by
  induction ms
  case nil          => exact List.lookup_cons_self
  case cons m ms ih =>
    obtain ⟨l, v⟩ := m
    simp only [insertMember]
    split
    · exact List.lookup_cons_self
    · split
      · exact List.lookup_cons_self
      case isFalse hk => rwa [lookup_cons_ne hk]

theorem lookup_insertMember_ne (h : k ≠ key) : (insertMember key value ms).lookup k = ms.lookup k := by
  induction ms
  case nil          => exact lookup_cons_ne h
  case cons m ms ih =>
    obtain ⟨l, v⟩ := m
    simp only [insertMember]
    split
    · exact lookup_cons_ne h
    · split
      case isTrue hk => rw [lookup_cons_ne h, lookup_cons_ne (hk ▸ h)]
      case isFalse   => rw [List.lookup_cons, List.lookup_cons, ih]

theorem mem_insertMember {n : String × α} (h : n ∈ insertMember key value ms) :
    n = (key, value) ∨ n ∈ ms := by
  induction ms
  case nil          => simpa [insertMember] using h
  case cons m ms ih =>
    simp only [insertMember] at h
    split at h
    · simpa using h
    · split at h
      · exact (List.mem_cons.mp h).imp_right (List.mem_cons_of_mem _)
      · cases List.mem_cons.mp h
        case inl h => exact .inr (h ▸ List.mem_cons_self)
        case inr h => exact (ih h).imp_right (List.mem_cons_of_mem _)

theorem Ordered.insertMember (h : Ordered ms) : Ordered (insertMember key value ms) := by
  induction ms
  case nil          => exact List.pairwise_singleton ..
  case cons m ms ih =>
    have ⟨hm, hms⟩ := ordered_cons_iff.mp h
    simp only [Json.insertMember]
    split
    case isTrue hk =>
      refine ordered_cons_iff.mpr ⟨List.forall_mem_cons.mpr ⟨hk, fun n hn => ?_⟩, h⟩
      exact hk.trans (hm n hn)
    case isFalse hk =>
      split
      case isTrue he  => exact ordered_cons_iff.mpr ⟨fun n hn => he ▸ hm n hn, hms⟩
      case isFalse he =>
        refine ordered_cons_iff.mpr ⟨fun n hn => ?_, ih hms⟩
        cases mem_insertMember hn
        case inl hn => exact hn ▸ lt_of_le_of_ne (not_lt.mp hk) (Ne.symm he)
        case inr hn => exact hm n hn

-- Ordered members are equal if their keys have equal values.
theorem Ordered.ext (h : Ordered ms) (h' : Ordered ns) (he : ∀ key, ms.lookup key = ns.lookup key) : ms = ns := by
  induction ms generalizing ns
  case nil =>
    cases ns
    case nil       => rfl
    case cons n ns => simpa using (he n.1).symm
  case cons m ms ih =>
    cases ns
    case nil       => simpa using he m.1
    case cons n ns =>
      obtain ⟨k, v⟩ := m
      obtain ⟨l, w⟩ := n
      have ⟨hm, hms⟩ := ordered_cons_iff.mp h
      have ⟨hn, hns⟩ := ordered_cons_iff.mp h'
      -- The least key of either list is in the other list, too.
      have hk : k = l := by
        by_contra hk
        rcases lt_or_gt_of_ne hk with hk | hk
        case inl =>
          have hl : ns.lookup k = none := lookup_eq_none fun n hn' => hk.trans (hn n hn')
          simpa [lookup_cons_ne hk.ne, hl] using he k
        case inr =>
          have hl : ms.lookup l = none := lookup_eq_none fun m hm' => hk.trans (hm m hm')
          simpa [lookup_cons_ne hk.ne, hl] using he l
      subst hk
      have hv : v = w := by simpa using he k
      have hr : ms = ns := by
        refine ih hms hns fun key => ?_
        by_cases hk : key = k
        case pos => rw [hk, lookup_eq_none hm, lookup_eq_none hn]
        case neg => simpa [lookup_cons_ne hk] using he key
      rw [hv, hr]

-- No other member hides the one that has a key.
theorem Ordered.lookup_eq_some_iff (h : Ordered ms) : ms.lookup key = some value ↔ (key, value) ∈ ms := by
  constructor
  case mp  =>
    intro hl
    obtain ⟨before, after, rfl, -⟩ := List.lookup_eq_some_iff.mp hl
    simp
  case mpr =>
    intro hm
    obtain ⟨before, after, rfl⟩ := List.append_of_mem hm
    refine List.lookup_eq_some_iff.mpr ⟨before, after, rfl, fun m hm => ?_⟩
    simpa using ((List.pairwise_append.mp h).2.2 m hm (key, value) List.mem_cons_self).ne'

-- The greatest key goes to the end.
theorem insertMember_of_greatest (h : ∀ m ∈ ms, m.1 < key) : insertMember key value ms = ms ++ [(key, value)] := by
  induction ms
  case nil          => rfl
  case cons m ms ih =>
    have ⟨hm, hms⟩ := List.forall_mem_cons.mp h
    simp [insertMember, hm.not_gt, hm.ne', ih hms]

end RpcProxy.Json
