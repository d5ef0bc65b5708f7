import RpcProxy.Exchange.ConnectionTable

namespace RpcProxy.ConnectionTable

variable {t t' : ConnectionTable} {id id' : ConnectionId} {ref ref' : StateRef}
  {f : ConnectionState → ConnectionState}

-- Takes an entry out, if one is named.
def without (t : ConnectionTable) : Option ConnectionId → ConnectionTable
  | some id => t.remove id
  | none    => t

@[simp]
theorem without_none : t.without none = t :=
  rfl

@[simp]
theorem without_some : t.without (some id) = t.remove id :=
  rfl

@[simp]
theorem find?_remove_self : (t.remove id).find? id = none := by
  simp only [find?, remove, List.lookup_eq_none_iff, List.mem_filter, bne_iff_ne]
  exact fun e he => he.2.symm

theorem find?_remove_ne (h : id' ≠ id) : (t.remove id).find? id' = t.find? id' := by
  simp only [find?, remove]
  induction t.entries
  case nil => rfl
  case cons e es ih =>
    obtain ⟨id'', ref⟩ := e
    by_cases he : id'' = id
    case pos => simp [he, ih, List.lookup_cons, beq_eq_false_iff_ne.mpr h]
    case neg => cases hb : id' == id'' <;> simp [he, ih, List.lookup_cons, hb]

theorem find?_without_ne {gone? : Option ConnectionId} (h : gone? ≠ some id) :
    (t.without gone?).find? id = t.find? id := by
  cases gone?
  case none   => rfl
  case some i => exact find?_remove_ne fun hi => h (hi ▸ rfl)

@[simp]
theorem find?_modify : (t.modify ref f).find? id = t.find? id :=
  rfl

theorem getOrCreate_of_some (h : t.find? id = some ref) : t.getOrCreate id = (ref, t) := by
  simp [getOrCreate, h]

theorem getOrCreate_of_none (h : t.find? id = none) : t.getOrCreate id = t.create id := by
  simp [getOrCreate, h]

theorem find?_create_self (h : t.find? id = none) :
    (t.create id).2.find? id = some (t.create id).1 := by
  simp only [find?] at h
  simp [find?, create, List.lookup_append, h]

theorem find?_create_ne (h : id' ≠ id) : (t.create id).2.find? id' = t.find? id' := by
  simp [find?, create, List.lookup_append, List.lookup_cons, beq_eq_false_iff_ne.mpr h]

@[simp]
theorem find?_getOrCreate_self : (t.getOrCreate id).2.find? id = some (t.getOrCreate id).1 := by
  cases h : t.find? id
  case none     => simp [getOrCreate_of_none h, find?_create_self h]
  case some ref => simp [getOrCreate_of_some h, h]

theorem find?_getOrCreate_ne (h : id' ≠ id) : (t.getOrCreate id).2.find? id' = t.find? id' := by
  cases hf : t.find? id
  case none     => rw [getOrCreate_of_none hf, find?_create_ne h]
  case some ref => rw [getOrCreate_of_some hf]

@[simp]
theorem modify_states_length : (t.modify ref f).states.length = t.states.length := by
  simp [modify]

theorem state_modify_self (h : ref.index < t.states.length) :
    (t.modify ref f).state ref = f (t.state ref) := by
  simp [state, modify, h]

theorem state_modify_ne (h : ref' ≠ ref) : (t.modify ref f).state ref' = t.state ref' := by
  have h : ref.index ≠ ref'.index := by
    cases ref
    cases ref'
    simpa [eq_comm] using h
  simp [state, modify, h]

theorem state_create_old (h : ref.index < t.states.length) :
    (t.create id).2.state ref = t.state ref := by
  simp [state, create, List.getElem?_append_left h]

theorem state_create_new : (t.create id).2.state (t.create id).1 = default := by
  simp [state, create]

structure WellFormed (t : ConnectionTable) : Prop where
  bound : ∀ {id ref}, t.find? id = some ref → ref.index < t.states.length
  apart : ∀ {id id' ref}, t.find? id = some ref → t.find? id' = some ref → id = id'

theorem WellFormed.empty : WellFormed {} where
  bound := nofun
  apart := nofun

theorem find?_of_remove (h : (t.remove id).find? id' = some ref) :
    id' ≠ id ∧ t.find? id' = some ref := by
  by_cases he : id' = id
  case pos => simp [he] at h
  case neg => exact ⟨he, find?_remove_ne he ▸ h⟩

theorem WellFormed.remove (h : t.WellFormed) : (t.remove id).WellFormed where
  bound hf     := h.bound (find?_of_remove hf).2
  apart hf hf' := h.apart (find?_of_remove hf).2 (find?_of_remove hf').2

theorem WellFormed.modify (h : t.WellFormed) : (t.modify ref f).WellFormed where
  bound hf     := by simpa using h.bound hf
  apart hf hf' := h.apart hf hf'

-- A new state is none of those that the table refers to.
theorem WellFormed.ne_create (h : t.WellFormed) (hf : t.find? id' = some ref) :
    ref ≠ (t.create id).1 := by
  intro he
  have hb := h.bound hf
  simp [he, ConnectionTable.create] at hb

theorem WellFormed.create (h : t.WellFormed) (hn : t.find? id = none) : (t.create id).2.WellFormed := by
  have hs : (t.create id).2.states.length = t.states.length + 1 := by simp [ConnectionTable.create]
  have hl : (t.create id).1.index = t.states.length := rfl
  constructor
  case bound =>
    intro id' ref hf
    by_cases hi : id' = id
    case pos =>
      rw [hi, find?_create_self hn, Option.some.injEq] at hf
      rw [← hf]
      omega
    case neg =>
      rw [find?_create_ne hi] at hf
      have := h.bound hf
      omega
  case apart =>
    intro id₁ id₂ ref hf₁ hf₂
    have hc {id'} (hf : (t.create id).2.find? id' = some ref) :
        id' = id ∧ ref = (t.create id).1 ∨ t.find? id' = some ref ∧ ref ≠ (t.create id).1 := by
      by_cases hi : id' = id
      case pos => exact .inl ⟨hi, by simpa [hi, find?_create_self hn, eq_comm] using hf⟩
      case neg =>
        rw [find?_create_ne hi] at hf
        exact .inr ⟨hf, h.ne_create hf⟩
    cases hc hf₁ <;> cases hc hf₂
    case inl.inl h₁ h₂ => rw [h₁.1, h₂.1]
    case inl.inr h₁ h₂ => exact absurd h₁.2 h₂.2
    case inr.inl h₁ h₂ => exact absurd h₂.2 h₁.2
    case inr.inr h₁ h₂ => exact h.apart h₁.1 h₂.1

-- A later table with all the entries of the first one. At most one connection was entered in between, with a
-- new state.
structure Grows (t t' : ConnectionTable) (entered? : Option ConnectionId) : Prop where
  kept    : ∀ {id ref}, t.find? id = some ref → t'.find? id = some ref
  entered : ∀ {id ref}, t.find? id = none → t'.find? id = some ref →
    entered? = some id ∧ t.states.length ≤ ref.index

theorem Grows.refl : t.Grows t entered? where
  kept          := (·)
  entered hn hf := by cases hn.symm.trans hf

theorem Grows.getOrCreate : t.Grows (t.getOrCreate id).2 (some id) where
  kept {id' ref} hf := by
    by_cases hi : id' = id
    case pos => rw [getOrCreate_of_some (hi ▸ hf), hf]
    case neg => rw [find?_getOrCreate_ne hi, hf]
  entered {id' ref} hn hf := by
    by_cases hi : id' = id
    case pos =>
      subst hi
      rw [getOrCreate_of_none hn, find?_create_self hn, Option.some.injEq] at hf
      exact ⟨rfl, hf ▸ Nat.le_refl _⟩
    case neg =>
      rw [find?_getOrCreate_ne hi, hn] at hf
      cases hf

theorem Grows.modify (h : t.Grows t' entered?) : t.Grows (t'.modify ref f) entered? where
  kept    := h.kept
  entered := h.entered

-- The entry that was taken out before is the one that is not there any longer.
theorem Grows.find?_ne_iff {gone? : Option ConnectionId} (h : (t.without gone?).Grows t' entered?)
    (hw : t.WellFormed) (hf : t.find? id = some ref) : t'.find? id ≠ some ref ↔ gone? = some id := by
  constructor
  case mp  =>
    refine fun hn => Decidable.byContradiction fun hg => hn ?_
    have hf : (t.without gone?).find? id = some ref := by rwa [find?_without_ne hg]
    exact h.kept hf
  case mpr =>
    rintro rfl hf'
    have hl := (h.entered find?_remove_self hf').2
    exact Nat.not_le_of_lt (hw.bound hf) hl

-- Whether a connection is marked as upgraded.
def isUpgraded (t : ConnectionTable) (id : ConnectionId) : Bool :=
  (t.find? id).any fun ref => (t.state ref).upgraded

theorem isUpgraded_of_find? (h : t.find? id = some ref) : t.isUpgraded id = (t.state ref).upgraded := by
  simp [isUpgraded, h]

theorem isUpgraded_of_none (h : t.find? id = none) : t.isUpgraded id = false := by
  simp [isUpgraded, h]

theorem isUpgraded_remove_ne (h : id' ≠ id) : (t.remove id).isUpgraded id' = t.isUpgraded id' := by
  rw [isUpgraded, find?_remove_ne h]
  rfl

-- A new connection is not upgraded.
theorem isUpgraded_getOrCreate (h : t.WellFormed) :
    (t.getOrCreate id).2.isUpgraded id' = t.isUpgraded id' := by
  cases hf : t.find? id
  case some ref => rw [getOrCreate_of_some hf]
  case none     =>
    rw [getOrCreate_of_none hf]
    by_cases hi : id' = id
    case pos =>
      subst hi
      rw [isUpgraded_of_none hf, isUpgraded_of_find? (find?_create_self hf), state_create_new]
      rfl
    case neg =>
      cases hf' : t.find? id'
      case none     => rw [isUpgraded_of_none hf', isUpgraded_of_none (by rwa [find?_create_ne hi])]
      case some ref =>
        have hc : (t.create id).2.find? id' = some ref := by rwa [find?_create_ne hi]
        rw [isUpgraded_of_find? hf', isUpgraded_of_find? hc, state_create_old (h.bound hf')]

theorem state_advance_upgraded : ((t.modify ref .advance).state ref').upgraded = (t.state ref').upgraded := by
  simp only [state, modify, List.getElem?_modify]
  cases ht : t.states[ref'.index]?
  case none   => rfl
  case some x =>
    simp only [Option.map_eq_map, Option.map_some, Option.getD_some]
    split
    all_goals rfl

@[simp]
theorem isUpgraded_advance : (t.modify ref .advance).isUpgraded id = t.isUpgraded id := by
  simp [isUpgraded, state_advance_upgraded]

theorem isUpgraded_upgrade_self (h : t.WellFormed) (hf : t.find? id = some ref) :
    (t.modify ref .upgrade).isUpgraded id := by
  have hf' : (t.modify ref .upgrade).find? id = some ref := hf
  rw [isUpgraded_of_find? hf', state_modify_self (h.bound hf)]
  rfl

theorem isUpgraded_upgrade_ne (h : t.WellFormed) (hf : t.find? id = some ref) (hi : id' ≠ id) :
    (t.modify ref .upgrade).isUpgraded id' = t.isUpgraded id' := by
  cases hf' : t.find? id'
  case none      => simp [isUpgraded, hf']
  case some ref' =>
    have hr : ref' ≠ ref := fun hr => hi (h.apart hf' (hr ▸ hf))
    simp [isUpgraded, hf', state_modify_ne hr]

-- How many sequence ids there are before they start again.
def period : Nat :=
  ConnectionState.maxSequence + 1

-- The sequence ids of the first calls on a connection.
def sequenceIds (n : Nat) : List Int :=
  (List.range n).map fun k => ((k % period : Nat) : Int)

theorem sequenceIds_succ : sequenceIds (n + 1) = sequenceIds n ++ [((n % period : Nat) : Int)] := by
  simp [sequenceIds, List.range_succ]

@[simp]
theorem sequenceIds_length : (sequenceIds n).length = n := by
  simp [sequenceIds]

-- Up to the period they are the numbers from zero on.
theorem sequenceIds_eq_range (h : n ≤ period) : sequenceIds n = (List.range n).map Int.ofNat := by
  apply List.map_congr_left
  intro k hk
  have hk : k < period := by have := List.mem_range.mp hk; omega
  simp [Nat.mod_eq_of_lt hk]

-- The table agrees with the sequence ids that were given out on each connection since it was entered.
structure Agrees (t : ConnectionTable) (ids : ConnectionId → List Int) : Prop where
  wellFormed : t.WellFormed
  counted    : ∀ id, ids id = sequenceIds (ids id).length
  next       : ∀ {id ref}, t.find? id = some ref → (t.state ref).nextSequence = (ids id).length % period
  unused     : ∀ {id}, t.find? id = none → ids id = []

variable {ids : ConnectionId → List Int}

theorem Agrees.empty : Agrees {} fun _ => [] where
  wellFormed := .empty
  counted _  := rfl
  next       := nofun
  unused _   := rfl

theorem Agrees.remove (h : t.Agrees ids) :
    (t.remove id).Agrees fun id' => if id = id' then [] else ids id' where
  wellFormed := h.wellFormed.remove
  counted id' := by split <;> first | rfl | exact h.counted id'
  next hf := by
    have ⟨hi, hf⟩ := find?_of_remove hf
    rw [if_neg hi.symm]
    exact h.next hf
  unused {id'} hf := by
    split
    · rfl
    next hi => exact h.unused (find?_remove_ne (Ne.symm hi) ▸ hf)

theorem Agrees.without {gone? : Option ConnectionId} (h : t.Agrees ids) :
    (t.without gone?).Agrees fun id => if gone? = some id then [] else ids id := by
  cases gone?
  case none    => simpa using h
  case some id => simpa using h.remove

theorem Agrees.getOrCreate (h : t.Agrees ids) : (t.getOrCreate id).2.Agrees ids := by
  cases hf : t.find? id
  case some ref => exact getOrCreate_of_some hf ▸ h
  case none     =>
    rw [getOrCreate_of_none hf]
    refine { wellFormed := h.wellFormed.create hf, counted := h.counted, next := ?next, unused := ?unused }
    case next =>
      intro id' ref hf'
      by_cases hi : id' = id
      case pos =>
        rw [hi, find?_create_self hf, Option.some.injEq] at hf'
        rw [← hf', state_create_new, hi, h.unused hf]
        rfl
      case neg =>
        rw [find?_create_ne hi] at hf'
        rw [state_create_old (h.wellFormed.bound hf'), h.next hf']
    case unused =>
      intro id' hf'
      by_cases hi : id' = id
      case pos => simp [hi, find?_create_self hf] at hf'
      case neg => exact h.unused (find?_create_ne hi ▸ hf')

theorem Agrees.upgrade (h : t.Agrees ids) (hf : t.find? id = some ref) :
    (t.modify ref .upgrade).Agrees ids := by
  refine { wellFormed := h.wellFormed.modify, counted := h.counted, next := ?_, unused := h.unused }
  intro id' ref' hf'
  by_cases hr : ref' = ref
  case pos =>
    subst hr
    rw [state_modify_self (h.wellFormed.bound hf)]
    exact h.next hf'
  case neg => rw [state_modify_ne hr, h.next hf']

theorem nextSequence_advance {s : ConnectionState} (h : s.nextSequence = n % period) :
    s.advance.nextSequence = (n + 1) % period := by
  simp only [ConnectionState.advance, h, period, ConnectionState.maxSequence]
  split <;> omega

-- The sequence id that is given out is the next one of the connection.
theorem Agrees.advance (h : t.Agrees ids) (hf : t.find? id = some ref) :
    (t.modify ref .advance).Agrees fun id' =>
      ids id' ++ if id = id' then [((t.state ref).nextSequence : Int)] else [] := by
  refine { wellFormed := h.wellFormed.modify, counted := ?counted, next := ?next, unused := ?unused }
  case counted =>
    intro id'
    by_cases hi : id = id'
    case pos =>
      subst hi
      simp [sequenceIds_succ, h.next hf, ← h.counted id]
    case neg => simpa [hi] using h.counted id'
  case next =>
    intro id' ref' hf'
    by_cases hi : id = id'
    case pos =>
      subst hi
      obtain rfl : ref' = ref := Option.some.inj (hf'.symm.trans hf)
      rw [state_modify_self (h.wellFormed.bound hf)]
      simpa using nextSequence_advance (h.next hf)
    case neg =>
      have hr : ref' ≠ ref := fun hr => hi (h.wellFormed.apart hf (hr ▸ hf'))
      simpa [hi, state_modify_ne hr] using h.next hf'
  case unused =>
    intro id' hf'
    have hi : id ≠ id' := fun hi => by simp [← hi, hf] at hf'
    simpa [hi] using h.unused hf'

end RpcProxy.ConnectionTable
