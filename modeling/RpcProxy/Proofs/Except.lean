import Mathlib.Data.List.Forall2

namespace RpcProxy.Except

variable {ε ε' α β : Type} {x : Except ε α} {b : β}

theorem bind_eq_ok_iff {f : α → Except ε β} : x >>= f = .ok b ↔ ∃ a, x = .ok a ∧ f a = .ok b := by
  cases x <;> simp [bind, Except.bind]

theorem map_eq_ok_iff {f : α → β} : x.map f = .ok b ↔ ∃ a, x = .ok a ∧ f a = b := by
  cases x <;> simp [Except.map]

theorem mapError_eq_ok_iff {f : ε → ε'} {a : α} : x.mapError f = .ok a ↔ x = .ok a := by
  cases x <;> simp [Except.mapError]

theorem mapM_eq_ok_iff {f : α → Except ε β} {as : List α} {bs : List β} :
    as.mapM f = .ok bs ↔ List.Forall₂ (fun a b => f a = .ok b) as bs := by
  induction as generalizing bs
  case nil          => simp [pure, Except.pure, eq_comm]
  case cons a as ih =>
    simp only [List.mapM_cons, bind_eq_ok_iff, ih, List.forall₂_cons_left_iff]
    constructor
    case mp  =>
      rintro ⟨b, hb, bs', hbs, he⟩
      exact ⟨b, bs', hb, hbs, (Except.ok.inj he).symm⟩
    case mpr =>
      rintro ⟨b, bs', hb, hbs, rfl⟩
      exact ⟨b, hb, bs', hbs, rfl⟩

theorem eq_map_of_mapM {f : α → Except ε β} {g : α → β} {as : List α} {bs : List β} (h : as.mapM f = .ok bs)
    (hf : ∀ a b, f a = .ok b → b = g a) : bs = as.map g := by
  induction mapM_eq_ok_iff.mp h
  case nil             => rfl
  case cons hb rest ih => rw [List.map_cons, ← hf _ _ hb, ← ih (mapM_eq_ok_iff.mpr rest)]

-- What holds of all results, where it is known what it means for the one that they come from.
theorem forall_mem_iff_of_mapM {f : α → Except ε β} {as : List α} {bs : List β} {p : β → Prop} {q : α → Prop}
    (h : as.mapM f = .ok bs) (hf : ∀ a b, f a = .ok b → (p b ↔ q a)) : (∀ b ∈ bs, p b) ↔ ∀ a ∈ as, q a := by
  induction mapM_eq_ok_iff.mp h
  case nil             => simp
  case cons hb rest ih => simp [hf _ _ hb, ih (mapM_eq_ok_iff.mpr rest)]

-- Of all that is wrong, a computation fails with what comes first. It succeeds if nothing is wrong.
inductive Reports : Except ε α → List ε → Prop
  | ok : Reports (.ok a) []
  | error : Reports (.error e) (e :: faults)

namespace Reports

variable {faults faults' : List ε} {e : ε}

theorem eq_ok_iff (h : Reports x faults) : (∃ a, x = .ok a) ↔ faults = [] := by
  cases h <;> simp

theorem eq_error_iff (h : Reports x faults) : x = .error e ↔ faults.head? = some e := by
  cases h <;> simp

theorem bind {f : α → Except ε β} (h : Reports x faults) (hf : ∀ a, x = .ok a → Reports (f a) faults') :
    Reports (x >>= f) (faults ++ faults') := by
  cases h
  case ok    => exact hf _ rfl
  case error => exact .error

theorem map {f : α → β} (h : Reports x faults) : Reports (x.map f) faults := by
  cases h
  case ok    => exact .ok
  case error => exact .error

theorem mapError {f : ε → ε'} (h : Reports x faults) : Reports (x.mapError f) (faults.map f) := by
  cases h
  case ok    => exact .ok
  case error => exact .error

theorem mapM {f : α → Except ε β} {faults : α → List ε} (as : List α) (h : ∀ a ∈ as, Reports (f a) (faults a)) :
    Reports (as.mapM f) (as.flatMap faults) := by
  induction as
  case nil          => exact .ok
  case cons a as ih =>
    rw [List.mapM_cons, List.flatMap_cons]
    refine (h a List.mem_cons_self).bind fun b _ => ?_
    rw [← List.append_nil (as.flatMap faults)]
    exact (ih fun a ha => h a (List.mem_cons_of_mem _ ha)).bind fun bs _ => .ok

end Reports

-- What is wrong if a condition holds.
def faultIf (p : Prop) [Decidable p] (e : ε) : List ε :=
  if p then [e] else []

@[simp]
theorem faultIf_eq_nil_iff {p : Prop} [Decidable p] {e : ε} : faultIf p e = [] ↔ ¬ p := by
  simp [faultIf]

-- A condition that is tested before anything else is done.
theorem Reports.ite {p : Prop} [Decidable p] {faults : List ε} {e : ε} (h : ¬ p → Reports x faults) :
    Reports (if p then .error e else x) (faultIf p e ++ faults) := by
  by_cases hp : p
  case pos =>
    simp only [faultIf, hp, if_true]
    exact .error
  case neg => simpa [faultIf, hp] using h hp

end RpcProxy.Except
