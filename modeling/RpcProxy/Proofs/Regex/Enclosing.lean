import Mathlib
import RpcProxy.Proofs.Regex.Groups

namespace RpcProxy.Regex

open Reader

namespace Progress

-- More open groups around all others.
def under (s : Progress) (b : Flags × Branches) : Progress :=
  { s with outer := s.outer ++ [b] }

-- The states that are reached on the way, with what is left of the text.
inductive Reaches : Progress → List Char → Progress → List Char → Prop
  | refl : Reaches s cs s cs
  | step (next : s.flags.next cs = c :: cs') (step : s.step? c cs' = some (s', rest)) (h : Reaches s' rest e t) :
    Reaches s cs e t

-- A whole text is read.
def Reads (s : Progress) (cs : List Char) (e : Progress) : Prop :=
  ∃ rest, Reaches s cs e rest ∧ e.flags.next rest = []

variable {s s' e : Progress} {b : Flags × Branches} {c : Char} {cs cs' rest t u w : List Char}

theorem step?_brace_open {inner : List Char} (h : s.flags.next inner = []) : s.step? '\x7b' inner = none := by
  simp [step?, counts?, h, decimal?]

-- A word boundary, and a brace with nothing behind it.
theorem step?_boundary_open {inner : List Char} (h : s.flags.next inner = []) :
    s.step? '\\' ('b' :: '\x7b' :: inner) = none ∧
    ∀ u s' rest, s.step? '\\' ('b' :: '\x7b' :: inner ++ ')' :: u) = some (s', rest) →
      rest <:+ u ∨ rest = '\x7b' :: inner ++ ')' :: u ∧ s'.flags = s.flags := by
  have hr (cs : List Char) : Primitive.readEscape? s.flags ('b' :: cs) = Primitive.boundary? s.flags cs := rfl
  obtain ⟨hn, ho⟩ := Primitive.boundary?_open h
  refine ⟨by simp [step?, hr, hn], fun u s' rest hs => ?_⟩
  simp only [step?, List.cons_append, hr] at hs
  obtain ⟨⟨p, rest'⟩, hb, hs⟩ := Option.bind_eq_some_iff.mp hs
  obtain ⟨q, -, hs⟩ := Option.bind_eq_some_iff.mp hs
  obtain ⟨rfl, rfl⟩ := Prod.mk.inj (Option.some.inj hs)
  exact (ho u p rest' hb).imp_right fun hr => ⟨hr, rfl⟩

theorem step?_local_or (s : Progress) (c : Char) (cs : List Char) : Local (s.step? c) cs ∨
    ∃ inner, c = '\\' ∧ cs = 'b' :: '\x7b' :: inner ∧ s.flags.next inner = [] := by
  by_cases h : ∃ inner, c = '\\' ∧ cs = 'b' :: '\x7b' :: inner ∧ s.flags.next inner = []
  case pos => exact .inr h
  case neg =>
    refine .inl (step?_local s fun inner hi hn => h ⟨inner, ?_⟩)
    obtain ⟨rfl, rfl⟩ := List.cons.inj hi
    exact ⟨rfl, rfl, hn⟩

theorem step?_of_some (h : s.step? c cs = some (s', rest)) : Local (s.step? c) cs := by
  rcases step?_local_or s c cs with hl | ⟨inner, rfl, rfl, hn⟩
  case inl => exact hl
  case inr => simp [(step?_boundary_open hn).1] at h

theorem step?_suffix (h : s.step? c cs = some (s', rest)) : rest <:+ cs :=
  (step?_of_some h).suffix h

@[simp]
theorem under_flags : (s.under b).flags = s.flags :=
  rfl

@[simp]
theorem under_enter (flags : Flags) : (s.under b).enter flags = (s.enter flags).under b :=
  rfl

@[simp]
theorem under_add (p : Pattern) : (s.under b).add p = (s.add p).under b :=
  rfl

@[simp]
theorem under_repeat? (min : Nat) (max : Option Nat) :
    (s.under b).repeat? min max = (s.repeat? min max).map (·.under b) := by
  change (s.inner.repeat? min max).map _ = ((s.inner.repeat? min max).map _).map _
  cases s.inner.repeat? min max <;> rfl

theorem enterNamed?_under (s : Progress) (b : Flags × Branches) (cs : List Char) :
    (s.under b).enterNamed? cs = (s.enterNamed? cs).map fun p => (p.1.under b, p.2) := by
  unfold enterNamed?
  cases groupName? cs
  case none   => rfl
  case some p =>
    change (if s.names.contains p.1 then none else _) = Option.map _ (if s.names.contains p.1 then none else _)
    split_ifs <;> rfl

theorem flagged?_under (s : Progress) (b : Flags × Branches) (cs : List Char) :
    (s.under b).flagged? cs = (s.flagged? cs).map fun p => (p.1.under b, p.2) := by
  unfold flagged?
  simp only [under_flags]
  cases s.flags.read? [] true cs
  case none   => rfl
  case some p =>
    obtain ⟨flags, c, rest⟩ := p
    by_cases hc : c = ')'
    case neg => simp
    case pos => by_cases hh : cs.head? = some ')' <;> simp [hc, hh, under]

theorem open?_under (s : Progress) (b : Flags × Branches) (cs : List Char) :
    (s.under b).open? cs = (s.open? cs).map fun p => (p.1.under b, p.2) := by
  unfold open?
  simp only [under_flags, enterNamed?_under]
  split
  case h_7 => exact flagged?_under s b _
  all_goals rfl

theorem step?_under (h : c = ')' → s.outer ≠ []) (cs : List Char) :
    (s.under b).step? c cs = (s.step? c cs).map fun p => (p.1.under b, p.2) := by
  fun_cases step? s c cs
  case case1 => exact s.open?_under b cs
  case case2 =>
    obtain ⟨g, outer, ho⟩ := List.exists_cons_of_ne_nil (h rfl)
    simp [step?, close?, under, ho]
  case case3 => rfl
  case case8 =>
    simp only [step?, under_flags, under_repeat?]
    cases counts? s.flags cs
    case none   => rfl
    case some p => cases hr : s.repeat? p.1 p.2.1 <;> simp [hr]
  all_goals simp [step?, Function.comp_def]

theorem step?_under_of_some (h : s.step? c cs = some (s', rest)) (b : Flags × Branches) :
    (s.under b).step? c cs = some (s'.under b, rest) := by
  have hc : c = ')' → s.outer ≠ [] := by
    rintro rfl ho
    simp [step?, close?, ho] at h
  simp [step?_under hc, h]

theorem reads_of_next (h : s.flags.next cs = []) : s.Reads cs e ↔ e = s := by
  constructor
  case mp  =>
    rintro ⟨rest, _ | ⟨hn, -, -⟩, -⟩
    case refl => rfl
    case step => simp [h] at hn
  case mpr =>
    rintro rfl
    exact ⟨cs, .refl, h⟩

theorem reads_of_step (hn : s.flags.next cs = c :: cs') : s.Reads cs e ↔
    ∃ s' rest, s.step? c cs' = some (s', rest) ∧ s'.Reads rest e := by
  constructor
  case mp  =>
    rintro ⟨rest, _ | ⟨hn', hs, hr⟩, he⟩
    case refl => simp [hn] at he
    case step =>
      obtain ⟨rfl, rfl⟩ := List.cons.inj (hn.symm.trans hn')
      exact ⟨_, _, hs, rest, hr, he⟩
  case mpr =>
    rintro ⟨s', rest, hs, t, hr, he⟩
    exact ⟨t, .step hn hs hr, he⟩

theorem reads_iff_of_step (hn : s.flags.next cs = c :: cs') (hs : s.step? c cs' = some (s', rest)) :
    s.Reads cs e ↔ s'.Reads rest e := by
  simp [reads_of_step hn, hs]

theorem run_eq_some_iff {n : Nat} (hn : cs.length < n) : run n s cs = some e ↔ s.Reads cs e := by
  induction n generalizing s cs
  case zero      => exact absurd hn (Nat.not_lt_zero _)
  case succ n ih =>
    cases hc : s.flags.next cs
    case nil        => simp [run, hc, reads_of_next hc, eq_comm]
    case cons c cs' =>
      rw [reads_of_step hc]
      cases hs : s.step? c cs'
      case none   => simp [run, hc, hs]
      case some p =>
        obtain ⟨s', rest⟩ := p
        have hl := (step?_suffix hs).length_le
        have hl' := hc ▸ s.flags.next_length_le cs
        rw [List.length_cons] at hl'
        have hr : rest.length < n := by omega
        simp [run, hc, hs, ih hr]

theorem Reads.unique (h : s.Reads cs e) (h' : s.Reads cs s') : e = s' := by
  have hn := Nat.lt_succ_self cs.length
  rw [← run_eq_some_iff hn] at h h'
  exact Option.some.inj (h.symm.trans h')

theorem Reaches.under (h : Reaches s cs e rest) (b : Flags × Branches) : Reaches (s.under b) cs (e.under b) rest := by
  induction h
  case refl           => exact .refl
  case step hn hs _ ih =>
    exact .step hn (step?_under_of_some hs b) ih

theorem Reaches.reads_iff (h : Reaches s cs s' rest) : s.Reads cs e ↔ s'.Reads rest e := by
  induction h
  case refl            => rfl
  case step hn hs _ ih =>
    rw [reads_iff_of_step hn hs, ih]

-- A text that is read is also read if a parenthesis follows, or a comment hides the parenthesis.
theorem Reads.append (h : s.Reads cs e) :
    (∀ t, IsTail t → ∃ rest, Reaches s (cs ++ t) e rest ∧ e.flags.next rest = t) ∨
    ∀ t, IsTail t → '\n' ∉ t → s.Reads (cs ++ t) e := by
  obtain ⟨rest, hr, hn⟩ := h
  induction hr
  case refl            =>
    rcases Flags.next_append_of_nil hn with h | h
    case inl => exact .inl fun t ht => ⟨_, .refl, h t ht⟩
    case inr => exact .inr fun t ht hn => (reads_of_next (h t ht hn)).mpr rfl
  case step c cs' s' rest e t s cs hc hs hr ih =>
    have hc (t : List Char) (ht : IsTail t) : s.flags.next (cs ++ t) = c :: (cs' ++ t) := by
      simp [Flags.next_append _ ht, hc]
    cases step?_of_some hs
    case same x rest' _ h =>
      obtain ⟨rfl, rfl⟩ : x = s' ∧ rest' = rest := by simpa [hs] using (h [] .none).symm
      rcases ih hn with ih | ih
      case inl =>
        refine .inl fun t ht => ?_
        obtain ⟨rest, hr, he⟩ := ih t ht
        exact ⟨rest, .step (hc t ht) (h t ht) hr, he⟩
      case inr => exact .inr fun t ht hn => (reads_of_step (hc t ht)).mpr ⟨_, _, h t ht, ih t ht hn⟩
    case comment x h _    =>
      obtain ⟨rfl, rfl⟩ : x = s' ∧ [] = rest := by simpa [hs] using (h [] .none List.not_mem_nil).symm
      exact .inr fun t ht hn' => (reads_of_step (hc t ht)).mpr ⟨_, _, h t ht hn', _, hr, hn⟩
    case cut h _          => simp [hs] at h

theorem step?_truncate (h : s.step? c (cs ++ ')' :: u) = some (s', rest ++ ')' :: u)) :
    s.step? c cs = some (s', rest) ∨ ∃ inner, rest = '\x7b' :: inner ∧ s'.flags.next inner = [] := by
  rcases step?_local_or s c cs with hl | ⟨inner, rfl, rfl, hn⟩
  case inl => exact .inl (hl.truncate rest h)
  case inr =>
    rcases (step?_boundary_open hn).2 u s' _ h with hr | ⟨hr, hf⟩
    case inl =>
      have hl := hr.length_le
      simp only [List.length_append, List.length_cons] at hl
      omega
    case inr => exact .inr ⟨inner, List.append_cancel_right hr, hf ▸ hn⟩

theorem not_reads_brace {inner : List Char} (h : s.flags.next inner = []) : ¬ s.Reads ('\x7b' :: inner) e := by
  simp [reads_of_step (s.flags.next_brace inner), step?_brace_open h]

-- A parenthesis that closes a group which was open before closes what stands between.
theorem Reaches.exists_close (h : Reaches s cs e rest) (s₀ : Progress) (hs : s = s₀.under b) (ho : e.outer = []) :
    ∃ part u s', cs = part ++ ')' :: u ∧ s₀.Reads part s' ∧ s'.outer = [] := by
  induction h generalizing s₀
  case refl => simp [hs, Progress.under] at ho
  case step c cs' s' rest e t s cs hn hc hr ih =>
    subst hs
    rw [under_flags] at hn
    obtain ⟨before, hb⟩ := hn ▸ s₀.flags.next_suffix cs
    by_cases hp : c = ')' → s₀.outer ≠ []
    case neg =>
      obtain ⟨rfl, hs⟩ : c = ')' ∧ s₀.outer = [] := by simpa using hp
      have hb' : s₀.flags.next before = [] := by
        have hl := (s₀.flags.next_local before).truncate (x := ()) (u := cs') [] (by simp [hb, hn])
        simpa using hl
      exact ⟨before, cs', s₀, hb.symm, (reads_of_next hb').mpr rfl, hs⟩
    case pos =>
      rw [step?_under hp] at hc
      obtain ⟨⟨s₁, rest'⟩, hs, he⟩ := Option.map_eq_some_iff.mp hc
      obtain ⟨rfl, rfl⟩ := Prod.mk.inj he
      obtain ⟨part, u, s', rfl, hr, ho⟩ := ih s₁ rfl ho
      obtain ⟨taken, rfl⟩ := step?_suffix hs
      refine ⟨before ++ c :: (taken ++ part), u, s', by simp [← hb], ?_, ho⟩
      have hb' : s₀.flags.next (before ++ c :: (taken ++ part)) = c :: (taken ++ part) := by
        have hl := (s₀.flags.next_local (before ++ c :: (taken ++ part))).truncate (x := ())
          (u := u) (c :: (taken ++ part)) (by simpa [← hb] using hn)
        simpa using hl
      rw [reads_of_step hb']
      rw [← List.append_assoc] at hs
      rcases step?_truncate hs with hs | ⟨inner, rfl, hi⟩
      case inl => exact ⟨s₁, part, hs, hr⟩
      case inr => exact absurd hr (not_reads_brace hi)

end Progress

end RpcProxy.Regex
