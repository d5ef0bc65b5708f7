import Mathlib
import RpcProxy.Regex.Match

namespace RpcProxy.Regex

-- From one position to another by a number of steps.
def Rounds (step : Nat → Nat → Prop) : Nat → Nat → Nat → Prop
  | 0,     i, j => i = j
  | n + 1, i, k => ∃ j, step i j ∧ Rounds step n j k

-- An expression matches what stands between two positions of a text.
def Spans (t : Subject) : Regex → Nat → Nat → Prop
  | empty,           i, j => j = i
  | never,           _, _ => False
  | chars set,       i, j => j = i + 1 ∧ ∃ c ∈ t.chars[i]?, set.contains c
  | look l,          i, j => j = i ∧ l.holds (t.before i) t.chars[i]?
  | cat r s,         i, k => ∃ j, Spans t r i j ∧ Spans t s j k
  | alt r s,         i, j => Spans t r i j ∨ Spans t s i j
  | times r min max?, i, j => ∃ n, min ≤ n ∧ (∀ max ∈ max?, n ≤ Nat.max min max) ∧ Rounds (Spans t r) n i j

section

variable {step : Nat → Nat → Prop} {size m n i j k : Nat}

theorem rounds_add : Rounds step (m + n) i k ↔ ∃ j, Rounds step m i j ∧ Rounds step n j k := by
  induction m generalizing i
  case zero      => simp [Rounds]
  case succ m ih =>
    rw [Nat.add_right_comm]
    simp only [Rounds, ih]
    constructor
    case mp  =>
      rintro ⟨i', hs, j, hm, hn⟩
      exact ⟨j, ⟨i', hs, hm⟩, hn⟩
    case mpr =>
      rintro ⟨j, ⟨i', hs, hm⟩, hn⟩
      exact ⟨i', hs, j, hm, hn⟩

-- Steps that may also stay where they are.
theorem rounds_or_eq_iff : Rounds (fun i j => i = j ∨ step i j) n i j ↔ ∃ m ≤ n, Rounds step m i j := by
  induction n generalizing i
  case zero      => simp [Rounds]
  case succ n ih =>
    simp only [Rounds, ih]
    constructor
    case mp  =>
      rintro ⟨i', rfl | hs, m, hm, hr⟩
      · exact ⟨m, by omega, hr⟩
      · exact ⟨m + 1, by omega, i', hs, hr⟩
    case mpr =>
      rintro ⟨m, hm, hr⟩
      cases m
      case zero   => exact ⟨i, .inl rfl, 0, Nat.zero_le n, hr⟩
      case succ m =>
        obtain ⟨i', hs, hr⟩ := hr
        exact ⟨i', .inr hs, m, by omega, hr⟩

theorem le_of_rounds (hs : ∀ i j, step i j → i ≤ j) (h : Rounds step n i j) : i ≤ j := by
  induction n generalizing i
  case zero      => exact Nat.le_of_eq h
  case succ n ih =>
    obtain ⟨i', h, hr⟩ := h
    exact (hs i i' h).trans (ih hr)

-- Steps that do not go on can be left out.
theorem exists_rounds_le (hs : ∀ i j, step i j → i ≤ j) (h : Rounds step n i j) :
    ∃ m ≤ j - i, Rounds step m i j := by
  induction n generalizing i
  case zero      => exact ⟨0, Nat.zero_le _, h⟩
  case succ n ih =>
    obtain ⟨i', h, hr⟩ := h
    obtain ⟨m, hm, hr'⟩ := ih hr
    have hi := hs i i' h
    have hj := le_of_rounds hs hr
    by_cases he : i = i'
    case pos => exact ⟨m, by omega, he ▸ hr'⟩
    case neg => exact ⟨m + 1, by omega, i', h, hr'⟩

end

-- A set of positions of a text.
def Within (size s : Nat) : Prop :=
  ∀ i, s.testBit i → i ≤ size

-- A function gives all positions that are reached by steps from those of a set.
def Follows (size : Nat) (f : Nat → Nat) (step : Nat → Nat → Prop) : Prop :=
  ∀ s, Within size s → ∀ j, (f s).testBit j ↔ ∃ i, s.testBit i ∧ step i j

-- Steps go on, and do not leave the text.
structure Advances (size : Nat) (step : Nat → Nat → Prop) : Prop where
  forward : ∀ i j, step i j → i ≤ j
  inside  : ∀ i j, step i j → i ≤ size → j ≤ size

section

variable {f : Nat → Nat} {step : Nat → Nat → Prop} {size n s : Nat} {p : Nat → Bool}

theorem testBit_bits (i : Nat) : (bits p n).testBit i ↔ i < n ∧ p i := by
  induction n
  case zero      => simp [bits]
  case succ n ih =>
    rw [bits, Nat.testBit_or, Bool.or_eq_true, ih]
    by_cases hi : i = n
    case pos => cases hp : p n <;> simp [hi, hp, Nat.testBit_shiftLeft]
    case neg =>
      have hb : (if p n then 1 <<< n else 0).testBit i = false := by
        split
        · rw [Nat.one_shiftLeft, Nat.testBit_two_pow_of_ne (Ne.symm hi)]
        · exact Nat.zero_testBit i
      rw [hb]
      simp only [Bool.false_eq_true, or_false]
      exact and_congr_left fun _ => by omega

theorem Follows.within (h : Follows size f step) (ha : Advances size step) (hs : Within size s) :
    Within size (f s) := by
  intro j hj
  obtain ⟨i, hi, hst⟩ := (h s hs j).mp hj
  exact ha.inside i j hst (hs i hi)

theorem Advances.rounds (h : Advances size step) (n : Nat) : Advances size (Rounds step n) where
  forward i j  := le_of_rounds h.forward
  inside i j   := by
    induction n generalizing i
    case zero      => exact fun hr => hr ▸ id
    case succ n ih => exact fun ⟨i', hs, hr⟩ hi => ih i' hr (h.inside i i' hs hi)

theorem iterate_eq (f : Nat → Nat) (n s : Nat) : iterate f n s = f^[n] s := by
  induction n generalizing s
  case zero      => rfl
  case succ n ih =>
    rw [iterate]
    split
    case isTrue h  => exact (Function.iterate_fixed h (n + 1)).symm
    case isFalse h => rw [ih, Function.iterate_succ_apply]

theorem Follows.iterate (h : Follows size f step) (ha : Advances size step) (n : Nat) :
    Follows size (iterate f n) (Rounds step n) := by
  intro s hs j
  rw [iterate_eq]
  induction n generalizing s
  case zero      => simp [Rounds]
  case succ n ih =>
    rw [Function.iterate_succ_apply, ih (f s) (h.within ha hs)]
    simp only [h s hs, Rounds]
    constructor
    case mp  =>
      rintro ⟨i', ⟨i, hi, hst⟩, hr⟩
      exact ⟨i, hi, i', hst, hr⟩
    case mpr =>
      rintro ⟨i, hi, i', hst, hr⟩
      exact ⟨i', ⟨i, hi, hst⟩, hr⟩

theorem Follows.gather (h : Follows size f step) (ha : Advances size step) (n : Nat) :
    Follows size (gather f n) fun i j => ∃ m ≤ n, Rounds step m i j := by
  have hf : Follows size (fun s => s ||| f s) fun i j => i = j ∨ step i j := by
    intro s hs j
    simp only [Nat.testBit_or, Bool.or_eq_true, h s hs]
    constructor
    case mp  =>
      rintro (hj | ⟨i, hi, hst⟩)
      · exact ⟨j, hj, .inl rfl⟩
      · exact ⟨i, hi, .inr hst⟩
    case mpr =>
      rintro ⟨i, hi, rfl | hst⟩
      · exact .inl hi
      · exact .inr ⟨i, hi, hst⟩
  have ha' : Advances size fun i j => i = j ∨ step i j := by
    constructor
    case forward => rintro i j (rfl | hst); exacts [Nat.le_refl i, ha.forward i j hst]
    case inside  => rintro i j (rfl | hst) hi; exacts [hi, ha.inside i j hst hi]
  intro s hs j
  rw [Regex.gather, hf.iterate ha' n s hs j]
  simp only [rounds_or_eq_iff]

end

variable {t : Subject}

theorem spans_advances (t : Subject) (r : Regex) : Advances t.size (Spans t r) := by
  induction r
  case empty     => exact ⟨fun i j h => Nat.le_of_eq h.symm, fun i j h hi => h ▸ hi⟩
  case never     => exact ⟨fun i j h => h.elim, fun i j h _ => h.elim⟩
  case chars set =>
    refine ⟨fun i j h => h.1 ▸ Nat.le_succ i, fun i j h _ => ?_⟩
    obtain ⟨rfl, c, hc, -⟩ := h
    exact (Array.getElem?_eq_some_iff.mp hc).1
  case look l    => exact ⟨fun i j h => Nat.le_of_eq h.1.symm, fun i j h hi => h.1 ▸ hi⟩
  case cat r s hr hs =>
    refine ⟨?_, ?_⟩
    · rintro i k ⟨j, h, h'⟩
      exact (hr.forward i j h).trans (hs.forward j k h')
    · rintro i k ⟨j, h, h'⟩ hi
      exact hs.inside j k h' (hr.inside i j h hi)
  case alt r s hr hs =>
    refine ⟨?_, ?_⟩
    · rintro i j (h | h)
      exacts [hr.forward i j h, hs.forward i j h]
    · rintro i j (h | h) hi
      exacts [hr.inside i j h hi, hs.inside i j h hi]
  case times r min max? hr =>
    refine ⟨?_, ?_⟩
    · rintro i j ⟨n, -, -, h⟩
      exact (hr.rounds n).forward i j h
    · rintro i j ⟨n, -, -, h⟩ hi
      exact (hr.rounds n).inside i j h hi

theorem followedBy_follows (t : Subject) (set : CharClass) : Follows t.size
    (fun s => (s &&& t.followedBy set) <<< 1) fun i j => j = i + 1 ∧ ∃ c ∈ t.chars[i]?, set.contains c := by
  intro s _ j
  have hf (i : Nat) : (t.followedBy set).testBit i ↔ ∃ c ∈ t.chars[i]?, set.contains c := by
    rw [Subject.followedBy, testBit_bits, Option.any_eq_true]
    refine ⟨fun h => h.2, fun h => ⟨?_, h⟩⟩
    obtain ⟨c, hc, -⟩ := h
    exact (Array.getElem?_eq_some_iff.mp hc).1
  rw [Nat.testBit_shiftLeft, Bool.and_eq_true, Nat.testBit_and, Bool.and_eq_true, hf, decide_eq_true_eq]
  constructor
  case mp  =>
    rintro ⟨hj, hi, hc⟩
    exact ⟨j - 1, hi, by omega, hc⟩
  case mpr =>
    rintro ⟨i, hi, rfl, hc⟩
    exact ⟨Nat.le_add_left 1 i, hi, hc⟩

-- Positions that are left where something holds there.
theorem here_follows {p : Nat → Bool} (size : Nat) :
    Follows size (fun s => s &&& bits p (size + 1)) fun i j => j = i ∧ p i := by
  intro s hs j
  simp only [Nat.testBit_and, Bool.and_eq_true, testBit_bits]
  constructor
  case mp  => exact fun ⟨hj, _, hp⟩ => ⟨j, hj, rfl, hp⟩
  case mpr =>
    rintro ⟨i, hi, rfl, hp⟩
    exact ⟨hi, Nat.lt_succ_of_le (hs j hi), hp⟩

-- However long a repetition without a maximum is, there is a short one between the same positions.
theorem exists_more_iff {step : Nat → Nat → Prop} {size min : Nat} {max? : Option Nat} {i j : Nat}
    (ha : Advances size step) (hi : i ≤ size) :
    (∃ k, Rounds step min i k ∧ ∃ m ≤ (match max? with | some max => max - min | none => size + 1),
      Rounds step m k j) ↔ ∃ n, min ≤ n ∧ (∀ max ∈ max?, n ≤ Nat.max min max) ∧ Rounds step n i j := by
  constructor
  case mp  =>
    rintro ⟨k, h, m, hm, h'⟩
    refine ⟨min + m, Nat.le_add_right min m, ?_, rounds_add.mpr ⟨k, h, h'⟩⟩
    rintro max rfl
    have : Nat.max min max = Max.max min max := rfl
    simp only at hm
    omega
  case mpr =>
    rintro ⟨n, hn, hmax, h⟩
    obtain ⟨m, rfl⟩ := Nat.exists_eq_add_of_le hn
    obtain ⟨k, h, h'⟩ := rounds_add.mp h
    refine ⟨k, h, ?_⟩
    cases max?
    case some max =>
      have := hmax max rfl
      have : Nat.max min max = Max.max min max := rfl
      exact ⟨m, by simp only; omega, h'⟩
    case none     =>
      obtain ⟨m', hm', h''⟩ := exists_rounds_le ha.forward h'
      have := (ha.rounds m).inside k j h' ((ha.rounds min).inside i k h hi)
      exact ⟨m', by simp only; omega, h''⟩

-- From a set of positions, all matches are followed to their ends.
theorem ends_follows (t : Subject) (r : Regex) : Follows t.size ((r.locate t).ends t.size) (Spans t r) := by
  induction r
  case empty     =>
    intro s hs j
    refine (here_follows t.size s hs j).trans ?_
    simp only [and_true, Spans]
  case never     => exact fun s _ j => by simp [locate, Located.ends, Spans]
  case chars set => exact followedBy_follows t set
  case look l    => exact here_follows t.size
  case cat r r' hr hr' =>
    intro s hs j
    have hw := hr.within (spans_advances t r) hs
    simp only [locate, Located.ends, hr' _ hw, hr s hs, Spans]
    constructor
    case mp  => exact fun ⟨k, ⟨i, hi, h⟩, h'⟩ => ⟨i, hi, k, h, h'⟩
    case mpr => exact fun ⟨i, hi, k, h, h'⟩ => ⟨k, ⟨i, hi, h⟩, h'⟩
  case alt r r' hr hr' =>
    intro s hs j
    simp only [locate, Located.ends, Nat.testBit_or, Bool.or_eq_true, hr s hs, hr' s hs, Spans, ← exists_or,
      ← and_or_left]
  case times r min max? hr =>
    intro s hs j
    have ha := spans_advances t r
    have hw := (hr.iterate ha min).within (ha.rounds min) hs
    simp only [locate, Located.ends, (hr.gather ha _) _ hw, (hr.iterate ha min) s hs, Spans]
    constructor
    case mp  =>
      rintro ⟨k, ⟨i, hi, h⟩, h'⟩
      exact ⟨i, hi, (exists_more_iff ha (hs i hi)).mp ⟨k, h, h'⟩⟩
    case mpr =>
      rintro ⟨i, hi, h⟩
      obtain ⟨k, h, h'⟩ := (exists_more_iff ha (hs i hi)).mpr h
      exact ⟨k, ⟨i, hi, h⟩, h'⟩

-- A match is found if there is one anywhere.
theorem isMatch_iff (r : Regex) (s : String) :
    r.isMatch s ↔ ∃ i j, i ≤ (Subject.ofString s).size ∧ Spans (.ofString s) r i j := by
  let t := Subject.ofString s
  have hp (i : Nat) : t.positions.testBit i ↔ i ≤ t.size := by simp [Subject.positions, testBit_bits]
  have hw : Within t.size t.positions := fun i hi => (hp i).mp hi
  have he := ends_follows t r t.positions hw
  simp only [hp] at he
  rw [isMatch, bne_iff_ne]
  constructor
  case mp  =>
    intro hn
    obtain ⟨j, hj⟩ := Nat.exists_testBit_of_ne_zero hn
    obtain ⟨i, hi, h⟩ := (he j).mp hj
    exact ⟨i, j, hi, h⟩
  case mpr =>
    rintro ⟨i, j, hi, h⟩ hz
    have hj := (he j).mpr ⟨i, hi, h⟩
    rw [hz, Nat.zero_testBit] at hj
    exact Bool.false_ne_true hj

-- Between the ends of a text there is a match just if an expression matches all of it.
theorem isMatch_whole_iff (r : Regex) (s : String) : (cat (look .textStart) (cat r (look .textEnd))).isMatch s ↔
    Spans (.ofString s) r 0 (Subject.ofString s).size := by
  let t := Subject.ofString s
  have first (i : Nat) (hi : i ≤ t.size) : Look.textStart.holds (t.before i) t.chars[i]? ↔ i = 0 := by
    cases i
    case zero   => simp [Look.holds, Subject.before]
    case succ i =>
      have hi : i < t.chars.size := hi
      simp [Look.holds, Subject.before, hi]
  have last (j : Nat) (hj : j ≤ t.size) : Look.textEnd.holds (t.before j) t.chars[j]? ↔ j = t.size := by
    simp only [Look.holds, Option.isNone_iff_eq_none, Array.getElem?_eq_none_iff]
    exact ⟨fun h => Nat.le_antisymm hj h, fun h => Nat.le_of_eq h.symm⟩
  rw [isMatch_iff]
  constructor
  case mp  =>
    rintro ⟨i, j, hi, _, ⟨rfl, h₀⟩, _, h, rfl, h₁⟩
    have hj := (spans_advances t r).inside _ _ h hi
    rwa [(first _ hi).mp h₀, (last _ hj).mp h₁] at h
  case mpr =>
    intro h
    exact ⟨0, t.size, Nat.zero_le _, 0, ⟨rfl, (first 0 (Nat.zero_le _)).mpr rfl⟩, t.size, h, rfl,
      (last t.size (Nat.le_refl _)).mpr rfl⟩

end RpcProxy.Regex
