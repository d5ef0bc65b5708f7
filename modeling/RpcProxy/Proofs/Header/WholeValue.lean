import Mathlib
import RpcProxy.Proofs.Header.Constraint
import RpcProxy.Proofs.Regex.Enclosing
import RpcProxy.Proofs.Regex.Matching

namespace RpcProxy

open Regex

namespace Regex.Pattern

-- The pattern that a text stands for, however large it is.
def read? (text : String) : Option Pattern := do
  let s ← Progress.run (text.toList.length + 1) {} text.toList
  if s.outer.isEmpty then return s.inner.pattern else none

theorem read?_eq_some_iff {text : String} {p : Pattern} : read? text = some p ↔
    ∃ e, Progress.Reads {} text.toList e ∧ e.outer = [] ∧ e.inner.pattern = p := by
  unfold read?
  cases hr : Progress.run (text.toList.length + 1) {} text.toList
  case none   =>
    refine iff_of_false (by simp) ?_
    rintro ⟨e, he, -⟩
    rw [← Progress.run_eq_some_iff (Nat.lt_succ_self _), hr] at he
    simp at he
  case some s =>
    have hs := (Progress.run_eq_some_iff (Nat.lt_succ_self _)).mp hr
    by_cases ho : s.outer = []
    case pos =>
      simp only [Option.bind_eq_bind, Option.bind_some, ho, List.isEmpty_nil, if_true, pure, Option.some.injEq]
      constructor
      case mp  => exact fun h => ⟨s, hs, ho, h⟩
      case mpr =>
        rintro ⟨e, he, -, h⟩
        exact hs.unique he ▸ h
    case neg =>
      refine iff_of_false (by simp [ho]) ?_
      rintro ⟨e, he, ho', -⟩
      exact ho (hs.unique he ▸ ho')

theorem ofText?_eq_some_iff {text : String} {p : Pattern} :
    ofText? text = some p ↔ read? text = some p ∧ p.isSmall := by
  unfold ofText? read?
  cases Progress.run (text.toList.length + 1) {} text.toList
  case none   => simp
  case some s =>
    by_cases ho : s.outer = []
    case neg => simp [ho]
    case pos =>
      simp only [Option.bind_eq_bind, Option.bind_some, ho, List.isEmpty_nil, Bool.true_and, if_true, pure,
        Option.some.injEq]
      split
      case isTrue hs  => exact ⟨fun h => ⟨Option.some.inj h, Option.some.inj h ▸ hs⟩, fun h => congrArg some h.1⟩
      case isFalse hs => exact iff_of_false (by simp) fun h => hs (h.1 ▸ h.2)

-- Whether a text ends in a comment, which would take a parenthesis behind it.
def OpenComment (text : String) : Prop :=
  (read? (text ++ ")")).isSome

-- The group of a pattern that is being read after the first anchor.
def anchor : Flags × Branches :=
  ({}, { items := [.look .textStart] })

theorem reads_anchored {cs : List Char} {e : Progress} :
    Progress.Reads {} ('^' :: '(' :: '?' :: ':' :: cs) e ↔ (Progress.under {} anchor).Reads cs e := by
  have h₁ : Progress.step? {} '^' ('(' :: '?' :: ':' :: cs) =
      some ({ inner := anchor.2 }, '(' :: '?' :: ':' :: cs) := rfl
  have h₂ : Progress.step? { inner := anchor.2 } '(' ('?' :: ':' :: cs) = some (Progress.under {} anchor, cs) := rfl
  rw [Progress.reads_iff_of_step rfl h₁, Progress.reads_iff_of_step rfl h₂]

theorem toList_anchored (text : String) : (HeaderMatcher.anchored text).toList =
    '^' :: '(' :: '?' :: ':' :: (text.toList ++ [')', '$']) := by
  simp [HeaderMatcher.anchored]

theorem reads_close {e : Progress} (ho : e.outer = []) {rest : List Char} (hr : e.flags.next rest = [')', '$']) :
    (e.under anchor).Reads rest { names := e.names, inner :=
      { items := [.look .textEnd, .group e.inner.pattern, .look .textStart] } } := by
  have h₁ : (e.under anchor).step? ')' ['$'] =
      some ({ names := e.names, inner := { items := [.group e.inner.pattern, .look .textStart] } }, ['$']) := by
    simp [Progress.step?, Progress.close?, Progress.under, ho, anchor, Branches.add]
  rw [Progress.reads_iff_of_step (s := e.under anchor) hr h₁, Progress.reads_iff_of_step rfl rfl,
    Progress.reads_of_next rfl]
  rfl

variable {text : String} {p q : Pattern}

-- A pattern that does not end in a comment stands between the anchors as it is.
theorem read?_anchored_of_closed (h : read? text = some p) (hc : ¬ OpenComment text) :
    read? (HeaderMatcher.anchored text) = some (.sequence [.look .textStart, .group p, .look .textEnd]) := by
  obtain ⟨e, he, ho, rfl⟩ := read?_eq_some_iff.mp h
  rcases he.append with ha | ha
  case inr =>
    refine absurd ?_ hc
    have hr := ha [')'] .close (by simp)
    exact Option.isSome_iff_exists.mpr ⟨_, read?_eq_some_iff.mpr ⟨e, by simpa using hr, ho, rfl⟩⟩
  case inl =>
    obtain ⟨rest, hr, hn⟩ := ha [')', '$'] .close
    have hr := (hr.under anchor).reads_iff.mpr (reads_close ho hn)
    rw [← reads_anchored, ← toList_anchored] at hr
    exact read?_eq_some_iff.mpr ⟨_, hr, rfl, rfl⟩

-- A comment takes the group to the end of the text, where it is not closed.
theorem read?_anchored_of_open (h : read? text = some p) (hc : OpenComment text) :
    read? (HeaderMatcher.anchored text) = none := by
  obtain ⟨e, he, ho, rfl⟩ := read?_eq_some_iff.mp h
  rcases he.append with ha | ha
  case inl =>
    obtain ⟨q, hq⟩ := Option.isSome_iff_exists.mp hc
    obtain ⟨e', he', -, -⟩ := read?_eq_some_iff.mp hq
    obtain ⟨rest, hr, hn⟩ := ha [')'] .close
    have he' : Progress.Reads {} (text.toList ++ [')']) e' := by simpa using he'
    rw [hr.reads_iff, Progress.reads_of_step hn] at he'
    simp [Progress.step?, Progress.close?, ho] at he'
  case inr =>
    refine Option.eq_none_iff_forall_ne_some.mpr fun q hq => ?_
    obtain ⟨e', he', ho', -⟩ := read?_eq_some_iff.mp hq
    rw [toList_anchored, reads_anchored] at he'
    obtain ⟨rest, hr, hn⟩ := ha [')', '$'] .close (by simp)
    have hu := he'.unique ⟨rest, hr.under anchor, hn⟩
    simp [hu, Progress.under] at ho'

-- What is no pattern by itself closes the group too early, if it can be read between the anchors.
theorem exists_of_read?_anchored (h : read? text = none) (ha : read? (HeaderMatcher.anchored text) = some q) :
    ∃ part rest, text = part ++ ")" ++ rest ∧ (read? part).isSome := by
  obtain ⟨e, he, ho, -⟩ := read?_eq_some_iff.mp ha
  rw [toList_anchored, reads_anchored] at he
  obtain ⟨_, hr, -⟩ := he
  obtain ⟨part, u, s', hp, hs, ho'⟩ := hr.exists_close {} rfl ho
  have hread (text : String) (ht : text.toList = part) : (read? text).isSome :=
    Option.isSome_iff_exists.mpr ⟨_, read?_eq_some_iff.mpr ⟨s', ht ▸ hs, ho', rfl⟩⟩
  have hne : text.toList ≠ part := fun ht => by simpa [h] using hread text ht
  rcases List.append_eq_append_iff.mp hp with ⟨a, rfl, ha⟩ | ⟨a, ht, ha⟩
  case inl =>
    rcases a with _ | ⟨_, _ | _⟩
    case nil => simp at hne
    all_goals simp at ha
  case inr =>
    rcases a with _ | ⟨c, a⟩
    case nil  => simp [ht] at hne
    case cons =>
      obtain ⟨rfl, -⟩ := List.cons.inj ha
      refine ⟨.ofList part, .ofList a, ?_, hread _ (String.toList_ofList ..)⟩
      rw [← String.toList_inj]
      simpa using ht

theorem depth_anchored (p : Pattern) :
    depth (.sequence [.look .textStart, .group p, .look .textEnd]) = p.depth + 2 := by
  simp [depth, depths]

-- A text is a regular expression by itself, however large it is in compiled form.
def WellFormed (text : String) : Prop :=
  ∃ p, read? text = some p ∧ p.depth ≤ maxDepth

-- A text is no regular expression by itself, but it is one between the anchors.
def Leaks (text : String) : Prop :=
  ¬ WellFormed text ∧ WellFormed (HeaderMatcher.anchored text)

-- A text is a regular expression by itself, but it leaves no room for the anchors.
def Spoilt (text : String) : Prop :=
  ∃ p, read? text = some p ∧ p.depth ≤ maxDepth ∧ (OpenComment text ∨ maxDepth < p.depth + 2)

theorem wellFormed_anchored_iff (h : WellFormed text) : WellFormed (HeaderMatcher.anchored text) ↔ ¬ Spoilt text := by
  obtain ⟨p, hp, hd⟩ := h
  have spoilt : Spoilt text ↔ OpenComment text ∨ maxDepth < p.depth + 2 := by
    simp [Spoilt, hp, hd]
  rw [spoilt]
  by_cases hc : OpenComment text
  case pos => simp [WellFormed, read?_anchored_of_open hp hc, hc]
  case neg => simp [WellFormed, read?_anchored_of_closed hp hc, hc, depth_anchored]

theorem exists_of_leaks (h : Leaks text) : ∃ part rest, text = part ++ ")" ++ rest ∧ (read? part).isSome := by
  obtain ⟨hn, q, hq, hd⟩ := h
  refine exists_of_read?_anchored ?_ hq
  refine Option.eq_none_iff_forall_ne_some.mpr fun p hp => ?_
  by_cases hc : OpenComment text
  case pos => simp [read?_anchored_of_open hp hc] at hq
  case neg =>
    obtain rfl := Option.some.inj ((read?_anchored_of_closed hp hc).symm.trans hq)
    rw [depth_anchored] at hd
    exact hn ⟨p, hp, by omega⟩

end Regex.Pattern

namespace HeaderMatcher

variable {name pattern : String}

-- A condition that asks for a pattern, and for nothing else.
def asking (name pattern : String) : Config.HeaderMatcher :=
  { name := name, regex := some pattern }

-- A pattern is accepted if it is a regular expression by itself, and matches whole values then.
structure MatchesWhole (name pattern : String) : Prop where
  accepted : (∃ m, ofConfig (asking name pattern) = .ok m) ↔ Pattern.WellFormed pattern
  spans    : ∀ m, ofConfig (asking name pattern) = .ok m → ∀ p, Pattern.read? pattern = some p →
    ∀ (headers : HeaderMap) value, headers.values name = [value] →
      (m.accepts headers ↔ p.toRegex.Spans (.ofString value) 0 (Subject.ofString value).size)

theorem ofConfig_asking_iff (hn : name ≠ "") {m : HeaderMatcher} : ofConfig (asking name pattern) = .ok m ↔
    ∃ p, Pattern.ofText? (anchored pattern) = some p ∧ m = new name (.regex p.toRegex) false := by
  have ht (test : HeaderTest) : tests (asking name pattern) = .ok [test] ↔ regexTest name pattern = .ok test := by
    simp only [tests, asking, Option.toList_some, Option.toList_none, List.mapM_cons, List.mapM_nil, List.map_nil]
    cases regexTest name pattern <;> simp [bind, Except.bind, pure, Except.pure]
  have hr (test : HeaderTest) : regexTest name pattern = .ok test ↔
      ∃ p, Pattern.ofText? (anchored pattern) = some p ∧ test = .regex p.toRegex := by
    unfold regexTest Regex.ofText?
    cases Pattern.ofText? (anchored pattern) <;> simp [eq_comm]
  rw [ofConfig_eq_ok_iff]
  simp only [ht, hr]
  constructor
  case mp  =>
    rintro ⟨-, _, ⟨p, hp, rfl⟩, rfl⟩
    exact ⟨p, hp, rfl⟩
  case mpr =>
    rintro ⟨p, hp, rfl⟩
    exact ⟨hn, _, ⟨p, hp, rfl⟩, rfl⟩

theorem exists_ofConfig_iff (hn : name ≠ "")
    (hc : ∀ p ∈ Pattern.read? (anchored pattern), p.cost ≤ Pattern.maxCost) :
    (∃ m, ofConfig (asking name pattern) = .ok m) ↔ Pattern.WellFormed (anchored pattern) := by
  simp only [ofConfig_asking_iff hn, Pattern.ofText?_eq_some_iff, Pattern.WellFormed, Pattern.isSmall,
    Bool.and_eq_true, decide_eq_true_eq]
  constructor
  case mp  =>
    rintro ⟨_, p, ⟨hp, hd, -⟩, -⟩
    exact ⟨p, hp, hd⟩
  case mpr =>
    rintro ⟨p, hp, hd⟩
    exact ⟨_, p, ⟨hp, hd, hc p hp⟩, rfl⟩

-- What is accepted matches whole values if it is a regular expression by itself.
theorem accepts_asking_iff (hn : name ≠ "") {m : HeaderMatcher} (h : ofConfig (asking name pattern) = .ok m)
    {p : Pattern} (hp : Pattern.read? pattern = some p) {headers : HeaderMap} {value : String}
    (hv : headers.values name = [value]) :
    m.accepts headers ↔ p.toRegex.Spans (.ofString value) 0 (Subject.ofString value).size := by
  obtain ⟨q, hq, rfl⟩ := (ofConfig_asking_iff hn).mp h
  have hq := (Pattern.ofText?_eq_some_iff.mp hq).1
  by_cases ho : Pattern.OpenComment pattern
  case pos => simp [Pattern.read?_anchored_of_open hp ho] at hq
  case neg =>
    obtain rfl := Option.some.inj ((Pattern.read?_anchored_of_closed hp ho).symm.trans hq)
    have hj : headers.joined? name = some value := by simp [HeaderMap.joined?, hv]
    rw [← isMatch_whole_iff]
    simp only [accepts, new, joined?_normalize, hj, HeaderTest.passes]
    simp [Pattern.toRegex, Pattern.toRegexes, Regex.sequence]

-- Whole values are matched unless the pattern leaks out of its group or leaves no room for it. A pattern that leaks
-- closes the group itself.
theorem matchesWhole_iff (hn : name ≠ "")
    (hc : ∀ p ∈ Pattern.read? (anchored pattern), p.cost ≤ Pattern.maxCost) :
    (MatchesWhole name pattern ↔ ¬ Pattern.Leaks pattern ∧ ¬ Pattern.Spoilt pattern) ∧
    (Pattern.Leaks pattern → ∃ part rest, pattern = part ++ ")" ++ rest ∧ (Pattern.read? part).isSome) := by
  refine ⟨⟨fun h => ?mp, fun h => ?mpr⟩, Pattern.exists_of_leaks⟩
  case mp =>
    have ha := (exists_ofConfig_iff hn hc).symm.trans h.accepted
    refine ⟨fun hl => hl.1 (ha.mp hl.2), fun hs => ?_⟩
    obtain ⟨p, hp, hd, -⟩ := id hs
    have hw : Pattern.WellFormed pattern := ⟨p, hp, hd⟩
    exact (Pattern.wellFormed_anchored_iff hw).mp (ha.mpr hw) hs
  case mpr =>
    obtain ⟨hl, hs⟩ := h
    refine ⟨(exists_ofConfig_iff hn hc).trans ⟨fun ha => ?_, fun hw => (Pattern.wellFormed_anchored_iff hw).mpr hs⟩,
      fun m hm p hp headers value hv => accepts_asking_iff hn hm hp hv⟩
    by_contra hw
    exact hl ⟨hw, ha⟩

theorem matchesWhole_of_branches : MatchesWhole "x" "a|b" := by
  have hd : ∀ p ∈ Pattern.read? "a|b", p.depth + 2 ≤ Pattern.maxDepth := by decide +kernel
  have hs : (Pattern.read? "a|b").isSome := by decide +kernel
  have ho : ¬ Pattern.OpenComment "a|b" := by
    unfold Pattern.OpenComment
    decide +kernel
  refine (matchesWhole_iff (by decide) (by decide +kernel)).1.mpr ⟨fun hl => hl.1 ?notLeaking, ?notSpoilt⟩
  case notLeaking =>
    obtain ⟨p, hp⟩ := Option.isSome_iff_exists.mp hs
    exact ⟨p, hp, Nat.le_of_add_right_le (hd p hp)⟩
  case notSpoilt =>
    rintro ⟨p, hp, -, hc | hl⟩
    · exact ho hc
    · exact absurd (hd p hp) (by omega)

-- The parenthesis in the pattern closes the group.
theorem not_matchesWhole : ¬ MatchesWhole "x" "a)|(?:b" := by
  intro h
  have hs : (Pattern.ofText? (anchored "a)|(?:b")).isSome := by decide +kernel
  obtain ⟨p, hp⟩ := Option.isSome_iff_exists.mp hs
  have hr : Pattern.read? "a)|(?:b" = none := by
    rw [← Option.isNone_iff_eq_none]
    decide +kernel
  obtain ⟨q, hq, -⟩ := h.accepted.mp ⟨_, (ofConfig_asking_iff (by decide)).mpr ⟨p, hp, rfl⟩⟩
  simp [hr] at hq

end HeaderMatcher

end RpcProxy
