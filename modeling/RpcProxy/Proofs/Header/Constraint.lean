import Mathlib
import RpcProxy.Header.Matcher
import RpcProxy.Proofs.Except

namespace RpcProxy

-- One or more decimal digits, and the number that they denote.
structure IsNumeral (ds : List Char) (n : Nat) : Prop where
  nonempty : ds ≠ []
  digits   : ∀ d ∈ ds, d.isDigit
  value    : n = Nat.ofDigits 10 (ds.map fun d => d.toNat - '0'.toNat).reverse

-- Digits that may have one sign in front.
inductive Denotes : List Char → Int → Prop
  | plain (h : IsNumeral ds n) : Denotes ds n
  | positive (h : IsNumeral ds n) : Denotes ('+' :: ds) n
  | negative (h : IsNumeral ds n) : Denotes ('-' :: ds) (-n)

namespace Config.HeaderMatcher

-- The value of a header is what the condition asks for. Conditions that are not set ask for nothing.
structure Passes (m : Config.HeaderMatcher) (value : String) : Prop where
  exact    : ∀ text ∈ m.exact, value = text
  regex    : ∀ pattern ∈ m.regex, ∃ r,
    Regex.ofText? (RpcProxy.HeaderMatcher.anchored pattern) = some r ∧ r.isMatch value
  range    : ∀ range ∈ m.range, ∃ n,
    Denotes value.toList n ∧ HeaderTest.fits n ∧ range.start ≤ n ∧ n < range.stop
  present  : ∀ passes ∈ m.present, passes
  start    : ∀ text ∈ m.start, text.toList <+: value.toList
  suffix   : ∀ text ∈ m.suffix, text.toList <:+ value.toList
  contains : ∀ text ∈ m.contains, text.toList <:+: value.toList

-- A header that is missing passes only if the condition is inverted.
def Holds (m : Config.HeaderMatcher) (headers : HeaderMap) : Prop :=
  match headers.joined? m.name with
  | some value => m.Passes value ↔ ¬ m.invert
  | none       => m.invert

end Config.HeaderMatcher

namespace HeaderTest

-- The value of decimal digits, read from the front.
theorem foldl_digits (ds : List Nat) : ds.foldl (fun n d => 10 * n + d) 0 = Nat.ofDigits 10 ds.reverse := by
  simp [Nat.ofDigits_eq_foldr, List.foldr_reverse, Nat.add_comm]

theorem readDigits?_eq_some_iff {cs : List Char} {n : Nat} : readDigits? cs = some n ↔ IsNumeral cs n := by
  have value : cs.foldl (fun n c => 10 * n + (c.toNat - '0'.toNat)) 0 =
      Nat.ofDigits 10 (cs.map fun d => d.toNat - '0'.toNat).reverse := by
    rw [← foldl_digits, List.foldl_map]
  unfold readDigits?
  rw [value]
  split
  case isTrue h  =>
    refine iff_of_false (by simp) fun hn => ?_
    have ⟨d, hd, hf⟩ : ∃ d ∈ cs, d.isDigit = false := by simpa [hn.nonempty] using h
    simp [hn.digits d hd] at hf
  case isFalse h =>
    have ⟨ne, digits⟩ : cs ≠ [] ∧ ∀ d ∈ cs, d.isDigit := by simpa using h
    exact ⟨fun h => ⟨ne, digits, (Option.some.inj h).symm⟩, fun h => congrArg some h.value.symm⟩

theorem map_readDigits?_eq_some_iff {cs : List Char} {sign : Int → Int} {n : Int} :
    (do let m ← readDigits? cs; pure (m : Int)).map sign = some n ↔ ∃ m : Nat, IsNumeral cs m ∧ sign m = n := by
  simp [Option.bind_eq_some_iff, readDigits?_eq_some_iff]

-- A sign is no digit.
theorem not_isNumeral_cons {c : Char} {ds : List Char} {n : Nat} (h : c.isDigit = false) :
    ¬ IsNumeral (c :: ds) n :=
  fun hn => by simpa [h] using hn.digits c List.mem_cons_self

theorem readInteger?_eq_some_iff {s : String} {n : Int} : readInteger? s = some n ↔ Denotes s.toList n := by
  unfold readInteger?
  split
  case h_1 cs hs =>
    rw [hs, map_readDigits?_eq_some_iff]
    constructor
    case mp  =>
      rintro ⟨m, h, rfl⟩
      exact .positive h
    case mpr =>
      rintro (h | h | _)
      · exact absurd h (not_isNumeral_cons rfl)
      · exact ⟨_, h, rfl⟩
  case h_2 cs hs =>
    rw [hs, map_readDigits?_eq_some_iff]
    constructor
    case mp  =>
      rintro ⟨m, h, rfl⟩
      exact .negative h
    case mpr =>
      rintro (h | _ | h)
      · exact absurd h (not_isNumeral_cons rfl)
      · exact ⟨_, h, rfl⟩
  case h_3 unsigned unnegated =>
    rw [map_readDigits?_eq_some_iff]
    constructor
    case mp  =>
      rintro ⟨m, h, rfl⟩
      exact .plain h
    case mpr =>
      generalize s.toList = cs at unsigned unnegated
      rintro (h | h | h)
      · exact ⟨_, h, rfl⟩
      · exact absurd rfl (unsigned _)
      · exact absurd rfl (unnegated _)

theorem occurs_iff {part cs : List Char} : occurs part cs ↔ part <:+: cs := by
  induction cs
  case nil          => simp [occurs]
  case cons c cs ih => simp [occurs, ih, List.infix_cons_iff]

theorem range_passes_iff {start stop : Int} {value : String} : (range start stop).passes value ↔
    ∃ n, Denotes value.toList n ∧ fits n ∧ start ≤ n ∧ n < stop := by
  simp only [passes]
  split
  case h_1 n hn =>
    have denotes (m : Int) : Denotes value.toList m ↔ m = n := by
      rw [← readInteger?_eq_some_iff, hn, Option.some.injEq, eq_comm]
    simp [denotes, and_assoc]
  case h_2 hn =>
    have denotes (m : Int) : ¬ Denotes value.toList m := by
      simp [← readInteger?_eq_some_iff, hn]
    simp [denotes]

end HeaderTest

@[simp]
theorem HeaderMap.normalize_normalize (name : String) : normalize (normalize name) = normalize name := by
  simp [normalize, String.toLower, Function.comp_def]

namespace HeaderMatcher

variable {config : Config.HeaderMatcher} {m : HeaderMatcher}

theorem regexTest_pass_iff {name pattern : String} {test : HeaderTest} (h : regexTest name pattern = .ok test)
    (value : String) :
    test.passes value ↔ ∃ r, Regex.ofText? (anchored pattern) = some r ∧ r.isMatch value := by
  unfold regexTest at h
  split at h
  case h_1 r hr => simp [← Except.ok.inj h, hr, HeaderTest.passes]
  case h_2      => simp at h

theorem rangeTest_pass_iff {name : String} {range : Config.Range} {test : HeaderTest}
    (h : rangeTest name range = .ok test) (value : String) : test.passes value ↔
      ∃ n, Denotes value.toList n ∧ HeaderTest.fits n ∧ range.start ≤ n ∧ n < range.stop := by
  unfold rangeTest at h
  split at h
  case isTrue  => rw [← Except.ok.inj h, HeaderTest.range_passes_iff]
  case isFalse => simp at h

-- The tests of a condition are what it asks for.
theorem tests_pass_iff {tests : List HeaderTest} (h : HeaderMatcher.tests config = .ok tests) (value : String) :
    (∀ test ∈ tests, test.passes value) ↔ config.Passes value := by
  unfold HeaderMatcher.tests at h
  simp only [Except.bind_eq_ok_iff, pure, Except.pure, Except.ok.injEq] at h
  obtain ⟨regex, hx, range, hr, rfl⟩ := h
  have hx := Except.forall_mem_iff_of_mapM hx fun _ _ h => regexTest_pass_iff h value
  have hr := Except.forall_mem_iff_of_mapM hr fun _ _ h => rangeTest_pass_iff h value
  simp only [List.forall_mem_append, List.forall_mem_map, hx, hr, Option.mem_toList]
  simp only [HeaderTest.passes, HeaderTest.occurs_iff, List.isPrefixOf_iff_prefix, List.isSuffixOf_iff_suffix,
    beq_iff_eq]
  constructor
  case mp  =>
    rintro ⟨⟨⟨⟨⟨⟨exact, regex⟩, range⟩, present⟩, start⟩, suffix⟩, contains⟩
    exact ⟨exact, regex, range, present, start, suffix, contains⟩
  case mpr =>
    rintro ⟨exact, regex, range, present, start, suffix, contains⟩
    exact ⟨⟨⟨⟨⟨⟨exact, regex⟩, range⟩, present⟩, start⟩, suffix⟩, contains⟩

theorem joined?_normalize (headers : HeaderMap) (name : String) :
    headers.joined? (HeaderMap.normalize name) = headers.joined? name := by
  simp only [HeaderMap.joined?, HeaderMap.values, HeaderMap.sameName, HeaderMap.normalize_normalize]

-- A matcher is built if exactly one test is asked for, of a header that has a name.
theorem ofConfig_eq_ok_iff : ofConfig config = .ok m ↔
    config.name ≠ "" ∧ ∃ test, tests config = .ok [test] ∧ m = new config.name test config.invert := by
  unfold ofConfig
  split
  case isTrue hn  => simp [hn]
  case isFalse hn =>
    simp only [Except.bind_eq_ok_iff, hn, ne_eq, not_false_eq_true, true_and]
    constructor
    case mp  =>
      rintro ⟨ts, ht, h⟩
      split at h
      case h_1      => simp at h
      case h_2 test => exact ⟨test, ht, (Except.ok.inj h).symm⟩
      case h_3      => simp at h
    case mpr =>
      rintro ⟨test, ht, rfl⟩
      exact ⟨[test], ht, rfl⟩

-- The matcher that is built for a condition decides just what it means.
theorem accepts_iff (h : ofConfig config = .ok m) (headers : HeaderMap) :
    m.accepts headers ↔ config.Holds headers := by
  obtain ⟨_, test, ht, rfl⟩ := ofConfig_eq_ok_iff.mp h
  have passes (value : String) : test.passes value ↔ config.Passes value := by
    simpa using tests_pass_iff ht value
  simp only [accepts, new, joined?_normalize, Config.HeaderMatcher.Holds]
  cases headers.joined? config.name
  case none       => rfl
  case some value =>
    simp only [← passes]
    cases config.invert <;> simp

end HeaderMatcher

end RpcProxy
