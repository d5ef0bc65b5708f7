import RpcProxy.Proofs.Header.Constraint

namespace RpcProxy

-- The header has one value, which is an integer from `start` up to `stop`, exclusive. It may be written with any number
-- of digits.
def HeaderMap.HasIntegerIn (headers : HeaderMap) (name : String) (start stop : Int) : Prop :=
  ∃ value n, headers.values name = [value] ∧ Denotes value.toList n ∧ start ≤ n ∧ n < stop

variable {m : HeaderMatcher} {start stop n : Int}

theorem Denotes.comma_not_mem {cs : List Char} (h : Denotes cs n) : ',' ∉ cs := by
  have digits {ds : List Char} {n : Nat} (h : IsNumeral ds n) : ',' ∉ ds := fun hm =>
    absurd (h.digits ',' hm) (by decide)
  cases h
  case plain h    => exact digits h
  case positive h => simpa using digits h
  case negative h => simpa using digits h

theorem comma_mem_intercalate (first second : String) (rest : List String) :
    ',' ∈ (",".intercalate (first :: second :: rest)).toList := by
  simp [String.intercalate_cons_cons]

-- A number between two that fit does so as well.
theorem HeaderTest.fits_of_mem (hs : fits start) (ht : fits stop) (low : start ≤ n) (high : n < stop) : fits n := by
  simp only [fits, Bool.and_eq_true, decide_eq_true_eq] at *
  omega

namespace HeaderMap

variable {headers : HeaderMap} {name : String}

-- The text of a header is an integer only if there is one value, which is the text.
theorem exists_joined?_denotes_iff : (∃ text, headers.joined? name = some text ∧ Denotes text.toList n) ↔
    ∃ value, headers.values name = [value] ∧ Denotes value.toList n := by
  rw [joined?]
  rcases headers.values name with _ | ⟨first, _ | ⟨second, rest⟩⟩
  case nil              => simp
  case cons.nil         => simp
  case cons.cons        =>
    refine iff_of_false ?_ (by simp)
    rintro ⟨text, ht, denotes⟩
    obtain rfl := Option.some.inj ht
    exact denotes.comma_not_mem (comma_mem_intercalate first second rest)

theorem hasIntegerIn_iff (hs : HeaderTest.fits start) (ht : HeaderTest.fits stop) :
    headers.HasIntegerIn name start stop ↔
      ∃ text, headers.joined? name = some text ∧ (HeaderTest.range start stop).passes text := by
  simp only [HeaderTest.range_passes_iff]
  constructor
  case mp =>
    rintro ⟨value, n, hv, denotes, low, high⟩
    obtain ⟨text, hj, denotes⟩ := exists_joined?_denotes_iff.mpr ⟨value, hv, denotes⟩
    exact ⟨text, hj, n, denotes, HeaderTest.fits_of_mem hs ht low high, low, high⟩
  case mpr =>
    rintro ⟨text, hj, n, denotes, -, low, high⟩
    obtain ⟨value, hv, denotes⟩ := exists_joined?_denotes_iff.mp ⟨text, hj, denotes⟩
    exact ⟨value, n, hv, denotes, low, high⟩

end HeaderMap

namespace HeaderMatcher

-- A header that is missing has no integer, so it passes only if the matcher is inverted.
theorem accepts_range_iff (hm : m.test = .range start stop) (hs : HeaderTest.fits start) (ht : HeaderTest.fits stop)
    (headers : HeaderMap) : (m.accepts headers ↔ (headers.HasIntegerIn m.name start stop ↔ ¬ m.invert)) ∧
      (headers.contains m.name = false → (m.accepts headers ↔ m.invert)) := by
  have tells : m.accepts headers ↔ (headers.HasIntegerIn m.name start stop ↔ ¬ m.invert) := by
    rw [HeaderMap.hasIntegerIn_iff hs ht, accepts, hm]
    cases headers.joined? m.name
    case none       => simp
    case some value => cases (HeaderTest.range start stop).passes value <;> cases m.invert <;> simp
  refine ⟨tells, fun absent => ?_⟩
  have missing : ¬ headers.HasIntegerIn m.name start stop := by
    rintro ⟨value, n, hv, -⟩
    simp [HeaderMap.contains, HeaderMap.first?_eq_head?, hv] at absent
  simp [tells, missing]

-- The negative integers, the least one of them with zeros in front.
def negative : HeaderMatcher :=
  new "X-Shard" (.range (-9223372036854775808) 0) false

theorem accepts_range_negative :
    ofConfig { name := "X-Shard", range := some ⟨-9223372036854775808, 0⟩ } = .ok negative ∧
      HeaderTest.fits (-9223372036854775808) ∧ HeaderTest.fits 0 ∧
      negative.accepts (.ofList [("x-SHARD", "-009223372036854775808")]) ∧
      ¬ negative.accepts (.ofList [("x-shard", "-1"), ("X-SHARD", "-2")]) := by
  have name : negative.name = "x-shard" := by decide +kernel
  have least : HeaderTest.fits (-9223372036854775808) := by decide
  have tells := accepts_range_iff (m := negative) rfl least (by decide)
  have one : HeaderMap.values (.ofList [("x-SHARD", "-009223372036854775808")]) negative.name =
      ["-009223372036854775808"] := by
    rw [name]
    decide +kernel
  have two : HeaderMap.values (.ofList [("x-shard", "-1"), ("X-SHARD", "-2")]) negative.name = ["-1", "-2"] := by
    rw [name]
    decide +kernel
  have denotes : Denotes "-009223372036854775808".toList (-9223372036854775808) :=
    HeaderTest.readInteger?_eq_some_iff.mp (by decide +kernel)
  refine ⟨ofConfig_eq_ok_iff.mpr ⟨by decide, _, rfl, rfl⟩, least, by decide, ?single, ?several⟩
  case single => exact (tells _).1.mpr (iff_of_true ⟨_, _, one, denotes, by decide, by decide⟩ Bool.false_ne_true)
  case several =>
    rw [(tells _).1, HeaderMap.HasIntegerIn, two]
    simp [show negative.invert = false from rfl]

end HeaderMatcher

end RpcProxy
