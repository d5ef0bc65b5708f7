import RpcProxy.Proofs.Header.Constraint

namespace RpcProxy

-- What can be done to the headers of a call.
inductive HeaderChange
  | add (name value : String)
  | set (name value : String)
  | remove (name : String)

namespace HeaderChange

def name : HeaderChange → String
  | add name _  => name
  | set name _  => name
  | remove name => name

-- Makes some changes one after the other, and notes what each of them answers.
def run (change : σ → HeaderChange → σ × Option Nat) (s : σ) : List HeaderChange → σ × List (Option Nat)
  | []           => (s, [])
  | next :: rest =>
    let done := change s next
    let after := run change done.1 rest
    (after.1, done.2 :: after.2)

end HeaderChange

-- Only a removal has an answer: how many values it took.
def HeaderMap.change (headers : HeaderMap) : HeaderChange → HeaderMap × Option Nat
  | .add name value => (headers.add name value, none)
  | .set name value => (headers.set name value, none)
  | .remove name    => ((headers.remove name).1, some (headers.remove name).2)

-- Pairs of a name in lower case and a value, the oldest one first.
abbrev HeaderList := List (String × String)

namespace HeaderList

def pairsOf (pairs : HeaderList) (name : String) : HeaderList :=
  pairs.filter (·.1 = name.toLower)

def others (pairs : HeaderList) (name : String) : HeaderList :=
  pairs.filter (·.1 ≠ name.toLower)

def valuesOf (pairs : HeaderList) (name : String) : List String :=
  (pairs.pairsOf name).map (·.2)

def change (pairs : HeaderList) : HeaderChange → HeaderList × Option Nat
  | .add name value => (pairs ++ [(name.toLower, value)], none)
  | .set name value => (pairs.others name ++ [(name.toLower, value)], none)
  | .remove name    => (pairs.others name, some (pairs.pairsOf name).length)

end HeaderList

namespace HeaderMap

-- The headers are the pairs of a list, and all of their names are in lower case.
structure Reflects (headers : HeaderMap) (pairs : HeaderList) : Prop where
  entries : headers.entries = pairs
  lowered : ∀ p ∈ pairs, ∀ c ∈ p.1.toList, ¬ c.isUpper

-- Each lookup of a name, in whatever case it is written, is answered by the values that a list has for it.
structure Reads (headers : HeaderMap) (pairs : HeaderList) (name : String) : Prop where
  values   : headers.values name = pairs.valuesOf name
  first    : headers.first? name = (pairs.valuesOf name).head?
  missing  : headers.joined? name = none ↔ pairs.valuesOf name = []
  joined   : ∀ text ∈ headers.joined? name, text = ",".intercalate (pairs.valuesOf name)
  contains : headers.contains name ↔ pairs.valuesOf name ≠ []

-- What it means that headers which have been changed in some ways are an ordered multimap.
structure Faithful (changes : List HeaderChange) : Prop where
  reflects : (HeaderChange.run change {} changes).1.Reflects (HeaderChange.run HeaderList.change [] changes).1
  answers  : (HeaderChange.run change {} changes).2 = (HeaderChange.run HeaderList.change [] changes).2
  reads    : ∀ name,
    (HeaderChange.run change {} changes).1.Reads (HeaderChange.run HeaderList.change [] changes).1 name
  -- The next change leaves the pairs of all other names as they are, in their order.
  others   : ∀ next : HeaderChange,
    HeaderList.others ((HeaderChange.run change {} changes).1.change next).1.entries next.name =
      HeaderList.others (HeaderChange.run change {} changes).1.entries next.name

variable {headers : HeaderMap} {pairs : HeaderList} {name : String} {next : HeaderChange}

theorem lower_of_mem_normalize {c : Char} (h : c ∈ (normalize name).toList) : ¬ c.isUpper := by
  rw [normalize, String.toLower, String.toList_map] at h
  obtain ⟨c, -, rfl⟩ := List.mem_map.mp h
  simp [Char.isUpper_toLower_eq_false]

theorem normalize_of_lower (h : ∀ c ∈ name.toList, ¬ c.isUpper) : normalize name = name := by
  rw [← String.toList_inj, normalize, String.toLower, String.toList_map]
  exact (List.map_congr_left fun c hc => Char.toLower_eq_of_not_isUpper (h c hc)).trans (List.map_id _)

-- A name in lower case is compared as it is.
theorem sameName_of_lower {kept : String} (h : ∀ c ∈ kept.toList, ¬ c.isUpper) :
    sameName kept name = decide (kept = name.toLower) := by
  rw [sameName, normalize_of_lower h]
  rfl

namespace Reflects

theorem empty : Reflects {} [] :=
  ⟨rfl, by simp⟩

theorem filter_sameName (h : headers.Reflects pairs) (name : String) :
    (headers.entries.filter fun e => sameName e.1 name) = pairs.pairsOf name := by
  rw [h.entries]
  exact List.filter_congr fun p hp => sameName_of_lower (h.lowered p hp)

theorem filter_not_sameName (h : headers.Reflects pairs) (name : String) :
    (headers.entries.filter fun e => !sameName e.1 name) = pairs.others name := by
  rw [h.entries]
  refine List.filter_congr fun p hp => ?_
  rw [sameName_of_lower (h.lowered p hp), decide_not]

theorem others (h : headers.Reflects pairs) (name : String) : Reflects ⟨pairs.others name⟩ (pairs.others name) :=
  ⟨rfl, fun p hp => h.lowered p (List.mem_of_mem_filter hp)⟩

theorem add (h : headers.Reflects pairs) (name value : String) :
    (headers.add name value).Reflects (pairs ++ [(name.toLower, value)]) := by
  refine ⟨congrArg (· ++ [(normalize name, value)]) h.entries, fun p hp => ?_⟩
  cases List.mem_append.mp hp
  case inl hp => exact h.lowered p hp
  case inr hp =>
    obtain rfl := List.mem_singleton.mp hp
    exact fun c => lower_of_mem_normalize

end Reflects

theorem Reflects.change (h : headers.Reflects pairs) (next : HeaderChange) :
    (headers.change next).1.Reflects (pairs.change next).1 ∧ (headers.change next).2 = (pairs.change next).2 := by
  cases next
  case add name value => exact ⟨h.add name value, rfl⟩
  case set name value =>
    have kept : headers.set name value = HeaderMap.add ⟨pairs.others name⟩ name value := by
      rw [HeaderMap.set, h.entries]
      exact congrArg (fun ps => HeaderMap.mk (ps ++ _)) (List.filter_congr fun p _ => (decide_not ..).symm)
    refine ⟨?_, rfl⟩
    show (headers.set name value).Reflects _
    rw [kept]
    exact (h.others name).add name value
  case remove name    =>
    have kept : (headers.remove name).1 = ⟨pairs.others name⟩ := congrArg HeaderMap.mk (h.filter_not_sameName name)
    -- The pairs that are gone are those of the name, since all the others are still there.
    have gone : (headers.remove name).2 = (pairs.pairsOf name).length := by
      have total := List.length_eq_length_filter_add (l := headers.entries) fun e => sameName e.1 name
      rw [h.filter_sameName, h.filter_not_sameName] at total
      rw [HeaderMap.remove, h.filter_not_sameName, total, Nat.add_sub_cancel_right]
    refine ⟨?_, congrArg some gone⟩
    show (headers.remove name).1.Reflects _
    rw [kept]
    exact h.others name

theorem Reflects.run (h : headers.Reflects pairs) (changes : List HeaderChange) :
    let x := HeaderChange.run HeaderMap.change headers changes
    let y := HeaderChange.run HeaderList.change pairs changes
    x.1.Reflects y.1 ∧ x.2 = y.2 := by
  induction changes generalizing headers pairs
  case nil               => exact ⟨h, rfl⟩
  case cons next rest ih =>
    obtain ⟨reflects, answer⟩ := h.change next
    obtain ⟨reflects, answers⟩ := ih reflects
    exact ⟨reflects, congrArg₂ _ answer answers⟩

theorem Reflects.reads (h : headers.Reflects pairs) (name : String) : headers.Reads pairs name := by
  have values : headers.values name = pairs.valuesOf name := congrArg (·.map (·.2)) (h.filter_sameName name)
  have first : headers.first? name = (pairs.valuesOf name).head? := by rw [first?_eq_head?, values]
  refine { values, first, missing := ?missing, joined := ?joined, contains := ?contains }
  case missing =>
    rw [joined?, values]
    cases pairs.valuesOf name <;> simp
  case joined =>
    intro text ht
    rw [joined?, values] at ht
    cases hv : pairs.valuesOf name <;> simp_all
  case contains =>
    rw [HeaderMap.contains, first]
    cases pairs.valuesOf name <;> simp

-- A change is about one name.
theorem others_change (pairs : HeaderList) (next : HeaderChange) :
    HeaderList.others (pairs.change next).1 next.name = pairs.others next.name := by
  have same (name : String) : HeaderList.others (pairs.others name) name = pairs.others name :=
    List.filter_eq_self.mpr fun _ hp => (List.mem_filter.mp hp).2
  have added (ps : HeaderList) (name value : String) :
      HeaderList.others (ps ++ [(name.toLower, value)]) name = ps.others name := by
    simp [HeaderList.others]
  cases next
  case add name value => exact added pairs name value
  case set name value => exact (added (pairs.others name) name value).trans (same name)
  case remove name    => exact same name

-- Headers are an ordered multimap, whatever is done to them.
theorem changes_faithful (changes : List HeaderChange) : Faithful changes := by
  obtain ⟨reflects, answers⟩ := Reflects.empty.run changes
  refine { reflects, answers, reads := reflects.reads, others := fun next => ?_ }
  rw [(reflects.change next).1.entries, reflects.entries, others_change]

end HeaderMap

end RpcProxy
