import RpcProxy.Config.Record
import RpcProxy.Proofs.Except

namespace RpcProxy.Config

open Json (Document Ending)

theorem mismatch_ne_ok {expected : String} {d : Document} {x : α} : mismatch expected d ≠ .ok x := by
  intro h
  have ⟨_, _, h⟩ := Except.bind_eq_ok_iff.mp h
  cases h

namespace Record

-- A member is the value of a field that was not read before, or it is passed over.
inductive Step (r : Record σ) (room : Nat) (seen : List String) (s : σ) :
    Option String × Document → List String → σ → Prop
  | field (hf : r.field? key = some f) (fresh : key ∉ seen) (h : f.read room d s = .ok s') :
    Step r room seen s (some key, d) (key :: seen) s'
  | passed (hn : r.field? key = none) (hl : r.lenient) (hw : d.wellFormed) :
    Step r room seen s (some key, d) seen s

variable {r : Record σ} {room : Nat} {ending : Ending} {seen : List String} {s t : σ}

theorem field?_eq_none_iff {key : String} : r.field? key = none ↔ key ∉ r.names := by
  simp [field?, names]

theorem members_nil_eq_ok_iff : r.members room ending [] seen s = .ok t ↔
    ending = .closed ∧ s = t ∧ ∀ f ∈ r.fields, f.required → f.name ∈ seen := by
  have hf : r.fields.find? (fun f => f.required && !seen.contains f.name) = none ↔
      ∀ f ∈ r.fields, f.required → f.name ∈ seen := by
    simp
  rw [← hf, members]
  by_cases he : ending = .closed <;> cases r.fields.find? fun f => f.required && !seen.contains f.name <;> simp [he]

theorem members_cons_eq_ok_iff {m : Option String × Document} {ms : List (Option String × Document)} :
    r.members room ending (m :: ms) seen s = .ok t ↔
      ∃ seen' s', r.Step room seen s m seen' s' ∧ r.members room ending ms seen' s' = .ok t := by
  obtain ⟨_ | key, d⟩ := m
  case none     =>
    refine iff_of_false (by simp [members]) ?_
    rintro ⟨_, _, ⟨⟩, _⟩
  case some =>
    constructor
    case mp =>
      intro h
      simp only [members] at h
      split at h
      case h_1 hn   =>
        split at h
        · cases h
        case isFalse hl =>
          split at h
          case isTrue hw => exact ⟨seen, s, .passed hn (by simpa using hl) hw, h⟩
          case isFalse   => cases h
      case h_2 f hf =>
        split at h
        · cases h
        case isFalse hs =>
          have ⟨s', hr, h⟩ := Except.bind_eq_ok_iff.mp h
          exact ⟨key :: seen, s', .field hf (by simpa using hs) hr, h⟩
    case mpr =>
      rintro ⟨_, _, ⟨hf, fresh, hr⟩ | ⟨hn, hl, hw⟩, h⟩
      case field  =>
        simp only [members, hf, List.contains_iff_mem, fresh, if_false]
        exact Except.bind_eq_ok_iff.mpr ⟨_, hr, h⟩
      case passed => simpa [members, hn, hl, hw] using h

-- Each item of an array that has been read is the field at its place.
theorem field_of_positions {fields : List (Field σ)} {ds : List Document} {count : Nat} {f : Field σ} {d : Document}
    (h : r.positions room ending fields ds count s = .ok t) (hd : (f, d) ∈ fields.zip ds) :
    ∃ s s', f.read room d s = .ok s' := by
  induction fields generalizing ds count s
  case nil          => simp at hd
  case cons g fs ih =>
    cases ds
    case nil       => simp at hd
    case cons e ds =>
      have ⟨s', hs, h⟩ := Except.bind_eq_ok_iff.mp h
      cases List.mem_cons.mp hd
      case inl he =>
        obtain ⟨rfl, rfl⟩ := Prod.mk.inj he
        exact ⟨s, s', hs⟩
      case inr hd => exact ih h hd

-- Each member of an object that has been read is a field, or it was passed over.
theorem field_of_members {ms : List (Option String × Document)} {key? : Option String} {d : Document}
    (h : r.members room ending ms seen s = .ok t) (hm : (key?, d) ∈ ms) :
    ∃ key, key? = some key ∧ ((r.lenient ∧ key ∉ r.names) ∨
      ∃ f, r.field? key = some f ∧ ∃ s s', f.read room d s = .ok s') := by
  induction ms generalizing seen s
  case nil          => cases hm
  case cons m ms ih =>
    have ⟨seen', s', step, rest⟩ := members_cons_eq_ok_iff.mp h
    cases List.mem_cons.mp hm
    case inr hm => exact ih rest hm
    case inl he =>
      subst he
      cases step
      case field key f hf _ hr => exact ⟨key, rfl, .inr ⟨f, hf, s, s', hr⟩⟩
      case passed key hn hl hw => exact ⟨key, rfl, .inl ⟨hl, field?_eq_none_iff.mp hn⟩⟩

end Record

end RpcProxy.Config
