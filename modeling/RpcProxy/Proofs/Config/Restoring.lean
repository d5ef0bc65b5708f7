import RpcProxy.Config.Reading
import RpcProxy.Config.Writing
import RpcProxy.Proofs.Config.Record
import RpcProxy.Proofs.Criteria
import RpcProxy.Proofs.Json.Rendering

namespace RpcProxy.Config

open Json (Document Ending)
open Json.Document (ofJson ofItems ofMembers)

-- A value that is read back from the document of its JSON, in which all numbers fit.
structure Reader.Restores (read : Reader α) (write : α → Json) (room : Nat) (x : α) : Prop where
  read : read room (ofJson (write x)) = .ok x
  fits : (write x).Numbers Json.Number.Fits

-- What holds of every value that is read from a text.
def Reader.Gives (read : Reader α) (room : Nat) (p : α → Prop) : Prop :=
  ∀ d x, d.Numbers Json.Number.Fits → read room d = .ok x → p x

namespace Reader

variable {read : Reader α} {write : α → Json} {room : Nat} {p : α → Prop}

theorem Gives.trivial : read.Gives room fun _ => True :=
  fun _ _ _ _ => .intro

theorem Gives.imp {q : α → Prop} (h : read.Gives room p) (hp : ∀ x, p x → q x) : read.Gives room q :=
  fun d x hd hx => hp x (h d x hd hx)

theorem Gives.nullable (h : read.Gives room p) : (nullable read).Gives room fun o => ∀ x ∈ o, p x := by
  intro d o hd ho
  cases d
  case null => simp [← Except.ok.inj ho]
  all_goals
    obtain ⟨x, hx, rfl⟩ := Except.map_eq_ok_iff.mp ho
    simpa using h _ x hd hx

theorem nullable_eq_ok {v : Json} {x : α} (h : read room (ofJson v) = .ok x) (hn : v ≠ .null) :
    nullable read room (ofJson v) = .ok (some x) := by
  cases v
  case null => exact absurd rfl hn
  all_goals exact Except.map_eq_ok_iff.mpr ⟨x, h, rfl⟩

theorem Gives.map (h : read.Gives room p) {f : α → β} {q : β → Prop} (hf : ∀ x, p x → q (f x)) :
    Gives (fun room d => (read room d).map f) room q := by
  intro d y hd hy
  obtain ⟨x, hx, rfl⟩ := Except.map_eq_ok_iff.mp hy
  exact hf x (h d x hd hx)

theorem restores_text (s : String) : text.Restores .text room s :=
  ⟨rfl, .text⟩

theorem restores_bool (b : Bool) : bool.Restores .bool room b :=
  ⟨rfl, .bool⟩

theorem integer_eq_ok {expected : String} {low high n : Int} {d : Document}
    (h : integer expected low high room d = .ok n) : low ≤ n ∧ n ≤ high := by
  unfold integer at h
  split at h
  case h_1 =>
    split at h
    case isTrue hn  => simpa [Except.ok.inj h] using hn
    case isFalse    => cases h
  case h_2 => exact absurd h mismatch_ne_ok

theorem restores_signed {n : Int} (low : -9223372036854775808 ≤ n) (high : n ≤ 9223372036854775807) :
    signed.Restores writeInt room n :=
  ⟨by simp [signed, integer, writeInt, ofJson, low, high], .number ⟨low, by omega⟩⟩

theorem signed_gives : signed.Gives room (signed.Restores writeInt room) := by
  intro d n _ hn
  have ⟨low, high⟩ := integer_eq_ok hn
  exact restores_signed low high

theorem restores_unsigned {n : Nat} (h : n ≤ 4294967295) : unsigned.Restores (fun n => writeInt n) room n := by
  refine ⟨Except.map_eq_ok_iff.mpr ⟨n, ?_, Int.toNat_natCast n⟩, .number ⟨by omega, by omega⟩⟩
  have high : (n : Int) ≤ 4294967295 := Int.ofNat_le.mpr h
  simp [integer, writeInt, ofJson, high]

theorem unsigned_gives : unsigned.Gives room (unsigned.Restores (fun n => writeInt n) room) := by
  intro d n _ hn
  obtain ⟨m, hm, rfl⟩ := Except.map_eq_ok_iff.mp hn
  have ⟨low, high⟩ := integer_eq_ok hm
  exact restores_unsigned (by omega)

theorem items_restored {xs : List α} (h : ∀ x ∈ xs, read.Restores write room x) :
    items (read room) .closed (ofItems (xs.map write)) = .ok xs := by
  induction xs
  case nil          => rfl
  case cons x xs ih =>
    have ⟨hx, hxs⟩ := List.forall_mem_cons.mp h
    exact Except.bind_eq_ok_iff.mpr ⟨x, hx.read, Except.bind_eq_ok_iff.mpr ⟨xs, ih hxs, rfl⟩⟩

theorem restores_list {xs : List α} (h : ∀ x ∈ xs, read.Restores write room x) :
    (list read).Restores (writeList write) (room + 1) xs :=
  ⟨items_restored h, .array (List.forall_mem_map.mpr fun x hx => (h x hx).fits)⟩

theorem forall_of_items {ds : List Document} {ending : Ending} {xs : List α} (h : read.Gives room p)
    (hd : ∀ d ∈ ds, d.Numbers Json.Number.Fits) (hx : items (read room) ending ds = .ok xs) : ∀ x ∈ xs, p x := by
  induction ds generalizing xs
  case nil          =>
    simp only [items] at hx
    split at hx
    · simp [← Except.ok.inj hx]
    · cases hx
  case cons d ds ih =>
    have ⟨hd, hds⟩ := List.forall_mem_cons.mp hd
    simp only [items, Except.bind_eq_ok_iff, pure, Except.pure, Except.ok.injEq] at hx
    obtain ⟨x, hx, xs, hxs, rfl⟩ := hx
    exact List.forall_mem_cons.mpr ⟨h d x hd hx, ih hds hxs⟩

theorem Gives.list (h : read.Gives room p) : (list read).Gives (room + 1) fun xs => ∀ x ∈ xs, p x := by
  intro d xs hd hx
  unfold Reader.list at hx
  split at hx
  case h_1     => cases hx
  case h_2 heq =>
    cases heq
    exact forall_of_items h (Document.Numbers.array_iff.mp hd) hx
  case h_3     => exact absurd hx mismatch_ne_ok

-- A JSON value that is read back with the same room, of which the numbers fit.
def IsRestored (room : Nat) (v : Json) : Prop :=
  json (ofJson v) room = .ok v ∧ v.Numbers Json.Number.Fits

theorem jsonItems_restored {xs : List Json} (h : ∀ x ∈ xs, IsRestored room x) :
    jsonItems (ofItems xs) .closed room = .ok xs := by
  induction xs
  case nil          => rfl
  case cons x xs ih =>
    have ⟨hx, hxs⟩ := List.forall_mem_cons.mp h
    exact Except.bind_eq_ok_iff.mpr ⟨x, hx.1, Except.bind_eq_ok_iff.mpr ⟨xs, ih hxs, rfl⟩⟩

-- Members in the order of their keys are read in that order.
theorem jsonMembers_restored {ms read : List (String × Json)} (h : ∀ m ∈ ms, IsRestored room m.2)
    (ho : Json.Ordered (read ++ ms)) : jsonMembers (ofMembers ms) .closed room read = .ok (read ++ ms) := by
  induction ms generalizing read
  case nil          => simp [ofMembers, jsonMembers]
  case cons m ms ih =>
    obtain ⟨k, x⟩ := m
    have ⟨hx, hms⟩ := List.forall_mem_cons.mp h
    have hk : Json.insertMember k x read = read ++ [(k, x)] :=
      Json.insertMember_of_greatest fun m hm => (List.pairwise_append.mp ho).2.2 m hm _ List.mem_cons_self
    rw [List.append_cons, ← hk] at ho ⊢
    exact Except.bind_eq_ok_iff.mpr ⟨x, hx.1, ih hms ho⟩

theorem isRestored_array {xs : List Json} (h : ∀ x ∈ xs, IsRestored room x) : IsRestored (room + 1) (.array xs) :=
  ⟨Except.bind_eq_ok_iff.mpr ⟨xs, jsonItems_restored h, rfl⟩, .array fun x hx => (h x hx).2⟩

theorem isRestored_object {ms : List (String × Json)} (h : ∀ m ∈ ms, IsRestored room m.2) (ho : Json.Ordered ms) :
    IsRestored (room + 1) (.object ms) :=
  ⟨Except.bind_eq_ok_iff.mpr ⟨ms, jsonMembers_restored h ho, rfl⟩, .object fun m hm => (h m hm).2⟩

mutual

theorem isRestored_of_json (d : Document) {room : Nat} {v : Json} (hd : d.Numbers Json.Number.Fits)
    (h : json d room = .ok v) : IsRestored room v :=
  match d, room with
  | .null, _               => by cases h; exact ⟨by simp [ofJson, json], .null⟩
  | .bool _, _             => by cases h; exact ⟨by simp [ofJson, json], .bool⟩
  | .number _, _           => by cases h; exact ⟨by simp [ofJson, json], .number (Document.Numbers.number_iff.mp hd)⟩
  | .text _, _             => by cases h; exact ⟨by simp [ofJson, json], .text⟩
  | .array ds _, room + 1  => by
    have ⟨xs, hxs, hv⟩ := Except.bind_eq_ok_iff.mp h
    cases hv
    exact isRestored_array (isRestored_of_jsonItems ds (Document.Numbers.array_iff.mp hd) hxs)
  | .object ms _, room + 1 => by
    have ⟨xs, hxs, hv⟩ := Except.bind_eq_ok_iff.mp h
    cases hv
    have ⟨hx, ho⟩ := isRestored_of_jsonMembers ms (Document.Numbers.object_iff.mp hd) hxs (by simp) Json.ordered_nil
    exact isRestored_object hx ho
  | .array _ _, 0          => by cases h
  | .object _ _, 0         => by cases h
  | .keyless _, _          => by simp [json] at h
  | .valueless, _          => by simp [json] at h
  | .broken, _             => by simp [json] at h

theorem isRestored_of_jsonItems (ds : List Document) {ending : Ending} {room : Nat} {xs : List Json}
    (hd : ∀ d ∈ ds, d.Numbers Json.Number.Fits) (h : jsonItems ds ending room = .ok xs) :
    ∀ x ∈ xs, IsRestored room x :=
  match ds with
  | []      => by
    simp only [jsonItems] at h
    split at h
    · simp [← Except.ok.inj h]
    · cases h
  | d :: ds => by
    have ⟨hd, hds⟩ := List.forall_mem_cons.mp hd
    have ⟨x, hx, h⟩ := Except.bind_eq_ok_iff.mp h
    have ⟨xs', hxs, h⟩ := Except.bind_eq_ok_iff.mp h
    cases h
    exact List.forall_mem_cons.mpr ⟨isRestored_of_json d hd hx, isRestored_of_jsonItems ds hds hxs⟩

theorem isRestored_of_jsonMembers (ms : List (Option String × Document)) {ending : Ending} {room : Nat}
    {read xs : List (String × Json)} (hd : ∀ m ∈ ms, m.2.Numbers Json.Number.Fits)
    (h : jsonMembers ms ending room read = .ok xs) (hr : ∀ m ∈ read, IsRestored room m.2) (ho : Json.Ordered read) :
    (∀ m ∈ xs, IsRestored room m.2) ∧ Json.Ordered xs :=
  match ms with
  | []                => by
    simp only [jsonMembers] at h
    split at h
    · exact Except.ok.inj h ▸ ⟨hr, ho⟩
    · cases h
  | (none, _) :: _    => by cases h
  | (some k, d) :: ms => by
    have ⟨hd, hds⟩ := List.forall_mem_cons.mp hd
    have ⟨x, hx, h⟩ := Except.bind_eq_ok_iff.mp h
    refine isRestored_of_jsonMembers ms hds h (fun m hm => ?_) ho.insertMember
    rcases Json.mem_insertMember hm with rfl | hm
    · exact isRestored_of_json d hd hx
    · exact hr m hm

end

-- Criteria are the members of an object.
theorem criteria_eq_ok {d : Document} {c : Criteria} (h : Reader.criteria room d = .ok c) :
    ∃ ms ending inner, d = .object ms ending ∧ room = inner + 1 ∧ jsonMembers ms ending inner [] = .ok c.entries := by
  unfold Reader.criteria at h
  split at h
  case h_3 room ms ending =>
    obtain ⟨xs, hxs, rfl⟩ := Except.map_eq_ok_iff.mp h
    exact ⟨ms, ending, room, rfl, rfl, hxs⟩
  case h_5                => exact absurd h mismatch_ne_ok
  all_goals cases h

theorem criteria_gives : Reader.criteria.Gives room fun c =>
    Reader.criteria.Restores writeCriteria room c ∧ c.Ordered := by
  intro d c hd hc
  obtain ⟨ms, ending, room, rfl, rfl, hm⟩ := criteria_eq_ok hc
  have ⟨hx, ho⟩ := isRestored_of_jsonMembers ms (Document.Numbers.object_iff.mp hd) hm (by simp) Json.ordered_nil
  exact ⟨⟨Except.map_eq_ok_iff.mpr ⟨c.entries, jsonMembers_restored hx ho, rfl⟩, .object fun m h => (hx m h).2⟩, ho⟩

end Reader

-- A field that keeps what holds of a record.
def Field.Keeps (f : Field σ) (room : Nat) (p : σ → Prop) : Prop :=
  ∀ d s s', d.Numbers Json.Number.Fits → p s → f.read room d s = .ok s' → p s'

namespace Field.Keeps

variable {f : Field σ} {read : Reader α} {put : σ → α → σ} {name : String} {room : Nat} {p : σ → Prop}
  {q : α → Prop}

theorem of_map (h : read.Gives room q) (hp : ∀ s x, p s → q x → p (put s x)) (d : Document) (s s' : σ)
    (hd : d.Numbers Json.Number.Fits) (hs : p s) (h' : (read room d).map (put s) = .ok s') : p s' := by
  obtain ⟨x, hx, rfl⟩ := Except.map_eq_ok_iff.mp h'
  exact hp s x hs (h d x hd hx)

theorem of (h : read.Gives room q) (hp : ∀ s x, p s → q x → p (put s x)) : (Field.of name read put).Keeps room p :=
  of_map h hp

theorem need (h : read.Gives room q) (hp : ∀ s x, p s → q x → p (put s x)) :
    (Field.need name read put).Keeps room p :=
  of_map h hp

-- What does not depend on the field.
theorem other (hp : ∀ s x, p s → p (put s x)) : (Field.of name read put).Keeps room p :=
  of Reader.Gives.trivial fun s x hs _ => hp s x hs

end Field.Keeps

namespace Record

variable {r : Record σ} {room : Nat} {p : σ → Prop} {ending : Ending} {s s' : σ}

theorem of_step {m : Option String × Document} {seen seen' : List String} (fields : ∀ f ∈ r.fields, f.Keeps room p)
    (hm : m.2.Numbers Json.Number.Fits) (hs : p s) (h : r.Step room seen s m seen' s') : p s' := by
  cases h
  case passed       => exact hs
  case field hf _ h => exact fields _ (List.mem_of_find?_eq_some hf) _ s s' hm hs h

theorem of_members {ms : List (Option String × Document)} {seen : List String}
    (fields : ∀ f ∈ r.fields, f.Keeps room p) (hd : ∀ m ∈ ms, m.2.Numbers Json.Number.Fits) (hs : p s)
    (h : r.members room ending ms seen s = .ok s') : p s' := by
  induction ms generalizing seen s
  case nil          => exact (members_nil_eq_ok_iff.mp h).2.1 ▸ hs
  case cons m ms ih =>
    have ⟨hm, hms⟩ := List.forall_mem_cons.mp hd
    have ⟨_, _, step, rest⟩ := members_cons_eq_ok_iff.mp h
    exact ih hms (of_step fields hm hs step) rest

theorem of_positions {fields : List (Field σ)} {ds : List Document} {count : Nat}
    (hf : ∀ f ∈ fields, f.Keeps room p) (hd : ∀ d ∈ ds, d.Numbers Json.Number.Fits) (hs : p s)
    (h : r.positions room ending fields ds count s = .ok s') : p s' := by
  induction fields generalizing ds count s
  case nil          =>
    cases ds
    case nil  =>
      simp only [positions] at h
      split at h
      · exact Except.ok.inj h ▸ hs
      · cases h
    case cons => cases h
  case cons f fs ih =>
    have ⟨hf, hfs⟩ := List.forall_mem_cons.mp hf
    cases ds
    case nil       =>
      simp only [positions] at h
      split at h
      · cases h
      · split at h
        · cases h
        · exact ih hfs hd hs h
    case cons d ds =>
      have ⟨hd, hds⟩ := List.forall_mem_cons.mp hd
      have ⟨s'', hs', h⟩ := Except.bind_eq_ok_iff.mp h
      exact ih hfs hds (hf d s s'' hd hs hs') h

-- What holds of a record before any field is read, and what every field keeps, holds of all that is read.
theorem gives (start : p r.start) (fields : ∀ f ∈ r.fields, f.Keeps room p) : r.read.Gives (room + 1) p := by
  intro d s hd h
  unfold Record.read at h
  split at h
  case h_4 heq =>
    cases heq
    exact of_positions fields (Document.Numbers.array_iff.mp hd) start h
  case h_5 heq =>
    cases heq
    exact of_members fields (Document.Numbers.object_iff.mp hd) start h
  case h_7     => exact absurd h mismatch_ne_ok
  all_goals cases h

end Record

-- The members for some fields, in their order, and what becomes of a record when they are read. Members for fields that
-- are not required may be left out.
inductive Rebuilds (room : Nat) : List (Field σ) → σ → List (String × Json) → σ → Prop
  | nil : Rebuilds room [] s [] s
  | read {f : Field σ} (h : f.read room (ofJson v) s = .ok s') (hv : v.Numbers Json.Number.Fits)
      (rest : Rebuilds room fields s' ms t) : Rebuilds room (f :: fields) s ((f.name, v) :: ms) t
  | skip {f : Field σ} (h : f.required = false) (rest : Rebuilds room fields s ms t) :
    Rebuilds room (f :: fields) s ms t

namespace Rebuilds

variable {fields : List (Field σ)} {read : Reader α} {write : α → Json} {put : σ → α → σ} {name : String}
  {room : Nat} {s t : σ} {ms : List (String × Json)}

theorem fits (h : Rebuilds room fields s ms t) : ∀ m ∈ ms, m.2.Numbers Json.Number.Fits := by
  induction h
  case nil           => simp
  case read hv _ ih  => exact List.forall_mem_cons.mpr ⟨hv, ih⟩
  case skip ih       => exact ih

theorem of {x : α} (h : read.Restores write room x) (rest : Rebuilds room fields (put s x) ms t) :
    Rebuilds room (.of name read put :: fields) s ((name, write x) :: ms) t :=
  .read (Except.map_eq_ok_iff.mpr ⟨x, h.read, rfl⟩) h.fits rest

theorem need {x : α} (h : read.Restores write room x) (rest : Rebuilds room fields (put s x) ms t) :
    Rebuilds room (.need name read put :: fields) s ((name, write x) :: ms) t :=
  .read (Except.map_eq_ok_iff.mpr ⟨x, h.read, rfl⟩) h.fits rest

-- A field that is not set is left out, and what is written for one that is set is never null.
theorem optional {put : σ → Option α → σ} {o : Option α} (h : ∀ x ∈ o, read.Restores write room x)
    (hn : ∀ x, write x ≠ .null) (hs : put s none = s) (rest : Rebuilds room fields (put s o) ms t) :
    Rebuilds room (.of name (Reader.nullable read) put :: fields) s (member? name write o ++ ms) t := by
  cases o
  case none   => exact .skip rfl (hs ▸ rest)
  case some x =>
    have hx : Reader.nullable read room (ofJson (write x)) = .ok (some x) :=
      Reader.nullable_eq_ok (h x rfl).read (hn x)
    exact .read (Except.map_eq_ok_iff.mpr ⟨some x, hx, rfl⟩) (h x rfl).fits rest

end Rebuilds

namespace Record

variable {r : Record σ} {room : Nat} {before fields : List (Field σ)} {f : Field σ} {seen : List String}

-- A field has a name that no other field has.
theorem ne_name (hn : r.names.Nodup) (hr : r.fields = before ++ f :: fields) : ∀ g ∈ before, g.name ≠ f.name := by
  rw [names, hr, List.map_append, List.map_cons, List.nodup_append] at hn
  exact fun g hg => hn.2.2 g.name (List.mem_map_of_mem hg) f.name List.mem_cons_self

theorem members_of_rebuilds {ms : List (String × Json)} {s t : σ} (hn : r.names.Nodup)
    (hr : r.fields = before ++ fields) (hs : ∀ name ∈ seen, ∃ g ∈ before, g.name = name)
    (hb : ∀ g ∈ before, g.required → g.name ∈ seen) (h : Rebuilds room fields s ms t) :
    r.members room .closed (ofMembers ms) seen s = .ok t := by
  induction h generalizing before seen
  case nil =>
    exact members_nil_eq_ok_iff.mpr ⟨rfl, rfl, fun g hg => hb g (by simpa [hr] using hg)⟩
  case read v _ s' fields ms t f h _ _ ih =>
    have ne := ne_name hn hr
    have hf : r.field? f.name = some f :=
      List.find?_eq_some_iff_append.mpr ⟨by simp, before, fields, hr, by simpa using ne⟩
    have fresh : f.name ∉ seen := fun hc =>
      have ⟨g, hg, he⟩ := hs _ hc
      ne g hg he
    refine members_cons_eq_ok_iff.mpr ⟨_, s', .field hf fresh h, ?_⟩
    refine ih (by simp [hr] : r.fields = (before ++ [f]) ++ fields) ?_ ?_
    · grind
    · grind
  case skip fields _ _ _ f h _ ih =>
    refine ih (by simp [hr] : r.fields = (before ++ [f]) ++ fields) ?_ ?_
    · grind
    · grind

-- A record is read back from the members that its writer writes.
theorem restores {write : σ → Json} {ms : List (String × Json)} {s : σ}
    (hn : r.names.Nodup) (h : Rebuilds room r.fields r.start ms s) (hw : write s = .object ms) :
    r.read.Restores write (room + 1) s where
  read := by
    rw [hw]
    exact members_of_rebuilds hn (List.nil_append _).symm (by simp) (by simp) h
  fits := hw ▸ .object h.fits

end Record

theorem Variant.read_eq_ok {variants : List (String × Variant α)} {name : String} {read : Reader α} {room : Nat}
    {v : Json} {x : α} (hl : lookup variants name = .ok (.fields read)) (hx : read room (ofJson v) = .ok x) :
    Variant.read variants (room + 1) (ofJson (.object [(name, v)])) = .ok x := by
  have h : (lookup variants name >>= ofContent room (ofJson v)) = .ok x := Except.bind_eq_ok_iff.mpr ⟨_, hl, hx⟩
  exact Except.bind_eq_ok_iff.mpr ⟨x, h, rfl⟩

-- What a reader gives for documents in which all numbers fit, it gives for texts.
theorem of_parse {read : Reader α} {p : α → Prop} {text : String} {x : α} (hr : read.Gives maxNesting p)
    (h : parse read text = .ok x) : p x := by
  have ⟨y, hy, h⟩ := Except.bind_eq_ok_iff.mp h
  split at h
  · cases h
  · exact Except.ok.inj h ▸ hr _ y (Document.read_numbers text) hy

end RpcProxy.Config
