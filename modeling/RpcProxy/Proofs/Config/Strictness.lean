import RpcProxy.Config.Reading
import RpcProxy.Config.Writing
import RpcProxy.Proofs.Config.Record
import RpcProxy.Proofs.Json.Rendering

namespace RpcProxy.Config

open Json (Document Ending)

-- The parts of a configuration that are written as members by name.
inductive Part
  | router
  | routes
  | route
  | conditions
  | headerMatcher
  | range
  | action
  | weightedClusters
  | clusterWeight
  | rateLimit
  | requestHeaders
  | genericKey
  deriving DecidableEq

-- What stands in a field. Plain content has no further parts in it.
inductive Content
  | plain
  | part (p : Part)
  | list (content : Content)
  | variants (names : List (String × Part))

def Part.fields : Part → List (String × Content)
  | router           => [("stat_prefix", .plain), ("route_config", .part routes)]
  | routes           => [("name", .plain), ("routes", .list (.part route))]
  | route            => [("match", .part conditions), ("route", .part action)]
  | conditions       =>
    [("method_name", .plain), ("service_name", .plain), ("invert", .plain), ("headers", .list (.part headerMatcher))]
  | headerMatcher    =>
    [("name", .plain), ("exact_match", .plain), ("regex_match", .plain), ("range_match", .part range),
     ("present_match", .plain), ("prefix_match", .plain), ("suffix_match", .plain), ("contains_match", .plain),
     ("invert_match", .plain)]
  | range            => [("start", .plain), ("end", .plain)]
  | action           =>
    [("cluster", .plain), ("weighted_clusters", .part weightedClusters), ("cluster_header", .plain),
     ("metadata_match", .plain), ("rate_limits", .list (.part rateLimit)), ("strip_service_name", .plain)]
  | weightedClusters => [("clusters", .list (.part clusterWeight))]
  | clusterWeight    => [("name", .plain), ("weight", .plain), ("metadata_match", .plain)]
  | rateLimit        =>
    [("stage", .plain),
     ("actions", .list (.variants [("request_headers", requestHeaders), ("generic_key", genericKey)]))]
  | requestHeaders   => [("header_name", .plain), ("descriptor_key", .plain)]
  | genericKey       => [("descriptor_value", .plain)]

def Part.names (p : Part) : List String :=
  p.fields.map (·.1)

-- Somewhere in a document of some content, an object stands for a part that does not declare one of its members.
inductive Undeclared (part : Part) : Content → Document → Prop
  | here (hm : (key?, d) ∈ ms) (hk : ∀ key ∈ key?, key ∉ part.names) : Undeclared part (.part part) (.object ms ending)
  | member (hf : p.fields.lookup key = some content) (hm : (some key, d) ∈ ms) (inside : Undeclared part content d) :
    Undeclared part (.part p) (.object ms ending)
  | position (hd : ((key, content), d) ∈ p.fields.zip ds) (inside : Undeclared part content d) :
    Undeclared part (.part p) (.array ds ending)
  | item (hd : d ∈ ds) (inside : Undeclared part content d) : Undeclared part (.list content) (.array ds ending)
  | variant (hv : (key, p) ∈ vs) (hm : (some key, d) ∈ ms) (inside : Undeclared part (.part p) d) :
    Undeclared part (.variants vs) (.object ms ending)

def Part.IsStrict (p : Part) : Prop :=
  ∀ text, Undeclared p (.part .router) (Document.read text).document → ∃ problem, Router.parse text = .error problem

theorem Part.mem_names_of_lookup {p : Part} {key : String} {content : Content}
    (h : p.fields.lookup key = some content) : key ∈ p.names := by
  obtain ⟨before, after, he, -⟩ := List.lookup_eq_some_iff.mp h
  simp [names, he]

-- No document with an undeclared member is read, unless the member is one of a range.
def Reader.Rejects (read : Reader α) (content : Content) : Prop :=
  ∀ room part d x, Undeclared part content d → part ≠ .range → read room d ≠ .ok x

-- A field of a record has the name and the content that a part declares.
def Field.Rejects (f : Field σ) (field : String × Content) : Prop :=
  f.name = field.1 ∧ ∀ s, Reader.Rejects (f.read · · s) field.2

namespace Reader

variable {read : Reader α} {content : Content}

theorem rejects_plain : read.Rejects .plain := by
  rintro _ _ _ _ ⟨⟩

theorem Rejects.map (h : read.Rejects content) (f : α → β) :
    Reader.Rejects (fun room d => (read room d).map f) content := by
  intro room part d y hu hp hy
  obtain ⟨x, hx, -⟩ := Except.map_eq_ok_iff.mp hy
  exact h room part d x hu hp hx

theorem Rejects.nullable (h : read.Rejects content) : (nullable read).Rejects content := by
  intro room part d x hu hp hx
  cases d
  case null => cases hu
  all_goals exact h.map some room part _ x hu hp hx

theorem ok_of_items {read : Document → Except Problem α} {ending : Ending} {ds : List Document} {d : Document}
    {xs : List α} (h : items read ending ds = .ok xs) (hd : d ∈ ds) : ∃ x, read d = .ok x := by
  induction ds generalizing xs
  case nil         => cases hd
  case cons e ds ih =>
    simp only [items] at h
    obtain ⟨x, hx, h⟩ := Except.bind_eq_ok_iff.mp h
    obtain ⟨xs, hxs, -⟩ := Except.bind_eq_ok_iff.mp h
    cases List.mem_cons.mp hd
    case inl he => exact ⟨x, he ▸ hx⟩
    case inr hd => exact ih hxs hd

theorem Rejects.list (h : read.Rejects content) : (list read).Rejects (.list content) := by
  rintro room part _ xs (_ | _ | _ | ⟨hd, inside⟩ | _) hp hx
  cases room
  case zero      => simp [Reader.list] at hx
  case succ room =>
    obtain ⟨x, hx⟩ := ok_of_items hx hd
    exact h room part _ x inside hp hx

end Reader

namespace Variant

variable {variants : List (String × Variant α)} {room : Nat} {ms : List (Option String × Document)} {ending : Ending}
  {x : α}

-- An object names one variant, and it has nothing else in it.
theorem content_of_read (h : Variant.read variants room (.object ms ending) = .ok x) :
    ∃ room key d v, ms = [(some key, d)] ∧ lookup variants key = .ok v ∧ ofContent room d v = .ok x := by
  unfold Variant.read at h
  split at h
  case h_1                       => simp_all
  case h_2 room key d ms' _ heq  =>
    obtain ⟨rfl, rfl⟩ := Document.object.inj heq
    obtain ⟨y, hy, h⟩ := Except.bind_eq_ok_iff.mp h
    obtain ⟨v, hv, hy⟩ := Except.bind_eq_ok_iff.mp hy
    split at h
    case isFalse     => simp at h
    case isTrue hend =>
      obtain rfl := Except.ok.inj h
      have hms : ms' = [] := by simp_all
      exact ⟨room, key, d, v, by rw [hms], hv, hy⟩
  case h_3 heq                   => simp at heq
  case h_4                       => simp at h

theorem rejects {names : List (String × Part)}
    (h : ∀ e ∈ names, ∃ read, lookup variants e.1 = .ok (.fields read) ∧ Reader.Rejects read (.part e.2)) :
    (Variant.read variants).Rejects (.variants names) := by
  rintro room part _ x (_ | _ | _ | _ | ⟨hv, hm, inside⟩) hp hx
  obtain ⟨room, key, d, v, rfl, hl, hc⟩ := content_of_read hx
  obtain ⟨rfl, rfl⟩ := by simpa using hm
  obtain ⟨read, hl', hr⟩ := h _ hv
  obtain rfl := Except.ok.inj (hl'.symm.trans hl)
  exact hr room part _ x inside hp hc

end Variant

namespace Field

variable {fs : List (Field σ)} {fields : List (String × Content)} {f : Field σ} {content : Content}

theorem rejects_of_lookup {key : String} (h : List.Forall₂ Rejects fs fields)
    (hf : fs.find? (·.name == key) = some f) (hc : fields.lookup key = some content) (s : σ) :
    Reader.Rejects (f.read · · s) content := by
  induction h
  case nil              => simp at hf
  case cons hr rest ih  =>
    obtain ⟨hn, hr⟩ := hr
    rw [List.find?_cons, hn] at hf
    rw [List.lookup_cons, BEq.comm] at hc
    split at hf
    case h_1 he =>
      rw [he] at hc
      exact Option.some.inj hf ▸ Option.some.inj hc ▸ hr s
    case h_2 he =>
      rw [he] at hc
      exact ih hf hc

theorem rejects_of_zip {ds : List Document} {d : Document} {key : String} (h : List.Forall₂ Rejects fs fields)
    (hd : ((key, content), d) ∈ fields.zip ds) :
    ∃ f, (f, d) ∈ fs.zip ds ∧ ∀ s, Reader.Rejects (f.read · · s) content := by
  induction h generalizing ds
  case nil                 => simp at hd
  case cons f _ _ _ hr _ ih =>
    cases ds
    case nil       => simp at hd
    case cons e ds =>
      rw [List.zip_cons_cons] at hd
      cases List.mem_cons.mp hd
      case inl he =>
        obtain ⟨rfl, rfl⟩ := Prod.mk.inj he
        exact ⟨f, List.mem_cons_self, hr.2⟩
      case inr hd =>
        obtain ⟨f, hf, hr⟩ := ih hd
        exact ⟨f, List.mem_cons_of_mem _ hf, hr⟩

end Field

theorem Record.rejects {r : Record σ} {p : Part} (fields : List.Forall₂ Field.Rejects r.fields p.fields)
    (strict : p = .range ∨ r.lenient = false) : r.read.Rejects (.part p) := by
  have names : r.names = p.names := by
    have he : List.Forall₂ (· = ·) r.names p.names :=
      List.forall₂_map_left_iff.mpr (List.forall₂_map_right_iff.mpr (fields.imp fun _ _ h => h.1))
    rwa [List.forall₂_eq_eq_eq] at he
  intro room part d x hu hp hx
  cases room
  case zero      => cases hu <;> simp [Record.read] at hx
  case succ room =>
    rcases hu with ⟨hm, hk⟩ | ⟨hf, hm, inside⟩ | ⟨hd, inside⟩
    case here     =>
      obtain ⟨key, rfl, ⟨hl, -⟩ | ⟨f, hf, -⟩⟩ := field_of_members hx hm
      · simp [strict.resolve_left hp] at hl
      · have hn : r.field? key = none := field?_eq_none_iff.mpr (names ▸ hk key rfl)
        simp [hn] at hf
    case member   =>
      obtain ⟨key, hk, ⟨-, hn⟩ | ⟨f, hf', s, s', hs⟩⟩ := field_of_members hx hm
      all_goals obtain rfl := Option.some.inj hk
      · exact hn (names ▸ Part.mem_names_of_lookup hf)
      · exact Field.rejects_of_lookup fields hf' hf s room part _ s' inside hp hs
    case position =>
      obtain ⟨f, hd, hr⟩ := Field.rejects_of_zip fields hd
      obtain ⟨s, s', hs⟩ := field_of_positions hx hd
      exact hr s room part _ s' inside hp hs

open Reader

namespace Field.Rejects

variable {f : Field σ} {read : Reader α} {put : σ → α → σ} {name : String} {content : Content}

theorem plain : f.Rejects (f.name, .plain) :=
  ⟨rfl, fun _ => rejects_plain⟩

theorem of (h : read.Rejects content) : (Field.of name read put).Rejects (name, content) :=
  ⟨rfl, fun s => h.map (put s)⟩

theorem need (h : read.Rejects content) : (Field.need name read put).Rejects (name, content) :=
  ⟨rfl, fun s => h.map (put s)⟩

end Field.Rejects

theorem Range.rejects : record.read.Rejects (.part .range) :=
  Record.rejects (.cons .plain <| .cons .plain .nil) (.inl rfl)

theorem HeaderMatcher.rejects : record.read.Rejects (.part .headerMatcher) :=
  Record.rejects (.cons .plain <| .cons .plain <| .cons .plain <| .cons (.of Range.rejects.nullable) <|
    .cons .plain <| .cons .plain <| .cons .plain <| .cons .plain <| .cons .plain .nil) (.inr rfl)

theorem Match.rejects : record.read.Rejects (.part .conditions) :=
  Record.rejects (.cons .plain <| .cons .plain <| .cons .plain <| .cons (.of HeaderMatcher.rejects.list) .nil)
    (.inr rfl)

theorem ClusterWeight.rejects : record.read.Rejects (.part .clusterWeight) :=
  Record.rejects (.cons .plain <| .cons .plain <| .cons .plain .nil) (.inr rfl)

theorem WeightedClusters.rejects : record.read.Rejects (.part .weightedClusters) :=
  Record.rejects (.cons (.need ClusterWeight.rejects.list) .nil) (.inr rfl)

theorem RateLimitAction.rejects : (Variant.read variants).Rejects
    (.variants [("request_headers", .requestHeaders), ("generic_key", .genericKey)]) := by
  refine Variant.rejects (List.forall_mem_cons.mpr ⟨⟨_, rfl, ?_⟩, List.forall_mem_singleton.mpr ⟨_, rfl, ?_⟩⟩)
  · have h : headersRecord.read.Rejects (.part .requestHeaders) :=
      Record.rejects (.cons .plain <| .cons .plain .nil) (.inr rfl)
    exact h.map fun p => requestHeaders p.1 p.2
  · have h : valueRecord.read.Rejects (.part .genericKey) := Record.rejects (.cons .plain .nil) (.inr rfl)
    exact h.map genericKey

theorem RateLimit.rejects : record.read.Rejects (.part .rateLimit) :=
  Record.rejects (.cons .plain <| .cons (.of RateLimitAction.rejects.list) .nil) (.inr rfl)

theorem Action.rejects : record.read.Rejects (.part .action) :=
  Record.rejects (.cons .plain <| .cons (.of WeightedClusters.rejects.nullable) <| .cons .plain <| .cons .plain <|
    .cons (.of RateLimit.rejects.list) <| .cons .plain .nil) (.inr rfl)

theorem Route.rejects : record.read.Rejects (.part .route) :=
  Record.rejects (.cons (.need Match.rejects) <| .cons (.need Action.rejects) .nil) (.inr rfl)

theorem Routes.rejects : record.read.Rejects (.part .routes) :=
  Record.rejects (.cons .plain <| .cons (.of Route.rejects.list) .nil) (.inr rfl)

theorem Router.rejects : record.read.Rejects (.part .router) :=
  Record.rejects (.cons .plain <| .cons (.of Routes.rejects) .nil) (.inr rfl)

namespace Part

-- A header matcher whose range has an `end` and a `stop`.
def misspelt : Json :=
  .object [("route_config", .object [("routes", .array [.object [
    ("match", .object [("headers", .array [.object [
      ("range_match", .object [("start", writeInt 0), ("end", writeInt 8), ("stop", writeInt 4)])]])]),
    ("route", .object [])]])])]

theorem undeclared_misspelt : Undeclared .range (.part .router) (Document.read misspelt.render).document := by
  have hw : misspelt.Numbers Json.Number.IsWritten := by
    simp [misspelt, writeInt, Json.Number.IsWritten, Json.Number.Fits, Json.Number.IsInteger]
  rw [Document.read_render hw]
  refine .member rfl List.mem_cons_self (.member rfl List.mem_cons_self (.item List.mem_cons_self ?_))
  refine .member rfl List.mem_cons_self (.member rfl List.mem_cons_self (.item List.mem_cons_self ?_))
  refine .member rfl List.mem_cons_self (.here (List.mem_cons_of_mem _ (List.mem_cons_of_mem _ List.mem_cons_self)) ?_)
  simp [Part.names, Part.fields]

theorem parse_misspelt_ne_error : ¬ ∃ problem, Router.parse misspelt.render = .error problem := by
  have ho : (Router.parse misspelt.render).isOk := by decide +kernel
  rintro ⟨problem, hp⟩
  rw [hp] at ho
  cases ho

-- A setting that is not known is an error wherever it stands, save in a range.
theorem isStrict_iff (p : Part) : p.IsStrict ↔ p ≠ .range := by
  constructor
  case mp =>
    rintro h rfl
    exact parse_misspelt_ne_error (h _ undeclared_misspelt)
  case mpr =>
    intro hp text hu
    cases h : Router.parse text
    case error problem => exact ⟨problem, rfl⟩
    case ok config     =>
      have ⟨c, hc, _⟩ := Except.bind_eq_ok_iff.mp h
      exact absurd hc (Router.rejects maxNesting p _ c hu hp)

theorem misspelt_is_read : Undeclared .range (.part .router) (Document.read misspelt.render).document ∧
    ¬ ∃ problem, Router.parse misspelt.render = .error problem :=
  ⟨undeclared_misspelt, parse_misspelt_ne_error⟩

end Part

end RpcProxy.Config
