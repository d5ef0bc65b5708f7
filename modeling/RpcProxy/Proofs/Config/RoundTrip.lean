import RpcProxy.Proofs.Config.Criteria
import RpcProxy.Proofs.Config.Restoring

namespace RpcProxy.Config

open Reader

variable {room : Nat}

namespace Range

theorem restores {r : Range} (start : signed.Restores writeInt room r.start)
    (stop : signed.Restores writeInt room r.stop) : record.read.Restores toJson (room + 1) r :=
  Record.restores (by decide) (.need start <| .need stop .nil) rfl

theorem gives : record.read.Gives (room + 1) (record.read.Restores toJson (room + 1)) := by
  refine (Record.gives (p := fun r => signed.Restores writeInt room r.start ∧ signed.Restores writeInt room r.stop)
    ?_ ?_).imp fun r h => restores h.1 h.2
  · exact ⟨restores_signed (by decide) (by decide), restores_signed (by decide) (by decide)⟩
  · simp only [record, List.forall_mem_cons]
    exact ⟨.need signed_gives fun _ _ hs hx => ⟨hx, hs.2⟩, .need signed_gives fun _ _ hs hx => ⟨hs.1, hx⟩, by simp⟩

end Range

namespace HeaderMatcher

theorem restores {m : HeaderMatcher} (range : ∀ r ∈ m.range, Range.record.read.Restores Range.toJson (room + 1) r) :
    record.read.Restores toJson (room + 2) m :=
  Record.restores (by decide)
    (.of (restores_text m.name) <|
      .optional (o := m.exact) (fun s _ => restores_text s) (by simp) rfl <|
      .optional (o := m.regex) (fun s _ => restores_text s) (by simp) rfl <|
      .optional (o := m.range) range (by simp [Range.toJson]) rfl <|
      .optional (o := m.present) (fun b _ => restores_bool b) (by simp) rfl <|
      .optional (o := m.start) (fun s _ => restores_text s) (by simp) rfl <|
      .optional (o := m.suffix) (fun s _ => restores_text s) (by simp) rfl <|
      .optional (o := m.contains) (fun s _ => restores_text s) (by simp) rfl <|
      .of (restores_bool m.invert) .nil)
    (by simp [toJson])

theorem gives : record.read.Gives (room + 2) (record.read.Restores toJson (room + 2)) := by
  refine (Record.gives (p := fun m => ∀ r ∈ m.range, Range.record.read.Restores Range.toJson (room + 1) r)
    (by simp [record]) ?_).imp fun m => restores
  simp only [record, List.forall_mem_cons]
  exact ⟨.other fun _ _ h => h, .other fun _ _ h => h, .other fun _ _ h => h,
    .of Range.gives.nullable fun _ _ _ h => h, .other fun _ _ h => h, .other fun _ _ h => h, .other fun _ _ h => h,
    .other fun _ _ h => h, .other fun _ _ h => h, by simp⟩

end HeaderMatcher

namespace Match

theorem restores {m : Match}
    (headers : ∀ h ∈ m.headers, HeaderMatcher.record.read.Restores HeaderMatcher.toJson (room + 2) h) :
    record.read.Restores toJson (room + 4) m :=
  Record.restores (by decide)
    (.optional (o := m.method) (fun s _ => restores_text s) (by simp) rfl <|
      .optional (o := m.service) (fun s _ => restores_text s) (by simp) rfl <|
      .of (restores_bool m.invert) <|
      .of (restores_list headers) .nil)
    (by simp [toJson])

theorem gives : record.read.Gives (room + 4) (record.read.Restores toJson (room + 4)) := by
  refine (Record.gives
    (p := fun m => ∀ h ∈ m.headers, HeaderMatcher.record.read.Restores HeaderMatcher.toJson (room + 2) h)
    (by simp [record]) ?_).imp fun m => restores
  simp only [record, List.forall_mem_cons]
  exact ⟨.other fun _ _ h => h, .other fun _ _ h => h, .other fun _ _ h => h,
    .of HeaderMatcher.gives.list fun _ _ _ h => h, by simp⟩

end Match

namespace ClusterWeight

theorem restores {c : ClusterWeight} (weight : unsigned.Restores (fun n => writeInt n) room c.weight)
    (criteria : ∀ x ∈ c.criteria, Reader.criteria.Restores writeCriteria room x) :
    record.read.Restores toJson (room + 1) c :=
  Record.restores (by decide)
    (.need (restores_text c.name) <| .need weight <|
      .optional (o := c.criteria) criteria (by simp [writeCriteria]) rfl .nil)
    (by simp [toJson])

theorem gives : record.read.Gives (room + 1) (record.read.Restores toJson (room + 1)) := by
  refine (Record.gives (p := fun c => unsigned.Restores (fun n => writeInt n) room c.weight ∧
    ∀ x ∈ c.criteria, Reader.criteria.Restores writeCriteria room x) ?_ ?_).imp fun c h => restores h.1 h.2
  · exact ⟨restores_unsigned (by decide), by simp [record]⟩
  · simp only [record, List.forall_mem_cons]
    exact ⟨.need Gives.trivial fun _ _ h _ => h, .need unsigned_gives fun _ _ hs hx => ⟨hx, hs.2⟩,
      .of criteria_gives.nullable fun _ _ hs hx => ⟨hs.1, fun x h => (hx x h).1⟩, by simp⟩

end ClusterWeight

namespace WeightedClusters

theorem restores {w : WeightedClusters}
    (clusters : ∀ c ∈ w.clusters, ClusterWeight.record.read.Restores ClusterWeight.toJson (room + 1) c) :
    record.read.Restores toJson (room + 3) w :=
  Record.restores (by decide) (.need (restores_list clusters) .nil) rfl

theorem gives : record.read.Gives (room + 3) (record.read.Restores toJson (room + 3)) := by
  refine (Record.gives
    (p := fun w => ∀ c ∈ w.clusters, ClusterWeight.record.read.Restores ClusterWeight.toJson (room + 1) c)
    (by simp [record]) ?_).imp fun w => restores
  simp only [record, List.forall_mem_cons]
  exact ⟨.need ClusterWeight.gives.list fun _ _ _ h => h, by simp⟩

end WeightedClusters

namespace RateLimitAction

theorem restores_headers (p : String × String) : headersRecord.read.Restores
    (fun p => .object [("header_name", .text p.1), ("descriptor_key", .text p.2)]) (room + 1) p :=
  Record.restores (by decide) (.need (restores_text p.1) <| .need (restores_text p.2) .nil) rfl

theorem restores_value (s : String) :
    valueRecord.read.Restores (fun s => .object [("descriptor_value", .text s)]) (room + 1) s :=
  Record.restores (by decide) (.need (restores_text s) .nil) rfl

theorem restores (a : RateLimitAction) : (Variant.read variants).Restores toJson (room + 2) a := by
  cases a
  case sourceCluster             => exact ⟨rfl, .text⟩
  case destinationCluster        => exact ⟨rfl, .text⟩
  case requestHeaders header key =>
    have h : headersRecord.read.Restores _ (room + 1) (header, key) := restores_headers (header, key)
    exact ⟨Variant.read_eq_ok rfl (Except.map_eq_ok_iff.mpr ⟨_, h.read, rfl⟩), .object (by simp)⟩
  case genericKey value          =>
    have h : valueRecord.read.Restores _ (room + 1) value := restores_value value
    exact ⟨Variant.read_eq_ok rfl (Except.map_eq_ok_iff.mpr ⟨_, h.read, rfl⟩), .object (by simp)⟩

end RateLimitAction

namespace RateLimit

theorem restores {l : RateLimit} (stage : unsigned.Restores (fun n => writeInt n) (room + 3) l.stage) :
    record.read.Restores toJson (room + 4) l :=
  Record.restores (by decide)
    (.of stage <| .of (restores_list fun a _ => RateLimitAction.restores a) .nil) rfl

theorem gives : record.read.Gives (room + 4) (record.read.Restores toJson (room + 4)) := by
  refine (Record.gives (p := fun l => unsigned.Restores (fun n => writeInt n) (room + 3) l.stage)
    (restores_unsigned (by decide)) ?_).imp fun l => restores
  simp only [record, List.forall_mem_cons]
  exact ⟨.of unsigned_gives fun _ _ _ h => h, .other fun _ _ h => h, by simp⟩

end RateLimit

namespace Action

theorem restores {a : Action}
    (clusters : ∀ w ∈ a.weightedClusters, WeightedClusters.record.read.Restores WeightedClusters.toJson (room + 5) w)
    (criteria : ∀ c ∈ a.criteria, Reader.criteria.Restores writeCriteria (room + 5) c)
    (rateLimits : ∀ l ∈ a.rateLimits, RateLimit.record.read.Restores RateLimit.toJson (room + 4) l) :
    record.read.Restores toJson (room + 6) a :=
  Record.restores (by decide)
    (.optional (o := a.cluster) (fun s _ => restores_text s) (by simp) rfl <|
      .optional (o := a.weightedClusters) clusters (by simp [WeightedClusters.toJson]) rfl <|
      .optional (o := a.clusterHeader) (fun s _ => restores_text s) (by simp) rfl <|
      .optional (o := a.criteria) criteria (by simp [writeCriteria]) rfl <|
      .of (restores_list rateLimits) <|
      .of (restores_bool a.stripService) .nil)
    (by simp [toJson])

theorem gives : record.read.Gives (room + 6) (record.read.Restores toJson (room + 6)) := by
  refine (Record.gives (p := fun a =>
      (∀ w ∈ a.weightedClusters, WeightedClusters.record.read.Restores WeightedClusters.toJson (room + 5) w) ∧
      (∀ c ∈ a.criteria, Reader.criteria.Restores writeCriteria (room + 5) c) ∧
      ∀ l ∈ a.rateLimits, RateLimit.record.read.Restores RateLimit.toJson (room + 4) l)
    (by simp [record]) ?_).imp fun a h => restores h.1 h.2.1 h.2.2
  simp only [record, List.forall_mem_cons]
  exact ⟨.other fun _ _ h => h, .of WeightedClusters.gives.nullable fun _ _ hs hx => ⟨hx, hs.2⟩,
    .other fun _ _ h => h, .of criteria_gives.nullable fun _ _ hs hx => ⟨hs.1, fun c h => (hx c h).1, hs.2.2⟩,
    .of RateLimit.gives.list fun _ _ hs hx => ⟨hs.1, hs.2.1, hx⟩, .other fun _ _ h => h, by simp⟩

end Action

namespace Route

theorem restores {r : Route} (takes : Match.record.read.Restores Match.toJson (room + 6) r.takes)
    (action : Action.record.read.Restores Action.toJson (room + 6) r.action) :
    record.read.Restores toJson (room + 7) r :=
  Record.restores (by decide) (.need takes <| .need action .nil) rfl

theorem gives : record.read.Gives (room + 7) (record.read.Restores toJson (room + 7)) := by
  refine (Record.gives (p := fun r => Match.record.read.Restores Match.toJson (room + 6) r.takes ∧
    Action.record.read.Restores Action.toJson (room + 6) r.action) ?_ ?_).imp fun r h => restores h.1 h.2
  · exact ⟨Match.restores (by simp [record]), Action.restores (by simp [record]) (by simp [record]) (by simp [record])⟩
  · simp only [record, List.forall_mem_cons]
    exact ⟨.need Match.gives fun _ _ hs hx => ⟨hx, hs.2⟩, .need Action.gives fun _ _ hs hx => ⟨hs.1, hx⟩, by simp⟩

end Route

namespace Routes

theorem restores {r : Routes} (routes : ∀ x ∈ r.routes, Route.record.read.Restores Route.toJson (room + 7) x) :
    record.read.Restores toJson (room + 9) r :=
  Record.restores (by decide) (.of (restores_text r.name) <| .of (restores_list routes) .nil) rfl

theorem gives : record.read.Gives (room + 9) (record.read.Restores toJson (room + 9)) := by
  refine (Record.gives (p := fun r => ∀ x ∈ r.routes, Route.record.read.Restores Route.toJson (room + 7) x)
    (by simp [record]) ?_).imp fun r => restores
  simp only [record, List.forall_mem_cons]
  exact ⟨.other fun _ _ h => h, .of Route.gives.list fun _ _ _ h => h, by simp⟩

end Routes

namespace Router

theorem restores {r : Router} (routes : Routes.record.read.Restores Routes.toJson (room + 9) r.routes) :
    record.read.Restores toJson (room + 10) r :=
  Record.restores (by decide) (.of (restores_text r.statPrefix) <| .of routes .nil) rfl

theorem gives : record.read.Gives (room + 10) (record.read.Restores toJson (room + 10)) := by
  refine (Record.gives (p := fun r => Routes.record.read.Restores Routes.toJson (room + 9) r.routes)
    (Routes.restores (by simp [record])) ?_).imp fun r => restores
  simp only [record, List.forall_mem_cons]
  exact ⟨.other fun _ _ h => h, .of Routes.gives fun _ _ _ h => h, by simp⟩

end Router

section

open Json (Number Numbers)

variable {p : Number → Prop}

theorem forall_member?_iff {name : String} {write : α → Json} {o : Option α} :
    (∀ m ∈ member? name write o, m.2.Numbers p) ↔ ∀ x ∈ o, (write x).Numbers p := by
  cases o <;> simp [member?]

theorem numbers_writeList_iff {write : α → Json} {xs : List α} :
    (writeList write xs).Numbers p ↔ ∀ x ∈ xs, (write x).Numbers p := by
  simp [writeList]

-- Besides the numbers of criteria, all numbers that are written are integers.
variable (hp : ∀ n, p (.integer n))

include hp

theorem numbers_writeInt (n : Int) : (writeInt n).Numbers p :=
  .number (hp n)

theorem HeaderMatcher.numbers_toJson (m : HeaderMatcher) : m.toJson.Numbers p := by
  simp only [toJson, Numbers.object_iff, List.forall_mem_append, List.forall_mem_singleton, forall_member?_iff,
    Range.toJson]
  simp [numbers_writeInt hp]

theorem Match.numbers_toJson (m : Match) : m.toJson.Numbers p := by
  simp only [toJson, Numbers.object_iff, List.forall_mem_append, List.forall_mem_cons, forall_member?_iff,
    numbers_writeList_iff]
  simp [HeaderMatcher.numbers_toJson hp]

theorem RateLimit.numbers_toJson (l : RateLimit) : l.toJson.Numbers p := by
  have action (a : RateLimitAction) : a.toJson.Numbers p := by
    cases a <;> simp [RateLimitAction.toJson]
  simp [toJson, numbers_writeList_iff, numbers_writeInt hp, action]

theorem ClusterWeight.numbers_toJson (c : ClusterWeight) (h : ∀ x ∈ c.criteria, (writeCriteria x).Numbers p) :
    c.toJson.Numbers p := by
  simp only [toJson, Numbers.object_iff, List.forall_mem_append, List.forall_mem_cons, forall_member?_iff]
  simpa [numbers_writeInt hp] using h

theorem Action.numbers_toJson (a : Action) (h : ∀ c ∈ a.allCriteria, (writeCriteria c).Numbers p) :
    a.toJson.Numbers p := by
  have clusters : ∀ w ∈ a.weightedClusters, w.toJson.Numbers p := by
    intro w hw
    simp only [WeightedClusters.toJson, Numbers.object_iff, List.forall_mem_singleton, numbers_writeList_iff]
    exact fun c hc => c.numbers_toJson hp fun x hx => h x (mem_allCriteria_of_cluster hw hc hx)
  have criteria : ∀ c ∈ a.criteria, (writeCriteria c).Numbers p := fun c hc => h c (mem_allCriteria hc)
  simp only [toJson, Numbers.object_iff, List.forall_mem_append, List.forall_mem_cons, forall_member?_iff,
    numbers_writeList_iff]
  simpa [RateLimit.numbers_toJson hp] using ⟨clusters, criteria⟩

theorem Router.numbers_toJson (r : Router) (h : ∀ c ∈ r.allCriteria, (writeCriteria c).Numbers p) :
    r.toJson.Numbers p := by
  have route : ∀ x ∈ r.routes.routes, x.toJson.Numbers p := by
    intro x hx
    have action := x.action.numbers_toJson hp fun c hc => h c (List.mem_flatMap.mpr ⟨x, hx, hc⟩)
    simpa [Route.toJson, Match.numbers_toJson hp] using action
  simpa [toJson, Routes.toJson, numbers_writeList_iff] using route

end

namespace Router

-- No criteria have a floating-point number in them.
def IsFloatFree (r : Router) : Prop :=
  ∀ c ∈ r.allCriteria, ∀ m ∈ c.entries, m.2.Numbers Json.Number.IsInteger

-- What was parsed is written so that it is parsed again.
theorem parse_render {text : String} {r : Router} (h : parse text = .ok r) (hf : r.IsFloatFree) :
    parse r.toJson.render = .ok r := by
  have restored : record.read.Restores toJson maxNesting r := of_parse (gives : record.read.Gives (117 + 10) _) h
  have integers : r.toJson.Numbers Json.Number.IsInteger :=
    r.numbers_toJson (fun _ => trivial) fun c hc => .object (hf c hc)
  have hw : Json.Document.read r.toJson.render = ⟨.ofJson r.toJson, false⟩ :=
    Json.Document.read_render (restored.fits.and integers)
  rw [parse, Config.parse, hw]
  exact Except.bind_eq_ok_iff.mpr ⟨r, restored.read, rfl⟩

-- A configuration, and a text of it that is written as arrays throughout.
def edge : Router where
  statPrefix := "edge"
  routes     := ⟨"main", [{
    takes  := { method := some "pi\"ng\n", headers := [{ name := "x-shard", range := some ⟨-1, 8⟩ }] }
    action := { weightedClusters := some ⟨[⟨"a", 2, some ⟨[("stage", .text "canary")]⟩⟩]⟩ } }]⟩

def positional : Json :=
  .array [.text "edge", .array [.text "main", .array [.array [
    .array [.text "pi\"ng\n", .null, .bool false, .array [
      .array [.text "x-shard", .null, .null, .array [writeInt (-1), writeInt 8]]]],
    .array [.null, .array [.array [.array [.text "a", writeInt 2, .object [("stage", .text "canary")]]]]]]]]]

theorem parse_positional : parse positional.render = .ok edge := by
  have hw : positional.Numbers Json.Number.IsWritten := by
    simp [positional, writeInt, Json.Number.IsWritten, Json.Number.Fits, Json.Number.IsInteger]
  rw [parse, Config.parse, Json.Document.read_render hw]
  rfl

theorem isFloatFree_edge : edge.IsFloatFree := by
  simp [IsFloatFree, edge, allCriteria, Routes.allCriteria, Action.allCriteria]

theorem parse_render_edge : parse positional.render = .ok edge ∧ edge.IsFloatFree ∧
    parse edge.toJson.render = .ok edge :=
  ⟨parse_positional, isFloatFree_edge, parse_render parse_positional isFloatFree_edge⟩

end Router

end RpcProxy.Config
