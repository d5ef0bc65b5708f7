import RpcProxy.Exchange.Surroundings

namespace RpcProxy

-- The effects of telling a host how it fares, if it is known.
def verdicts (host? : Option Host) (verdict : Verdict) : List Effect :=
  (host?.map (.judged · verdict)).toList

-- The effects of giving a connection back, if there is one.
def releases (connection? : Option ConnectionId) : List Effect :=
  (connection?.map .released).toList

-- The effects of closing a connection without flushing it, if there is one.
def closures (connection? : Option ConnectionId) : List Effect :=
  (connection?.map (.closed · .noFlush)).toList

@[simp]
theorem verdicts_none {v : Verdict} : verdicts none v = [] :=
  rfl

@[simp]
theorem verdicts_some {host : Host} {v : Verdict} : verdicts (some host) v = [.judged host v] :=
  rfl

@[simp]
theorem releases_none : releases none = [] :=
  rfl

@[simp]
theorem releases_some {id : ConnectionId} : releases (some id) = [.released id] :=
  rfl

@[simp]
theorem closures_none : closures none = [] :=
  rfl

@[simp]
theorem closures_some {id : ConnectionId} : closures (some id) = [.closed id .noFlush] :=
  rfl

section

variable {p : Effect → Bool} {host? : Option Host} {v : Verdict} {id? : Option ConnectionId}

-- A filter that does not look at the value.
@[simp]
theorem filter_true {o : Option α} : o.filter (fun _ => true) = o := by
  cases o <;> rfl

@[simp]
theorem filter_false {o : Option α} : o.filter (fun _ => false) = none := by
  cases o <;> rfl

@[simp]
theorem flatMap_nil {l : List α} : (l.flatMap fun _ => ([] : List β)) = [] :=
  List.flatMap_eq_nil_iff.mpr fun _ _ => rfl

@[simp]
theorem filter_verdicts :
    (verdicts host? v).filter p = verdicts (host?.filter fun host => p (.judged host v)) v := by
  simp only [verdicts, ← Option.toList_filter, Option.filter_map]
  rfl

@[simp]
theorem filter_releases : (releases id?).filter p = releases (id?.filter fun id => p (.released id)) := by
  simp only [releases, ← Option.toList_filter, Option.filter_map]
  rfl

@[simp]
theorem filter_closures :
    (closures id?).filter p = closures (id?.filter fun id => p (.closed id .noFlush)) := by
  simp only [closures, ← Option.toList_filter, Option.filter_map]
  rfl

-- What is looked for is among the effects that a filter keeps.
theorem filterMap_of_filter {es : List Effect} {f : Effect → Option α} (h : ∀ e, p e = false → f e = none) :
    (es.filter p).filterMap f = es.filterMap f := by
  induction es
  case nil          => rfl
  case cons e es ih => cases he : p e <;> simp [he, ih, h, List.filterMap_cons]

end

namespace Shared

variable {s s' : Shared} {e : Effect} {es : List Effect} {id : ConnectionId} {id? : Option ConnectionId}
  {ref : StateRef} {host? : Option Host} {v : Verdict}

@[simp]
theorem emit_transcript : (s.emit e).transcript = s.transcript ++ [e] :=
  rfl

@[simp]
theorem emit_connections : (s.emit e).connections = s.connections :=
  rfl

@[simp]
theorem forget_transcript : (s.forget id).transcript = s.transcript :=
  rfl

@[simp]
theorem forget_connections : (s.forget id).connections = s.connections.remove id :=
  rfl

@[simp]
theorem upgrade_transcript : (s.upgrade ref).transcript = s.transcript :=
  rfl

@[simp]
theorem release_transcript : (s.release id?).transcript = s.transcript ++ releases id? := by
  cases id? <;> simp [release]

@[simp]
theorem release_connections : (s.release id?).connections = s.connections := by
  cases id? <;> rfl

@[simp]
theorem judge_transcript : (s.judge host? v).transcript = s.transcript ++ verdicts host? v := by
  cases host? <;> simp [judge]

@[simp]
theorem judge_connections : (s.judge host? v).connections = s.connections := by
  cases host? <;> rfl

-- The effects from one state to a later one.
def since (s s' : Shared) : List Effect :=
  s'.transcript.drop s.transcript.length

theorem since_eq (h : s'.transcript = s.transcript ++ es) : s.since s' = es := by
  simp [since, h]

-- A later state, with what a filter keeps of the effects until then.
def Shows (p : Effect → Bool) (s s' : Shared) (shown : List Effect) : Prop :=
  ∃ es, s'.transcript = s.transcript ++ es ∧ es.filter p = shown

namespace Shows

variable {p : Effect → Bool} {s s' s'' : Shared} {shown shown' : List Effect} {e : Effect}

theorem refl (s : Shared) : s.Shows p s [] :=
  ⟨[], by simp, rfl⟩

theorem trans (h : s.Shows p s' shown) (h' : s'.Shows p s'' shown') : s.Shows p s'' (shown ++ shown') := by
  obtain ⟨es, ht, hs⟩ := h
  obtain ⟨es', ht', hs'⟩ := h'
  exact ⟨es ++ es', by simp [ht, ht'], by simp [hs, hs']⟩

-- An effect that is not kept may come before or after.
theorem emit (h : (s.emit e).Shows p s' shown) (he : p e = false) : s.Shows p s' shown := by
  obtain ⟨es, ht, hs⟩ := h
  exact ⟨e :: es, by simp [ht], by simpa [he] using hs⟩

theorem pass (h : s.Shows p s' shown) (he : p e = false) : s.Shows p (s'.emit e) shown := by
  have hidden : s'.Shows p (s'.emit e) [] := ⟨[e], rfl, by simp [he]⟩
  simpa using h.trans hidden

theorem add (h : s.Shows p s' shown) (e : Effect) (he : p e) : s.Shows p (s'.emit e) (shown ++ [e]) :=
  h.trans ⟨[e], rfl, by simp [he]⟩

theorem since (h : s.Shows p s' shown) : (s.since s').filter p = shown := by
  obtain ⟨es, ht, hs⟩ := h
  rw [since_eq ht, hs]

theorem mem_since_iff (h : s.Shows p s' shown) (he : p e) : e ∈ s.since s' ↔ e ∈ shown := by
  rw [← h.since, List.mem_filter]
  exact (and_iff_left he).symm

-- What is done later is done after the state in between.
theorem mem_since (h : s.Shows p s' shown) (h' : s'.Shows p s'' shown') (he : e ∈ s'.since s'') : e ∈ s.since s'' := by
  obtain ⟨es, ht, _⟩ := h
  obtain ⟨es', ht', _⟩ := h'
  rw [since_eq ht'] at he
  rw [since_eq (by rw [ht', ht, List.append_assoc])]
  exact List.mem_append_right es he

end Shows

end Shared

end RpcProxy
