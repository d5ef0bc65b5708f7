import Mathlib
import RpcProxy.Regex.Reading

namespace RpcProxy.Regex

-- Takes something from the front of a text, and returns it with what follows.
abbrev Reader (α : Type) :=
  List Char → Option (α × List Char)

-- What may stand behind a text: a closing parenthesis and anything, or nothing.
inductive IsTail : List Char → Prop
  | none : IsTail []
  | close : IsTail (')' :: u)

namespace Reader

-- What is read takes the parenthesis behind a text.
def Exceeds (f : Reader α) (cs : List Char) : Prop :=
  ∀ u x rest, f (cs ++ ')' :: u) = some (x, rest) → rest <:+ u

-- What becomes of the front of a text where something stands behind it.
inductive Local (f : Reader α) (cs : List Char) : Prop
  | same (x : α) (rest : List Char) (suffix : rest <:+ cs) (h : ∀ t, IsTail t → f (cs ++ t) = some (x, rest ++ t))
  -- At the end of the text a comment is open, which ends with its line.
  | comment (x : α) (h : ∀ t, IsTail t → '\n' ∉ t → f (cs ++ t) = some (x, [])) (exceeds : Exceeds f cs)
  | cut (h : f cs = none) (exceeds : Exceeds f cs)

-- Nothing is put in front of what follows.
def Consumes (f : Reader α) : Prop :=
  ∀ cs x rest, f cs = some (x, rest) → rest <:+ cs

variable {α β : Type} {f f' : Reader α} {g : α → Reader β} {cs : List Char} {c : Char}

theorem Local.suffix (h : Local f cs) {x : α} {rest : List Char} (hf : f cs = some (x, rest)) : rest <:+ cs := by
  cases h
  case same x' rest' suffix h =>
    have h := h [] .none
    simp only [List.append_nil, hf, Option.some.injEq, Prod.mk.injEq] at h
    exact h.2 ▸ suffix
  case comment x' h _         =>
    have h := h [] .none List.not_mem_nil
    simp only [List.append_nil, hf, Option.some.injEq, Prod.mk.injEq] at h
    exact h.2 ▸ List.nil_suffix
  case cut h _                => simp [hf] at h

theorem Consumes.of_local (h : ∀ cs, Local f cs) : Consumes f :=
  fun cs _ _ hf => (h cs).suffix hf

-- What is read from a part of the text.
theorem Local.shift {part : List Char} (h : Local f' part) (hs : part <:+ cs)
    (he : ∀ t, IsTail t → f (cs ++ t) = f' (part ++ t)) : Local f cs := by
  have hx : Exceeds f' part → Exceeds f cs := fun hx u x rest hf => hx u x rest (he _ .close ▸ hf)
  cases h
  case same x rest suffix h => exact .same x rest (suffix.trans hs) fun t ht => (he t ht).trans (h t ht)
  case comment x h exceeds  => exact .comment x (fun t ht hn => (he t ht).trans (h t ht hn)) (hx exceeds)
  case cut h exceeds        =>
    refine .cut ?_ (hx exceeds)
    have he := he [] .none
    simp only [List.append_nil] at he
    exact he.trans h

theorem Local.congr (h : Local f' cs) (he : ∀ t, IsTail t → f (cs ++ t) = f' (cs ++ t)) : Local f cs :=
  h.shift (List.suffix_refl cs) he

theorem Local.pure (x : α) (cs : List Char) : Local (fun cs => some (x, cs)) cs :=
  .same x cs (List.suffix_refl cs) fun _ _ => rfl

theorem Local.none (h : ∀ t, IsTail t → f (cs ++ t) = .none) : Local f cs := by
  refine .cut ?_ fun u x rest hf => ?_
  · simpa using h [] .none
  · simp [h _ .close] at hf

-- At the end of a text there is nothing to read.
theorem Local.nil (h : f [] = .none) (he : ∀ u x rest, f (')' :: u) = some (x, rest) → rest <:+ u) : Local f [] :=
  .cut h he

theorem Local.cons (h : Local (fun cs => f (c :: cs)) cs) : Local f (c :: cs) :=
  h.shift (List.suffix_cons c cs) fun _ _ => rfl

theorem Local.of_cons (h : f [] = .none) (hc : ∀ c cs, Local (fun cs => f (c :: cs)) cs) (cs : List Char) :
    Local f cs := by
  cases cs
  case nil       => exact .nil h fun u _ _ hf => (hc ')' u).suffix hf
  case cons c cs => exact .cons (hc c cs)

theorem Exceeds.bind (h : Exceeds f cs) (hg : ∀ x, Consumes (g x)) :
    Exceeds (fun cs => (f cs).bind fun p => g p.1 p.2) cs := by
  intro u y rest hf
  obtain ⟨⟨x, rest'⟩, hf, hy⟩ := Option.bind_eq_some_iff.mp hf
  exact (hg x rest' y rest hy).trans (h u x rest' hf)

-- What is left before a parenthesis was left before it stood there.
theorem Local.truncate (h : Local f cs) {u : List Char} (rest : List Char)
    (hf : f (cs ++ ')' :: u) = some (x, rest ++ ')' :: u)) :
    f cs = some (x, rest) := by
  have hx (he : Exceeds f cs) : False := by
    have hl := (he u x _ hf).length_le
    simp only [List.length_append, List.length_cons] at hl
    omega
  cases h
  case same x' rest' suffix h =>
    obtain ⟨rfl, hr⟩ := Prod.mk.inj (Option.some.inj ((h _ .close).symm.trans hf))
    obtain rfl := List.append_cancel_right hr
    simpa using h [] .none
  case comment exceeds        => exact absurd exceeds hx
  case cut exceeds            => exact absurd exceeds hx

-- One reader after the other.
theorem Local.bind (hf : Local f cs) (hg : ∀ x rest, f cs = some (x, rest) → Local (g x) rest)
    (hc : ∀ x, Consumes (g x)) : Local (fun cs => (f cs).bind fun p => g p.1 p.2) cs := by
  cases hf
  case same x rest suffix h =>
    have he (t : List Char) (ht : IsTail t) : ((f (cs ++ t)).bind fun p => g p.1 p.2) = g x (rest ++ t) := by
      simp [h t ht]
    cases hg x rest (by simpa using h [] .none)
    case same y rest' suffix' h' => exact .same y rest' (suffix'.trans suffix) fun t ht => (he t ht).trans (h' t ht)
    case comment y h' exceeds    =>
      exact .comment y (fun t ht hn => (he t ht).trans (h' t ht hn)) fun u z r hz => exceeds u z r (he _ .close ▸ hz)
    case cut h' exceeds          =>
      refine .cut ?_ fun u z r hz => exceeds u z r (he _ .close ▸ hz)
      simpa [h'] using he [] .none
  case comment x h exceeds  =>
    have he (t : List Char) (ht : IsTail t) (hn : '\n' ∉ t) : ((f (cs ++ t)).bind fun p => g p.1 p.2) = g x [] := by
      simp [h t ht hn]
    cases hy : g x []
    case none   =>
      refine .cut ?_ (exceeds.bind hc)
      simpa [hy] using he [] .none List.not_mem_nil
    case some p =>
      have hr : p.2 = [] := List.suffix_nil.mp (hc x [] p.1 p.2 hy)
      refine .comment p.1 (fun t ht hn => ?_) (exceeds.bind hc)
      rw [he t ht hn, hy, ← hr]
  case cut h exceeds        => exact .cut (by simp [h]) (exceeds.bind hc)

theorem Local.bind_all (hf : Local f cs) (hg : ∀ x cs, Local (g x) cs) :
    Local (fun cs => (f cs).bind fun p => g p.1 p.2) cs :=
  hf.bind (fun x rest _ => hg x rest) fun x => .of_local (hg x)

-- What is read is taken for something else, or refused.
theorem Local.filterMap (hf : Local f cs) (F : α → Option β) :
    Local (fun cs => (f cs).bind fun p => (F p.1).map (·, p.2)) cs := by
  refine hf.bind_all (g := fun x cs => (F x).map (·, cs)) fun x cs => ?_
  cases hx : F x
  case none   => exact .none fun _ _ => by simp
  case some y => exact .pure y cs

theorem Local.map (hf : Local f cs) (F : α → β) : Local (fun cs => (f cs).map fun p => (F p.1, p.2)) cs := by
  refine (hf.filterMap fun x => some (F x)).congr fun t _ => ?_
  cases f (cs ++ t) <;> rfl

-- Reads part after part, up to one that gives a result. The number bounds that of the parts.
def loop (g : σ → Reader (α ⊕ σ)) : Nat → σ → Reader α
  | 0,     _, _  => .none
  | n + 1, s, cs => (g s cs).bind fun p => p.1.elim (fun x => some (x, p.2)) fun s => loop g n s p.2

-- All parts but the last one take at least one character.
def Shrinks (g : σ → Reader (α ⊕ σ)) : Prop :=
  ∀ s cs s' rest, g s cs = some (.inr s', rest) → rest.length < cs.length

section

variable {σ : Type} {g : σ → Reader (α ⊕ σ)}

-- The bound does not matter if it is that of the text.
theorem loop_bound (hs : Shrinks g) {m n : Nat} {s : σ} (hm : cs.length < m) (hn : cs.length < n) :
    loop g m s cs = loop g n s cs := by
  induction m generalizing n s cs
  case zero      => exact absurd hm (Nat.not_lt_zero _)
  case succ m ih =>
    obtain ⟨n, rfl⟩ := Nat.exists_eq_add_one.mpr (Nat.zero_lt_of_lt hn)
    simp only [loop]
    cases hg : g s cs
    case none   => rfl
    case some p =>
      obtain ⟨a | s', rest⟩ := p
      case inl => rfl
      case inr =>
        have hl := hs s cs s' rest hg
        exact ih (hl.trans_le (Nat.le_of_lt_succ hm)) (hl.trans_le (Nat.le_of_lt_succ hn))

theorem consumes_loop (hg : ∀ s cs, Local (g s) cs) (n : Nat) (s : σ) : Consumes (loop g n s) := by
  induction n generalizing s
  case zero      => exact fun _ _ _ h => by simp [loop] at h
  case succ n ih =>
    intro cs x rest h
    obtain ⟨⟨a | s', rest'⟩, hr, h⟩ := Option.bind_eq_some_iff.mp h
    case inl =>
      obtain rfl : rest' = rest := congrArg Prod.snd (Option.some.inj h)
      exact (hg s cs).suffix hr
    case inr => exact (ih s' rest' x rest h).trans ((hg s cs).suffix hr)

theorem Local.loop (hg : ∀ s cs, Local (g s) cs) (hs : Shrinks g) (s : σ) (cs : List Char) :
    Local (fun cs => loop g (cs.length + 1) s cs) cs := by
  induction h : cs.length using Nat.strong_induction_on generalizing s cs
  case h n ih =>
  subst h
  have hb := (hg s cs).bind
    (g := fun x cs => x.elim (fun a => some (a, cs)) fun s => Reader.loop g (cs.length + 1) s cs)
    (fun x rest h => ?continues) fun x => ?consumes
  case continues =>
    cases x
    case inl a => exact .pure a rest
    case inr s => exact ih _ (hs _ _ _ _ h) s rest rfl
  case consumes =>
    cases x
    case inl a => exact .of_local fun cs => .pure a cs
    case inr s => exact fun cs x rest h => consumes_loop hg _ s cs x rest h
  refine hb.congr fun t _ => ?_
  simp only [Reader.loop]
  cases hr : g s (cs ++ t)
  case none   => rfl
  case some p =>
    obtain ⟨a | s', rest⟩ := p
    case inl => rfl
    case inr => exact loop_bound hs (hs _ _ _ _ hr) (Nat.lt_succ_self _)

end

end Reader

open Reader

variable {flags : Flags} {cs t : List Char} {c : Char}

@[simp]
theorem whiteSpace_close : Unicode.Property.whiteSpace ')' = false :=
  rfl

theorem dropBlanks_suffix (comment : Bool) (cs : List Char) : dropBlanks comment cs <:+ cs := by
  induction cs generalizing comment
  case nil          => exact List.suffix_refl []
  case cons c cs ih =>
    have hs (comment : Bool) : dropBlanks comment cs <:+ c :: cs := (ih comment).trans (List.suffix_cons c cs)
    simp only [dropBlanks]
    split_ifs
    all_goals first | exact hs _ | exact List.suffix_refl _

-- A comment goes on to the end of a line.
theorem dropBlanks_comment (h : '\n' ∉ t) : dropBlanks true t = [] := by
  induction t
  case nil         => rfl
  case cons c t ih =>
    simp only [List.mem_cons, not_or] at h
    have hc : (c != '\n') = true := bne_iff_ne.mpr (Ne.symm h.1)
    simp [dropBlanks, hc, ih h.2]

theorem dropBlanks_tail (h : IsTail t) : dropBlanks false t = t := by
  cases h
  case none  => rfl
  case close => simp [dropBlanks]

theorem dropBlanks_append (comment : Bool) (cs : List Char) :
    (∀ t, IsTail t → dropBlanks comment (cs ++ t) = dropBlanks comment cs ++ t) ∨
      dropBlanks comment cs = [] ∧ ∀ t, dropBlanks comment (cs ++ t) = dropBlanks true t := by
  induction cs generalizing comment
  case nil          =>
    cases comment
    case false => exact .inl fun t ht => dropBlanks_tail ht
    case true  => exact .inr ⟨rfl, fun _ => rfl⟩
  case cons c cs ih =>
    simp only [dropBlanks, List.cons_append]
    split_ifs
    all_goals first | exact ih _ | exact .inl fun _ _ => rfl

theorem Flags.next_suffix (flags : Flags) (cs : List Char) : flags.next cs <:+ cs := by
  unfold next
  split
  · exact dropBlanks_suffix false cs
  · exact List.suffix_refl cs

theorem Flags.next_local (flags : Flags) (cs : List Char) : Local (fun cs => some ((), flags.next cs)) cs := by
  cases hv : flags.verbose
  case false => exact (Local.pure () cs).congr fun t _ => by simp [next, hv]
  case true  =>
    simp only [next, hv, if_true]
    rcases dropBlanks_append false cs with h | ⟨-, h⟩
    case inl => exact .same () _ (dropBlanks_suffix false cs) fun t ht => by rw [h t ht]
    case inr =>
      refine .comment () (fun t _ hn => by rw [h t, dropBlanks_comment hn]) fun u x rest hr => ?_
      obtain rfl : dropBlanks true (')' :: u) = rest := by simpa [h] using hr
      exact dropBlanks_suffix true u

@[simp]
theorem Flags.next_nil (flags : Flags) : flags.next [] = [] := by
  simp [next, dropBlanks]

@[simp]
theorem Flags.next_close (flags : Flags) (u : List Char) : flags.next (')' :: u) = ')' :: u := by
  simp [next, dropBlanks]

@[simp]
theorem Flags.next_brace (flags : Flags) (cs : List Char) : flags.next ('\x7b' :: cs) = '\x7b' :: cs := by
  have hb : Unicode.Property.whiteSpace '\x7b' = false := rfl
  simp [next, dropBlanks, hb]

-- What comes after blanks is no blank.
theorem dropBlanks_cons {comment : Bool} (h : dropBlanks comment cs = c :: t) (u : List Char) :
    dropBlanks false (c :: u) = c :: u := by
  induction cs generalizing comment
  case nil          => simp [dropBlanks] at h
  case cons d cs ih =>
    simp only [dropBlanks] at h
    split_ifs at h with hc hb hd
    case neg =>
      obtain rfl := (List.cons.inj h).1
      simp [dropBlanks, hb, hd]
    all_goals exact ih h

theorem Flags.next_cons (h : flags.next cs = c :: t) (u : List Char) : flags.next (c :: u) = c :: u := by
  unfold next at h ⊢
  split_ifs at h ⊢
  case pos => exact dropBlanks_cons h u
  case neg => rfl

@[simp]
theorem Flags.next_next (flags : Flags) (cs : List Char) : flags.next (flags.next cs) = flags.next cs := by
  cases h : flags.next cs
  case nil  => exact flags.next_nil
  case cons => exact next_cons h _

theorem Flags.next_append (h : flags.next cs ≠ []) (ht : IsTail t) : flags.next (cs ++ t) = flags.next cs ++ t := by
  unfold next at h ⊢
  split_ifs at h ⊢
  case pos =>
    rcases dropBlanks_append false cs with ha | ⟨hn, -⟩
    case inl => exact ha t ht
    case inr => exact absurd hn h
  case neg => rfl

-- At the end of a text there may be a comment, or there is none.
theorem Flags.next_append_of_nil (h : flags.next cs = []) :
    (∀ t, IsTail t → flags.next (cs ++ t) = t) ∨ ∀ t, IsTail t → '\n' ∉ t → flags.next (cs ++ t) = [] := by
  cases flags.next_local cs
  case same x rest suffix hs  =>
    obtain rfl : rest = [] := by simpa [h] using (hs [] .none).symm
    exact .inl fun t ht => by simpa using hs t ht
  case comment x hc exceeds   => exact .inr fun t ht hn => by simpa using hc t ht hn
  case cut hn _               => simp at hn

theorem Flags.next_open (h : flags.next cs = []) (u : List Char) :
    flags.next (cs ++ ')' :: u) = ')' :: u ∨ flags.next (cs ++ ')' :: u) <:+ u := by
  cases flags.next_local cs
  case same x rest suffix hs  =>
    obtain rfl : rest = [] := by simpa [h] using (hs [] .none).symm
    exact .inl (by simpa using hs _ .close)
  case comment x hc exceeds   => exact .inr (exceeds u () _ rfl)
  case cut hn _               => simp at hn

-- Blanks come before what is read.
theorem Reader.Local.next {f : Reader α} (hf : ∀ cs, Local f cs) (flags : Flags) (cs : List Char) :
    Local (fun cs => f (flags.next cs)) cs :=
  (flags.next_local cs).bind_all (g := fun _ => f) fun _ => hf

-- What is read after blanks, by its first character.
theorem Reader.Local.afterBlanks {f : Reader α} (flags : Flags) (next : ∀ cs, f (flags.next cs) = f cs)
    (nil : Local f []) (cons : ∀ c cs, (∀ t, flags.next (c :: t) = c :: t) → Local f (c :: cs)) (cs : List Char) :
    Local f cs := by
  have hf (cs : List Char) : Local f (flags.next cs) := by
    cases h : flags.next cs
    case nil       => exact nil
    case cons c cs => exact cons c cs (Flags.next_cons h)
  have hc : Consumes f := fun cs x rest h =>
    ((hf cs).suffix ((next cs).trans h)).trans (flags.next_suffix cs)
  have hb := (flags.next_local cs).bind (g := fun _ => f) (fun _ rest h => ?continues) fun _ => hc
  case continues =>
    obtain rfl : flags.next cs = rest := by simpa using h
    exact hf cs
  exact hb.congr fun t _ => (next _).symm

-- Blanks come after what is read.
theorem Reader.Local.andNext {f : Reader α} (hf : Local f cs) (flags : Flags) :
    Local (fun cs => (f cs).map fun p => (p.1, flags.next p.2)) cs := by
  have hg (x : α) (cs : List Char) : Local (fun cs => some (x, flags.next cs)) cs :=
    (flags.next_local cs).map fun _ => x
  refine (hf.bind_all hg).congr fun t _ => ?_
  cases f (cs ++ t) <;> rfl

end RpcProxy.Regex
