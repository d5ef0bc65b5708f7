import Mathlib
import RpcProxy.Proofs.Regex.Escapes

namespace RpcProxy.Regex

open Reader
open RpcProxy.Unicode.Property (whiteSpace)

namespace Brackets

variable {flags : Flags} {cs t : List Char}

-- A position is no item.
theorem readItem?_bind {G : Primitive → Reader α} (hG : ∀ p cs, Local (G p) cs) (hl : ∀ l cs, G (.look l) cs = none)
    (c : Char) (cs : List Char) : Local (fun cs => (readItem? flags (c :: cs)).bind fun p => G p.1 p.2) cs := by
  by_cases hc : c = '\\'
  case neg => exact (hG (.char c false) cs).congr fun t _ => by simp [readItem?]
  case pos => exact hc ▸ Primitive.readEscape?_bind hG hl cs

-- Whether what follows a hyphen ends a bracket or is another hyphen.
def bounds (flags : Flags) (cs : List Char) : Bool :=
  peek? flags cs = some ']' || peek? flags cs = some '-'

theorem bounds_append (ht : IsTail t) : bounds flags (cs ++ t) = bounds flags cs := by
  cases ht
  case none    => simp
  case close u =>
  rw [Bool.eq_iff_iff]
  simp only [bounds, Bool.or_eq_true, decide_eq_true_eq]
  unfold peek?
  split_ifs
  case pos => cases cs <;> simp
  case neg =>
    have hd (cs : List Char) : (cs ++ ')' :: u).dropWhile whiteSpace = cs.dropWhile whiteSpace ++ ')' :: u :=
      dropWhile_append_tail rfl .close cs
    -- A text of blanks alone does not begin with a sign.
    have first (c : Char) (hc : whiteSpace c = false) (h : cs.head? = some c) :
        (cs.dropWhile whiteSpace).head? = some c := by
      cases cs <;> simp_all
    have h₁ := first ']' rfl
    have h₂ := first '-' rfl
    simp only [hd]
    cases hw : cs.dropWhile whiteSpace
    case nil       =>
      simp only [hw, List.head?_nil, reduceCtorEq, imp_false] at h₁ h₂
      simp [h₁, h₂]
    case cons c r =>
      simp only [hw, List.head?_cons, Option.some.injEq] at h₁ h₂
      by_cases hc : c = '#'
      case neg => simp [hc]
      case pos =>
        subst hc
        simp only [Char.reduceEq, imp_false] at h₁ h₂
        simp only [List.cons_append, hd]
        cases r.dropWhile whiteSpace
        case nil  => simp [h₁, h₂]
        case cons => simp

-- What follows the first item of a range, if it is one. The text may end with it.
def rangeFrom? (flags : Flags) (first : Primitive) (cs : List Char) : Option (Item × List Char) :=
  match flags.next cs with
  | '-' :: rest =>
    if bounds flags rest then (item? flags first).map (·, '-' :: rest)
    else (readItem? flags (flags.next rest)).bind fun p => (range? flags first p.1).map (·, p.2)
  | cs          => (item? flags first).map (·, cs)

def nextRange? (flags : Flags) (cs : List Char) : Option (Item × List Char) :=
  (readItem? flags cs).bind fun p => rangeFrom? flags p.1 p.2

theorem rangeFrom?_local (flags : Flags) (first : Primitive) (cs : List Char) :
    Local (rangeFrom? flags first) cs := by
  have item (cs : List Char) : Local (fun cs => (item? flags first).map (·, cs)) cs := by
    cases item? flags first
    case none      => exact .none fun _ _ => rfl
    case some item => exact .pure item cs
  have range (second : Primitive) (cs : List Char) : Local (fun cs => (range? flags first second).map (·, cs)) cs := by
    cases range? flags first second
    case none      => exact .none fun _ _ => rfl
    case some item => exact .pure item cs
  have look (l : Look) (cs : List Char) : (range? flags first (.look l)).map (·, cs) = none := by
    cases first <;> rfl
  refine .afterBlanks flags (fun cs => by simp [rangeFrom?]) ?nil (fun c cs hc => ?cons) cs
  case nil =>
    refine (item []).congr fun t ht => ?_
    cases ht <;> simp [rangeFrom?]
  case cons =>
    by_cases hh : c = '-'
    case neg => exact (item (c :: cs)).congr fun t _ => by simp [rangeFrom?, hc, hh]
    case pos =>
      subst hh
      cases hb : bounds flags cs
      case true  => exact (item ('-' :: cs)).congr fun t ht => by simp [rangeFrom?, hc, bounds_append ht, hb]
      case false =>
        have hr : ∀ cs, Local (fun cs => (readItem? flags cs).bind fun p => (range? flags first p.1).map (·, p.2)) cs :=
          .of_cons rfl (readItem?_bind range look)
        exact .cons ((Local.next hr flags cs).congr fun t ht => by simp [rangeFrom?, hc, bounds_append ht, hb])

theorem nextRange?_cons (flags : Flags) (c : Char) (cs : List Char) :
    Local (fun cs => nextRange? flags (c :: cs)) cs := by
  refine readItem?_bind (rangeFrom?_local flags) (fun l cs => ?_) c cs
  have range (second : Primitive) : range? flags (.look l) second = none := rfl
  have item : item? flags (.look l) = none := rfl
  unfold rangeFrom?
  split <;> simp [range, item]

-- Where nothing can be made of an item at the end of the text, it need not be read.
theorem readRange?_bind (flags : Flags) {k : Item → List Char → Option α} (hk : ∀ item, k item [] = none)
    (cs : List Char) :
    (readRange? flags cs).bind (fun p => k p.1 p.2) = (nextRange? flags cs).bind fun p => k p.1 p.2 := by
  simp only [readRange?, nextRange?, rangeFrom?, Option.bind_assoc, Option.bind_eq_bind]
  congr 1
  funext ⟨first, cs⟩
  cases hn : flags.next cs
  case nil       => cases item? flags first <;> simp [hk]
  case cons c cs =>
    by_cases hc : c = '-'
    case neg => cases item? flags first <;> simp [hc]
    case pos =>
      subst hc
      unfold bounds
      simp only
      split_ifs
      case pos => cases item? flags first <;> rfl
      case neg =>
        cases readItem? flags (flags.next cs)
        case none   => rfl
        case some p => cases h : range? flags first p.1 <;> simp [h]

@[simp]
theorem readHyphens_nil (flags : Flags) (fuel : Nat) (items : List Item) :
    readHyphens flags fuel items [] = (items, []) := by
  cases fuel <;> rfl

-- The next hyphen, or all of them where they end.
def nextHyphen? (flags : Flags) (items : List Item) : Reader (List Item ⊕ List Item)
  | '-' :: cs => some (.inr (Item.mk (.single '-') 0 :: items), flags.next cs)
  | cs        => some (.inl items, cs)

theorem nextHyphen?_local (flags : Flags) (items : List Item) (cs : List Char) :
    Local (nextHyphen? flags items) cs := by
  cases cs
  case nil       =>
    refine .same (.inl items) [] List.nil_suffix fun t ht => ?_
    cases ht <;> simp [nextHyphen?]
  case cons c cs =>
    by_cases hc : c = '-'
    case pos =>
      subst hc
      exact .cons (((flags.next_local cs).map fun _ => .inr (Item.mk (.single '-') 0 :: items)).congr fun _ _ => rfl)
    case neg => exact (Local.pure (.inl items) (c :: cs)).congr fun t _ => by simp [nextHyphen?, hc]

theorem nextHyphen?_shrinks (flags : Flags) : Shrinks (nextHyphen? flags) := by
  intro items cs items' rest h
  unfold nextHyphen? at h
  split at h
  case h_1 cs =>
    obtain rfl : flags.next cs = rest := congrArg Prod.snd (Option.some.inj h)
    exact Nat.lt_succ_of_le (flags.next_length_le cs)
  case h_2    => simp at h

theorem readHyphens_eq_loop (flags : Flags) {n : Nat} (hn : cs.length ≤ n) (items : List Item) :
    loop (nextHyphen? flags) (n + 1) items cs = some (readHyphens flags n items cs) := by
  induction n generalizing cs items
  case zero      => simp [List.length_eq_zero_iff.mp (Nat.le_zero.mp hn), loop, nextHyphen?]
  case succ n ih =>
    cases cs
    case nil       => simp [loop, nextHyphen?]
    case cons c cs =>
      have hl := ih ((flags.next_length_le cs).trans (Nat.le_of_succ_le_succ hn)) (Item.mk (.single '-') 0 :: items)
      rw [loop]
      by_cases hc : c = '-'
      case pos => simp [nextHyphen?, readHyphens, hc, hl]
      case neg => simp [nextHyphen?, readHyphens, hc]

theorem readHyphens_local (flags : Flags) (items : List Item) (cs : List Char) :
    Local (fun cs => some (readHyphens flags cs.length items cs)) cs :=
  (Local.loop (nextHyphen?_local flags) (nextHyphen?_shrinks flags) items cs).congr fun t _ => by
    rw [readHyphens_eq_loop flags le_rfl]

-- A sign of negation, and whether it is there.
def sign (flags : Flags) (cs : List Char) : Bool × List Char :=
  match flags.next cs with
  | '^' :: cs => (true, flags.next cs)
  | cs        => (false, cs)

-- A closing bracket after nothing else stands for itself.
def firstBracket (flags : Flags) (items : List Item) (cs : List Char) : List Item × List Char :=
  match items, cs with
  | [],    ']' :: cs => ([Item.mk (.single ']') 0], flags.next cs)
  | items, cs        => (items, cs)

-- What follows an opening bracket. The text may end with it.
def openLevel (flags : Flags) (cs : List Char) : Level × List Char :=
  let (negate, cs) := sign flags cs
  let (items, cs) := readHyphens flags cs.length [] cs
  let (items, cs) := firstBracket flags items cs
  (⟨negate, none, items⟩, cs)

theorem sign_local (flags : Flags) (cs : List Char) : Local (fun cs => some (sign flags cs)) cs := by
  refine .afterBlanks flags (fun cs => by simp [sign]) ?nil (fun c cs hc => ?cons) cs
  case nil =>
    refine (Local.pure false []).congr fun t ht => ?_
    cases ht <;> simp [sign]
  case cons =>
    by_cases hs : c = '^'
    case pos =>
      subst hs
      exact .cons (((flags.next_local cs).map fun _ => true).congr fun t _ => by simp [sign, hc])
    case neg => exact (Local.pure false (c :: cs)).congr fun t _ => by simp [sign, hc, hs]

theorem firstBracket_local (flags : Flags) (items : List Item) (cs : List Char) :
    Local (fun cs => some (firstBracket flags items cs)) cs := by
  cases items
  case cons item items => exact .pure _ cs
  case nil             =>
    cases cs
    case nil       =>
      refine (Local.pure [] []).congr fun t ht => ?_
      cases ht <;> simp [firstBracket]
    case cons c cs =>
      by_cases hb : c = ']'
      case pos =>
        subst hb
        exact .cons ((flags.next_local cs).map fun _ => [Item.mk (.single ']') 0])
      case neg => exact (Local.pure [] (c :: cs)).congr fun t _ => by simp [firstBracket, hb]

theorem openLevel_local (flags : Flags) (cs : List Char) : Local (fun cs => some (openLevel flags cs)) cs := by
  have hb (negate : Bool) (items : List Item) (cs : List Char) : Local (fun cs =>
      some (Level.mk negate none (firstBracket flags items cs).1, (firstBracket flags items cs).2)) cs :=
    (firstBracket_local flags items cs).map (Level.mk negate none)
  have hh (negate : Bool) (cs : List Char) := (readHyphens_local flags [] cs).bind_all (hb negate)
  exact (sign_local flags cs).bind_all hh

theorem open?_bind {k : Level → List Char → Option α} (hk : ∀ level, k level [] = none) (cs : List Char) :
    (open? flags cs).bind (fun p => k p.1 p.2) = k (openLevel flags cs).1 (openLevel flags cs).2 := by
  have he : open? flags cs = if (openLevel flags cs).2.isEmpty then none else some (openLevel flags cs) := by
    rfl
  rw [he]
  split
  case isTrue h  => simp [List.isEmpty_iff.mp h, hk]
  case isFalse h => rfl

theorem posix?_name {set : CharClass} (h : CharClass.posix? (String.ofList cs) = some set) : ')' ∉ cs := by
  have hn {name : String} (hc : String.ofList cs = name) (hn : ')' ∉ name.toList) : ')' ∉ cs := by
    simpa [← hc] using hn
  unfold CharClass.posix? at h
  split at h
  case h_15 => simp at h
  all_goals exact hn ‹_› (by decide)

-- The class whose name stands before a colon and a closing bracket, or its complement.
def className? (flags : Flags) (negate : Bool) (cs : List Char) : Option (Option Item × List Char) :=
  match cs.dropWhile (· != ':') with
  | ':' :: ']' :: rest =>
    (CharClass.posix? (String.ofList (cs.takeWhile (· != ':')))).map fun set =>
      match Primitive.negated? flags negate (Primitive.foldIf flags set) with
      | some (.chars set) => (some (Item.mk set 0), rest)
      | _                 => (none, rest)
  | _                  => none

theorem className?_append (negate : Bool) (ht : IsTail t) (cs : List Char) :
    className? flags negate (cs ++ t) = (className? flags negate cs).map fun p => (p.1, p.2 ++ t) := by
  cases ht
  case none    => simp
  case close u =>
  unfold className?
  cases hd : cs.dropWhile (· != ':')
  case nil       =>
    have hc := List.dropWhile_eq_nil_iff.mp hd
    have hp : CharClass.posix? (String.ofList ((cs ++ ')' :: u).takeWhile (· != ':'))) = none := by
      refine Option.eq_none_iff_forall_ne_some.mpr fun set hs => posix?_name hs ?_
      simp [List.takeWhile_append_of_pos hc]
    simp only [hp, Option.map_none]
    split <;> rfl
  case cons d ds =>
    have hl : (cs.takeWhile (· != ':')).length ≠ cs.length := by
      have hs := congrArg List.length (List.takeWhile_append_dropWhile (p := (· != ':')) (l := cs))
      simp only [hd, List.length_append, List.length_cons] at hs
      omega
    simp only [List.dropWhile_append, List.takeWhile_append, hd, hl, List.isEmpty_cons, Bool.false_eq_true, if_false]
    rcases ds with _ | ⟨e, ds⟩
    case nil  => simp
    case cons =>
      by_cases h : d = ':' ∧ e = ']'
      case neg => rcases not_and_or.mp h with h | h <;> simp [h]
      case pos =>
        obtain ⟨rfl, rfl⟩ := h
        simp only [List.cons_append, Option.map_map]
        congr 1
        funext set
        simp only [Function.comp]
        split <;> rfl

theorem className?_suffix {negate : Bool} {item? : Option Item} {rest : List Char}
    (h : className? flags negate cs = some (item?, rest)) : rest <:+ cs := by
  unfold className? at h
  split at h
  case h_2          => simp at h
  case h_1 rest' hd =>
    obtain ⟨set, -, hs⟩ := Option.map_eq_some_iff.mp h
    obtain rfl : rest' = rest := by
      split at hs
      all_goals exact congrArg Prod.snd hs
    exact ((List.suffix_cons _ rest').trans (List.suffix_cons _ _)).trans (hd ▸ List.dropWhile_suffix _)

-- A name that begins with a sign of negation or not.
theorem posix?_eq (flags : Flags) (cs : List Char) : posix? flags (':' :: cs) =
    if cs.head? = some '^' then className? flags true cs.tail else className? flags false cs := by
  cases cs
  case nil       => rfl
  case cons c cs =>
    by_cases hc : c = '^'
    case pos =>
      subst hc
      rfl
    case neg =>
      simp [posix?, hc]
      rfl

theorem posix?_suffix {item? : Option Item} {rest : List Char} (h : posix? flags cs = some (item?, rest)) :
    rest <:+ cs := by
  cases cs
  case nil       => simp [posix?] at h
  case cons c cs =>
    by_cases hc : c = ':'
    case neg => simp [posix?, hc] at h
    case pos =>
      subst hc
      rw [posix?_eq] at h
      refine List.IsSuffix.trans ?_ (List.suffix_cons _ cs)
      split at h
      case isTrue  => exact (className?_suffix h).trans (List.tail_suffix cs)
      case isFalse => exact className?_suffix h

theorem posix?_append (ht : IsTail t) (cs : List Char) :
    posix? flags (cs ++ t) = (posix? flags cs).map fun p => (p.1, p.2 ++ t) := by
  cases cs
  case nil       => cases ht <;> simp [posix?]
  case cons c cs =>
    by_cases hc : c = ':'
    case neg => simp [posix?, hc]
    case pos =>
      subst hc
      simp only [List.cons_append, posix?_eq]
      cases cs
      case nil       =>
        have hn : t.head? ≠ some '^' := by cases ht <;> simp
        simpa [hn] using className?_append false ht []
      case cons c cs =>
        by_cases hn : c = '^'
        case pos => simpa [hn] using className?_append true ht cs
        case neg => simpa [hn] using className?_append false ht (c :: cs)

-- The next part of a bracket, or the end of the outermost one.
def nextPart? (flags : Flags) (s : Level × List Level) (cs : List Char) :
    Option ((Item ⊕ (Level × List Level)) × List Char) :=
  match flags.next cs with
  | []               => none
  | ']' :: cs        => (s.1.close? flags).map fun item =>
    match s.2 with
    | []             => (.inl item, cs)
    | level :: outer => (.inr (level.add item, outer), cs)
  | '[' :: cs        =>
    match posix? flags cs with
    | none                   => some (.inr ((openLevel flags cs).1, s.1 :: s.2), (openLevel flags cs).2)
    | some (some item, rest) => some (.inr (s.1.add item, s.2), rest)
    | some (none, _)         => none
  | '&' :: '&' :: cs => some (.inr (s.1.operate flags .inter, s.2), cs)
  | '-' :: '-' :: cs => some (.inr (s.1.operate flags .diff, s.2), cs)
  | '~' :: '~' :: cs => some (.inr (s.1.operate flags .symDiff, s.2), cs)
  | cs               => (nextRange? flags cs).map fun p => (.inr (s.1.add p.1, s.2), p.2)

theorem nextPart?_cons {c : Char} (hc : ∀ t, flags.next (c :: t) = c :: t) (s : Level × List Level) (cs : List Char) :
    Local (fun cs => nextPart? flags s (c :: cs)) cs := by
  have range (cs : List Char) : Local (fun cs =>
      (nextRange? flags (c :: cs)).map fun p => (Sum.inr (α := Item) (s.1.add p.1, s.2), p.2)) cs :=
    (nextRange?_cons flags c cs).map fun item => Sum.inr (s.1.add item, s.2)
  -- An operator is written by one character twice.
  have operator (x : Item ⊕ (Level × List Level)) (h : ∀ cs, nextPart? flags s (c :: c :: cs) = some (x, cs))
      (hn : ∀ cs, cs.head? ≠ some c → nextPart? flags s (c :: cs) =
        (nextRange? flags (c :: cs)).map fun p => (.inr (s.1.add p.1, s.2), p.2)) (hp : c ≠ ')') :
      Local (fun cs => nextPart? flags s (c :: cs)) cs := by
    by_cases hd : cs.head? = some c
    case pos =>
      obtain ⟨cs, rfl⟩ := List.head?_eq_some_iff.mp hd
      exact .cons ((Local.pure x cs).congr fun t _ => h (cs ++ t))
    case neg =>
      refine (range cs).congr fun t ht => hn (cs ++ t) ?_
      cases cs
      case nil  => cases ht <;> simp [Ne.symm hp]
      case cons => simpa using hd
  by_cases h₁ : c = '['
  case pos =>
    subst h₁
    cases hp : posix? flags cs
    case none   =>
      have hl := (openLevel_local flags cs).map fun level => Sum.inr (α := Item) (level, s.1 :: s.2)
      exact hl.congr fun t ht => by simp [nextPart?, hc, posix?_append ht, hp]
    case some p =>
      obtain ⟨_ | item, rest⟩ := p
      case none => exact .none fun t ht => by simp [nextPart?, hc, posix?_append ht, hp]
      case some =>
        exact .same (.inr (s.1.add item, s.2)) rest (posix?_suffix hp) fun t ht => by
          simp [nextPart?, hc, posix?_append ht, hp]
  case neg =>
  by_cases h₂ : c = ']'
  case pos =>
    subst h₂
    cases hl : s.1.close? flags
    case none      => exact .none fun _ _ => by simp [nextPart?, hc, hl]
    case some item =>
      obtain ⟨level, _ | ⟨outer, rest⟩⟩ := s
      case nil  => exact (Local.pure (.inl item) cs).congr fun _ _ => by simp_all [nextPart?]
      case cons => exact (Local.pure (.inr (outer.add item, rest)) cs).congr fun _ _ => by simp_all [nextPart?]
  case neg =>
  by_cases h₃ : c = '&' ∨ c = '-' ∨ c = '~'
  case pos =>
    rcases h₃ with rfl | rfl | rfl
    all_goals
      refine operator _ (fun cs => by simp only [nextPart?, hc]; rfl) (fun cs hd => ?_) (by decide)
      cases cs
      case nil  => simp [nextPart?, hc]
      case cons =>
        rw [List.head?_cons, ne_eq, Option.some.injEq] at hd
        simp [nextPart?, hc, hd]
  case neg =>
    simp only [not_or] at h₃
    exact (range cs).congr fun t _ => by simp [nextPart?, hc, h₁, h₂, h₃]

theorem nextPart?_local (flags : Flags) (s : Level × List Level) (cs : List Char) : Local (nextPart? flags s) cs := by
  refine .afterBlanks flags (fun cs => by simp [nextPart?]) ?_ (fun c cs hc => .cons (nextPart?_cons hc s cs)) cs
  refine .nil (by simp [nextPart?]) fun u x rest h => ?_
  exact (nextPart?_cons flags.next_close s u).suffix h

theorem nextPart?_shrinks (flags : Flags) : Shrinks (nextPart? flags) := by
  intro s cs s' rest h
  cases hn : flags.next cs
  case nil       => simp [nextPart?, hn] at h
  case cons c cs' =>
    have hp : nextPart? flags s (c :: cs') = nextPart? flags s cs := by simp [nextPart?, ← hn]
    have hs := (nextPart?_cons (Flags.next_cons hn) s cs').suffix (hp.trans h)
    have hl := flags.next_length_le cs
    rw [hn] at hl
    exact Nat.lt_of_lt_of_le (Nat.lt_succ_of_le hs.length_le) hl

theorem loop_nil (flags : Flags) (n : Nat) (s : Level × List Level) : loop (nextPart? flags) n s [] = none := by
  cases n <;> simp [loop, nextPart?]

theorem read?_eq_loop (flags : Flags) (n : Nat) (level : Level) (outer : List Level) (cs : List Char) :
    read? flags n level outer cs = loop (nextPart? flags) n (level, outer) cs := by
  induction n generalizing level outer cs
  case zero      => rfl
  case succ n ih =>
    simp only [read?, loop, nextPart?, ih]
    generalize flags.next cs = cs
    split
    case h_2 cs =>
      simp only
      cases posix? flags cs
      case none   => exact open?_bind (fun inner => loop_nil flags n (inner, level :: outer)) cs
      case some p => obtain ⟨_ | item, rest⟩ := p <;> rfl
    case h_3 cs =>
      simp only
      cases level.close? flags
      case none      => rfl
      case some item => cases outer <;> rfl
    case h_7 h₁ h₂ h₃ h₄ h₅ h₆ =>
      split
      case h_1 => exact (h₁ rfl).elim
      case h_2 => exact (h₃ _ rfl).elim
      case h_3 => exact (h₂ _ rfl).elim
      case h_4 => exact (h₄ _ rfl).elim
      case h_5 => exact (h₅ _ rfl).elim
      case h_6 => exact (h₆ _ rfl).elim
      case h_7 =>
        have hr := readRange?_bind flags (fun item => loop_nil flags n (level.add item, outer)) cs
        simpa [Option.bind_map, Function.comp_def] using hr
    all_goals rfl

theorem read?_local (flags : Flags) (level : Level) (cs : List Char) :
    Local (fun cs => read? flags (cs.length + 1) level [] cs) cs :=
  (Local.loop (nextPart?_local flags) (nextPart?_shrinks flags) (level, []) cs).congr fun t _ =>
    read?_eq_loop flags _ level [] (cs ++ t)

end Brackets

end RpcProxy.Regex
