import Mathlib
import RpcProxy.Proofs.Regex.Brackets

namespace RpcProxy.Regex

open Reader

namespace Progress

variable {s : Progress} {flags : Flags} {c : Char} {cs t : List Char}

theorem groupName?_local (cs : List Char) : Local groupName? cs := by
  have hn := (until_local (p := (· != '>')) rfl cs).filterMap fun name =>
    if name.head?.any isNameStart && name.all isNamePart then some (String.ofList name) else none
  refine hn.congr fun t _ => ?_
  unfold groupName?
  cases (cs ++ t).dropWhile (· != '>')
  case nil  => rfl
  case cons =>
    simp only [List.tail?_cons, Option.map_some, Option.bind_some]
    split <;> rfl

theorem enterNamed?_local (s : Progress) (cs : List Char) : Local s.enterNamed? cs := by
  have hn := (groupName?_local cs).filterMap fun name =>
    if s.names.contains name then none else some { s.enter s.flags with names := name :: s.names }
  refine hn.congr fun t _ => ?_
  unfold enterNamed?
  cases groupName? (cs ++ t)
  case none   => rfl
  case some p =>
    simp only [Option.bind_eq_bind, Option.bind_some]
    split_ifs <;> rfl

-- Flags in a group, or for what follows it.
def flagged? (s : Progress) (cs : List Char) : Option (Progress × List Char) :=
  match s.flags.read? [] true cs with
  | some (flags, ')', rest) =>
    if cs.head? = some ')' then none else some ({ s with flags := flags, inner := s.inner.add .directive }, rest)
  | some (flags, _, rest)   => some (s.enter flags, rest)
  | none                    => none

theorem flagged?_local (s : Progress) (cs : List Char) : Local s.flagged? cs := by
  cases cs
  case nil       => exact .none fun t ht => by cases ht <;> simp [flagged?, Flags.read?]
  case cons c cs =>
    have hf := (s.flags.read?_local [] true (c :: cs)).filterMap fun p =>
      if p.2 = ')' then
        if c = ')' then none else some { s with flags := p.1, inner := s.inner.add .directive }
      else some (s.enter p.1)
    refine hf.congr fun t _ => ?_
    unfold flagged?
    cases s.flags.read? [] true (c :: cs ++ t)
    case none   => rfl
    case some p =>
      obtain ⟨flags, d, rest⟩ := p
      by_cases hd : d = ')'
      case neg => simp [hd]
      case pos => by_cases hc : c = ')' <;> simp [hd, hc]

theorem open?_flagged (hc : ∀ t, s.flags.next ('?' :: t) = '?' :: t)
    (hd : ∀ d ∈ cs.head?, d ≠ '=' ∧ d ≠ '!' ∧ d ≠ '<') (hp : ∀ rest, cs ≠ 'P' :: '<' :: rest) :
    s.open? ('?' :: cs) = s.flagged? cs := by
  unfold open?
  rw [hc]
  split
  case h_7 he =>
    obtain rfl := (List.cons.inj he).2
    rfl
  all_goals simp_all

theorem open?_local (s : Progress) (cs : List Char) : Local s.open? cs := by
  refine .afterBlanks s.flags (fun cs => by simp [open?]) ?nil (fun c cs hc => ?cons) cs
  case nil =>
    refine (Local.pure (s.enter s.flags) []).congr fun t ht => ?_
    cases ht <;> simp [open?]
  case cons =>
  by_cases hq : c = '?'
  case neg => exact (Local.pure (s.enter s.flags) (c :: cs)).congr fun t _ => by simp [open?, hc, hq]
  case pos =>
    subst hq
    refine .cons ?_
    cases cs
    case nil       =>
      refine (s.flagged?_local []).congr fun t ht => open?_flagged hc ?_ ?_
      all_goals cases ht <;> simp
    case cons d cs =>
    by_cases hn : d = '=' ∨ d = '!'
    case pos => rcases hn with rfl | rfl <;> exact .none fun t _ => by simp [open?, hc]
    case neg =>
    simp only [not_or] at hn
    by_cases ha : d = '<'
    case pos =>
      subst ha
      refine .cons ?_
      cases cs
      case nil       =>
        refine (s.enterNamed?_local []).congr fun t ht => ?_
        cases ht <;> simp [open?, hc]
      case cons e cs =>
        by_cases hl : e = '=' ∨ e = '!'
        case pos => rcases hl with rfl | rfl <;> exact .none fun t _ => by simp [open?, hc]
        case neg =>
          simp only [not_or] at hl
          exact (s.enterNamed?_local (e :: cs)).congr fun t _ => by simp [open?, hc, hl]
    case neg =>
    by_cases hp : d = 'P' ∧ cs.head? = some '<'
    case pos =>
      obtain ⟨rfl, hp⟩ := hp
      obtain ⟨cs, rfl⟩ := List.head?_eq_some_iff.mp hp
      exact .cons (.cons ((s.enterNamed?_local cs).congr fun t _ => by simp [open?, hc]))
    case neg =>
      refine (s.flagged?_local (d :: cs)).congr fun t ht => open?_flagged hc (by simp [hn, ha]) fun rest he => ?_
      obtain ⟨rfl, he⟩ := List.cons.inj he
      cases cs
      case nil  => cases ht <;> simp at he
      case cons => simp_all

theorem dropLazy_local (cs : List Char) : Local (fun cs => some ((), dropLazy cs)) cs := by
  cases cs
  case nil       =>
    refine (Local.pure () []).congr fun t ht => ?_
    cases ht <;> simp [dropLazy]
  case cons c cs =>
    by_cases hc : c = '?'
    case pos =>
      subst hc
      exact .cons (.pure () cs)
    case neg => exact (Local.pure () (c :: cs)).congr fun t _ => by simp [dropLazy, hc]

-- The end of a repetition with two counts.
def range? (min max : Option Nat) : List Char → Option ((Nat × Option Nat) × List Char)
  | '\x7d' :: rest =>
    (min.bind fun m => max.bind fun n => if m ≤ n then some (m, some n) else none).map (·, rest)
  | _              => none

-- What follows the comma.
def maximum? (flags : Flags) (min : Option Nat) (cs : List Char) : Option ((Nat × Option Nat) × List Char) :=
  match flags.next cs with
  | '\x7d' :: rest => min.map fun n => ((n, none), rest)
  | cs             => range? min (decimal? flags cs).1 (decimal? flags cs).2

-- What follows the first count.
def repetition? (flags : Flags) (min : Option Nat) : List Char → Option ((Nat × Option Nat) × List Char)
  | ',' :: cs      => maximum? flags min cs
  | '\x7d' :: rest => min.map fun n => ((n, some n), rest)
  | _              => none

theorem counts?_eq (flags : Flags) (cs : List Char) : (counts? flags cs).map (fun p => ((p.1, p.2.1), p.2.2)) =
    repetition? flags (decimal? flags (flags.next cs)).1 (decimal? flags (flags.next cs)).2 := by
  unfold counts?
  rcases decimal? flags (flags.next cs) with ⟨min, _ | ⟨c, rest⟩⟩
  case nil  => simp [repetition?]
  case cons =>
  by_cases hm : c = ','
  case neg =>
    by_cases hb : c = '\x7d'
    case neg => simp [repetition?, hm, hb]
    case pos => cases min <;> simp [repetition?, hb]
  case pos =>
    subst hm
    simp only [repetition?, maximum?]
    rcases flags.next rest with _ | ⟨d, cs⟩
    case' nil  =>
      simp only
      rcases decimal? flags [] with ⟨max, _ | ⟨e, rest⟩⟩
    case' cons =>
      by_cases hb : d = '\x7d'
      case pos => cases min <;> simp [hb]
      case' neg =>
        simp only [List.cons.injEq, hb, false_and, imp_false, not_false_eq_true, implies_true]
        rcases decimal? flags (d :: cs) with ⟨max, _ | ⟨e, rest⟩⟩
    -- The number is the same, whatever it is read from.
    case nil.nil | neg.nil   => cases min <;> cases max <;> rfl
    case nil.cons | neg.cons =>
      by_cases he : e = '\x7d'
      case neg => cases min <;> cases max <;> simp [range?, he]
      case pos =>
        subst he
        rcases min with _ | m <;> rcases max with _ | n
        case some.some => by_cases hl : m ≤ n <;> simp [range?, hl]
        all_goals rfl

theorem range?_local (min max : Option Nat) (cs : List Char) : Local (range? min max) cs := by
  cases cs
  case nil       => exact .none fun t ht => by cases ht <;> simp [range?]
  case cons c cs =>
    by_cases hb : c = '\x7d'
    case neg => exact .none fun t _ => by simp [range?, hb]
    case pos =>
      subst hb
      refine .cons ?_
      simp only [range?]
      cases min.bind fun m => max.bind fun n => if m ≤ n then some (m, some n) else none
      case none   => exact .none fun _ _ => rfl
      case some p => exact .pure p cs

theorem maximum?_local (flags : Flags) (min : Option Nat) (cs : List Char) : Local (maximum? flags min) cs := by
  have hd (cs : List Char) : Local (fun cs => range? min (decimal? flags cs).1 (decimal? flags cs).2) cs :=
    (decimal?_local flags cs).bind_all (range?_local min)
  refine .afterBlanks flags (fun cs => by simp [maximum?]) ?nil (fun c cs hc => ?cons) cs
  case nil =>
    refine (hd []).congr fun t ht => ?_
    cases ht <;> simp [maximum?]
  case cons =>
    by_cases hb : c = '\x7d'
    case neg => exact (hd (c :: cs)).congr fun t _ => by simp [maximum?, hc, hb]
    case pos =>
      subst hb
      cases min
      case none   => exact .none fun t _ => by simp [maximum?, hc]
      case some n => exact .cons ((Local.pure (n, none) cs).congr fun t _ => by simp [maximum?, hc])

theorem counts?_local (flags : Flags) (cs : List Char) :
    Local (fun cs => (counts? flags cs).map fun p => ((p.1, p.2.1), p.2.2)) cs := by
  have hr (min : Option Nat) (cs : List Char) : Local (repetition? flags min) cs := by
    cases cs
    case nil       => exact .none fun t ht => by cases ht <;> simp [repetition?]
    case cons c cs =>
      by_cases hm : c = ','
      case pos => exact hm ▸ .cons (maximum?_local flags min cs)
      case neg =>
      by_cases hb : c = '\x7d'
      case neg => exact .none fun t _ => by simp [repetition?, hm, hb]
      case pos =>
        subst hb
        cases min
        case none   => exact .none fun _ _ => rfl
        case some n => exact .cons (.pure (n, some n) cs)
  have hd := (Local.next (fun cs => decimal?_local flags cs) flags cs).bind_all hr
  exact hd.congr fun t _ => counts?_eq flags (cs ++ t)

theorem bracket_local (s : Progress) (cs : List Char) : Local (s.step? '[') cs := by
  have hr (level : Brackets.Level) (cs : List Char) :=
    (Brackets.read?_local s.flags level cs).map fun item => s.add (.chars item.set item.depth)
  have hk (level : Brackets.Level) : (Brackets.read? s.flags 1 level [] []).map
      (fun p => (s.add (.chars p.1.set p.1.depth), p.2)) = none := by
    simp [Brackets.read?]
  refine ((Brackets.openLevel_local s.flags cs).bind_all hr).congr fun t _ => ?_
  refine Eq.trans ?_ (Brackets.open?_bind (k := fun level cs =>
    (Brackets.read? s.flags (cs.length + 1) level [] cs).map fun p => (s.add (.chars p.1.set p.1.depth), p.2)) hk _)
  simp only [step?]
  cases Brackets.open? s.flags (cs ++ t)
  case none   => rfl
  case some p =>
    simp only [Option.bind_eq_bind, Option.bind_some]
    cases Brackets.read? s.flags (p.2.length + 1) p.1 [] p.2 <;> rfl

theorem brace_local (s : Progress) (cs : List Char) : Local (s.step? '\x7b') cs := by
  have hr := ((counts?_local s.flags cs).filterMap fun p => s.repeat? p.1 p.2).andNext s.flags
  refine (hr.bind_all fun s' cs => (dropLazy_local cs).map fun _ => s').congr fun t _ => ?_
  simp only [step?]
  cases counts? s.flags (cs ++ t)
  case none   => rfl
  case some p =>
    cases hs : s.repeat? p.1 p.2.1
    case none   => simp [hs]
    case some s' => simp [hs]

theorem escape_local (s : Progress) (h : ∀ inner, cs = 'b' :: '\x7b' :: inner → s.flags.next inner ≠ []) :
    Local (s.step? '\\') cs := by
  have he : Local (Primitive.readEscape? s.flags) cs := by
    cases cs
    case nil       =>
      refine .nil rfl fun u x rest hr => ?_
      obtain rfl : u = rest := congrArg Prod.snd (Option.some.inj hr)
      exact List.suffix_refl u
    case cons d cs =>
      refine .cons ?_
      by_cases hd : d = 'b'
      case neg => exact Primitive.readEscape?_local s.flags hd cs
      case pos =>
        subst hd
        exact Primitive.boundary?_local s.flags fun inner hi => h inner (congrArg _ hi)
  refine (he.filterMap fun p => (p.pattern? s.flags).map s.add).congr fun t _ => ?_
  simp only [step?]
  cases Primitive.readEscape? s.flags (cs ++ t)
  case none   => rfl
  case some p => cases hp : p.1.pattern? s.flags <;> simp [hp]

theorem step?_local (s : Progress) (h : ∀ inner, c :: cs = '\\' :: 'b' :: '\x7b' :: inner → s.flags.next inner ≠ []) :
    Local (s.step? c) cs := by
  have repeated (min : Nat) (max : Option Nat) (cs : List Char) :
      Local (fun cs => (s.repeat? min max).map (·, dropLazy cs)) cs := by
    cases s.repeat? min max
    case none    => exact .none fun _ _ => rfl
    case some s' => exact (dropLazy_local cs).map fun _ => s'
  have added (p? : Option Pattern) (cs : List Char) : Local (fun cs => p?.map fun p => (s.add p, cs)) cs := by
    cases p?
    case none   => exact .none fun _ _ => rfl
    case some p => exact .pure (s.add p) cs
  fun_cases step? s c cs
  case case1  => exact s.open?_local cs
  case case2  =>
    change Local (fun cs => s.close?.map (·, cs)) cs
    cases s.close?
    case none    => exact .none fun _ _ => rfl
    case some s' => exact .pure s' cs
  case case4  => exact s.bracket_local cs
  case case8  => exact s.brace_local cs
  case case9  => exact s.escape_local fun inner hi => h inner (congrArg _ hi)
  case case10 => exact added _ cs
  case case13 => exact (added ((Primitive.char c false).pattern? s.flags) cs).congr fun t _ => by simp [step?, *]
  case case5 | case6 | case7 => exact repeated _ _ cs
  case case3 | case11 | case12 => exact .pure _ cs

end Progress

end RpcProxy.Regex
