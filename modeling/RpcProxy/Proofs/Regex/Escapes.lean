import Mathlib
import RpcProxy.Proofs.Regex.Locality

namespace RpcProxy.Regex

open Reader

variable {flags : Flags} {cs t : List Char} {c : Char}

theorem Flags.read?_local (flags : Flags) (seen : List Char) (on : Bool) (cs : List Char) :
    Local (fun cs => (flags.read? seen on cs).map fun p => ((p.1, p.2.1), p.2.2)) cs := by
  induction cs generalizing flags seen on
  case nil          =>
    refine .nil rfl fun u x rest h => ?_
    have h : (¬ seen.head? = some '-' ∧ (flags, ')') = x) ∧ u = rest := by simpa [read?, and_assoc] using h
    exact h.2 ▸ List.suffix_refl u
  case cons c cs ih =>
    refine .cons ?_
    simp only [read?]
    split_ifs
    case pos         => exact .none fun _ _ => rfl
    case neg         => exact .pure (flags, c) cs
    case pos         => exact .none fun _ _ => rfl
    case pos         => exact ih ..
    case neg         =>
      cases flags.set? on c
      case none      => exact .none fun _ _ => rfl
      case some set  => exact ih ..

@[simp]
theorem hexValue?_close : hexValue? ')' = none :=
  rfl

theorem hexDigits?_local (flags : Flags) (count n : Nat) (cs : List Char) : Local (hexDigits? flags count n) cs := by
  induction count generalizing n cs
  case zero          => exact .pure n cs
  case succ count ih =>
    cases cs
    case nil       => exact .nil rfl fun u x rest h => by simp [hexDigits?] at h
    case cons c cs =>
      refine .cons ?_
      cases hd : hexValue? c
      case none   => exact .none fun _ _ => by simp [hexDigits?, hd]
      case some d =>
        simp only [hexDigits?, hd, Option.bind_eq_bind, Option.bind_some]
        split_ifs
        case pos => exact ih ..
        case neg => exact .next (fun cs => ih _ cs) flags cs

-- The first character is passed over, taken for the text, or closes the braces.
theorem braced?_cons {verbose comment : Bool} {text rest : List Char}
    (hs : ∀ {comment text}, braced? verbose comment cs = some (text, rest) → rest <:+ cs)
    (h : braced? verbose comment (c :: cs) = some (text, rest)) : rest <:+ cs := by
  simp only [braced?] at h
  split_ifs at h
  case pos => exact hs h
  case pos => exact hs h
  case pos => exact hs h
  case pos =>
    obtain rfl : cs = rest := congrArg Prod.snd (Option.some.inj h)
    exact List.suffix_refl cs
  case neg =>
    obtain ⟨p, hp, he⟩ := Option.map_eq_some_iff.mp h
    obtain rfl : p.2 = rest := congrArg Prod.snd he
    exact hs hp

theorem braced?_suffix {verbose comment : Bool} {text rest : List Char}
    (h : braced? verbose comment cs = some (text, rest)) : rest <:+ cs := by
  induction cs generalizing comment text
  case nil          => simp [braced?] at h
  case cons c cs ih => exact (braced?_cons ih h).trans (List.suffix_cons c cs)

theorem braced?_local (verbose comment : Bool) (cs : List Char) : Local (braced? verbose comment) cs := by
  induction cs generalizing comment
  case nil          => exact .nil rfl fun u x rest h => braced?_cons braced?_suffix h
  case cons c cs ih =>
    refine .cons ?_
    simp only [braced?]
    split_ifs
    case pos => exact ih _
    case pos => exact ih false
    case pos => exact ih true
    case pos => exact .pure [] cs
    case neg => exact (ih false).map (c :: ·)

theorem hexBraces?_local (flags : Flags) (cs : List Char) : Local (hexBraces? flags) cs :=
  (braced?_local flags.verbose false cs).filterMap hexNumber?

theorem dropWhile_append_tail {p : Char → Bool} (hp : p ')' = false) (ht : IsTail t) (cs : List Char) :
    (cs ++ t).dropWhile p = cs.dropWhile p ++ t := by
  have he : t.dropWhile p = t := by cases ht <;> simp [hp]
  rw [List.dropWhile_append, he]
  split <;> simp_all

theorem dropWhile_local {p : Char → Bool} (hp : p ')' = false) (cs : List Char) :
    Local (fun cs => some ((), cs.dropWhile p)) cs :=
  .same () _ (List.dropWhile_suffix p) fun t ht => by rw [dropWhile_append_tail hp ht cs]

theorem Flags.next_length_le (flags : Flags) (cs : List Char) : (flags.next cs).length ≤ cs.length :=
  (flags.next_suffix cs).length_le

@[simp]
theorem digits_nil (flags : Flags) (fuel : Nat) : digits flags fuel [] = ([], []) := by
  cases fuel <;> rfl

-- The next digit, or all of them where they end, the last one first.
def nextDigit? (flags : Flags) (ds : List Char) : Reader (List Char ⊕ List Char)
  | []      => some (.inl ds.reverse, [])
  | c :: cs => if c.isDigit then some (.inr (c :: ds), flags.next cs) else some (.inl ds.reverse, c :: cs)

theorem nextDigit?_local (flags : Flags) (ds cs : List Char) : Local (nextDigit? flags ds) cs := by
  cases cs
  case nil       =>
    refine .same (.inl ds.reverse) [] List.nil_suffix fun t ht => ?_
    cases ht
    case none  => rfl
    case close => simp [nextDigit?]
  case cons c cs =>
    by_cases hc : c.isDigit
    case pos =>
      refine .cons (((flags.next_local cs).map fun _ => .inr (c :: ds)).congr fun t _ => ?_)
      simp [nextDigit?, hc]
    case neg => exact (Local.pure (.inl ds.reverse) (c :: cs)).congr fun t _ => by simp [nextDigit?, hc]

theorem nextDigit?_shrinks (flags : Flags) : Shrinks (nextDigit? flags) := by
  intro ds cs ds' rest h
  cases cs
  case nil       => simp [nextDigit?] at h
  case cons c cs =>
    simp only [nextDigit?] at h
    split_ifs at h
    case pos =>
      obtain rfl : flags.next cs = rest := congrArg Prod.snd (Option.some.inj h)
      exact Nat.lt_succ_of_le (flags.next_length_le cs)
    case neg => simp at h

theorem digits_eq_loop (flags : Flags) {n : Nat} (hn : cs.length ≤ n) (ds : List Char) :
    loop (nextDigit? flags) (n + 1) ds cs = some (ds.reverse ++ (digits flags n cs).1, (digits flags n cs).2) := by
  induction n generalizing cs ds
  case zero      => simp [List.length_eq_zero_iff.mp (Nat.le_zero.mp hn), loop, nextDigit?]
  case succ n ih =>
    cases cs
    case nil       => simp [loop, nextDigit?]
    case cons c cs =>
      have hl := ih ((flags.next_length_le cs).trans (Nat.le_of_succ_le_succ hn)) (c :: ds)
      rw [loop]
      by_cases hc : c.isDigit
      case pos => simp [nextDigit?, digits, hc, hl]
      case neg => simp [nextDigit?, digits, hc]

theorem digits_local (flags : Flags) (cs : List Char) : Local (fun cs => some (digits flags cs.length cs)) cs :=
  (Local.loop (nextDigit?_local flags) (nextDigit?_shrinks flags) [] cs).congr fun t _ => by
    rw [digits_eq_loop flags le_rfl]
    simp

-- The number that is written by digits, if it is not too large.
def number? (ds : List Char) : Option Nat :=
  let n := ds.foldl (fun n d => 10 * n + (d.toNat - '0'.toNat)) 0
  if ds.isEmpty || UInt32.size ≤ n then none else some n

theorem decimal?_local (flags : Flags) (cs : List Char) : Local (fun cs => some (decimal? flags cs)) cs := by
  have hb (cs : List Char) : Local (fun cs => some ((), cs.dropWhile Unicode.Property.whiteSpace)) cs :=
    dropWhile_local rfl cs
  have hd := (hb cs).bind_all (g := fun _ cs => some (digits flags cs.length cs)) fun _ cs => digits_local flags cs
  exact hd.bind_all (g := fun ds cs => some (number? ds, cs.dropWhile Unicode.Property.whiteSpace)) fun ds cs =>
    (hb cs).map fun _ => number? ds

-- What stands before a mark, and what follows the mark.
theorem until_local {p : Char → Bool} (hp : p ')') (cs : List Char) :
    Local (fun cs => (cs.dropWhile p).tail?.map (cs.takeWhile p, ·)) cs := by
  induction cs
  case nil          =>
    refine .nil rfl fun u x rest h => ?_
    simp only [List.dropWhile_cons, hp, if_true] at h
    cases hu : u.dropWhile p
    case nil       => simp [hu] at h
    case cons c cs =>
      obtain rfl : cs = rest := by simp_all
      exact (List.suffix_cons c cs).trans (hu ▸ List.dropWhile_suffix p)
  case cons c cs ih =>
    refine .cons ?_
    cases hc : p c
    case false => exact (Local.pure [] cs).congr fun t _ => by simp [hc]
    case true  =>
      refine (ih.map (c :: ·)).congr fun t _ => ?_
      simp [hc, Function.comp_def]

namespace Primitive

theorem readUnicode?_local (flags : Flags) (negate : Bool) (cs : List Char) :
    Local (readUnicode? flags negate) cs := by
  refine .afterBlanks flags (fun cs => by simp [readUnicode?]) ?nil (fun c cs hc => ?cons) cs
  case nil =>
    refine .nil (by simp [readUnicode?]) fun u x rest h => ?_
    obtain ⟨_, _, rfl, rfl⟩ : ∃ p, _ = some p ∧ p = x ∧ flags.next u = rest := by simpa [readUnicode?] using h
    exact flags.next_suffix u
  case cons =>
    refine .cons ?_
    simp only [readUnicode?, hc]
    by_cases hb : c = '\x7b'
    case pos =>
      subst hb
      exact (braced?_local flags.verbose false cs).filterMap fun name => unicodeClass? flags negate (String.ofList name)
    case neg =>
    by_cases hs : c = '\\'
    case pos => subst hs; exact .none fun _ _ => rfl
    case neg =>
      cases hp : unicodeClass? flags negate (String.singleton c)
      case none   => exact .none fun _ _ => by simp [hp]
      case some p => exact ((flags.next_local cs).map fun _ => p).congr fun t _ => by simp [hp]

theorem readHex?_local (flags : Flags) (count : Nat) (cs : List Char) : Local (readHex? flags count) cs := by
  have hx (isByte : Bool) {f : Reader Nat} (hf : ∀ cs, Local f cs) (cs : List Char) : Local (fun cs =>
      (f cs).bind fun p => (char? p.1).bind fun c => some (char c isByte, flags.next p.2)) cs := by
    refine (((hf cs).filterMap fun n => (char? n).map (char · isByte)).andNext flags).congr fun t _ => ?_
    cases f (cs ++ t)
    case none   => rfl
    case some p => cases h : char? p.1 <;> simp [h]
  have hd := hx (count == 2) fun cs => hexDigits?_local flags count 0 cs
  have hb := hx false fun cs => hexBraces?_local flags cs
  refine .afterBlanks flags (fun cs => by simp [readHex?]) ?nil (fun c cs hc => ?cons) cs
  case nil =>
    refine (hd []).congr fun t ht => ?_
    cases ht <;> simp [readHex?]
  case cons =>
    by_cases hb' : c = '\x7b'
    case pos =>
      subst hb'
      exact .cons ((hb cs).congr fun t _ => by simp [readHex?, hc])
    case neg => exact (hd (c :: cs)).congr fun t _ => by simp [readHex?, hc, hb']

theorem readEscape?_local (flags : Flags) (hc : c ≠ 'b') (cs : List Char) :
    Local (fun cs => readEscape? flags (c :: cs)) cs := by
  have named (negate : Bool) (set : CharClass) :
      Local (fun cs => (negated? flags negate set).map (·, cs)) cs := by
    cases negated? flags negate set
    case none   => exact .none fun _ _ => rfl
    case some p => exact .pure p cs
  generalize hl : c :: cs = l
  fun_cases readEscape? flags l
  all_goals cases hl
  case case21 => exact absurd rfl hc
  case case25 => exact (Local.pure (char c false) cs).congr fun t _ => by simp [readEscape?, *]
  case case26 => exact .none fun t _ => by simp [readEscape?, *]
  all_goals first | exact .pure _ cs | exact named .. | exact readHex?_local .. | exact readUnicode?_local ..

-- The characters of the name of a position.
def isNameChar (c : Char) : Bool :=
  c.isAlpha || c = '-'

-- The position that a name in braces stands for.
def positioned? (flags : Flags) (name : String) : Option Primitive :=
  if name = "start" then some (look (.wordStart flags.unicode))
  else if name = "end" then some (look (.wordEnd flags.unicode))
  else if name = "start-half" then some (look (.wordStartHalf flags.unicode))
  else if name = "end-half" then some (look (.wordEndHalf flags.unicode))
  else none

theorem boundaryName?_of_other {inner : List Char} (hn : flags.next inner = c :: cs) (hc : isNameChar c = false) :
    boundaryName? flags inner = some none := by
  simp only [boundaryName?, hn]
  exact if_pos (show (!isNameChar c) = true by simp [hc])

theorem boundaryName?_of_name {inner : List Char} (hn : flags.next inner = c :: cs) (hc : isNameChar c = true) :
    boundaryName? flags inner = (braced? flags.verbose false (c :: cs)).bind fun p =>
      if p.1.all isNameChar then some (some (String.ofList p.1, p.2)) else none := by
  simp only [boundaryName?, hn]
  exact if_neg (show ¬ (!isNameChar c) = true by simp [hc])

theorem boundary?_of_name {inner rest : List Char} {name : String}
    (h : boundaryName? flags inner = some (some (name, rest))) :
    boundary? flags ('\x7b' :: inner) = (positioned? flags name).map (·, rest) := by
  simp only [boundary?, h, positioned?]
  split
  case h_5 h₁ h₂ h₃ h₄ =>
    rw [if_neg h₁, if_neg h₂, if_neg h₃, if_neg h₄]
    rfl
  all_goals simp

theorem boundary?_local (flags : Flags) {cs : List Char}
    (h : ∀ inner, cs = '\x7b' :: inner → flags.next inner ≠ []) : Local (boundary? flags) cs := by
  let word : Primitive := look (.wordBoundary flags.unicode)
  have plain (cs : List Char) (hb : ∀ t, IsTail t → ∀ inner, cs ++ t ≠ '\x7b' :: inner) :
      Local (boundary? flags) cs := by
    refine (Local.pure word cs).congr fun t ht => ?_
    unfold boundary?
    split
    case h_1 he => exact absurd he (hb t ht _)
    case h_2    => rfl
  cases cs
  case nil          => exact plain [] fun t ht inner he => by cases ht <;> simp at he
  case cons c inner =>
    by_cases hb : c = '\x7b'
    case neg => exact plain (c :: inner) fun t ht inner he => hb (List.cons.inj he).1
    case pos =>
    subst hb
    have hne := h inner rfl
    obtain ⟨c, cs, hn⟩ := List.exists_cons_of_ne_nil hne
    have hs : (c :: cs) <:+ '\x7b' :: inner := (hn ▸ flags.next_suffix inner).trans (List.suffix_cons _ inner)
    have ha (t : List Char) (ht : IsTail t) : flags.next (inner ++ t) = c :: (cs ++ t) := by
      rw [flags.next_append hne ht, hn, List.cons_append]
    cases hc : isNameChar c
    case false =>
      exact (Local.pure word ('\x7b' :: inner)).congr fun t ht => by
        simp [boundary?, boundaryName?_of_other (ha t ht) hc, word]
    case true  =>
      have hr := (braced?_local flags.verbose false (c :: cs)).filterMap fun name =>
        if name.all isNameChar then positioned? flags (String.ofList name) else none
      refine hr.shift hs fun t ht => ?_
      have hb := boundaryName?_of_name (ha t ht) hc
      rw [List.cons_append, List.cons_append]
      cases hd : braced? flags.verbose false (c :: (cs ++ t))
      case none   =>
        rw [hd, Option.bind_none] at hb
        simp only [boundary?, hb, Option.bind_none]
      case some p =>
        rw [hd, Option.bind_some] at hb
        rw [Option.bind_some]
        split_ifs at hb ⊢
        case pos => exact boundary?_of_name hb
        case neg => simp only [boundary?, hb, Option.map_none]

theorem boundaryName?_suffix {name : String} {inner rest : List Char}
    (h : boundaryName? flags inner = some (some (name, rest))) : rest <:+ flags.next inner := by
  cases hn : flags.next inner
  case nil       => simp [boundaryName?, hn] at h
  case cons c cs =>
    cases hc : isNameChar c
    case false => simp [boundaryName?_of_other hn hc] at h
    case true  =>
      rw [boundaryName?_of_name hn hc] at h
      obtain ⟨p, hp, h⟩ := Option.bind_eq_some_iff.mp h
      split_ifs at h
      obtain rfl : p.2 = rest := congrArg Prod.snd (Option.some.inj (Option.some.inj h))
      exact braced?_suffix hp

theorem boundary?_brace {p : Primitive} {inner rest : List Char}
    (h : boundary? flags ('\x7b' :: inner) = some (p, rest)) :
    rest <:+ flags.next inner ∨ boundaryName? flags inner = some none ∧ rest = '\x7b' :: inner := by
  simp only [boundary?] at h
  split at h
  case h_1               => simp at h
  case h_2 hn            => exact .inr ⟨hn, congrArg Prod.snd (Option.some.inj h).symm⟩
  case h_3 name rest' hn =>
    split at h
    case h_5  => simp at h
    all_goals
      obtain rfl : rest' = rest := congrArg Prod.snd (Option.some.inj h)
      exact .inl (boundaryName?_suffix hn)

-- A brace after a word boundary, and nothing behind it. The name may not be missing, but a parenthesis shows that
-- there is none.
theorem boundary?_open {inner : List Char} (h : flags.next inner = []) :
    boundary? flags ('\x7b' :: inner) = none ∧
    ∀ u p rest, boundary? flags ('\x7b' :: inner ++ ')' :: u) = some (p, rest) →
      rest <:+ u ∨ rest = '\x7b' :: inner ++ ')' :: u := by
  refine ⟨by simp [boundary?, boundaryName?, h], fun u p rest hb => ?_⟩
  rcases Flags.next_open h u with hn | hn
  case inl =>
    have hn : boundaryName? flags (inner ++ ')' :: u) = some none := by simp [boundaryName?, hn]
    obtain ⟨-, hr⟩ : _ ∧ '\x7b' :: (inner ++ ')' :: u) = rest := by simpa [boundary?, hn] using hb
    exact .inr hr.symm
  case inr =>
    rcases boundary?_brace hb with hr | ⟨-, hr⟩
    case inl => exact .inl (hr.trans hn)
    case inr => exact .inr hr

theorem boundary?_look {p : Primitive} {rest : List Char} (h : boundary? flags cs = some (p, rest)) :
    ∃ l, p = look l := by
  unfold boundary? at h
  split at h
  case h_2       => exact ⟨_, (congrArg Prod.fst (Option.some.inj h)).symm⟩
  case h_1 inner =>
    split at h
    case h_1     => simp at h
    case h_2     => exact ⟨_, (congrArg Prod.fst (Option.some.inj h)).symm⟩
    case h_3     =>
      split at h
      case h_5  => simp at h
      all_goals exact ⟨_, (congrArg Prod.fst (Option.some.inj h)).symm⟩

-- Where no position may stand, no word boundary is read.
theorem readEscape?_bind {G : Primitive → Reader α} (hG : ∀ p cs, Local (G p) cs)
    (hl : ∀ l cs, G (look l) cs = none) (cs : List Char) :
    Local (fun cs => (readEscape? flags cs).bind fun p => G p.1 p.2) cs := by
  cases cs
  case nil       =>
    refine .nil rfl fun u x rest h => ?_
    exact Consumes.of_local (hG _) u x rest h
  case cons c cs =>
    refine .cons ?_
    by_cases hc : c = 'b'
    case neg => exact (readEscape?_local flags hc cs).bind_all hG
    case pos =>
      subst hc
      refine .none fun t _ => ?_
      cases hb : readEscape? flags ('b' :: (cs ++ t))
      case none   => rfl
      case some p =>
        obtain ⟨l, hp⟩ := boundary?_look hb
        simpa [hp] using hl l p.2

end Primitive

end RpcProxy.Regex
