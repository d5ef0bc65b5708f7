import Mathlib.Order.Basic
import RpcProxy.Json.Literal
import RpcProxy.Json.Printer

namespace RpcProxy.Json

-- Integers are kept up to 64 bits, with a sign or without.
def Number.Fits : Number → Prop
  | .integer n => -9223372036854775808 ≤ n ∧ n ≤ 18446744073709551615
  | .float _   => True

-- What may follow a value inside of an array or object, or at the end of the text.
def Delimits (rest : List Char) : Prop :=
  ∀ c ∈ rest.head?, c = ',' ∨ c = ']' ∨ c = '\x7d'

namespace Literal

variable {n : Nat} {rest : List Char}

theorem float?_fits {l : Literal} {x : Number} (h : l.float? = some x) : x.Fits := by
  obtain ⟨y, -, rfl⟩ := Option.map_eq_some_iff.mp h
  trivial

theorem value?_fits {l : Literal} {x : Number} (h : l.value? = some x) : x.Fits := by
  unfold value? at h
  split at h
  case h_2 => exact float?_fits h
  case h_1 =>
    dsimp only at h
    split at h
    case isTrue  =>
      split at h
      case isTrue hn  =>
        obtain rfl := Option.some.inj h
        have ⟨_, hn⟩ : ¬ valueOf l.whole = 0 ∧ valueOf l.whole ≤ greatestNegated := by simpa using hn
        unfold greatestNegated at hn
        exact ⟨by omega, by omega⟩
      case isFalse    => exact float?_fits h
    case isFalse =>
      split at h
      case isTrue hn  =>
        obtain rfl := Option.some.inj h
        simp only [greatest] at hn
        exact ⟨by omega, by omega⟩
      case isFalse    => exact float?_fits h

def decimal (n : Nat) : List Nat :=
  (Nat.toDigits 10 n).map digit

theorem valueOf_decimal : valueOf (decimal n) = n := by
  rw [valueOf, decimal, List.foldl_map]
  exact Nat.ofDigitChars_ten_toDigits

theorem toDigits_isDigit {c : Char} (h : c ∈ Nat.toDigits 10 n) : c.isDigit :=
  Nat.isDigit_of_mem_toDigits (by decide) (by decide) h

theorem digit_digitChar (h : n < 10) : digit n.digitChar = n :=
  Nat.toNat_digitChar_sub_48_of_lt_ten h

theorem decimal_of_lt (h : n < 10) : decimal n = [n] := by
  simp [decimal, Nat.toDigits_of_lt_base h, digit_digitChar h]

theorem decimal_of_ge (h : 10 ≤ n) : decimal n = decimal (n / 10) ++ [n % 10] := by
  have hd : digit (n % 10).digitChar = n % 10 := digit_digitChar (Nat.mod_lt _ (by decide))
  rw [decimal, Nat.toDigits_of_base_le (by decide) h, List.map_append, List.map_singleton, hd, decimal]

theorem decimal_ne_nil : decimal n ≠ [] := by
  simp [decimal]

-- There is no leading zero.
theorem head?_decimal (h : n ≠ 0) : (decimal n).head? ≠ some 0 := by
  induction n using Nat.strongRecOn
  case ind n ih =>
    by_cases hn : n < 10
    case pos => simpa [decimal_of_lt hn] using h
    case neg =>
      rw [decimal_of_ge (Nat.le_of_not_lt hn)]
      have ih := ih (n / 10) (by omega) (by omega)
      cases hd : decimal (n / 10)
      case nil       => exact absurd hd decimal_ne_nil
      case cons d ds => simpa [hd] using ih

theorem not_isDigit_of_delimits (h : Delimits rest) {c : Char} (hc : c ∈ rest.head?) : c.isDigit = false := by
  rcases h c hc with rfl | rfl | rfl <;> rfl

theorem digits_toDigits (h : Delimits rest) : digits (Nat.toDigits 10 n ++ rest) = (decimal n, rest) := by
  have hr : rest.takeWhile Char.isDigit = [] ∧ rest.dropWhile Char.isDigit = rest := by
    cases rest
    case nil       => exact ⟨rfl, rfl⟩
    case cons c cs => simp [not_isDigit_of_delimits h rfl]
  rw [digits, List.takeWhile_append_of_pos fun _ => toDigits_isDigit,
    List.dropWhile_append_of_pos fun _ => toDigits_isDigit, hr.1, hr.2, List.append_nil, decimal]

theorem readWhole_toDigits (h : Delimits rest) : readWhole (Nat.toDigits 10 n ++ rest) = some (decimal n, rest) := by
  rw [readWhole, digits_toDigits h]
  split
  case h_1 heq     => exact absurd (Prod.mk.inj heq).1 decimal_ne_nil
  case h_2 heq     =>
    have he := (Prod.mk.inj heq).1
    by_cases hn : n = 0
    case pos => simp [hn, decimal_of_lt] at he
    case neg => exact absurd (by simp [he]) (head?_decimal hn)
  case h_3 ds _ heq =>
    obtain ⟨rfl, rfl⟩ := Prod.mk.inj heq
    rfl

theorem readUnsigned_toDigits (h : Delimits rest) (negative : Bool) :
    readUnsigned negative (Nat.toDigits 10 n ++ rest) = some (⟨negative, decimal n, none, none⟩, rest) := by
  have hf : readFraction rest = some (none, rest) := by
    unfold readFraction
    split
    case h_1 => simpa using h _ rfl
    case h_2 => rfl
  have he : readExponent rest = some (none, rest) := by
    unfold readExponent
    split
    case h_1 c cs => rcases h c rfl with rfl | rfl | rfl <;> rfl
    case h_2      => rfl
  simp [readUnsigned, readWhole_toDigits h, hf, he]

theorem toList_ofNat : (toString (Int.ofNat n)).toList = Nat.toDigits 10 n :=
  Nat.toList_repr

theorem toList_negSucc : (toString (Int.negSucc n)).toList = '-' :: Nat.toDigits 10 (n + 1) := by
  rw [← Nat.toList_repr]
  exact String.toList_append

theorem exists_cons_toDigits (n : Nat) : ∃ c cs, Nat.toDigits 10 n = c :: cs ∧ c.isDigit := by
  obtain ⟨c, cs, he⟩ := List.exists_cons_of_ne_nil (Nat.toDigits_ne_nil (n := n) (b := 10))
  exact ⟨c, cs, he, toDigits_isDigit (n := n) (he ▸ List.mem_cons_self)⟩

theorem exists_cons_toString (n : Int) : ∃ c cs, (toString n).toList = c :: cs ∧ (c = '-' ∨ c.isDigit) := by
  cases n
  case ofNat n   =>
    obtain ⟨c, cs, he, hc⟩ := exists_cons_toDigits n
    exact ⟨c, cs, toList_ofNat.trans he, .inr hc⟩
  case negSucc n => exact ⟨'-', _, toList_negSucc, .inl rfl⟩

-- The literal of an integer stands for the integer.
theorem read?_toString {n : Int} (hn : (Number.integer n).Fits) (h : Delimits rest) :
    ∃ l, read? ((toString n).toList ++ rest) = some (l, rest) ∧ l.value? = some (.integer n) := by
  obtain ⟨low, high⟩ := hn
  cases n
  case ofNat n   =>
    refine ⟨⟨false, decimal n, none, none⟩, ?_, ?_⟩
    · rw [toList_ofNat, read?, readUnsigned_toDigits h]
      obtain ⟨c, cs, he, hc⟩ := exists_cons_toDigits n
      simp only [he, List.cons_append, List.cons.injEq]
      rintro _ ⟨rfl, -⟩
      cases hc
    · have hg : n ≤ greatest := Int.ofNat_le.mp high
      simp [value?, valueOf_decimal, hg]
  case negSucc n =>
    refine ⟨⟨true, decimal (n + 1), none, none⟩, ?_, ?_⟩
    · rw [toList_negSucc, List.cons_append, read?, readUnsigned_toDigits h]
    · have hg : n + 1 ≤ greatestNegated := by
        unfold greatestNegated
        omega
      simp [value?, valueOf_decimal, hg, Int.negSucc_eq]

end Literal

end RpcProxy.Json
