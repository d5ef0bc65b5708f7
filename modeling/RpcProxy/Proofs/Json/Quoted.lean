import Mathlib.Tactic.IntervalCases
import RpcProxy.Json.Printer
import RpcProxy.Json.Quoted

namespace RpcProxy.Json.Piece

theorem hexValue?_hexDigit {n : Nat} (h : n < 16) : hexValue? (hexDigit n) = some n := by
  interval_cases n <;> rfl

-- A control character without a short escape is written by its number.
def ofChar (c : Char) : Piece :=
  if c.toNat < 0x20 ∧ c ∉ ['\x08', '\t', '\n', '\x0c', '\r'] then .unit c.toNat else .char c

theorem read?_escaped (c : Char) (cs : List Char) :
    read? (escaped c ++ cs) = (read? cs).map fun (pieces, rest) => (ofChar c :: pieces, rest) := by
  unfold escaped
  split
  case h_8 quote backslash b t n f r =>
    split
    case isTrue hc  =>
      have high : hexValue? (hexDigit (c.toNat / 16)) = some (c.toNat / 16) := hexValue?_hexDigit (by omega)
      have low : hexValue? (hexDigit (c.toNat % 16)) = some (c.toNat % 16) := hexValue?_hexDigit (by omega)
      have hu : unit? '0' '0' (hexDigit (c.toNat / 16)) (hexDigit (c.toNat % 16)) = some (ofChar c) := by
        have zero : hexValue? '0' = some 0 := rfl
        have hs : c ∉ ['\x08', '\t', '\n', '\x0c', '\r'] := by simpa using ⟨b, t, n, f, r⟩
        simp [unit?, zero, high, low, ofChar, hc, hs, Nat.div_add_mod]
      simp [read?, hu]
    case isFalse hc =>
      have ho : ofChar c = .char c := if_neg fun h => hc h.1
      rw [List.singleton_append, read?.eq_def, ho]
      split <;> simp_all
  all_goals rfl

theorem chars?_unit_cons {n : Nat} (h : n < 0xD800) (pieces : List Piece) :
    chars? (.unit n :: pieces) = (chars? pieces).map (Char.ofNat n :: ·) := by
  have hh : isHigh n = false := by simp [isHigh]; omega
  have hl : isLow n = false := by simp [isLow]; omega
  cases pieces
  case nil           => simp [chars?, hh, hl]
  case cons p pieces => cases p <;> simp [chars?, hh, hl]

theorem chars?_map_ofChar (cs : List Char) : chars? (cs.map ofChar) = some cs := by
  induction cs
  case nil          => rfl
  case cons c cs ih =>
    rw [List.map_cons, ofChar]
    split
    case isTrue h  => rw [chars?_unit_cons (by omega), ih, Option.map_some, Char.ofNat_toNat]
    case isFalse h => rw [chars?, ih, Option.map_some]

theorem read?_flatMap_escaped (cs rest : List Char) :
    read? (cs.flatMap escaped ++ '"' :: rest) = some (cs.map ofChar, rest) := by
  induction cs
  case nil          => rfl
  case cons c cs ih => rw [List.flatMap_cons, List.append_assoc, read?_escaped, ih, Option.map_some, List.map_cons]

end RpcProxy.Json.Piece
