import RpcProxy.Proofs.Json.Numbers
import RpcProxy.Proofs.Json.Quoted

namespace RpcProxy.Json

def Number.IsWritten (n : Number) : Prop :=
  n.Fits ∧ n.IsInteger

mutual

def tokens : Json → List Token
  | .null           => [.null]
  | .bool b         => [.bool b]
  | .number n       => [.number n]
  | .text s         => [.text s]
  | .array items    => .openArray :: tokensOfItems items
  | .object members => .openObject :: tokensOfMembers members

def tokensOfItems : List Json → List Token
  | []        => [.closeArray]
  | x :: rest => tokens x ++ tokensOfMoreItems rest

def tokensOfMoreItems : List Json → List Token
  | []        => [.closeArray]
  | x :: rest => .comma :: tokens x ++ tokensOfMoreItems rest

def tokensOfMembers : List (String × Json) → List Token
  | []             => [.closeObject]
  | (k, x) :: rest => .text k :: .colon :: tokens x ++ tokensOfMoreMembers rest

def tokensOfMoreMembers : List (String × Json) → List Token
  | []             => [.closeObject]
  | (k, x) :: rest => .comma :: .text k :: .colon :: tokens x ++ tokensOfMoreMembers rest

end

namespace Token

variable {cs rest : List Char} {ts : List Token}

theorem isBlank_of_isDigit {c : Char} (h : c.isDigit) : isBlank c = false := by
  simp only [isBlank, Bool.or_eq_false_iff, beq_eq_false_iff_ne]
  refine ⟨⟨⟨?_, ?_⟩, ?_⟩, ?_⟩ <;> rintro rfl <;> cases h

theorem next?_literal {c : Char} (h : c = '-' ∨ c.isDigit) :
    next? (c :: cs) = (Literal.read? (c :: cs)).map fun (l, rest) => (ofLiteral l, rest) := by
  unfold next?
  split
  case h_11 => rfl
  all_goals simp_all

theorem next?_quoted (s : String) :
    next? ('"' :: (s.toList.flatMap escaped ++ '"' :: rest)) = some (.text s, rest) := by
  simp [next?, Piece.read?_flatMap_escaped, ofPieces, Piece.chars?_map_ofChar]

-- A text with no blanks between its tokens, before the rest of the text.
structure Scans (cs : List Char) (ts : List Token) (rest : List Char) : Prop where
  short : ts.length ≤ cs.length
  scan  : ∀ fuel, scanWithin (fuel + ts.length) (cs ++ rest) = ts ++ scanWithin fuel rest

namespace Scans

theorem cons {c : Char} {token : Token} (hb : isBlank c = false)
    (hn : next? (c :: (cs ++ rest)) = some (token, cs ++ rest)) (h : Scans cs ts rest) :
    Scans (c :: cs) (token :: ts) rest where
  short     := Nat.succ_le_succ h.short
  scan fuel := by simp [← Nat.add_assoc, scanWithin, hb, hn, h.scan fuel]

theorem append {cs' : List Char} {ts' : List Token} (h : Scans cs ts (cs' ++ rest)) (h' : Scans cs' ts' rest) :
    Scans (cs ++ cs') (ts ++ ts') rest where
  short     := by simpa using Nat.add_le_add h.short h'.short
  scan fuel := by
    rw [List.length_append, Nat.add_comm ts.length, ← Nat.add_assoc, List.append_assoc, h.scan, h'.scan,
      List.append_assoc]

theorem quoted (s : String) : Scans (Json.quoted s) [.text s] rest where
  short     := by simp [Json.quoted]
  scan fuel := by
    have hb : isBlank '"' = false := rfl
    simp [Json.quoted, scanWithin, hb, next?_quoted]

theorem integer {n : Int} (hn : (Number.integer n).Fits) (hr : Delimits rest) :
    Scans (toString n).toList [.number (.integer n)] rest := by
  have ⟨c, cs, he, hc⟩ := Literal.exists_cons_toString n
  have ⟨l, hl, hv⟩ := Literal.read?_toString hn hr
  have hb : isBlank c = false := hc.elim (fun hm => hm ▸ rfl) isBlank_of_isDigit
  rw [he] at hl ⊢
  rw [List.cons_append] at hl
  exact ⟨by simp, fun fuel => by simp [scanWithin, hb, next?_literal hc, hl, ofLiteral, hv]⟩

end Scans

-- What comes after an item or a member.
theorem delimits_items (xs : List Json) (rest : List Char) : Delimits (printMoreItems xs ++ rest) := by
  cases xs <;> simp [Delimits, printMoreItems]

theorem delimits_members (ms : List (String × Json)) (rest : List Char) : Delimits (printMoreMembers ms ++ rest) := by
  cases ms <;> simp [Delimits, printMoreMembers]

mutual

theorem scans_print (v : Json) (hv : v.Numbers Number.IsWritten) {rest : List Char} (hr : Delimits rest) :
    Scans (print v) (tokens v) rest :=
  match v with
  | .null                => ⟨by decide, fun _ => rfl⟩
  | .bool true           => ⟨by decide, fun _ => rfl⟩
  | .bool false          => ⟨by decide, fun _ => rfl⟩
  | .number (.integer _) => .integer (Numbers.number_iff.mp hv).1 hr
  | .number (.float _)   => (Numbers.number_iff.mp hv).2.elim
  | .text s              => .quoted s
  | .array xs            => .cons rfl rfl (scans_printItems xs (Numbers.array_iff.mp hv) rest)
  | .object ms           => .cons rfl rfl (scans_printMembers ms (Numbers.object_iff.mp hv) rest)

theorem scans_printItems (xs : List Json) (h : ∀ x ∈ xs, x.Numbers Number.IsWritten) (rest : List Char) :
    Scans (printItems xs) (tokensOfItems xs) rest :=
  match xs with
  | []      => ⟨le_rfl, fun _ => rfl⟩
  | x :: xs =>
    .append (scans_print x (List.forall_mem_cons.mp h).1 (delimits_items xs rest))
      (scans_printMoreItems xs (List.forall_mem_cons.mp h).2 rest)

theorem scans_printMoreItems (xs : List Json) (h : ∀ x ∈ xs, x.Numbers Number.IsWritten) (rest : List Char) :
    Scans (printMoreItems xs) (tokensOfMoreItems xs) rest :=
  match xs with
  | []      => ⟨le_rfl, fun _ => rfl⟩
  | x :: xs =>
    .append (.cons rfl rfl (scans_print x (List.forall_mem_cons.mp h).1 (delimits_items xs rest)))
      (scans_printMoreItems xs (List.forall_mem_cons.mp h).2 rest)

theorem scans_printMembers (ms : List (String × Json)) (h : ∀ m ∈ ms, m.2.Numbers Number.IsWritten)
    (rest : List Char) : Scans (printMembers ms) (tokensOfMembers ms) rest :=
  match ms with
  | []           => ⟨le_rfl, fun _ => rfl⟩
  | (k, x) :: ms =>
    .append (.append (.quoted k)
        (.cons rfl rfl (scans_print x (List.forall_mem_cons.mp h).1 (delimits_members ms rest))))
      (scans_printMoreMembers ms (List.forall_mem_cons.mp h).2 rest)

theorem scans_printMoreMembers (ms : List (String × Json)) (h : ∀ m ∈ ms, m.2.Numbers Number.IsWritten)
    (rest : List Char) : Scans (printMoreMembers ms) (tokensOfMoreMembers ms) rest :=
  match ms with
  | []           => ⟨le_rfl, fun _ => rfl⟩
  | (k, x) :: ms =>
    .append (.cons rfl rfl (.append (.quoted k)
        (.cons rfl rfl (scans_print x (List.forall_mem_cons.mp h).1 (delimits_members ms rest)))))
      (scans_printMoreMembers ms (List.forall_mem_cons.mp h).2 rest)

end

theorem scan_render {v : Json} (hv : v.Numbers Number.IsWritten) : scan v.render = tokens v := by
  have h : Scans (print v) (tokens v) [] := scans_print v hv (by simp [Delimits])
  have hs := h.scan ((print v).length - (tokens v).length)
  rw [Nat.sub_add_cancel h.short, List.append_nil] at hs
  rw [scan, render, String.toList_ofList, hs]
  cases (print v).length - (tokens v).length <;> simp [scanWithin]

end Token

namespace Document

mutual

def ofJson : Json → Document
  | .null           => .null
  | .bool b         => .bool b
  | .number n       => .number n
  | .text s         => .text s
  | .array items    => .array (ofItems items) .closed
  | .object members => .object (ofMembers members) .closed

def ofItems : List Json → List Document
  | []        => []
  | x :: rest => ofJson x :: ofItems rest

def ofMembers : List (String × Json) → List (Option String × Document)
  | []             => []
  | (k, x) :: rest => (some k, ofJson x) :: ofMembers rest

end

mutual

theorem build_tokens (v : Json) {ts : List Token} {place : Place} {frames : List Frame}
    (hp : place = .value ∨ place = .itemOrEnd) :
    build (tokens v ++ ts) place frames = build ts (.after (ofJson v)) frames :=
  match v with
  | .null      => by rcases hp with rfl | rfl <;> rfl
  | .bool b    => by rcases hp with rfl | rfl <;> rfl
  | .number n  => by rcases hp with rfl | rfl <;> rfl
  | .text s    => by rcases hp with rfl | rfl <;> rfl
  | .array xs  => by rcases hp with rfl | rfl <;> exact build_tokensOfItems xs
  | .object ms => by rcases hp with rfl | rfl <;> exact build_tokensOfMembers ms

theorem build_tokensOfItems (xs : List Json) {ts : List Token} {frames : List Frame} :
    build (tokensOfItems xs ++ ts) .itemOrEnd (.items [] :: frames) =
      build ts (.after (.array (ofItems xs) .closed)) frames :=
  match xs with
  | []      => rfl
  | x :: xs => by
    rw [tokensOfItems, List.append_assoc, build_tokens x (.inr rfl), build_tokensOfMoreItems xs]
    rfl

theorem build_tokensOfMoreItems (xs : List Json) {ts : List Token} {frames : List Frame} {v : Document}
    {read : List Document} :
    build (tokensOfMoreItems xs ++ ts) (.after v) (.items read :: frames) =
      build ts (.after (.array ((v :: read).reverse ++ ofItems xs) .closed)) frames :=
  match xs with
  | []      => by
    rw [ofItems, List.append_nil]
    rfl
  | x :: xs => by
    rw [tokensOfMoreItems, List.append_assoc]
    refine (build_tokens x (.inl rfl)).trans ?_
    rw [build_tokensOfMoreItems xs, List.reverse_cons, List.append_assoc]
    rfl

theorem build_tokensOfMembers (ms : List (String × Json)) {ts : List Token} {frames : List Frame} :
    build (tokensOfMembers ms ++ ts) .keyOrEnd (.members [] none :: frames) =
      build ts (.after (.object (ofMembers ms) .closed)) frames :=
  match ms with
  | []           => rfl
  | (k, x) :: ms => by
    rw [tokensOfMembers, List.append_assoc]
    exact (build_tokens x (.inl rfl)).trans (build_tokensOfMoreMembers ms)

theorem build_tokensOfMoreMembers (ms : List (String × Json)) {ts : List Token} {frames : List Frame} {v : Document}
    {key : Option String} {read : List (Option String × Document)} :
    build (tokensOfMoreMembers ms ++ ts) (.after v) (.members read key :: frames) =
      build ts (.after (.object (((key, v) :: read).reverse ++ ofMembers ms) .closed)) frames :=
  match ms with
  | []           => by
    rw [ofMembers, List.append_nil]
    rfl
  | (k, x) :: ms => by
    rw [tokensOfMoreMembers, List.append_assoc]
    refine (build_tokens x (.inl rfl)).trans ?_
    rw [build_tokensOfMoreMembers ms, List.reverse_cons, List.append_assoc]
    rfl

end

-- A value is read back as its tree if its numbers are integers that fit.
theorem read_render {v : Json} (hv : v.Numbers Number.IsWritten) : read v.render = ⟨ofJson v, false⟩ := by
  rw [read, Token.scan_render hv, ← List.append_nil (tokens v), build_tokens v (.inl rfl)]
  rfl

end Document

end RpcProxy.Json
