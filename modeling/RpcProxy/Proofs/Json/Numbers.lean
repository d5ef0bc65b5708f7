import RpcProxy.Proofs.Json.Literal
import RpcProxy.Json.Document

namespace RpcProxy.Json

def Number.IsInteger : Number → Prop
  | .integer _ => True
  | .float _   => False

-- What holds of all numbers in a value.
inductive Numbers (p : Number → Prop) : Json → Prop
  | null : Numbers p .null
  | bool : Numbers p (.bool b)
  | number (h : p n) : Numbers p (.number n)
  | text : Numbers p (.text s)
  | array (h : ∀ x ∈ xs, Numbers p x) : Numbers p (.array xs)
  | object (h : ∀ m ∈ ms, Numbers p m.2) : Numbers p (.object ms)

namespace Numbers

attribute [simp] null bool text

variable {p q : Number → Prop}

@[simp]
theorem number_iff {n : Number} : Numbers p (.number n) ↔ p n :=
  ⟨fun | .number h => h, .number⟩

@[simp]
theorem array_iff {xs : List Json} : Numbers p (.array xs) ↔ ∀ x ∈ xs, Numbers p x :=
  ⟨fun | .array h => h, .array⟩

@[simp]
theorem object_iff {ms : List (String × Json)} : Numbers p (.object ms) ↔ ∀ m ∈ ms, Numbers p m.2 :=
  ⟨fun | .object h => h, .object⟩

theorem and {v : Json} (h : v.Numbers p) (h' : v.Numbers q) : v.Numbers fun n => p n ∧ q n := by
  induction h
  case null         => exact .null
  case bool         => exact .bool
  case number h     => exact .number ⟨h, number_iff.mp h'⟩
  case text         => exact .text
  case array ih     => exact .array fun x hx => ih x hx (array_iff.mp h' x hx)
  case object ih    => exact .object fun m hm => ih m hm (object_iff.mp h' m hm)

end Numbers

def Token.Numbers (p : Number → Prop) : Token → Prop
  | .number n => p n
  | _         => True

theorem Token.next?_numbers {cs rest : List Char} {token : Token} (h : next? cs = some (token, rest)) :
    token.Numbers Number.Fits := by
  unfold next? at h
  split at h
  case h_10     =>
    obtain ⟨⟨pieces, rest⟩, -, h⟩ := Option.map_eq_some_iff.mp h
    obtain ⟨rfl, -⟩ := Prod.mk.inj h
    unfold ofPieces
    split <;> trivial
  case h_11     =>
    obtain ⟨⟨l, rest⟩, -, h⟩ := Option.map_eq_some_iff.mp h
    obtain ⟨rfl, -⟩ := Prod.mk.inj h
    unfold ofLiteral
    split
    case h_1 hv => exact Literal.value?_fits hv
    case h_2    => trivial
  all_goals
    obtain ⟨rfl, -⟩ := Prod.mk.inj (Option.some.inj h)
    trivial

theorem Token.scanWithin_numbers (fuel : Nat) (cs : List Char) :
    ∀ token ∈ scanWithin fuel cs, token.Numbers Number.Fits := by
  induction fuel generalizing cs
  case zero         => simp [scanWithin]
  case succ fuel ih =>
    cases cs
    case nil       => simp [scanWithin]
    case cons c cs =>
      simp only [scanWithin]
      split
      case isTrue  => exact ih cs
      case isFalse =>
        split
        case h_1 hn => exact List.forall_mem_cons.mpr ⟨next?_numbers hn, ih _⟩
        case h_2    => exact List.forall_mem_singleton.mpr trivial

namespace Document

inductive Numbers (p : Number → Prop) : Document → Prop
  | null : Numbers p .null
  | bool : Numbers p (.bool b)
  | number (h : p n) : Numbers p (.number n)
  | text : Numbers p (.text s)
  | array (h : ∀ d ∈ ds, Numbers p d) : Numbers p (.array ds ending)
  | object (h : ∀ m ∈ ms, Numbers p m.2) : Numbers p (.object ms ending)
  | keyless (h : Numbers p d) : Numbers p (.keyless d)
  | valueless : Numbers p .valueless
  | broken : Numbers p .broken

variable {p : Number → Prop}

theorem Numbers.number_iff {n : Number} : Numbers p (.number n) ↔ p n :=
  ⟨fun | .number h => h, .number⟩

theorem Numbers.array_iff {ds : List Document} {ending : Ending} :
    Numbers p (.array ds ending) ↔ ∀ d ∈ ds, Numbers p d :=
  ⟨fun | .array h => h, .array⟩

theorem Numbers.object_iff {ms : List (Option String × Document)} {ending : Ending} :
    Numbers p (.object ms ending) ↔ ∀ m ∈ ms, Numbers p m.2 :=
  ⟨fun | .object h => h, .object⟩

def Place.Numbers (p : Number → Prop) : Place → Prop
  | .after v => v.Numbers p
  | _        => True

def Frame.Numbers (p : Number → Prop) : Frame → Prop
  | .items read     => ∀ d ∈ read, d.Numbers p
  | .members read _ => ∀ m ∈ read, m.2.Numbers p

section

variable {d : Document} {frames : List Frame} {ending : Ending}

theorem Frame.Numbers.array {read : List Document} (h : (Frame.items read).Numbers p) :
    (Document.array read.reverse ending).Numbers p :=
  .array fun d hd => h d (List.mem_reverse.mp hd)

theorem Frame.Numbers.object {read : List (Option String × Document)} {key : Option String}
    (h : (Frame.members read key).Numbers p) : (Document.object read.reverse ending).Numbers p :=
  .object fun m hm => h m (List.mem_reverse.mp hm)

theorem Frame.Numbers.item {read : List Document} (hd : d.Numbers p) (h : (Frame.items read).Numbers p) :
    (Frame.items (d :: read)).Numbers p :=
  List.forall_mem_cons.mpr ⟨hd, h⟩

theorem Frame.Numbers.member {read : List (Option String × Document)} {key key' : Option String} (hd : d.Numbers p)
    (h : (Frame.members read key).Numbers p) : (Frame.members ((key', d) :: read) key).Numbers p :=
  List.forall_mem_cons.mpr ⟨hd, h⟩

theorem abandon_numbers (hd : d.Numbers p) (hf : ∀ f ∈ frames, f.Numbers p) : (abandon d frames).Numbers p := by
  induction frames generalizing d
  case nil              => exact hd
  case cons f frames ih =>
    have ⟨hf, hfs⟩ := List.forall_mem_cons.mp hf
    cases f
    case items   => exact ih (hf.item hd).array hfs
    case members => exact ih (hf.member hd).object hfs

theorem breakOff_numbers (hf : ∀ f ∈ frames, f.Numbers p) : (breakOff frames).Numbers p := by
  cases frames
  case nil           => exact .broken
  case cons f frames =>
    have ⟨hf, hfs⟩ := List.forall_mem_cons.mp hf
    cases f
    case items   => exact abandon_numbers hf.array hfs
    case members => exact abandon_numbers hf.object hfs

theorem ofToken?_numbers {token : Token} (ht : token.Numbers p) (h : ofToken? token = some d) : d.Numbers p := by
  cases token <;> cases h <;> constructor
  exact ht

theorem ofStrayKey_numbers {token : Token} (ht : token.Numbers p) : (ofStrayKey token).Numbers p := by
  cases token <;> constructor <;> first | exact ht | simp

-- Every value goes from a place into a frame, and from a frame into the tree.
theorem build_numbers {ts : List Token} {place : Place} (ht : ∀ t ∈ ts, t.Numbers p)
    (hp : place.Numbers p) (hf : ∀ f ∈ frames, f.Numbers p) : (build ts place frames).document.Numbers p := by
  fun_induction build ts place frames
  all_goals simp only [List.forall_mem_cons] at *
  case case1 | case2 => exact hp
  all_goals grind [Place.Numbers, Frame.Numbers, Frame.Numbers.array, Frame.Numbers.object, Frame.Numbers.item,
    Frame.Numbers.member, abandon_numbers, breakOff_numbers, ofToken?_numbers, ofStrayKey_numbers, Numbers]

end

theorem read_numbers (text : String) : (read text).document.Numbers Number.Fits :=
  build_numbers (Token.scanWithin_numbers _ _) trivial (by simp)

end Document

end RpcProxy.Json
