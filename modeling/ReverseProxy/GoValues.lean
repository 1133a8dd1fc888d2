import Mathlib.Algebra.Group.Int.Defs
import Mathlib.Algebra.Group.Nat.Defs

/-! Go values as the proxy uses them: byte strings, decoded text, slices that may
be nil, int64 durations and formatted errors. Text that comes out of the JSON
decoder is valid UTF-8 and is a `String`; request text is arbitrary bytes.
The rune tables of package unicode are an explicit parameter. -/
namespace ReverseProxy.GoValues

abbrev Bytes := List UInt8

/- nil and the empty slice differ for reflect.DeepEqual and for nothing else. -/
abbrev Slice (α : Type) := Option (List α)

def items {α : Type} (s : Slice α) : List α := s.getD []

/- fmt.Errorf and fmt.Sprintf keep their format and operands; rendering is left to fmt. -/
structure Message where
  format : String
  args : List String
  deriving DecidableEq, Repr

def errorf (format : String) (args : List String) : Message := ⟨format,args⟩

def newError (text : String) : Message := ⟨text,[]⟩

theorem guardOk {ε α : Type} {p : Prop} [Decidable p] {e : ε} {x : Except ε α} {v : α} :
    (if p then .error e else x) = .ok v ↔ ¬p ∧ x = .ok v := by
  split <;> simp_all

theorem thenOk {ε α β : Type} {x : Except ε α} {f : α → Except ε β} {v : β} :
    (x >>= f) = .ok v ↔ ∃ a, x = .ok a ∧ f a = .ok v := by
  cases x <;> simp [bind,Except.bind]

theorem checkOk {ε β : Type} {x : Except ε Unit} {f : Unit → Except ε β} {v : β} :
    (x >>= f) = .ok v ↔ x = .ok () ∧ f () = .ok v := by
  cases x <;> simp [bind,Except.bind]

abbrev Duration := Int

/- The value an int64 holds after an operation whose exact result is `n`. -/
def wrap64 (n : Int) : Int := Int.bmod n (2^64)

theorem wrap64Le {n : Int} (low : -(2^63) ≤ n) : wrap64 n ≤ n := by
  unfold wrap64
  rw [Int.bmod_def]
  split <;> omega

theorem wrap64Range (n : Int) : -(2^63) ≤ wrap64 n := by
  unfold wrap64
  rw [Int.bmod_def]
  split <;> omega

theorem wrap64Same {n : Int} (low : -(2^63) ≤ n) (high : n < 2^63) : wrap64 n = n := by
  unfold wrap64
  rw [Int.bmod_def]
  split <;> omega

theorem wrap64Lt (n : Int) : wrap64 n < 2^63 := by
  unfold wrap64
  rw [Int.bmod_def]
  split <;> omega

theorem wrap64Next (n : Int) : wrap64 (wrap64 n + 1) = wrap64 (n + 1) := by
  unfold wrap64
  rw [Int.bmod_add_bmod]

theorem wrap64Over {n : Int} (low : 2^63 ≤ n) (high : n < 2^64) : wrap64 n = n - 2^64 := by
  unfold wrap64
  rw [Int.bmod_def]
  split <;> omega

def wrap32 (n : Int) : Int := Int.bmod n (2^32)

theorem wrap32Range (n : Int) : -(2^31) ≤ wrap32 n := by
  unfold wrap32
  rw [Int.bmod_def]
  split <;> omega

theorem wrap32Le {n : Int} (low : -(2^31) ≤ n) : wrap32 n ≤ n := by
  unfold wrap32
  rw [Int.bmod_def]
  split <;> omega

theorem wrap32Same {n : Int} (low : -(2^31) ≤ n) (high : n < 2^31) : wrap32 n = n := by
  unfold wrap32
  rw [Int.bmod_def]
  split <;> omega

theorem wrap32Lt (n : Int) : wrap32 n < 2^31 := by
  unfold wrap32
  rw [Int.bmod_def]
  split <;> omega

def millisecond : Duration := 1000000
def second : Duration := 1000 * millisecond
def minute : Duration := 60 * second

def milliseconds (ms : Int) : Duration := wrap64 (ms * millisecond)

/- unicode.IsSpace. -/
def isSpace (c : Char) : Bool :=
  let n := c.toNat
  (9 ≤ n && n ≤ 13) || n == 0x20 || n == 0x85 || n == 0xA0 || n == 0x1680 ||
  (0x2000 ≤ n && n ≤ 0x200A) || n == 0x2028 || n == 0x2029 || n == 0x202F ||
  n == 0x205F || n == 0x3000

def trimSpace (s : String) : String :=
  String.ofList ((s.toList.dropWhile isSpace).reverse.dropWhile isSpace).reverse

def hasPrefix (s pre : String) : Bool := pre.toList.isPrefixOf s.toList

structure RuneTables where
  toUpper : Char → Char
  toLower : Char → Char
  fold : Char → Char

namespace RuneTables

def upper (t : RuneTables) (s : String) : String := String.ofList (s.toList.map t.toUpper)

def lower (t : RuneTables) (s : String) : String := String.ofList (s.toList.map t.toLower)

def equalFold (t : RuneTables) (a b : String) : Bool := a.toList.map t.fold == b.toList.map t.fold

def ascii : RuneTables := ⟨Char.toUpper,Char.toLower,Char.toLower⟩

end RuneTables

def encodeText (s : String) : Bytes := s.toList.flatMap String.utf8EncodeChar

def hexDigit (n : Nat) : UInt8 := UInt8.ofNat (if n < 10 then 48 + n else 87 + n)

def hexEncode (raw : Bytes) : Bytes :=
  raw.flatMap (fun b => [hexDigit (b.toNat / 16),hexDigit (b.toNat % 16)])

/- net.SplitHostPort on any alphabet with the three delimiters. The last colon
starts the port; brackets may only enclose the whole host. -/
def splitHostPort {α : Type} [DecidableEq α] (colon left right : α) (xs : List α) :
    Except Message (List α × List α) :=
  match xs.reverse.findIdx? (· = colon) with
  | none => .error (newError "missing port in address")
  | some fromEnd =>
    let i := xs.length - 1 - fromEnd
    let port := xs.drop (i + 1)
    if xs.head? = some left then
      match xs.findIdx? (· = right) with
      | none => .error (newError "missing ']' in address")
      | some close =>
        if close + 1 = xs.length then .error (newError "missing port in address")
        else if close + 1 ≠ i then
          if xs[close + 1]? = some colon then .error (newError "too many colons in address")
          else .error (newError "missing port in address")
        else if left ∈ xs.drop 1 then .error (newError "unexpected '[' in address")
        else if right ∈ xs.drop (close + 1) then .error (newError "unexpected ']' in address")
        else .ok ((xs.take close).drop 1,port)
    else if colon ∈ xs.take i then .error (newError "too many colons in address")
    else if left ∈ xs then .error (newError "unexpected '[' in address")
    else if right ∈ xs then .error (newError "unexpected ']' in address")
    else .ok (xs.take i,port)

def splitTextHostPort (s : String) : Except Message (List Char × List Char) :=
  splitHostPort ':' '[' ']' s.toList

end ReverseProxy.GoValues
