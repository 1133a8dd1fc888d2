import ReverseProxy.GoValues

/-! Base64 in the standard alphabet with padding. The decoder skips line breaks and does
not look at the bits a padded group leaves over. Decoding inverts encoding. -/
namespace ReverseProxy.Base64
open GoValues (Bytes)

def padding : UInt8 := 0x3D

def symbol (n : Nat) : UInt8 :=
  UInt8.ofNat (
    if n < 26 then 0x41 + n
    else if n < 52 then 0x61 + (n - 26)
    else if n < 62 then 0x30 + (n - 52)
    else if n = 62 then 0x2B
    else 0x2F)

def value (b : UInt8) : Option Nat :=
  let n := b.toNat
  if 0x41 ≤ n ∧ n ≤ 0x5A then some (n - 0x41)
  else if 0x61 ≤ n ∧ n ≤ 0x7A then some (n - 0x61 + 26)
  else if 0x30 ≤ n ∧ n ≤ 0x39 then some (n - 0x30 + 52)
  else if n = 0x2B then some 62
  else if n = 0x2F then some 63
  else none

def first (a : UInt8) : Nat := a.toNat / 4
def second (a b : UInt8) : Nat := a.toNat % 4 * 16 + b.toNat / 16
def third (b c : UInt8) : Nat := b.toNat % 16 * 4 + c.toNat / 64
def fourth (c : UInt8) : Nat := c.toNat % 64

def encode : Bytes → Bytes
  | [] => []
  | [a] => [symbol (first a),symbol (second a 0),padding,padding]
  | [a,b] => [symbol (first a),symbol (second a b),symbol (third b 0),padding]
  | a :: b :: c :: rest =>
    symbol (first a) :: symbol (second a b) :: symbol (third b c) :: symbol (fourth c) :: encode rest

def head (w x : Nat) : UInt8 := UInt8.ofNat (w * 4 + x / 16)
def middle (x y : Nat) : UInt8 := UInt8.ofNat (x % 16 * 16 + y / 4)
def last (y z : Nat) : UInt8 := UInt8.ofNat (y % 4 * 64 + z)

def decodeGroups : Bytes → Option Bytes
  | [] => some []
  | a :: b :: c :: d :: rest =>
    if d = padding then
      if rest ≠ [] then none
      else if c = padding then do
        let w ← value a
        let x ← value b
        some [head w x]
      else do
        let w ← value a
        let x ← value b
        let y ← value c
        some [head w x,middle x y]
    else do
      let w ← value a
      let x ← value b
      let y ← value c
      let z ← value d
      let bytes ← decodeGroups rest
      some (head w x :: middle x y :: last y z :: bytes)
  | _ => none

def lineBreak (b : UInt8) : Bool := b == 0x0A || b == 0x0D

def decode (text : Bytes) : Option Bytes := decodeGroups (text.filter (fun b => !lineBreak b))

theorem valueSymbol {n : Nat} (small : n < 64) : value (symbol n) = some n := by
  have all : ∀ n : Fin 64, value (symbol n) = some n.val := by decide
  exact all ⟨n,small⟩

theorem symbolPlain {n : Nat} (small : n < 64) :
    lineBreak (symbol n) = false ∧ symbol n ≠ padding ∧ symbol n < 0x80 := by
  have all : ∀ n : Fin 64, lineBreak (symbol n) = false ∧ symbol n ≠ padding ∧ symbol n < 0x80 := by decide
  exact all ⟨n,small⟩

theorem firstSmall (a : UInt8) : first a < 64 := by
  have := a.toNat_lt
  unfold first
  omega

theorem secondSmall (a b : UInt8) : second a b < 64 := by
  have := b.toNat_lt
  unfold second
  omega

theorem thirdSmall (b c : UInt8) : third b c < 64 := by
  have := c.toNat_lt
  unfold third
  omega

theorem fourthSmall (c : UInt8) : fourth c < 64 := Nat.mod_lt _ (by decide)

theorem headJoins (a b : UInt8) : head (first a) (second a b) = a := by
  have := b.toNat_lt
  unfold head first second
  rw [show a.toNat / 4 * 4 + (a.toNat % 4 * 16 + b.toNat / 16) / 16 = a.toNat by omega]
  exact UInt8.ofNat_toNat

theorem middleJoins (a b c : UInt8) : middle (second a b) (third b c) = b := by
  have := b.toNat_lt
  have := c.toNat_lt
  unfold middle second third
  rw [show (a.toNat % 4 * 16 + b.toNat / 16) % 16 * 16 + (b.toNat % 16 * 4 + c.toNat / 64) / 4 = b.toNat by omega]
  exact UInt8.ofNat_toNat

theorem lastJoins (b c : UInt8) : last (third b c) (fourth c) = c := by
  have := c.toNat_lt
  unfold last third fourth
  rw [show (b.toNat % 16 * 4 + c.toNat / 64) % 4 * 64 + c.toNat % 64 = c.toNat by omega]
  exact UInt8.ofNat_toNat

theorem encodeMember {raw : Bytes} {b : UInt8} (inside : b ∈ encode raw) : b = padding ∨ ∃ n < 64, b = symbol n := by
  induction raw using encode.induct with
  | case1 => cases inside
  | case2 a =>
    simp only [encode, List.mem_cons, List.not_mem_nil, or_false] at inside
    rcases inside with same | same | same | same
    · exact .inr ⟨_,firstSmall a,same⟩
    · exact .inr ⟨_,secondSmall a 0,same⟩
    · exact .inl same
    · exact .inl same
  | case3 a c =>
    simp only [encode, List.mem_cons, List.not_mem_nil, or_false] at inside
    rcases inside with same | same | same | same
    · exact .inr ⟨_,firstSmall a,same⟩
    · exact .inr ⟨_,secondSmall a c,same⟩
    · exact .inr ⟨_,thirdSmall c 0,same⟩
    · exact .inl same
  | case4 a c d rest ih =>
    simp only [encode, List.mem_cons] at inside
    rcases inside with same | same | same | same | later
    · exact .inr ⟨_,firstSmall a,same⟩
    · exact .inr ⟨_,secondSmall a c,same⟩
    · exact .inr ⟨_,thirdSmall c d,same⟩
    · exact .inr ⟨_,fourthSmall d,same⟩
    · exact ih later

theorem encodeAscii {raw : Bytes} {b : UInt8} (inside : b ∈ encode raw) : b < 0x80 := by
  rcases encodeMember inside with rfl | ⟨n,small,rfl⟩
  · decide
  · exact (symbolPlain small).2.2

theorem encodeUnbroken (raw : Bytes) : (encode raw).filter (fun b => !lineBreak b) = encode raw := by
  refine List.filter_eq_self.mpr (fun b inside => ?_)
  rcases encodeMember inside with rfl | ⟨n,small,rfl⟩
  · rfl
  · rw [(symbolPlain small).1]
    rfl

theorem decodeGroupsEncode (raw : Bytes) : decodeGroups (encode raw) = some raw := by
  induction raw using encode.induct with
  | case1 => rfl
  | case2 a =>
    simp only [encode, decodeGroups, if_true, ne_eq, not_true_eq_false, if_false, valueSymbol (firstSmall a),
      valueSymbol (secondSmall a 0), Option.bind_eq_bind, Option.bind_some, headJoins]
  | case3 a b =>
    have present := (symbolPlain (thirdSmall b 0)).2.1
    simp only [encode, decodeGroups, if_true, ne_eq, not_true_eq_false, if_false, if_neg present,
      valueSymbol (firstSmall a), valueSymbol (secondSmall a b), valueSymbol (thirdSmall b 0), Option.bind_eq_bind,
      Option.bind_some, headJoins, middleJoins]
  | case4 a b c rest ih =>
    have present := (symbolPlain (fourthSmall c)).2.1
    simp only [encode, decodeGroups, if_neg present, valueSymbol (firstSmall a), valueSymbol (secondSmall a b),
      valueSymbol (thirdSmall b c), valueSymbol (fourthSmall c), ih, Option.bind_eq_bind, Option.bind_some, headJoins,
      middleJoins, lastJoins]

theorem decodeEncode (raw : Bytes) : decode (encode raw) = some raw := by
  unfold decode
  rw [encodeUnbroken]
  exact decodeGroupsEncode raw

end ReverseProxy.Base64
