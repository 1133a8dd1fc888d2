import ReverseProxy.ListText
import ReverseProxy.PolicyBuild

/-! Package cache: BuildKey and the partition it ends with. Request text is bytes
and may hold any of the key's separators. BuildKey trims the values of the vary
headers inside the request, so it returns the request it leaves behind. -/
namespace ReverseProxy.CacheKey
open GoValues FiniteMap ListText
open PolicyBuild (CachePolicy)

/- strings.ToUpper, ToLower and EqualFold on arbitrary bytes. No rune has a lower
case ASCII letter as its upper case; the one letter the key needs is 'h'. -/
structure TextTables where
  upper : Bytes → Bytes
  lower : Bytes → Bytes
  equalFold : Bytes → Bytes → Bool
  upperCase : ∀ s, (0x68 : UInt8) ∉ upper s

namespace TextTables

def asciiUpper (c : UInt8) : UInt8 := if 0x61 ≤ c ∧ c ≤ 0x7A then c - 32 else c

def asciiLower (c : UInt8) : UInt8 := if 0x41 ≤ c ∧ c ≤ 0x5A then c + 32 else c

theorem asciiUpperCase (s : Bytes) : (0x68 : UInt8) ∉ s.map asciiUpper := by
  intro member
  obtain ⟨c,_,same⟩ := List.mem_map.mp member
  unfold asciiUpper at same
  grind

def ascii : TextTables where
  upper s := s.map asciiUpper
  lower s := s.map asciiLower
  equalFold a b := a.map asciiLower == b.map asciiLower
  upperCase := asciiUpperCase

end TextTables

/- The UTF-8 encodings of unicode.IsSpace. -/
def spaces : List Bytes :=
  [[9],[10],[11],[12],[13],[32],[0xC2,0x85],[0xC2,0xA0],[0xE1,0x9A,0x80],
    [0xE2,0x80,0x80],[0xE2,0x80,0x81],[0xE2,0x80,0x82],[0xE2,0x80,0x83],[0xE2,0x80,0x84],[0xE2,0x80,0x85],
    [0xE2,0x80,0x86],[0xE2,0x80,0x87],[0xE2,0x80,0x88],[0xE2,0x80,0x89],[0xE2,0x80,0x8A],[0xE2,0x80,0xA8],
    [0xE2,0x80,0xA9],[0xE2,0x80,0xAF],[0xE2,0x81,0x9F],[0xE3,0x80,0x80]]

def trimBytes (s : Bytes) : Bytes := trim spaces s

theorem trimBytesTwice (s : Bytes) : trimBytes (trimBytes s) = trimBytes s :=
  trimTrim (by decide) s

/- textproto.CanonicalMIMEHeaderKey. -/
def isTokenByte (c : UInt8) : Bool :=
  (0x30 ≤ c && c ≤ 0x39) || (0x41 ≤ c && c ≤ 0x5A) || (0x61 ≤ c && c ≤ 0x7A) ||
  [0x21,0x23,0x24,0x25,0x26,0x27,0x2A,0x2B,0x2D,0x2E,0x5E,0x5F,0x60,0x7C,0x7E].contains c

def canonicalFrom : Bool → Bytes → Bytes
  | _,[] => []
  | atStart,c :: rest =>
    let c := if atStart && 0x61 ≤ c && c ≤ 0x7A then c - 32
      else if !atStart && 0x41 ≤ c && c ≤ 0x5A then c + 32 else c
    c :: canonicalFrom (c == 0x2D) rest

def canonicalKey (name : Bytes) : Bytes := if name.all isTokenByte then canonicalFrom true name else name

abbrev Header := Map Bytes (List Bytes)

def Header.values (h : Header) (name : Bytes) : List Bytes := (h.get (canonicalKey name)).getD []

def Header.first (h : Header) (name : Bytes) : Bytes := (h.values name).headD []

structure Request where
  method : Bytes
  host : Bytes
  path : Bytes
  rawQuery : Bytes
  header : Header

/- values[i] = TrimSpace(value) writes through to the header's own slice. -/
def trimValues (h : Header) (name : Bytes) : Header :=
  match h.get (canonicalKey name) with
  | none => h
  | some values => h.insert (canonicalKey name) (values.map trimBytes)

def joinComma (values : List Bytes) : Bytes := List.intercalate [0x2C] values

def varyName (runes : RuneTables) (name : String) : Bytes := encodeText (runes.lower (trimSpace name))

def varyPart (runes : RuneTables) (h : Header) (name : String) : Bytes :=
  [0x7C,0x76,0x3D] ++ varyName runes name ++ [0x3A] ++ joinComma (h.values (encodeText name))

def writeVary (runes : RuneTables) : List String → Header → Bytes × Header
  | [],h => ([],h)
  | name :: rest,h =>
    if varyName runes name = [] then writeVary runes rest h
    else
      let h := trimValues h (encodeText name)
      let (later,final) := writeVary runes rest h
      (varyPart runes h name ++ later,final)

def authorization : Bytes := encodeText "Authorization"

def anon : Bytes := encodeText "priv:anon"
def sharedPartition : Bytes := encodeText "public"

def authOf (h : Header) : Bytes := trimBytes (h.first authorization)

def cachePartition (sha256 : Bytes → Bytes) (policy : CachePolicy) (h : Header) : Bytes :=
  if policy.isPublic then sharedPartition
  else if authOf h = [] then anon
  else encodeText "priv:" ++ hexEncode ((sha256 (authOf h)).take 16)

def urlPart (path rawQuery : Bytes) : Bytes :=
  (if path = [] then [0x2F] else path) ++ (if rawQuery = [] then [] else 0x3F :: rawQuery)

def buildKey (runes : RuneTables) (text : TextTables) (sha256 : Bytes → Bytes) (policy : CachePolicy)
    (r : Request) : Bytes × Request :=
  let (vary,header) := writeVary runes policy.varyHeaders r.header
  ([0x6D,0x3D] ++ text.upper r.method ++ [0x7C,0x68,0x3D] ++ text.lower r.host ++ [0x7C,0x75,0x3D] ++
    urlPart r.path r.rawQuery ++ vary ++ [0x7C,0x70,0x3D] ++ cachePartition sha256 policy header,
    { r with header := header })

theorem hexDigitNat {n : Nat} (small : n < 16) : (hexDigit n).toNat = if n < 10 then 48 + n else 87 + n := by
  unfold hexDigit
  rw [UInt8.toNat_ofNat']
  split <;> omega

theorem hexDigitMark (n : Nat) (small : n < 16) : hexDigit n ≠ 0x7C := by
  intro same
  have value := congrArg UInt8.toNat same
  rw [hexDigitNat small] at value
  change _ = 124 at value
  split at value <;> omega

theorem hexDigitInj {m n : Nat} (left : m < 16) (right : n < 16) (same : hexDigit m = hexDigit n) : m = n := by
  have values := congrArg UInt8.toNat same
  rw [hexDigitNat left,hexDigitNat right] at values
  split at values <;> split at values <;> omega

theorem hexEncodeInj {a b : Bytes} (same : hexEncode a = hexEncode b) : a = b := by
  induction a generalizing b with
  | nil =>
    cases b with
    | nil => rfl
    | cons y ys => cases same
  | cons x xs ih =>
    cases b with
    | nil => cases same
    | cons y ys =>
      obtain ⟨high,rest⟩ := List.cons.inj same
      obtain ⟨low,rest⟩ := List.cons.inj rest
      have boundX : x.toNat < 256 := x.toNat_lt
      have boundY : y.toNat < 256 := y.toNat_lt
      have quotient := hexDigitInj (by omega) (by omega) high
      have remainder := hexDigitInj (by omega) (by omega) low
      have heads : x = y := UInt8.toNat_inj.mp (by omega)
      rw [heads,ih rest]

theorem hexEncodeMark (raw : Bytes) : (0x7C : UInt8) ∉ hexEncode raw := by
  intro member
  obtain ⟨b,-,inside⟩ := List.mem_flatMap.mp member
  have bound : b.toNat < 256 := b.toNat_lt
  rcases List.mem_cons.mp inside with same | rest
  · exact hexDigitMark _ (by omega) same.symm
  · exact hexDigitMark _ (by omega) (List.mem_singleton.mp rest).symm

theorem partitionMark (sha256 : Bytes → Bytes) (policy : CachePolicy) (h : Header) :
    (0x7C : UInt8) ∉ cachePartition sha256 policy h := by
  unfold cachePartition
  split
  · decide
  · split
    · decide
    · intro member
      rcases List.mem_append.mp member with left | right
      · revert left
        decide
      · exact hexEncodeMark _ right

def EndsWith (key part : Bytes) : Prop := ∃ front, key = front ++ 0x7C :: ([0x70,0x3D] ++ part)

theorem buildKeyEnds (runes : RuneTables) (text : TextTables) (sha256 : Bytes → Bytes) (policy : CachePolicy)
    (r : Request) :
    EndsWith (buildKey runes text sha256 policy r).1
      (cachePartition sha256 policy (buildKey runes text sha256 policy r).2.header) := by
  exact ⟨_,List.append_assoc _ [0x7C,0x70,0x3D] _⟩

theorem endMark (sha256 : Bytes → Bytes) (policy : CachePolicy) (h : Header) :
    (0x7C : UInt8) ∉ [0x70,0x3D] ++ cachePartition sha256 policy h := by
  intro member
  rcases List.mem_append.mp member with start | rest
  · revert start
    decide
  · exact partitionMark sha256 policy h rest

theorem partitionUnique {sha256 : Bytes → Bytes} {p q : CachePolicy} {g h : Header} {key : Bytes}
    (left : EndsWith key (cachePartition sha256 p g)) (right : EndsWith key (cachePartition sha256 q h)) :
    cachePartition sha256 p g = cachePartition sha256 q h := by
  obtain ⟨a,first⟩ := left
  obtain ⟨b,second⟩ := right
  exact List.append_cancel_left (lastMark (first.symm.trans second) (endMark _ _ _) (endMark _ _ _)).2

theorem hexNotAnon (raw : Bytes) : encodeText "priv:" ++ hexEncode raw ≠ anon := by
  intro same
  have same : encodeText "priv:" ++ hexEncode raw = encodeText "priv:" ++ encodeText "anon" := same
  have rest := List.append_cancel_left same
  cases raw with
  | nil => cases rest
  | cons b tail =>
    have bound : b.toNat < 256 := b.toNat_lt
    obtain ⟨_,rest⟩ := List.cons.inj rest
    have letter := congrArg UInt8.toNat (List.cons.inj rest).1
    rw [hexDigitNat (by omega)] at letter
    change _ = 110 at letter
    split at letter <;> omega

theorem partitionAuth {sha256 : Bytes → Bytes} {p q : CachePolicy} {g h : Header} (personal : p.isPublic = false)
    (apart : (sha256 (authOf g)).take 16 = (sha256 (authOf h)).take 16 → authOf g = authOf h)
    (same : cachePartition sha256 p g = cachePartition sha256 q h) :
    q.isPublic = false ∧ authOf h = authOf g := by
  unfold cachePartition at same
  simp only [personal,Bool.false_eq_true,if_false] at same
  cases shared : q.isPublic with
  | true =>
    simp only [shared,if_true] at same
    split at same <;> cases same
  | false =>
    simp only [shared,Bool.false_eq_true,if_false] at same
    refine ⟨rfl,?_⟩
    by_cases left : authOf g = []
    · by_cases right : authOf h = []
      · rw [left,right]
      · rw [if_pos left,if_neg right] at same
        exact absurd same.symm (hexNotAnon _)
    · by_cases right : authOf h = []
      · rw [if_neg left,if_pos right] at same
        exact absurd same (hexNotAnon _)
      · rw [if_neg left,if_neg right] at same
        exact (apart (hexEncodeInj (List.append_cancel_left same))).symm

end ReverseProxy.CacheKey
