import ReverseProxy.GoValues

/-! JSON as encoding/json writes and reads it, on bytes: strings quoted with HTML escapes,
values read with what follows them. Bytes that are not UTF-8 are written as U+FFFD. What is
written from valid text is read back, with any rest behind it. The decoder's limit on
nesting is left out. -/
namespace ReverseProxy.JsonText
open GoValues (Bytes encodeText hexDigit)

def within (low high : Nat) (b : UInt8) : Bool := decide (low ≤ b.toNat ∧ b.toNat ≤ high)

def continues : UInt8 → Bool := within 0x80 0xBF

def isRune : Bytes → Bool
  | [a] => within 0x00 0x7F a
  | [a,b] => within 0xC2 0xDF a && continues b
  | [a,b,c] =>
    (within 0xE0 0xE0 a && within 0xA0 0xBF b || within 0xE1 0xEC a && continues b ||
      within 0xED 0xED a && within 0x80 0x9F b || within 0xEE 0xEF a && continues b) && continues c
  | [a,b,c,d] =>
    (within 0xF0 0xF0 a && within 0x90 0xBF b || within 0xF1 0xF3 a && continues b ||
      within 0xF4 0xF4 a && within 0x80 0x8F b) && continues c && continues d
  | _ => false

def runeLength (a : UInt8) : Nat :=
  if within 0x00 0x7F a then 1
  else if within 0xC2 0xDF a then 2
  else if within 0xE0 0xEF a then 3
  else if within 0xF0 0xF4 a then 4
  else 0

/- utf8.DecodeRune as the bytes it takes; none stands for RuneError with width 1. -/
def takeRune : Bytes → Option (Bytes × Bytes)
  | [] => none
  | a :: rest =>
    let n := runeLength a
    if isRune ((a :: rest).take n) then some ((a :: rest).take n,(a :: rest).drop n) else none

theorem runeLengthOf {a : UInt8} {rest : Bytes} (rune : isRune (a :: rest) = true) :
    (a :: rest).length = runeLength a := by
  unfold runeLength
  match rest with
  | [] =>
    rw [if_pos (show within 0x00 0x7F a = true from rune)]
    rfl
  | [b] =>
    have lead : within 0xC2 0xDF a = true := by
      simp only [isRune, Bool.and_eq_true] at rune
      exact rune.1
    simp only [within, decide_eq_true_eq] at lead ⊢
    rw [if_neg (by omega), if_pos lead]
    rfl
  | [b,c] =>
    simp only [isRune, within, continues, Bool.and_eq_true, Bool.or_eq_true, decide_eq_true_eq] at rune ⊢
    rw [if_neg (by omega), if_neg (by omega), if_pos (by omega)]
    rfl
  | [b,c,d] =>
    simp only [isRune, within, continues, Bool.and_eq_true, Bool.or_eq_true, decide_eq_true_eq] at rune ⊢
    rw [if_neg (by omega), if_neg (by omega), if_neg (by omega), if_pos (by omega)]
    rfl
  | _ :: _ :: _ :: _ :: _ => cases rune

theorem takeRuneOf {r : Bytes} (rune : isRune r = true) (rest : Bytes) : takeRune (r ++ rest) = some (r,rest) := by
  cases r with
  | nil => cases rune
  | cons a tail =>
    have length := runeLengthOf rune
    unfold takeRune
    dsimp only [List.cons_append]
    rw [← length, ← List.cons_append, List.take_left, List.drop_left, if_pos rune]

def ValidText (s : Bytes) : Prop := ∃ runes : List Bytes, (∀ r ∈ runes, isRune r = true) ∧ runes.flatten = s

theorem asciiValid {s : Bytes} (ascii : ∀ b ∈ s, b < 0x80) : ValidText s := by
  refine ⟨s.map (fun b => [b]),?_,?_⟩
  · intro r inside
    obtain ⟨b,there,rfl⟩ := List.mem_map.mp inside
    have small := UInt8.lt_iff_toNat_lt.mp (ascii b there)
    exact decide_eq_true ⟨Nat.zero_le _,Nat.le_of_lt_succ small⟩
  · induction s with
    | nil => rfl
    | cons b rest ih => exact congrArg (b :: ·) (ih (fun c there => ascii c (List.mem_cons_of_mem b there)))

theorem emptyValid : ValidText [] := ⟨[],fun _ inside => absurd inside List.not_mem_nil,rfl⟩

theorem validAppend {s t : Bytes} (first : ValidText s) (second : ValidText t) : ValidText (s ++ t) := by
  obtain ⟨runes,each,rfl⟩ := first
  obtain ⟨runes',each',rfl⟩ := second
  refine ⟨runes ++ runes',?_,List.flatten_append⟩
  intro r inside
  rcases List.mem_append.mp inside with left | right
  · exact each r left
  · exact each' r right

theorem validCons {b : UInt8} {s : Bytes} (ascii : b < 0x80) (valid : ValidText s) : ValidText (b :: s) := by
  refine validAppend (s := [b]) (asciiValid (fun c inside => ?_)) valid
  rw [List.mem_singleton.mp inside]
  exact ascii

theorem charRune (c : Char) : isRune (String.utf8EncodeChar c) = true := by
  have valid : c.val.toNat < 0xD800 ∨ 0xDFFF < c.val.toNat ∧ c.val.toNat < 0x110000 := c.valid
  unfold String.utf8EncodeChar
  dsimp only
  generalize c.val.toNat = v at valid
  split
  · simp only [isRune, within, UInt8.toNat_ofNat', decide_eq_true_eq]
    omega
  · split
    · simp only [isRune, continues, within, UInt8.toNat_ofNat', Bool.and_eq_true, decide_eq_true_eq]
      omega
    · split
      · simp only [isRune, continues, within, UInt8.toNat_ofNat', Bool.and_eq_true, Bool.or_eq_true, decide_eq_true_eq]
        omega
      · simp only [isRune, continues, within, UInt8.toNat_ofNat', Bool.and_eq_true, Bool.or_eq_true, decide_eq_true_eq]
        omega

theorem textValid (s : String) : ValidText (encodeText s) := by
  refine ⟨s.toList.map String.utf8EncodeChar,?_,List.flatMap_def.symm⟩
  intro r inside
  obtain ⟨c,_,rfl⟩ := List.mem_map.mp inside
  exact charRune c

def backslash : UInt8 := 0x5C
def quotation : UInt8 := 0x22

def shortEscapes : List (UInt8 × UInt8) :=
  [(quotation,quotation),(backslash,backslash),(0x08,0x62),(0x0C,0x66),(0x0A,0x6E),(0x0D,0x72),(0x09,0x74)]

/- appendString on one byte below 0x80. -/
def quoteAscii (b : UInt8) : Bytes :=
  match shortEscapes.find? (fun escape => escape.1 = b) with
  | some escape => [backslash,escape.2]
  | none =>
    if b.toNat < 0x20 ∨ b = 0x3C ∨ b = 0x3E ∨ b = 0x26 then
      [backslash,0x75,0x30,0x30,hexDigit (b.toNat / 16),hexDigit (b.toNat % 16)]
    else [b]

/- U+2028 and U+2029 are escaped, other runes beyond ASCII copied. -/
def quoteRune : Bytes → Bytes
  | [b] => quoteAscii b
  | [a,b,c] =>
    if a = 0xE2 ∧ b = 0x80 ∧ (c = 0xA8 ∨ c = 0xA9) then [backslash,0x75,0x32,0x30,0x32,hexDigit (c.toNat % 16)]
    else [a,b,c]
  | r => r

def quotedReplacement : Bytes := [backslash,0x75,0x66,0x66,0x66,0x64]

def quoteBody : Nat → Bytes → Bytes
  | 0, _ => []
  | _ + 1, [] => []
  | fuel + 1, b :: rest =>
    match takeRune (b :: rest) with
    | some (r,rest) => quoteRune r ++ quoteBody fuel rest
    | none => quotedReplacement ++ quoteBody fuel rest

def quote (s : Bytes) : Bytes := quotation :: (quoteBody s.length s ++ [quotation])

theorem runeNonempty {r : Bytes} (rune : isRune r = true) : 0 < r.length := by
  cases r with
  | nil => cases rune
  | cons a tail => exact Nat.succ_pos _

theorem quoteBodyRunes {runes : List Bytes} (valid : ∀ r ∈ runes, isRune r = true) {fuel : Nat}
    (enough : runes.flatten.length ≤ fuel) : quoteBody fuel runes.flatten = runes.flatMap quoteRune := by
  induction runes generalizing fuel with
  | nil => cases fuel <;> rfl
  | cons r runes ih =>
    have rune := valid r List.mem_cons_self
    have positive := runeNonempty rune
    rw [List.flatten_cons, List.length_append] at enough
    cases fuel with
    | zero => omega
    | succ fuel =>
      cases r with
      | nil => cases rune
      | cons a tail =>
        have taken := takeRuneOf rune runes.flatten
        rw [List.flatten_cons, List.flatMap_cons]
        rw [List.cons_append] at taken ⊢
        unfold quoteBody
        rw [taken]
        dsimp only
        rw [ih (fun r' inside => valid r' (List.mem_cons_of_mem _ inside)) (by omega)]

theorem quoteText {s : Bytes} (valid : ValidText s) : ∃ runes : List Bytes, (∀ r ∈ runes, isRune r = true) ∧
    runes.flatten = s ∧ quote s = quotation :: (runes.flatMap quoteRune ++ [quotation]) := by
  obtain ⟨runes,each,same⟩ := valid
  refine ⟨runes,each,same,?_⟩
  unfold quote
  rw [← same, quoteBodyRunes each (Nat.le_refl _)]

def unhex (b : UInt8) : Option Nat :=
  let n := b.toNat
  if 0x30 ≤ n ∧ n ≤ 0x39 then some (n - 0x30)
  else if 0x61 ≤ n ∧ n ≤ 0x66 then some (n - 0x61 + 10)
  else if 0x41 ≤ n ∧ n ≤ 0x46 then some (n - 0x41 + 10)
  else none

def readHex : Bytes → Option (Nat × Bytes)
  | a :: b :: c :: d :: rest => do
    let w ← unhex a
    let x ← unhex b
    let y ← unhex c
    let z ← unhex d
    some (((w * 16 + x) * 16 + y) * 16 + z,rest)
  | _ => none

def replacement : Bytes := [0xEF,0xBF,0xBD]

/- utf8.AppendRune. -/
def encodeRune (n : Nat) : Bytes :=
  if n < 0x80 then [UInt8.ofNat n]
  else if n < 0x800 then [UInt8.ofNat (0xC0 + n / 64),UInt8.ofNat (0x80 + n % 64)]
  else if 0xD800 ≤ n ∧ n < 0xE000 ∨ 0x10FFFF < n then replacement
  else if n < 0x10000 then [UInt8.ofNat (0xE0 + n / 4096),UInt8.ofNat (0x80 + n / 64 % 64),UInt8.ofNat (0x80 + n % 64)]
  else [UInt8.ofNat (0xF0 + n / 262144),UInt8.ofNat (0x80 + n / 4096 % 64),UInt8.ofNat (0x80 + n / 64 % 64),
    UInt8.ofNat (0x80 + n % 64)]

/- The rest of an escape \u; half a surrogate pair is read as U+FFFD. -/
def readUnicode (s : Bytes) : Option (Bytes × Bytes) := do
  let (n,rest) ← readHex s
  if 0xD800 ≤ n ∧ n < 0xE000 then
    match rest with
    | 0x5C :: 0x75 :: more =>
      match readHex more with
      | some (m,more) =>
        if n < 0xDC00 ∧ 0xDC00 ≤ m ∧ m < 0xE000 then
          some (encodeRune ((n - 0xD800) * 1024 + (m - 0xDC00) + 0x10000),more)
        else some (replacement,rest)
      | none => some (replacement,rest)
    | _ => some (replacement,rest)
  else some (encodeRune n,rest)

def readEscape : Bytes → Option (Bytes × Bytes)
  | [] => none
  | e :: rest =>
    if e = 0x75 then readUnicode rest
    else if e = 0x2F then some ([e],rest)
    else match shortEscapes.find? (fun escape => escape.2 = e) with
      | some escape => some ([escape.1],rest)
      | none => none

def readRune : Bytes → Option (Bytes × Bytes)
  | [] => none
  | b :: rest =>
    if b = backslash then readEscape rest
    else if b.toNat < 0x20 then none
    else match takeRune (b :: rest) with
      | some taken => some taken
      | none => some (replacement,rest)

def readBody : Nat → Bytes → Option (Bytes × Bytes)
  | 0, _ => none
  | _ + 1, [] => none
  | fuel + 1, b :: rest =>
    if b = quotation then some ([],rest)
    else do
      let (r,rest) ← readRune (b :: rest)
      let (text,rest) ← readBody fuel rest
      some (r ++ text,rest)

def readString : Bytes → Option (Bytes × Bytes)
  | [] => none
  | b :: rest => if b = quotation then readBody (rest.length + 1) rest else none

theorem unhexDigit {n : Nat} (small : n < 16) : unhex (hexDigit n) = some n := by
  have all : ∀ n : Fin 16, unhex (hexDigit n) = some n.val := by decide
  exact all ⟨n,small⟩

theorem readHexByte (b : UInt8) (rest : Bytes) :
    readHex (0x30 :: 0x30 :: hexDigit (b.toNat / 16) :: hexDigit (b.toNat % 16) :: rest) = some (b.toNat,rest) := by
  have bound := b.toNat_lt
  have zero : unhex 0x30 = some 0 := rfl
  have high := unhexDigit (n := b.toNat / 16) (by omega)
  have low := unhexDigit (n := b.toNat % 16) (by omega)
  have joined : ((0 * 16 + 0) * 16 + b.toNat / 16) * 16 + b.toNat % 16 = b.toNat := by omega
  simp only [readHex, zero, high, low, Option.bind_eq_bind, Option.bind_some, joined]

theorem readUnicodeAscii {b : UInt8} (small : b.toNat < 0x80) (rest : Bytes) :
    readUnicode (0x30 :: 0x30 :: hexDigit (b.toNat / 16) :: hexDigit (b.toNat % 16) :: rest) = some ([b],rest) := by
  unfold readUnicode
  rw [readHexByte]
  dsimp only [Option.bind_eq_bind, Option.bind_some]
  rw [if_neg (by omega)]
  unfold encodeRune
  rw [if_pos small, UInt8.ofNat_toNat]

theorem readShortEscape {escape : UInt8 × UInt8} (listed : escape ∈ shortEscapes) (rest : Bytes) :
    readEscape (escape.2 :: rest) = some ([escape.1],rest) := by
  have all : shortEscapes.all (fun p => decide (p.2 ≠ 0x75 ∧ p.2 ≠ 0x2F ∧
      shortEscapes.find? (fun escape => escape.2 = p.2) = some p)) = true := by decide
  obtain ⟨notUnicode,notSlash,found⟩ := of_decide_eq_true (List.all_eq_true.mp all escape listed)
  unfold readEscape
  dsimp only
  rw [if_neg notUnicode, if_neg notSlash, found]

theorem unlistedPlain {b : UInt8} (unlisted : shortEscapes.find? (fun escape => escape.1 = b) = none) :
    b ≠ quotation ∧ b ≠ backslash := by
  constructor
  · rintro rfl
    cases unlisted
  · rintro rfl
    cases unlisted

theorem readQuotedAscii {b : UInt8} (small : b.toNat < 0x80) (rest : Bytes) :
    readRune (quoteAscii b ++ rest) = some ([b],rest) := by
  unfold quoteAscii
  split
  · rename_i escape found
    have same : escape.1 = b := by simpa using List.find?_some found
    rw [← same]
    exact readShortEscape (List.mem_of_find?_eq_some found) rest
  · rename_i unlisted
    split
    · exact readUnicodeAscii small rest
    · rename_i plain
      have rune : isRune [b] = true := decide_eq_true ⟨Nat.zero_le _,Nat.le_of_lt_succ small⟩
      have taken : takeRune (b :: rest) = some ([b],rest) := takeRuneOf rune rest
      dsimp only [List.cons_append, List.nil_append, readRune]
      rw [if_neg (unlistedPlain unlisted).2, if_neg (fun control => plain (.inl control)), taken]

theorem readWide {a : UInt8} {tail : Bytes} (rune : isRune (a :: tail) = true) (wide : 0x80 ≤ a.toNat) (rest : Bytes) :
    readRune (a :: tail ++ rest) = some (a :: tail,rest) := by
  have taken := takeRuneOf rune rest
  have notBackslash : a ≠ backslash := by
    rintro rfl
    exact absurd wide (by decide)
  rw [List.cons_append] at taken ⊢
  unfold readRune
  dsimp only
  rw [if_neg notBackslash, if_neg (by omega), taken]

theorem wideLead {a b : UInt8} {tail : Bytes} (rune : isRune (a :: b :: tail) = true) : 0x80 ≤ a.toNat := by
  have length := runeLengthOf rune
  unfold runeLength within at length
  split at length
  · cases length
  · rename_i wide
    rw [decide_eq_true_eq] at wide
    omega

theorem readQuotedRune {r : Bytes} (rune : isRune r = true) (rest : Bytes) :
    readRune (quoteRune r ++ rest) = some (r,rest) := by
  match r with
  | [] => cases rune
  | [b] =>
    have small : b.toNat ≤ 0x7F := (of_decide_eq_true rune).2
    exact readQuotedAscii (Nat.lt_succ_of_le small) rest
  | [a,b] => exact readWide rune (wideLead rune) rest
  | [a,b,c] =>
    dsimp only [quoteRune]
    split
    · rename_i separator
      obtain ⟨rfl,rfl,rfl | rfl⟩ := separator <;> rfl
    · exact readWide rune (wideLead rune) rest
  | a :: b :: c :: d :: tail => exact readWide rune (wideLead rune) rest

theorem quoteRuneHead {r : Bytes} (rune : isRune r = true) : ∃ b tail, quoteRune r = b :: tail ∧ b ≠ quotation := by
  have wide {a b : UInt8} {tail : Bytes} (rune : isRune (a :: b :: tail) = true) : a ≠ quotation := by
    rintro rfl
    exact absurd (wideLead rune) (by decide)
  match r with
  | [] => cases rune
  | [b] =>
    dsimp only [quoteRune, quoteAscii]
    split
    · exact ⟨backslash,_,rfl,by decide⟩
    · rename_i unlisted
      split
      · exact ⟨backslash,_,rfl,by decide⟩
      · exact ⟨b,[],rfl,(unlistedPlain unlisted).1⟩
  | [a,b] => exact ⟨a,[b],rfl,wide rune⟩
  | [a,b,c] =>
    dsimp only [quoteRune]
    split
    · exact ⟨backslash,_,rfl,by decide⟩
    · exact ⟨a,[b,c],rfl,wide rune⟩
  | a :: b :: c :: d :: tail => exact ⟨a,b :: c :: d :: tail,rfl,wide rune⟩

theorem readBodyRunes {runes : List Bytes} (valid : ∀ r ∈ runes, isRune r = true) {fuel : Nat}
    (enough : runes.length < fuel) (rest : Bytes) :
    readBody fuel (runes.flatMap quoteRune ++ quotation :: rest) = some (runes.flatten,rest) := by
  induction runes generalizing fuel with
  | nil =>
    cases fuel with
    | zero => cases enough
    | succ fuel => rfl
  | cons r runes ih =>
    cases fuel with
    | zero => cases enough
    | succ fuel =>
      have rune := valid r List.mem_cons_self
      have later := ih (fun r' inside => valid r' (List.mem_cons_of_mem _ inside)) (Nat.lt_of_succ_lt_succ enough)
      have read := readQuotedRune rune (runes.flatMap quoteRune ++ quotation :: rest)
      obtain ⟨b,tail,starts,open_⟩ := quoteRuneHead rune
      rw [List.flatMap_cons, List.append_assoc, List.flatten_cons]
      rw [starts, List.cons_append] at read ⊢
      unfold readBody
      rw [if_neg open_, read]
      dsimp only [Option.bind_eq_bind, Option.bind_some]
      rw [later]
      rfl

theorem flatMapLength {runes : List Bytes} (valid : ∀ r ∈ runes, isRune r = true) :
    runes.length ≤ (runes.flatMap quoteRune).length := by
  induction runes with
  | nil => exact Nat.le_refl 0
  | cons r runes ih =>
    obtain ⟨b,tail,starts,_⟩ := quoteRuneHead (valid r List.mem_cons_self)
    have later := ih (fun r' inside => valid r' (List.mem_cons_of_mem _ inside))
    rw [List.flatMap_cons, List.length_append, starts, List.length_cons, List.length_cons]
    omega

theorem readStringQuote {s : Bytes} (valid : ValidText s) (rest : Bytes) : readString (quote s ++ rest) = some (s,rest) := by
  obtain ⟨runes,each,same,quoted⟩ := quoteText valid
  have longer := flatMapLength each
  rw [quoted, ← same, List.cons_append, List.append_assoc]
  dsimp only [readString]
  rw [if_pos rfl]
  refine readBodyRunes each ?_ rest
  rw [List.length_append]
  omega

inductive Json where
  | null
  | bool (b : Bool)
  | number (text : Bytes)
  | string (text : Bytes)
  | array (items : List Json)
  | object (members : List (Bytes × Json))

def isSpace (b : UInt8) : Bool := b == 0x20 || b == 0x09 || b == 0x0A || b == 0x0D

def skipSpace (s : Bytes) : Bytes := s.dropWhile isSpace

def isDigit : UInt8 → Bool := within 0x30 0x39

def readDigits (s : Bytes) : Option (Bytes × Bytes) :=
  match s.span isDigit with
  | ([],_) => none
  | digits => some digits

def readInteger : Bytes → Option (Bytes × Bytes)
  | 0x30 :: rest => some ([0x30],rest)
  | s => readDigits s

def readFraction : Bytes → Option (Bytes × Bytes)
  | 0x2E :: rest => do
    let (digits,rest) ← readDigits rest
    some (0x2E :: digits,rest)
  | s => some ([],s)

def readSign : Bytes → Bytes × Bytes
  | [] => ([],[])
  | b :: rest => if b = 0x2B ∨ b = 0x2D then ([b],rest) else ([],b :: rest)

def readExponent : Bytes → Option (Bytes × Bytes)
  | [] => some ([],[])
  | b :: rest =>
    if b = 0x65 ∨ b = 0x45 then do
      let (sign,rest) := readSign rest
      let (digits,rest) ← readDigits rest
      some (b :: sign ++ digits,rest)
    else some ([],b :: rest)

def readMinus : Bytes → Bytes × Bytes
  | 0x2D :: rest => ([0x2D],rest)
  | s => ([],s)

def readNumber (s : Bytes) : Option (Json × Bytes) := do
  let (minus,s) := readMinus s
  let (integer,s) ← readInteger s
  let (fraction,s) ← readFraction s
  let (exponent,s) ← readExponent s
  some (.number (minus ++ integer ++ fraction ++ exponent),s)

def readLiteral (s : Bytes) : Option (Json × Bytes) :=
  if [0x6E,0x75,0x6C,0x6C].isPrefixOf s then some (.null,s.drop 4)
  else if [0x74,0x72,0x75,0x65].isPrefixOf s then some (.bool true,s.drop 4)
  else if [0x66,0x61,0x6C,0x73,0x65].isPrefixOf s then some (.bool false,s.drop 5)
  else readNumber s

mutual

def readValue : Nat → Bytes → Option (Json × Bytes)
  | 0, _ => none
  | fuel + 1, s =>
    match skipSpace s with
    | 0x7B :: rest =>
      match skipSpace rest with
      | 0x7D :: rest => some (.object [],rest)
      | rest => do
        let (members,rest) ← readMembers fuel rest
        some (.object members,rest)
    | 0x5B :: rest =>
      match skipSpace rest with
      | 0x5D :: rest => some (.array [],rest)
      | rest => do
        let (items,rest) ← readItems fuel rest
        some (.array items,rest)
    | 0x22 :: rest => do
      let (text,rest) ← readBody (rest.length + 1) rest
      some (.string text,rest)
    | s => readLiteral s

def readMembers : Nat → Bytes → Option (List (Bytes × Json) × Bytes)
  | 0, _ => none
  | fuel + 1, s => do
    let (key,rest) ← readString s
    match skipSpace rest with
    | 0x3A :: rest =>
      let (value,rest) ← readValue fuel rest
      match skipSpace rest with
      | 0x7D :: rest => some ([(key,value)],rest)
      | 0x2C :: rest =>
        let (more,rest) ← readMembers fuel (skipSpace rest)
        some ((key,value) :: more,rest)
      | _ => none
    | _ => none

def readItems : Nat → Bytes → Option (List Json × Bytes)
  | 0, _ => none
  | fuel + 1, s => do
    let (value,rest) ← readValue fuel s
    match skipSpace rest with
    | 0x5D :: rest => some ([value],rest)
    | 0x2C :: rest =>
      let (more,rest) ← readItems fuel rest
      some (value :: more,rest)
    | _ => none

end

/- json.Unmarshal up to what the value is stored in. -/
def parse (s : Bytes) : Option Json := do
  let (value,rest) ← readValue (s.length + 1) s
  if skipSpace rest = [] then some value else none

def Reads (text : Bytes) (value : Json) : Prop :=
  ∀ fuel rest, text.length ≤ fuel → readValue fuel (text ++ rest) = some (value,rest)

theorem quoteReads {s : Bytes} (valid : ValidText s) : Reads (quote s) (.string s) := by
  intro fuel rest enough
  have read := readStringQuote valid rest
  unfold quote at enough read ⊢
  cases fuel with
  | zero => cases enough
  | succ fuel =>
    dsimp only [List.cons_append, readString] at read
    rw [if_pos rfl] at read
    dsimp only [List.cons_append]
    unfold readValue
    change ((readBody _ _).bind fun taken => some (Json.string taken.1,taken.2)) = _
    rw [read]
    rfl

structure Field where
  name : Bytes
  text : Bytes
  value : Json

def memberText (f : Field) : Bytes := quote f.name ++ 0x3A :: f.text

def membersText : List Field → Bytes
  | [] => [0x7D]
  | [f] => memberText f ++ [0x7D]
  | f :: g :: more => memberText f ++ 0x2C :: membersText (g :: more)

def objectText (fields : List Field) : Bytes := 0x7B :: membersText fields

def members (fields : List Field) : List (Bytes × Json) := fields.map (fun f => (f.name,f.value))

structure Field.Sound (f : Field) : Prop where
  name : ValidText f.name
  reads : Reads f.text f.value

theorem lastMemberRead {f : Field} (sound : f.Sound) {fuel : Nat} (enough : f.text.length ≤ fuel) (rest : Bytes) :
    readMembers (fuel + 1) (memberText f ++ 0x7D :: rest) = some ([(f.name,f.value)],rest) := by
  have key := readStringQuote sound.name (0x3A :: (f.text ++ 0x7D :: rest))
  have value := sound.reads fuel (0x7D :: rest) enough
  unfold memberText
  rw [List.append_assoc, List.cons_append, readMembers, key]
  change (readValue fuel (f.text ++ 0x7D :: rest)).bind _ = _
  rw [value]
  rfl

theorem nextMemberRead {f : Field} (sound : f.Sound) {fuel : Nat} (enough : f.text.length ≤ fuel) {rest : Bytes}
    {more : List (Bytes × Json)} {after : Bytes} (later : readMembers fuel (skipSpace rest) = some (more,after)) :
    readMembers (fuel + 1) (memberText f ++ 0x2C :: rest) = some ((f.name,f.value) :: more,after) := by
  have key := readStringQuote sound.name (0x3A :: (f.text ++ 0x2C :: rest))
  have value := sound.reads fuel (0x2C :: rest) enough
  unfold memberText
  rw [List.append_assoc, List.cons_append, readMembers, key]
  change (readValue fuel (f.text ++ 0x2C :: rest)).bind _ = _
  rw [value]
  change (readMembers fuel (skipSpace rest)).bind _ = _
  rw [later]
  rfl

theorem memberTextLength (f : Field) : f.text.length < (memberText f).length := by
  unfold memberText quote
  simp only [List.length_append, List.length_cons]
  omega

theorem membersTextStarts {f : Field} {more : List Field} : ∃ tail, membersText (f :: more) = quotation :: tail := by
  cases more with
  | nil => exact ⟨_,rfl⟩
  | cons g more => exact ⟨_,rfl⟩

theorem membersRead {f : Field} {more : List Field} (sound : ∀ g ∈ f :: more, g.Sound) {fuel : Nat}
    (enough : (membersText (f :: more)).length ≤ fuel) (rest : Bytes) :
    readMembers fuel (membersText (f :: more) ++ rest) = some (members (f :: more),rest) := by
  induction more generalizing f fuel with
  | nil =>
    have first := sound f List.mem_cons_self
    have shorter := memberTextLength f
    unfold membersText at enough ⊢
    rw [List.length_append] at enough
    obtain ⟨fuel,rfl⟩ := Nat.exists_eq_add_one.mpr (show 0 < fuel by omega)
    rw [List.append_assoc]
    exact lastMemberRead first (by omega) rest
  | cons g more ih =>
    have first := sound f List.mem_cons_self
    have shorter := memberTextLength f
    unfold membersText at enough ⊢
    rw [List.length_append, List.length_cons] at enough
    obtain ⟨fuel,rfl⟩ := Nat.exists_eq_add_one.mpr (show 0 < fuel by omega)
    have later := ih (fun h inside => sound h (List.mem_cons_of_mem f inside)) (show _ ≤ fuel by omega)
    obtain ⟨tail,starts⟩ : ∃ tail, membersText (g :: more) = quotation :: tail := membersTextStarts
    have unspaced : skipSpace (membersText (g :: more) ++ rest) = membersText (g :: more) ++ rest := by
      rw [starts]
      rfl
    rw [List.append_assoc]
    exact nextMemberRead first (by omega) (unspaced ▸ later)

theorem objectReads {fields : List Field} (sound : ∀ f ∈ fields, f.Sound) :
    Reads (objectText fields) (.object (members fields)) := by
  intro fuel rest enough
  unfold objectText at enough ⊢
  rw [List.length_cons] at enough
  obtain ⟨fuel,rfl⟩ := Nat.exists_eq_add_one.mpr (show 0 < fuel by omega)
  cases fields with
  | nil => rfl
  | cons f more =>
    have read := membersRead sound (show _ ≤ fuel by omega) rest
    obtain ⟨tail,starts⟩ : ∃ tail, membersText (f :: more) = quotation :: tail := membersTextStarts
    rw [List.cons_append, readValue]
    rw [starts] at read ⊢
    change (readMembers fuel (quotation :: tail ++ rest)).bind _ = _
    rw [read]
    rfl

theorem parseText {text : Bytes} {value : Json} (reads : Reads text value) : parse text = some value := by
  have read := reads (text.length + 1) [] (Nat.le_succ _)
  rw [List.append_nil] at read
  unfold parse
  rw [read]
  rfl

theorem textsAgree {text text' : Bytes} {value value' : Json} (reads : Reads text value) (reads' : Reads text' value')
    {rest rest' : Bytes} (same : text ++ rest = text' ++ rest') : value = value' ∧ rest = rest' := by
  have first := reads (text.length + text'.length) rest (Nat.le_add_right ..)
  have second := reads' (text.length + text'.length) rest' (Nat.le_add_left ..)
  rw [same, second] at first
  cases first
  exact ⟨rfl,rfl⟩

end ReverseProxy.JsonText
