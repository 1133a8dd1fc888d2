import ReverseProxy.Base64
import ReverseProxy.JsonText
import ReverseProxy.SignedBundle

/-! Package bundle on bytes: signing, verifying and sending a bundle as JSON. A Go string
is any sequence of bytes here. What SHA-256 and Ed25519 compute is a parameter; JSON and
base64 are not. -/
namespace ReverseProxy.BundleSigning
open GoValues JsonText

structure Meta where
  version : Bytes := []
  createdAt : Bytes := []
  source : Bytes := []
  notes : Bytes := []
  deriving DecidableEq, Repr

structure Bundle where
  info : Meta := {}
  configBytesB64 : Bytes := []
  configSHA256 : Bytes := []
  signatureB64 : Bytes := []
  deriving DecidableEq, Repr

structure Crypto where
  sha256 : Bytes → Bytes
  sign : Bytes → Bytes → Bytes
  verify : Bytes → Bytes → Bytes → Bool

def Bundle.configBytes (b : Bundle) : Option Bytes :=
  if b.configBytesB64 = [] then some [] else Base64.decode b.configBytesB64

def textField (name : String) (value : Bytes) : Field := ⟨encodeText name,quote value,.string value⟩

/- Notes has omitempty. -/
def metaFields (m : Meta) : List Field :=
  [textField "version" m.version,textField "created_at" m.createdAt,textField "source" m.source] ++
    (if m.notes = [] then [] else [textField "notes" m.notes])

def metaBytes (m : Meta) : Bytes := objectText (metaFields m)

def hashConfig (crypto : Crypto) (raw : Bytes) : Bytes × Bytes := (hexEncode (crypto.sha256 raw),crypto.sha256 raw)

def signatureInput (crypto : Crypto) (metaBytes configHash : Bytes) : Bytes := crypto.sha256 (metaBytes ++ configHash)

/- A reading of the clock in UTC, with a year of four digits. -/
structure Time where
  year : Nat
  month : Nat
  day : Nat
  hour : Nat
  minute : Nat
  second : Nat
  nanosecond : Nat

def decimal : Nat → Nat → Bytes
  | 0, _ => []
  | width + 1, n => decimal width (n / 10) ++ [UInt8.ofNat (0x30 + n % 10)]

/- The layout of time.RFC3339Nano: the fraction without its last zeros. -/
def formatTime (t : Time) : Bytes :=
  let fraction := ((decimal 9 t.nanosecond).reverse.dropWhile (· == 0x30)).reverse
  decimal 4 t.year ++ 0x2D :: decimal 2 t.month ++ 0x2D :: decimal 2 t.day ++ 0x54 :: decimal 2 t.hour ++
    0x3A :: decimal 2 t.minute ++ 0x3A :: decimal 2 t.second ++ (if fraction = [] then [] else 0x2E :: fraction) ++ [0x5A]

def privateKeySize : Nat := 64
def publicKeySize : Nat := 32

def newSignedBundle (crypto : Crypto) (now : Time) (configBytes : Bytes) (m : Meta) (privateKey : Bytes) :
    Except Message Bundle :=
  if privateKey.length ≠ privateKeySize then .error (newError "invalid private key")
  else
    let m := if m.createdAt = [] then { m with createdAt := formatTime now } else m
    let (configHashHex,configHashBytes) := hashConfig crypto configBytes
    let m := if m.version = [] then { m with version := configHashHex } else m
    let sig := crypto.sign privateKey (signatureInput crypto (metaBytes m) configHashBytes)
    .ok {
      info := m
      configBytesB64 := Base64.encode configBytes
      configSHA256 := configHashHex
      signatureB64 := Base64.encode sig }

def verifyBundle (crypto : Crypto) (b : Bundle) (publicKey : Bytes) : Except Message Unit :=
  if publicKey.length ≠ publicKeySize then .error SignedBundle.errBadSignature
  else match b.configBytes with
    | none => .error SignedBundle.errBadHash
    | some raw =>
      let (configHashHex,configHashBytes) := hashConfig crypto raw
      if b.configSHA256 ≠ configHashHex then .error SignedBundle.errBadHash
      else match Base64.decode b.signatureB64 with
        | none => .error SignedBundle.errBadSignature
        | some sig =>
          if crypto.verify publicKey (signatureInput crypto (metaBytes b.info) configHashBytes) sig then .ok ()
          else .error SignedBundle.errBadSignature

def bundleFields (b : Bundle) : List Field :=
  [⟨encodeText "meta",metaBytes b.info,.object (members (metaFields b.info))⟩,
   textField "config_bytes_b64" b.configBytesB64,textField "config_sha256" b.configSHA256,
   textField "signature_b64" b.signatureB64]

def bundleBytes (b : Bundle) : Bytes := objectText (bundleFields b)

/- The field a key is stored in: the one of that name, or else the first whose name folds
to the same; `fold` is the decoder's. -/
def fieldIndex (fold : Bytes → Bytes) (names : List String) (key : Bytes) : Option Nat :=
  match names.findIdx? (fun name => encodeText name = key) with
  | some i => some i
  | none => names.findIdx? (fun name => fold (encodeText name) = fold key)

/- A string is stored, null leaves the field, anything else is a type error. -/
def storeText (current : Bytes) : Json → Option Bytes
  | .string text => some text
  | .null => some current
  | _ => none

def storeMember (fold : Bytes → Bytes) (m : Meta) (member : Bytes × Json) : Option Meta :=
  match fieldIndex fold ["version","created_at","source","notes"] member.1 with
  | some 0 => (storeText m.version member.2).map (fun text => { m with version := text })
  | some 1 => (storeText m.createdAt member.2).map (fun text => { m with createdAt := text })
  | some 2 => (storeText m.source member.2).map (fun text => { m with source := text })
  | some 3 => (storeText m.notes member.2).map (fun text => { m with notes := text })
  | _ => some m

def storeMeta (fold : Bytes → Bytes) (m : Meta) : Json → Option Meta
  | .object members => members.foldlM (storeMember fold) m
  | .null => some m
  | _ => none

def storeBundleMember (fold : Bytes → Bytes) (b : Bundle) (member : Bytes × Json) : Option Bundle :=
  match fieldIndex fold ["meta","config_bytes_b64","config_sha256","signature_b64"] member.1 with
  | some 0 => (storeMeta fold b.info member.2).map (fun m => { b with info := m })
  | some 1 => (storeText b.configBytesB64 member.2).map (fun text => { b with configBytesB64 := text })
  | some 2 => (storeText b.configSHA256 member.2).map (fun text => { b with configSHA256 := text })
  | some 3 => (storeText b.signatureB64 member.2).map (fun text => { b with signatureB64 := text })
  | _ => some b

def storeBundle (fold : Bytes → Bytes) (b : Bundle) : Json → Option Bundle
  | .object members => members.foldlM (storeBundleMember fold) b
  | .null => some b
  | _ => none

/- json.Unmarshal into a new Bundle; none stands for an error. -/
def unmarshalBundle (fold : Bytes → Bytes) (data : Bytes) : Option Bundle := (parse data).bind (storeBundle fold {})

structure Meta.Valid (m : Meta) : Prop where
  version : ValidText m.version
  createdAt : ValidText m.createdAt
  source : ValidText m.source
  notes : ValidText m.notes

structure Bundle.Valid (b : Bundle) : Prop where
  info : b.info.Valid
  configBytesB64 : ValidText b.configBytesB64
  configSHA256 : ValidText b.configSHA256
  signatureB64 : ValidText b.signatureB64

theorem storeMetaFields (fold : Bytes → Bytes) (m : Meta) :
    storeMeta fold {} (.object (members (metaFields m))) = some m := by
  obtain ⟨version,createdAt,source,notes⟩ := m
  cases notes with
  | nil => rfl
  | cons b rest => rfl

theorem storeBundleFields (fold : Bytes → Bytes) (b : Bundle) :
    storeBundle fold {} (.object (members (bundleFields b))) = some b := by
  have stored := storeMetaFields fold b.info
  have first : storeBundleMember fold {} (encodeText "meta",.object (members (metaFields b.info))) =
      some { info := b.info } := congrArg (Option.map _) stored
  change (storeBundleMember fold {} (encodeText "meta",.object (members (metaFields b.info)))).bind _ = _
  rw [first]
  rfl

theorem textFieldSound (name : String) {value : Bytes} (valid : ValidText value) : (textField name value).Sound :=
  ⟨textValid name,quoteReads valid⟩

theorem metaFieldsSound {m : Meta} (valid : m.Valid) : ∀ f ∈ metaFields m, f.Sound := by
  intro f inside
  unfold metaFields at inside
  rcases List.mem_append.mp inside with always | optional
  · simp only [List.mem_cons, List.not_mem_nil, or_false] at always
    rcases always with rfl | rfl | rfl
    · exact textFieldSound _ valid.version
    · exact textFieldSound _ valid.createdAt
    · exact textFieldSound _ valid.source
  · split at optional
    · cases optional
    · cases List.mem_singleton.mp optional
      exact textFieldSound _ valid.notes

theorem metaReads {m : Meta} (valid : m.Valid) : Reads (metaBytes m) (.object (members (metaFields m))) :=
  objectReads (metaFieldsSound valid)

theorem unmarshalBundleBytes (fold : Bytes → Bytes) {b : Bundle} (valid : b.Valid) :
    unmarshalBundle fold (bundleBytes b) = some b := by
  have reads : Reads (bundleBytes b) (.object (members (bundleFields b))) := by
    refine objectReads (fun f inside => ?_)
    simp only [bundleFields, List.mem_cons, List.not_mem_nil, or_false] at inside
    rcases inside with rfl | rfl | rfl | rfl
    · exact ⟨textValid _,metaReads valid.info⟩
    · exact textFieldSound _ valid.configBytesB64
    · exact textFieldSound _ valid.configSHA256
    · exact textFieldSound _ valid.signatureB64
  unfold unmarshalBundle
  rw [parseText reads]
  exact storeBundleFields fold b

theorem decimalAscii {width n : Nat} {b : UInt8} (inside : b ∈ decimal width n) : b < 0x80 := by
  induction width generalizing n with
  | zero => cases inside
  | succ width ih =>
    rcases List.mem_append.mp inside with before | digit
    · exact ih before
    · rw [List.mem_singleton.mp digit, UInt8.lt_iff_toNat_lt, UInt8.toNat_ofNat']
      change _ < 128
      omega

theorem decimalValid (width n : Nat) : ValidText (decimal width n) := asciiValid (fun _ inside => decimalAscii inside)

theorem formatTimeValid (t : Time) : ValidText (formatTime t) := by
  have fraction : ValidText ((decimal 9 t.nanosecond).reverse.dropWhile (· == 0x30)).reverse := by
    refine asciiValid (fun b inside => ?_)
    have there := (List.dropWhile_sublist _).subset (List.mem_reverse.mp inside)
    exact decimalAscii (List.mem_reverse.mp there)
  have part {separator : UInt8} (ascii : separator < 0x80) (n : Nat) : ValidText (separator :: decimal 2 n) :=
    validCons ascii (decimalValid 2 n)
  have date := validAppend (validAppend (decimalValid 4 t.year) (part (by decide : (0x2D : UInt8) < 0x80) t.month))
    (part (by decide : (0x2D : UInt8) < 0x80) t.day)
  have clock := validAppend (validAppend (validAppend date (part (by decide : (0x54 : UInt8) < 0x80) t.hour))
    (part (by decide : (0x3A : UInt8) < 0x80) t.minute)) (part (by decide : (0x3A : UInt8) < 0x80) t.second)
  unfold formatTime
  dsimp only
  refine validAppend (validAppend clock ?_) (validCons (by decide) emptyValid)
  split
  · exact emptyValid
  · exact validCons (by decide) fraction

theorem hexAscii {raw : Bytes} {b : UInt8} (inside : b ∈ hexEncode raw) : b < 0x80 := by
  have digit {n : Nat} (small : n < 16) : hexDigit n < 0x80 := by
    have all : ∀ n : Fin 16, hexDigit n < 0x80 := by decide
    exact all ⟨n,small⟩
  obtain ⟨c,_,either⟩ := List.mem_flatMap.mp inside
  have bound := c.toNat_lt
  simp only [List.mem_cons, List.not_mem_nil, or_false] at either
  rcases either with rfl | rfl
  · exact digit (by omega)
  · exact digit (by omega)

theorem hexValid (raw : Bytes) : ValidText (hexEncode raw) := asciiValid (fun _ inside => hexAscii inside)

theorem base64Valid (raw : Bytes) : ValidText (Base64.encode raw) := asciiValid (fun _ inside => Base64.encodeAscii inside)

/- What NewSignedBundle returns: the meta data with its defaults, and the encodings. -/
def dated (now : Time) (m : Meta) : Meta := if m.createdAt = [] then { m with createdAt := formatTime now } else m

def versioned (configHashHex : Bytes) (m : Meta) : Meta := if m.version = [] then { m with version := configHashHex } else m

def filled (crypto : Crypto) (now : Time) (raw : Bytes) (m : Meta) : Meta :=
  versioned (hexEncode (crypto.sha256 raw)) (dated now m)

def signed (crypto : Crypto) (now : Time) (raw : Bytes) (m : Meta) (privateKey : Bytes) : Bundle where
  info := filled crypto now raw m
  configBytesB64 := Base64.encode raw
  configSHA256 := hexEncode (crypto.sha256 raw)
  signatureB64 := Base64.encode (crypto.sign privateKey
    (signatureInput crypto (metaBytes (filled crypto now raw m)) (crypto.sha256 raw)))

theorem newSignedBundleOk (crypto : Crypto) (now : Time) (raw : Bytes) (m : Meta) {privateKey : Bytes}
    (size : privateKey.length = privateKeySize) :
    newSignedBundle crypto now raw m privateKey = .ok (signed crypto now raw m privateKey) := by
  unfold newSignedBundle
  rw [if_neg (not_not_intro size)]
  rfl

theorem filledValid (crypto : Crypto) (now : Time) (raw : Bytes) {m : Meta} (valid : m.Valid) :
    (filled crypto now raw m).Valid := by
  have datedValid : (dated now m).Valid := by
    unfold dated
    split
    · exact ⟨valid.version,formatTimeValid now,valid.source,valid.notes⟩
    · exact valid
  unfold filled versioned
  split
  · exact ⟨hexValid _,datedValid.createdAt,datedValid.source,datedValid.notes⟩
  · exact datedValid

theorem signedConfigBytes (crypto : Crypto) (now : Time) (raw : Bytes) (m : Meta) (privateKey : Bytes) :
    (signed crypto now raw m privateKey).configBytes = some raw := by
  unfold Bundle.configBytes
  split
  · rename_i empty
    have decoded := Base64.decodeEncode raw
    rw [show Base64.encode raw = [] from empty] at decoded
    exact decoded
  · exact Base64.decodeEncode raw

structure KeyPair (crypto : Crypto) (publicKey privateKey : Bytes) : Prop where
  publicSize : publicKey.length = publicKeySize
  privateSize : privateKey.length = privateKeySize
  verifies : ∀ message, crypto.verify publicKey message (crypto.sign privateKey message) = true

theorem signedVerifies {crypto : Crypto} {publicKey privateKey : Bytes} (pair : KeyPair crypto publicKey privateKey)
    (now : Time) (raw : Bytes) (m : Meta) : verifyBundle crypto (signed crypto now raw m privateKey) publicKey = .ok () := by
  have hash : (signed crypto now raw m privateKey).configSHA256 = hexEncode (crypto.sha256 raw) := rfl
  have decoded : Base64.decode (signed crypto now raw m privateKey).signatureB64 = some (crypto.sign privateKey
      (signatureInput crypto (metaBytes (signed crypto now raw m privateKey).info) (crypto.sha256 raw))) :=
    Base64.decodeEncode _
  unfold verifyBundle
  rw [if_neg (not_not_intro pair.publicSize), signedConfigBytes]
  dsimp only [hashConfig]
  rw [if_neg (not_not_intro hash), decoded]
  exact if_pos (pair.verifies _)

structure Accepted (crypto : Crypto) (b : Bundle) (publicKey raw sig : Bytes) : Prop where
  config : b.configBytes = some raw
  signature : Base64.decode b.signatureB64 = some sig
  verifies : crypto.verify publicKey (signatureInput crypto (metaBytes b.info) (crypto.sha256 raw)) sig = true

theorem verifyAccepted {crypto : Crypto} {b : Bundle} {publicKey : Bytes}
    (accepted : verifyBundle crypto b publicKey = .ok ()) : ∃ raw sig, Accepted crypto b publicKey raw sig := by
  unfold verifyBundle at accepted
  split at accepted
  · cases accepted
  · split at accepted
    · cases accepted
    · rename_i raw config
      dsimp only [hashConfig] at accepted
      split at accepted
      · cases accepted
      · split at accepted
        · cases accepted
        · rename_i sig signature
          split at accepted
          · rename_i verifies
            exact ⟨raw,sig,config,signature,verifies⟩
          · cases accepted

def Bundle.hashed (crypto : Crypto) (b : Bundle) : List Bytes :=
  match b.configBytes with
  | none => []
  | some raw => [raw,metaBytes b.info ++ crypto.sha256 raw]

def CollisionFree (crypto : Crypto) (inputs : List Bytes) : Prop :=
  ∀ x ∈ inputs, ∀ y ∈ inputs, crypto.sha256 x = crypto.sha256 y → x = y

/- A signature verifies for at most one message under the key. -/
def Binding (crypto : Crypto) (publicKey : Bytes) : Prop :=
  ∀ sig message message', crypto.verify publicKey message sig = true → crypto.verify publicKey message' sig = true →
    message = message'

theorem acceptedAgree {crypto : Crypto} {b b' : Bundle} {publicKey raw raw' sig : Bytes} (binding : Binding crypto publicKey)
    (free : CollisionFree crypto (b.hashed crypto ++ b'.hashed crypto)) (valid : b.info.Valid) (valid' : b'.info.Valid)
    (accepted : Accepted crypto b publicKey raw sig) (accepted' : Accepted crypto b' publicKey raw' sig) :
    b.info = b'.info ∧ raw = raw' := by
  have hashed : b.hashed crypto = [raw,metaBytes b.info ++ crypto.sha256 raw] := by
    unfold Bundle.hashed
    rw [accepted.config]
  have hashed' : b'.hashed crypto = [raw',metaBytes b'.info ++ crypto.sha256 raw'] := by
    unfold Bundle.hashed
    rw [accepted'.config]
  rw [hashed, hashed'] at free
  have message := binding sig _ _ accepted.verifies accepted'.verifies
  have input := free _ (by simp) _ (by simp) message
  obtain ⟨sameMeta,sameHash⟩ := textsAgree (metaReads valid) (metaReads valid') input
  have stored := storeMetaFields id b.info
  rw [sameMeta, storeMetaFields id b'.info] at stored
  exact ⟨(Option.some.inj stored).symm,free _ (by simp) _ (by simp) sameHash⟩

def metaOf (m : SignedBundle.Meta) : Meta :=
  ⟨encodeText m.version,encodeText m.createdAt,encodeText m.source,encodeText m.notes⟩

def bundleOf (b : SignedBundle.Bundle) : Bundle :=
  ⟨metaOf b.info,encodeText b.configBytesB64,encodeText b.configSHA256,encodeText b.signatureB64⟩

structure Supplies (crypto : Crypto) (platform : ConfigData.Platform) (lib : SignedBundle.Library) : Prop where
  sha256 : platform.sha256 = crypto.sha256
  verify : lib.verify = crypto.verify
  marshal : ∀ m, lib.marshalMeta m = .ok (metaBytes (metaOf m))
  decode : ∀ s, (platform.decodeBase64 s).toOption = Base64.decode (encodeText s)

theorem encodeTextEmpty {s : String} : encodeText s = [] ↔ s = "" := by
  constructor
  · intro empty
    have none_ : s.toList = [] := by
      cases chars : s.toList with
      | nil => rfl
      | cons c rest =>
        unfold encodeText at empty
        rw [chars, List.flatMap_cons] at empty
        have rune := charRune c
        rw [(List.append_eq_nil_iff.mp empty).1] at rune
        cases rune
    exact String.toList_eq_nil_iff.mp none_
  · rintro rfl
    rfl

theorem configBytesOf {crypto : Crypto} {platform : ConfigData.Platform} {lib : SignedBundle.Library}
    (supplies : Supplies crypto platform lib) (b : SignedBundle.Bundle) :
    (bundleOf b).configBytes = (b.configBytes platform).toOption := by
  have blank : (bundleOf b).configBytesB64 = [] ↔ b.rolled.configBytesB64 = "" := encodeTextEmpty
  unfold Bundle.configBytes SignedBundle.Bundle.configBytes Rollout.Bundle.configBytes
  by_cases empty : b.rolled.configBytesB64 = ""
  · rw [if_pos (blank.mpr empty), if_pos empty]
    rfl
  · rw [if_neg (fun none_ => empty (blank.mp none_)), if_neg empty]
    exact (supplies.decode _).symm

theorem verifyBundleOf {crypto : Crypto} {platform : ConfigData.Platform} {lib : SignedBundle.Library}
    (supplies : Supplies crypto platform lib) (b : SignedBundle.Bundle) (publicKey : Bytes) :
    verifyBundle crypto (bundleOf b) publicKey = SignedBundle.verifyBundle platform lib b publicKey := by
  have config := configBytesOf supplies b
  have signature : (platform.decodeBase64 b.signatureB64).toOption = Base64.decode (bundleOf b).signatureB64 :=
    supplies.decode b.signatureB64
  have digest (raw : Bytes) : SignedBundle.hashConfig platform raw = hashConfig crypto raw := by
    unfold SignedBundle.hashConfig hashConfig
    rw [supplies.sha256]
  have input (hash : Bytes) : SignedBundle.signatureInput platform (metaBytes (metaOf b.info)) hash =
      signatureInput crypto (metaBytes (metaOf b.info)) hash := congrFun supplies.sha256 _
  unfold verifyBundle SignedBundle.verifyBundle
  rw [config, ← signature]
  cases b.configBytes platform with
  | error e => rfl
  | ok raw =>
    dsimp only [Except.toOption]
    rw [digest, supplies.marshal, supplies.verify]
    cases platform.decodeBase64 b.signatureB64 with
    | error e => rfl
    | ok sig =>
      dsimp only
      rw [input]
      rfl

theorem signedSent {crypto : Crypto} (now : Time) (raw : Bytes) {m : Meta} (privateKey : Bytes) (fold : Bytes → Bytes)
    (valid : m.Valid) : unmarshalBundle fold (bundleBytes (signed crypto now raw m privateKey)) =
      some (signed crypto now raw m privateKey) :=
  unmarshalBundleBytes fold ⟨filledValid crypto now raw valid,base64Valid _,hexValid _,base64Valid _⟩

theorem bundlesBound (crypto : Crypto) (fold : Bytes → Bytes) :
    (∀ publicKey privateKey, KeyPair crypto publicKey privateKey → ∀ now raw m, ∃ b,
      newSignedBundle crypto now raw m privateKey = .ok b ∧ verifyBundle crypto b publicKey = .ok () ∧
      (m.Valid → ∃ sent, unmarshalBundle fold (bundleBytes b) = some sent ∧ verifyBundle crypto sent publicKey = .ok ())) ∧
    (∀ publicKey, Binding crypto publicKey → ∀ b b' : Bundle, b.info.Valid → b'.info.Valid →
      CollisionFree crypto (b.hashed crypto ++ b'.hashed crypto) →
      verifyBundle crypto b publicKey = .ok () → verifyBundle crypto b' publicKey = .ok () →
      Base64.decode b.signatureB64 = Base64.decode b'.signatureB64 →
      b.info = b'.info ∧ b.configBytes = b'.configBytes) := by
  constructor
  · intro publicKey privateKey pair now raw m
    have verifies := signedVerifies pair now raw m
    refine ⟨signed crypto now raw m privateKey,newSignedBundleOk crypto now raw m pair.privateSize,verifies,fun valid => ?_⟩
    exact ⟨_,signedSent now raw privateKey fold valid,verifies⟩
  · intro publicKey binding b b' valid valid' free ok ok' same
    obtain ⟨raw,sig,accepted⟩ := verifyAccepted ok
    obtain ⟨raw',sig',accepted'⟩ := verifyAccepted ok'
    rw [accepted.signature, accepted'.signature] at same
    cases same
    obtain ⟨info,config⟩ := acceptedAgree binding free valid valid' accepted accepted'
    exact ⟨info,by rw [accepted.config, accepted'.config, config]⟩

def plainCrypto : Crypto := ⟨id,fun _ message => message,fun _ message sig => message == sig⟩

def zeros (size : Nat) : Bytes := List.replicate size 0

theorem plainPair : KeyPair plainCrypto (zeros publicKeySize) (zeros privateKeySize) :=
  ⟨rfl,rfl,fun message => beq_self_eq_true message⟩

def newYear : Time := ⟨2026,1,1,0,0,0,500000000⟩

def plainMeta : Meta := { source := encodeText "a<b", notes := encodeText "über" }

theorem plainMetaValid : plainMeta.Valid := ⟨textValid "",textValid "",textValid "a<b",textValid "über"⟩

def plainBundle : Bundle := signed plainCrypto newYear (encodeText "ok") plainMeta (zeros privateKeySize)

def brokenLine : Bundle := { plainBundle with configBytesB64 := plainBundle.configBytesB64 ++ [0x0A] }

theorem brokenLineBound :
    (∃ b sent, newSignedBundle plainCrypto newYear (encodeText "ok") plainMeta (zeros privateKeySize) = .ok b ∧
      unmarshalBundle id (bundleBytes b) = some sent ∧ verifyBundle plainCrypto sent (zeros publicKeySize) = .ok ()) ∧
    plainBundle ≠ brokenLine ∧ plainBundle.info = brokenLine.info ∧ plainBundle.configBytes = brokenLine.configBytes := by
  obtain ⟨b,made,_,sends⟩ := (bundlesBound plainCrypto id).1 _ _ plainPair newYear (encodeText "ok") plainMeta
  obtain ⟨sent,read,verifies⟩ := sends plainMetaValid
  have binding : Binding plainCrypto (zeros publicKeySize) :=
    fun sig message message' first second => (eq_of_beq first).trans (eq_of_beq second).symm
  have valid := filledValid plainCrypto newYear (encodeText "ok") plainMetaValid
  have verified := signedVerifies plainPair newYear (encodeText "ok") plainMeta
  refine ⟨⟨b,sent,made,read,verifies⟩,by decide,?_⟩
  exact (bundlesBound plainCrypto id).2 _ binding plainBundle brokenLine valid valid (fun _ _ _ _ same => same) verified
    verified rfl

end ReverseProxy.BundleSigning
