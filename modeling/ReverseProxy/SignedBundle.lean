import ReverseProxy.Rollout

/-! Package bundle: configurations with a signature over their meta data and the hash
of their bytes. What encoding/json, base64 and crypto/ed25519 compute is a parameter. -/
namespace ReverseProxy.SignedBundle
open GoValues ConfigData

structure Meta where
  version : String := ""
  createdAt : String := ""
  source : String := ""
  notes : String := ""
  deriving DecidableEq, Repr

structure Bundle where
  info : Meta := {}
  configBytesB64 : String := ""
  configSHA256 : String := ""
  signatureB64 : String := ""
  deriving DecidableEq, Repr

/- `rollbackVersion` is the decoder on {"version": ..}; none stands for io.EOF. -/
structure Library where
  marshalMeta : Meta → Except Message Bytes
  unmarshalBundle : Bytes → Except Message Bundle
  rollbackVersion : Bytes → Except (Option Message) String
  encodeBase64 : Bytes → String
  verify : Bytes → Bytes → Bytes → Bool

def Bundle.rolled (b : Bundle) : Rollout.Bundle := ⟨encodeText b.info.version,b.info.source,b.configBytesB64⟩

def Bundle.configBytes (platform : Platform) (b : Bundle) : Except Message Bytes := b.rolled.configBytes platform

def hashConfig (platform : Platform) (raw : Bytes) : Bytes × Bytes := (hexEncode (platform.sha256 raw),platform.sha256 raw)

def signatureInput (platform : Platform) (metaBytes configHash : Bytes) : Bytes := platform.sha256 (metaBytes ++ configHash)

def publicKeySize : Nat := 32

def errBadHash : Message := newError "bundle hash mismatch"
def errBadSignature : Message := newError "bundle signature invalid"

def verifyBundle (platform : Platform) (lib : Library) (b : Bundle) (publicKey : Bytes) : Except Message Unit :=
  if publicKey.length ≠ publicKeySize then .error errBadSignature
  else match b.configBytes platform with
    | .error _ => .error errBadHash
    | .ok raw =>
      let (configHashHex,configHashBytes) := hashConfig platform raw
      if encodeText b.configSHA256 ≠ configHashHex then .error errBadHash
      else match lib.marshalMeta b.info with
        | .error e => .error e
        | .ok metaBytes =>
          match platform.decodeBase64 b.signatureB64 with
          | .error _ => .error errBadSignature
          | .ok sig =>
            if lib.verify publicKey (signatureInput platform metaBytes configHashBytes) sig then .ok ()
            else .error errBadSignature

end ReverseProxy.SignedBundle
