import Plunder.Call
import Plunder.Digest.Sha256

/-!
# Signing calls

A call is signed over the digest of its canonical text, and a signed call is known on the ledger by
the digest of its own. The key pair of a credential signs with the digest of its address and the
data.

* `LedgerCall.payloadHash`, `SignedCall.txHash`: what is signed, and what names a transaction
* `Keypair.ofCredential`: the key pair of a configured credential
* `Signer.sign`, `SignedCall.verify`: signing, and checking a signature against the declared signer
-/

namespace Plunder

/-- The digest of the canonical text of a value, in hexadecimal digits. -/
def Value.hash (v : Value) : Except Fault String :=
  match Json.canonical v with
  | .ok t => .ok (Sha256.hexOfText t)
  | .error f => .error f.fault

def LedgerCall.payloadHash (c : LedgerCall) : Except Fault String := c.plain.bind Value.hash

/-- The name of a signed call on the ledger; it covers the signature. -/
def SignedCall.txHash (s : SignedCall) : Except Fault String :=
  (s.plain.bind Value.hash).map ("0x" ++ ·)

/-- A key pair, by its address. -/
structure Keypair where
  address : String
  deriving DecidableEq

namespace Keypair

/-- A credential with at least this many words is a phrase. -/
def phraseLength : Nat := 12

/-- The key pair of a credential: a derivation path, a phrase or a seed, blanks around. -/
def ofCredential (credential : String) : Except Fault Keypair :=
  let c := Text.trim credential
  if c.isEmpty then .error .noCredential
  else if c.startsWith "//" then .ok ⟨"uri:" ++ c⟩
  else if phraseLength ≤ Text.countWords c then .ok ⟨"mnemonic:" ++ c⟩
  else .ok ⟨"seed:" ++ c⟩

/-- The key pair that checks signatures of an address, where the address is well-formed. -/
def ofAddress? (address : String) : Option Keypair :=
  if ["uri:", "mnemonic:", "seed:"].any fun s => address.startsWith s then some ⟨address⟩ else none

def sign (k : Keypair) (data : Bytes) : Bytes :=
  Sha256.digest (Text.utf8 k.address ++ Text.utf8 "|" ++ data)

/-- The text of a signature: digits alone, or marked as digits where the address asks for it. -/
def signText (k : Keypair) (data : Bytes) : String :=
  let digits := Text.Hex.encode (k.sign data)
  if k.address.endsWith "#str" then "0x" ++ digits else digits

def verify (k : Keypair) (data signature : Bytes) : Bool := k.sign data == signature

end Keypair

/-- The octets of a signature text, with or without a mark in front. -/
def signatureOctets? (text : String) : Option Bytes :=
  let digits := match text.toList with
    | '0' :: 'x' :: rest => rest
    | cs => cs
  (Text.Hex.decode digits).toOption

/-- Whether the signature of a call is that of the signer which the call declares. -/
def SignedCall.verify (s : SignedCall) : Except Fault Bool :=
  if s.signature.isEmpty then .ok false
  else do
    let hash ← s.call.payloadHash
    match signatureOctets? s.signature, Keypair.ofAddress? s.call.signer with
    | some octets, some k => return k.verify (Text.utf8 hash) octets
    | _, _ => return false

/-- Thirty-two hexadecimal digits that no other call has. -/
def nonceText (n : Nat) : String := String.ofList (Text.Quoted.padHex 32 n)

/-- Signs calls with one key pair for one contract. -/
structure Signer where
  keypair : Keypair
  contract : String
  deriving DecidableEq

namespace Signer

def ofCredential (credential contract : String) : Except Fault Signer :=
  (Keypair.ofCredential credential).map (⟨·, contract⟩)

def address (s : Signer) : String := s.keypair.address

/-- Signs a call that was built for this signer. -/
def sign (s : Signer) (c : LedgerCall) : Except Fault SignedCall :=
  if c.signer ≠ s.address then
    .error (.badValue ("call signer " ++ c.signer ++ " does not match keypair " ++ s.address))
  else do
    let hash ← c.payloadHash
    return ⟨c, s.keypair.signText (Text.utf8 hash)⟩

def call (s : Signer) (now : Moment) (nonce : Nat) (method : Method) (params : Fields) :
    LedgerCall :=
  ⟨s.contract, method.text, params, s.address, nonceText nonce, now⟩

/-- A signed report of a haul; the amount travels as a text. -/
def recordHaul (s : Signer) (now : Moment) (nonce : Nat) (participant amount : Value) :
    Except Fault SignedCall := do
  let text ← amount.inline
  s.sign (s.call now nonce .recordHaul [("participant", participant), ("amount", .text text)])

def advanceRound (s : Signer) (now : Moment) (nonce : Nat) : Except Fault SignedCall :=
  s.sign (s.call now nonce .advanceRound [])

end Signer

/-- An unsigned call out of values of unknown shape. -/
def LedgerCall.build (now : Moment) (nonce : Nat) (method params signer contract : Value) :
    Except Form.Invalid LedgerCall :=
  LedgerCall.check now [("contract", contract), ("method", method), ("params", params),
    ("signer", signer), ("nonce", .text (nonceText nonce))]

end Plunder
