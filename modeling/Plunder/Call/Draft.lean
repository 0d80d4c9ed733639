import Plunder.Call.Signing

/-!
# Drafts of signed calls

A signed call described by what it is for and who signs it, and a signed call that was changed after
it was signed.

* `Draft.sign`: the signed call of a draft
* `SignedCall.amend`: fields are replaced and the signature is kept
-/

namespace Plunder

namespace SignedCall

/-- One field is replaced, and the signature is kept; a field that there is not is left out. -/
def amendField (s : SignedCall) (name : String) (v : Value) : SignedCall :=
  match name, v with
  | "signature", .text t => { s with signature := t }
  | "params", .object fs => { s with call := { s.call with params := s.call.params.merge fs } }
  | "contract", .text t => { s with call := { s.call with contract := t } }
  | "method", .text t => { s with call := { s.call with method := t } }
  | "signer", .text t => { s with call := { s.call with signer := t } }
  | "nonce", .text t => { s with call := { s.call with nonce := t } }
  | "issued_at", .text t =>
    match Moment.parse? t with
    | some m => { s with call := { s.call with issuedAt := m } }
    | none => s
  | _, _ => s

/-- Fields are replaced, and the signature is kept. Parameters are added to those of the call. -/
def amend (s : SignedCall) (fs : Fields) : SignedCall :=
  fs.foldl (fun s f => s.amendField f.1 f.2) s

end SignedCall

/-- What a call is for. -/
inductive Purpose where
  | haul (participant amount : Value)
  | advance
  /-- A call out of the fields of a record; by default it is the signer's own. -/
  | call (fs : Fields)

/-- A signed call, described by its parts. -/
structure Draft where
  credential : String
  contract : String
  purpose : Purpose
  /-- What is changed after signing. -/
  amendments : Fields

namespace Draft

/-- How many nonces a call takes. A haul whose amount cannot be written takes none. -/
def nonces : Purpose → Nat
  | .haul _ amount => if amount.inline?.isSome then 1 else 0
  | .advance => 1
  | .call _ => 0

/-- The call of a draft, signed. -/
def signWith (d : Draft) (signer : Signer) (now : Moment) (nonce : Nat) : Except Fault SignedCall :=
  match d.purpose with
  | .haul participant amount => signer.recordHaul now nonce participant amount
  | .advance => signer.advanceRound now nonce
  | .call fs =>
    let fs := Fields.merge [("signer", .text signer.address), ("nonce", .text "n")] fs
    ((LedgerCall.check now fs).mapError .invalid).bind signer.sign

/-- The signed call of a draft, and the next nonce. -/
def sign (d : Draft) (now : Moment) (nonce : Nat) : Except Fault SignedCall × Nat :=
  match Signer.ofCredential d.credential d.contract with
  | .error f => (.error f, nonce)
  | .ok signer =>
    ((d.signWith signer now nonce).map (·.amend d.amendments), nonce + nonces d.purpose)

end Draft
end Plunder
