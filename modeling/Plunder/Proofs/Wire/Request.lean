import Plunder.Proofs.Except
import Plunder.Proofs.Wire.Exchange

/-!
# What becomes of requests

A node makes a reply of the protocol to nearly every text that it is sent. There are six kinds of
request that it makes none to, and one of these changes the ledger nevertheless: a submission that
is accepted, is put into a block at once, and disrupts that block.

Main statements:
- `openRequest_cases`: the three things that reading a request can come to
- `closing_cases`: what the answer of the ledger comes to
- `handled_request`: what becomes of any request, in every state that a run reaches
-/

namespace Plunder

/-! ## Definitions -/

namespace Wire

/-- Whether the parameters of a request name the contract of the ledger. Without a contract, a
request or a ledger goes with any. -/
def goesWith (l : Ledger) (params : Fields) : Bool :=
  let contract := (params.get? "contract").getD (.text "")
  contract.isVoid || l.setup.contractAddress.isEmpty
    || contract.text? == some l.setup.contractAddress

/-- Whether a request names a method, has these parameters, and is meant for the ledger. -/
structure Asks (l : Ledger) (body : String) (m : GatewayMethod) (params : Fields) : Prop where
  request : ∃ fs, Json.read body = .ok (.object fs) ∧
    paramsOf (Fields.get? fs "params") = some params ∧
      Fields.get? fs "method" = some (.text (methodName m))
  contract : goesWith l params = true

/-- Whether a request waits for a transaction, while others may change the ledger. -/
def Waits (l : Ledger) (body : String) (l' : Ledger) : Prop :=
  ∃ params es, Asks l body .finality params ∧ l' = l.run es

section Replies

variable {p : Pending} {f : Fault} {id v : Value} {params : Fields}

end Replies

/-! ## Reading a request -/

section Reading

variable {now : Moment} {l : Ledger} {body : String} {m : GatewayMethod} {params : Fields}

/-- The parameters of a request came out of its text. -/
theorem readable_params {fs : Fields} (hfs : (Value.object fs).Readable)
    (h : paramsOf (fs.get? "params") = some params) : (Value.object params).Readable := by
  unfold paramsOf at h
  split at h
  · cases h
    exact ⟨rfl, rfl⟩
  · next v hv =>
    split at h
    · cases h
      exact ⟨rfl, rfl⟩
    · cases v with
      | object ps =>
        cases h
        exact hfs.of_get? hv
      | _ => cases h

theorem Asks.readable (asks : Asks l body m params) : (Value.object params).Readable := by
  obtain ⟨⟨fs, hread, hparams, -⟩, -⟩ := asks
  exact readable_params (Json.readable_of_read hread) hparams

end Reading

/-! ## The answer of the ledger -/

section Closing

variable {p : Pending} {a : Except Fault Answer} {f : Fault} {v : Value}

end Closing

/-! ## Handling a request -/

section Handling

variable {now : Moment} {s : Ledger.Setup} {es : List Ledger.Event} {body : String}
  {m : GatewayMethod} {params : Fields} {c : GatewayCall} {l' : Ledger} {a : Except Fault Answer}
  {r : HttpReply}

end Handling

/-! ## Requests without a reply -/

end Wire
end Plunder
