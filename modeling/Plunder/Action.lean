import Plunder.Amount
import Plunder.Loot
import Plunder.Transaction
import Plunder.Call.Signing
import Plunder.Round.Snapshot
import Plunder.Journal

/-!
# Actions

The two mutating actions of the client, reporting a haul and starting a new round. An action is
signed, submitted and awaited, and then the round is read again; the local copy of the round is
never changed ahead of the ledger. At most one action of each kind is in flight.

* `Actions.launch`: an action begins, or is refused because one of its kind is in flight
* `Actions.signHaul`, `Actions.signAdvance`: the preconditions, and the signed call
* `Actions.confirm`: what a receipt says
* `Actions.fail`, `Actions.succeed`, `Actions.refreshFailed`, `Actions.finish`: how an action ends
-/

namespace Plunder

/-- What the user is shown while and after an action. -/
structure Feedback where
  /-- The kinds of actions in flight. -/
  pending : List ActionKind
  error : Option String
  success : Option String
  /-- The amount that the user has typed. -/
  amount : Value

namespace Feedback

def empty : Feedback := ⟨[], none, none, .text ""⟩

/-- Whether some action is in flight. -/
def busy (f : Feedback) : Bool := !f.pending.isEmpty

/-- The text that the user is shown: an error in front of a success. An empty text is none. -/
def message (f : Feedback) : Option String :=
  match f.error with
  | some e => if e.isEmpty then f.success else some e
  | none => f.success

end Feedback

/-- The state of both actions. -/
structure Actions where
  signer : Option Signer
  feedback : Feedback
  haul : TransactionResult
  advance : TransactionResult

namespace Actions

def idle (signer : Option Signer) : Actions :=
  ⟨signer, .empty, .idle .haul, .idle .advance⟩

def result (a : Actions) : ActionKind → TransactionResult
  | .haul => a.haul
  | .advance => a.advance

/-- Sets the outcome of the kind that it is for. -/
def setResult (a : Actions) (r : TransactionResult) : Actions :=
  match r.kind with
  | .haul => { a with haul := r }
  | .advance => { a with advance := r }

def isPending (a : Actions) (kind : ActionKind) : Bool := a.feedback.pending.contains kind

def note (level : Level) (kind : ActionKind) (more : Fields) : Note :=
  .under level "tx_orchestrator" (("action", .text kind.text) :: more)

/-! ## Beginning -/

def inProgress (kind : ActionKind) : Fault :=
  .submission (kind.text ++ " action already in progress")

def start (a : Actions) (kind : ActionKind) : Actions :=
  { a with feedback :=
      { a.feedback with error := none, success := none, pending := a.feedback.pending ++ [kind] } }
    |>.setResult (.pending kind)

/-- An action begins, unless one of its kind is in flight. -/
def launch (a : Actions) (kind : ActionKind) : Except Fault (Actions × Note) :=
  if a.isPending kind then .error (inProgress kind)
  else .ok (a.start kind, note .info kind [("status", .text "pending")])

/-- The signer, which must be there. -/
def requireSigner (a : Actions) : Except Fault Signer :=
  match a.signer with
  | some s => .ok s
  | none => .error .noCredential

/-- The fault of an amount, as the action reports it. -/
def amountFault (f : Fault) : Fault :=
  match f.kind with
  | .amount => .submission f.message
  | _ => f

/-- The haul to be reported: the participant must be outstanding and the amount a decimal. -/
def haulOf (snapshot : Option RoundSnapshot) (participant : String) (amount : Value) :
    Except Fault HaulSubmission :=
  match snapshot with
  | none => .error (.submission "Participant not found")
  | some s =>
    -- Who has reported already is as unknown as who is not on the roster.
    if !s.isOutstanding participant then .error (.submission "Participant not found")
    else do
      let n ← (Amount.parseValue amount).mapError amountFault
      (HaulSubmission.ofParts participant n).mapError .invalid

def haulNote (h : HaulSubmission) : Note :=
  .under .debug "tx_orchestrator"
    [("haul", .object [("participant", .text h.participant), ("amount", .nat h.amount)])]

/-- A signed call, what is noted, and how many nonces were used. -/
structure Signed where
  call : Except Fault SignedCall
  notes : List Note
  nonces : Nat

/-- The signed report of a haul. -/
def signHaul (a : Actions) (now : Moment) (nonce : Nat) (snapshot : Option RoundSnapshot)
    (participant : String) (amount : Value) : Signed :=
  match a.requireSigner with
  | .error f => ⟨.error f, [], 0⟩
  | .ok s =>
    match haulOf snapshot participant amount with
    | .error f => ⟨.error f, [], 0⟩
    | .ok h =>
      ⟨s.recordHaul now nonce (.text h.participant) (.nat h.amount), [haulNote h],
        if ((Value.nat h.amount).inline?).isSome then 1 else 0⟩

/-- The signed call to start a new round: everyone must have reported. -/
def signAdvance (a : Actions) (now : Moment) (nonce : Nat) (snapshot : Option RoundSnapshot) :
    Signed :=
  match a.requireSigner with
  | .error f => ⟨.error f, [], 0⟩
  | .ok s =>
    if (snapshot.map (·.complete)).getD false then ⟨s.advanceRound now nonce, [], 1⟩
    else ⟨.error (.submission "Not all participants have reported"), [], 0⟩

def submittedNote (h : TransactionHandle) : Note :=
  .under .debug "tx_orchestrator" [("submitted", .text h.method), ("tx_hash", .text h.txHash)]

/-- The hash in a receipt that confirms; a fault with its reason otherwise. -/
def confirm (r : TransactionReceipt) : Except Fault String :=
  if r.confirmed then .ok r.txHash
  else .error (.submission (if r.reason.isEmpty then "Transaction reverted" else r.reason))

/-! ## Ending -/

/-- What a failed action says when its fault says nothing. -/
def fallback : ActionKind → String
  | .haul => "Failed to report loot."
  | .advance => "Failed to start new round."

def successText : ActionKind → String
  | .haul => "Loot submitted!"
  | .advance => "A new round has begun!"

/-- What a failed action says. -/
def reasonOf (kind : ActionKind) (f : Fault) : String :=
  if f.message.isEmpty then fallback kind else f.message

def fail (a : Actions) (kind : ActionKind) (f : Fault) : Actions × Note :=
  let reason := reasonOf kind f
  let a := a.setResult (.failure kind reason)
  ({ a with feedback := { a.feedback with success := none, error := some reason } },
    note .error kind [("status", .text "failed"), ("reason", .text reason)])

def failureOf (kind : ActionKind) (f : Fault) : Fault :=
  if f.kind.isSubmission then f else .submission (reasonOf kind f)

/-- The ledger has confirmed the action. -/
def succeed (a : Actions) (kind : ActionKind) (txHash : String) : Actions × Note :=
  let a := a.setResult (.success kind txHash)
  let amount := match kind with
    | .haul => .text ""
    | .advance => a.feedback.amount
  ({ a with feedback := { a.feedback with amount := amount, success := some (successText kind) } },
    note .info kind [("status", .text "succeeded"), ("tx_hash", .text txHash)])

/-- Reading the round after a confirmed action has failed. -/
def refreshFailed (a : Actions) (kind : ActionKind) (f : Fault) : Actions × Note :=
  ({ a with feedback := { a.feedback with success := none, error := some f.message } },
    note .warning kind [("refresh", .text "failed")])

def finish (a : Actions) (kind : ActionKind) : Actions :=
  { a with feedback := { a.feedback with pending := a.feedback.pending.filter (· ≠ kind) } }

/-- Sets the amount that the user has typed. -/
def setAmount (a : Actions) (amount : Value) : Actions :=
  { a with feedback := { a.feedback with amount := amount } }

/-- Sets the error that the user is shown. -/
def setError (a : Actions) (error : Option String) : Actions :=
  { a with feedback := { a.feedback with error := error } }

end Actions
end Plunder
