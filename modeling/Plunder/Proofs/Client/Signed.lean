import Plunder.Proofs.Client.Flow
import Plunder.Proofs.Ledger.Submission

/-!
# What an action signs

A call is signed for an action only if there is a signer, a snapshot, and in the snapshot what the
action asks for. The call is then that of the action, with its participant and its amount.

Main statement:
- `signed_cases`: what an action signs, or why it signs nothing
-/

namespace Plunder

/-! ## Definitions -/

/-- Whether a client has what it takes to sign a call for an action: a signer, and a snapshot in
which the participant has yet to report, with an amount that is one; or, for a new round, a snapshot
in which everybody has reported. -/
def Client.Permits (c : Client) (kind : ActionKind) (participant : String) (amount : Value) :
    Prop :=
  c.actions.signer.isSome = true ∧ ∃ s, c.sync.snapshot = some s ∧
    match kind with
    | .haul => s.isOutstanding participant = true ∧ ∃ n, Amount.parseValue amount = .ok n
    | .advance => s.complete = true

/-- Whether a signed call is that of an action, with its participant and its amount. -/
def SignedCall.IsFor (s : SignedCall) (kind : ActionKind) (participant : String) (amount : Value) :
    Prop :=
  match kind with
  | .haul => ∃ n text, Amount.parseValue amount = .ok n ∧ (Value.nat n).inline? = some text ∧
      s.call.method = Method.recordHaul.text ∧
        s.call.params = [("participant", .text participant), ("amount", .text text)]
  | .advance => s.call.method = Method.advanceRound.text ∧ s.call.params = []

/-! ## Signing -/

namespace Signer

/-- A signer signs what it has built itself, if the parameters are texts. -/
theorem exists_sign (s : Signer) (now : Moment) (nonce : Nat) (m : Method) {params : Fields}
    (texts : (s.call now nonce m params).HasTextParams) :
    ∃ signature, s.sign (s.call now nonce m params) =
      .ok ⟨s.call now nonce m params, signature⟩ := by
  obtain ⟨hash, hhash⟩ := LedgerCall.exists_payloadHash texts.readable
  refine ⟨s.keypair.signText (Text.utf8 hash), ?_⟩
  have hsigner : ¬ (s.call now nonce m params).signer ≠ s.address := not_not_intro rfl
  rw [sign, if_neg hsigner, hhash]
  rfl

/-- The report of a haul is signed if its amount has a text. -/
theorem exists_recordHaul (s : Signer) (now : Moment) (nonce : Nat) (participant : String)
    {amount : Value} {text : String} (h : amount.inline? = some text) :
    ∃ signature, s.recordHaul now nonce (.text participant) amount =
      .ok ⟨s.call now nonce .recordHaul [("participant", .text participant),
        ("amount", .text text)], signature⟩ := by
  have hinline : amount.inline = .ok text := by rw [Value.inline, h]
  rw [recordHaul, hinline]
  exact s.exists_sign now nonce .recordHaul
    ⟨[("participant", participant), ("amount", text)], by simp, rfl⟩

theorem recordHaul_of_none {s : Signer} {now : Moment} {nonce : Nat} {participant amount : Value}
    (h : amount.inline? = none) :
    s.recordHaul now nonce participant amount = .error .numberTooLong := by
  have hinline : amount.inline = .error .numberTooLong := by rw [Value.inline, h]
  rw [recordHaul, hinline]
  rfl

theorem exists_advanceRound (s : Signer) (now : Moment) (nonce : Nat) :
    ∃ signature, s.advanceRound now nonce = .ok ⟨s.call now nonce .advanceRound [], signature⟩ :=
  s.exists_sign now nonce .advanceRound ⟨[], List.nodup_nil, rfl⟩

end Signer

/-! ## Amounts and hauls -/

/-- A haul is reported as it was asked for, of a participant that has an address. -/
theorem HaulSubmission.ofParts_eq_ok_iff {participant : String} {amount : Nat}
    {h : HaulSubmission} :
    ofParts participant amount = .ok h ↔ participant ≠ "" ∧ h = ⟨participant, amount⟩ := by
  rw [ofParts, check, Form.finish_eq_ok_iff, ofFields, Form.Checked.seq_eq_ok_iff]
  simp only [Form.Checked.map_eq_ok_iff, Form.field_eq_ok_iff]
  constructor
  · rintro ⟨g, n, ⟨p, ⟨v, hv, hp⟩, rfl⟩, ⟨w, hw, hn⟩, rfl⟩
    cases hv
    cases hw
    obtain ⟨rfl, hne⟩ := Form.nonemptyText_text_eq_ok_iff.1 hp
    obtain rfl := Int.ofNat.inj (Form.natural_int_eq_ok_iff.1 hn)
    exact ⟨hne, rfl⟩
  · rintro ⟨hne, rfl⟩
    exact ⟨_, amount, ⟨participant, ⟨_, rfl, Form.nonemptyText_text_eq_ok_iff.2 ⟨rfl, hne⟩⟩, rfl⟩,
      ⟨_, rfl, Form.natural_int_eq_ok_iff.2 rfl⟩, rfl⟩

/-- What is no amount is faulty, but not cancelled. -/
theorem Amount.uncancelled_of_parseValue {v : Value} {f : Fault} (h : parseValue v = .error f) :
    f.kind ≠ .cancelled := by
  unfold parseValue at h
  split at h
  · rename_i s
    cases hs : parse s with
    | ok n =>
      rw [hs] at h
      cases h
    | error g =>
      rw [hs] at h
      cases h
      cases g <;> nofun
  · repeat' split at h
    all_goals cases h; nofun

namespace Client

variable {c : Client} {kind : ActionKind} {participant : String} {amount : Value}

/-- A haul is reported as it was asked for, of a participant who is outstanding and in an amount
that is one; or it is faulty, but not cancelled. -/
theorem haulOf_cases (snapshot : Option RoundSnapshot) (participant : String) (amount : Value) :
    (∃ s n, snapshot = some s ∧ s.isOutstanding participant = true ∧
      Amount.parseValue amount = .ok n ∧
        Actions.haulOf snapshot participant amount = .ok ⟨participant, n⟩) ∨
    ∃ f, Actions.haulOf snapshot participant amount = .error f ∧ f.kind ≠ .cancelled := by
  cases snapshot with
  | none => exact .inr ⟨_, rfl, nofun⟩
  | some s =>
    simp only [Actions.haulOf]
    cases hout : s.isOutstanding participant with
    | false => exact .inr ⟨_, rfl, nofun⟩
    | true =>
      cases hn : Amount.parseValue amount with
      | error g =>
        refine .inr ⟨Actions.amountFault g, rfl, ?_⟩
        unfold Actions.amountFault
        split
        · nofun
        · exact Amount.uncancelled_of_parseValue hn
      | ok n =>
        -- The participant may have no name at all, which is found only here.
        cases hparts : HaulSubmission.ofParts participant n with
        | error i => exact .inr ⟨.invalid i, by simp [bind, Except.bind, Except.mapError, hparts],
            nofun⟩
        | ok h =>
          obtain ⟨-, rfl⟩ := HaulSubmission.ofParts_eq_ok_iff.1 hparts
          exact .inl ⟨s, n, rfl, hout, rfl, by simp [bind, Except.bind, Except.mapError, hparts]⟩

/-! ## What an action signs -/

/-- **What an action signs**: the client has what it takes, and the call is that of the action; or
there is no call, for a reason that is no cancellation. -/
theorem signed_cases (c : Client) (kind : ActionKind) (participant : String) (amount : Value) :
    (∃ call, (c.signed kind participant amount).call = .ok call ∧
      c.Permits kind participant amount ∧ call.IsFor kind participant amount) ∨
    ∃ f, (c.signed kind participant amount).call = .error f ∧ f.kind ≠ .cancelled := by
  cases hs : c.actions.signer with
  | none =>
    refine .inr ⟨.noCredential, ?_, nofun⟩
    cases kind <;> simp [signed, Actions.signHaul, Actions.signAdvance, Actions.requireSigner, hs]
  | some signer =>
    have hsigner : c.actions.signer.isSome = true := by rw [hs]; rfl
    cases kind with
    | haul =>
      simp only [signed, Actions.signHaul, Actions.requireSigner, hs]
      rcases haulOf_cases c.sync.snapshot participant amount with
        ⟨s, n, hsnapshot, hout, hn, hh⟩ | ⟨f, hh, hf⟩
      · rw [hh]
        -- A number may be too long to be written out.
        cases ht : (Value.nat n).inline? with
        | none => exact .inr ⟨_, Signer.recordHaul_of_none ht, nofun⟩
        | some text =>
          obtain ⟨signature, hcall⟩ := signer.exists_recordHaul c.now c.nonce participant ht
          exact .inl ⟨_, hcall, ⟨hsigner, s, hsnapshot, hout, n, hn⟩, n, text, hn, ht, rfl, rfl⟩
      · rw [hh]
        exact .inr ⟨f, rfl, hf⟩
    | advance =>
      simp only [signed, Actions.signAdvance, Actions.requireSigner, hs]
      cases hsnapshot : c.sync.snapshot with
      | none => exact .inr ⟨_, rfl, nofun⟩
      | some s =>
        cases hcomplete : s.complete with
        | false =>
          exact .inr ⟨.submission "Not all participants have reported", by simp [hcomplete], nofun⟩
        | true =>
          obtain ⟨signature, hcall⟩ := signer.exists_advanceRound c.now c.nonce
          exact .inl ⟨_, by simpa [hcomplete] using hcall, ⟨hsigner, s, hsnapshot, hcomplete⟩,
            rfl, rfl⟩

end Client
end Plunder
