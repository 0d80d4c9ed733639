import Plunder.Call
import Plunder.Proofs.Form
import Plunder.Proofs.Moment
import Plunder.Proofs.Value.RoundTrip

/-!
# Calls out of their plain forms

A signed call travels in its plain form. A call that was accepted as a record and whose parameters
are texts is the call that is read from its plain form.

Main statements:
- `SignedCall.wellFormed_of_check`: what is true of every call that is accepted as a record
- `SignedCall.check_toFields`: a signed call out of its plain form
-/

namespace Plunder

/-! ## Definitions -/

/-- Whether the parameters of a call map texts to texts, each name to one. -/
def LedgerCall.HasTextParams (c : LedgerCall) : Prop :=
  ∃ ps : List (String × String), (ps.map (·.1)).Nodup ∧ c.params = ps.map fun p => (p.1, .text p.2)

/-- The fields of the plain form of a signed call whose parameters are plain already. -/
def SignedCall.toFields (s : SignedCall) : Fields :=
  [("call", .object [("contract", .text s.call.contract), ("method", .text s.call.method),
      ("params", .object s.call.params), ("signer", .text s.call.signer),
      ("nonce", .text s.call.nonce), ("issued_at", .text s.call.issuedAt.text)]),
    ("signature", .text s.signature)]

/-- Whether the method of a call is one of the ledger's, and its date a point in time. -/
structure SignedCall.WellFormed (s : SignedCall) : Prop where
  method : (Method.ofText? s.call.method).isSome = true
  issued : s.call.issuedAt.Valid

/-! ## What is accepted -/

/-- What the fields of a call say, of those that are more than texts. -/
theorem LedgerCall.fields_of_ofFields {now : Moment} {fs : Fields} {c : LedgerCall}
    (h : ofFields now fs = .ok c) :
    Form.field fs "method" methodName = .ok c.method ∧
      Form.fieldOr fs "params" [] Form.object = .ok c.params ∧
        Form.fieldOr fs "issued_at" now Moment.ofValue = .ok c.issuedAt := by
  -- The fields one by one, from the last to the first.
  obtain ⟨g₅, issued, h₅, hissued, rfl⟩ := Form.Checked.seq_eq_ok_iff.1 h
  obtain ⟨g₄, nonce, h₄, -, rfl⟩ := Form.Checked.seq_eq_ok_iff.1 h₅
  obtain ⟨g₃, signer, h₃, -, rfl⟩ := Form.Checked.seq_eq_ok_iff.1 h₄
  obtain ⟨g₂, params, h₂, hparams, rfl⟩ := Form.Checked.seq_eq_ok_iff.1 h₃
  obtain ⟨g₁, method, h₁, hmethod, rfl⟩ := Form.Checked.seq_eq_ok_iff.1 h₂
  obtain ⟨contract, -, rfl⟩ := Form.Checked.map_eq_ok_iff.1 h₁
  exact ⟨hmethod, hparams, hissued⟩

namespace SignedCall

/-- The call of a signed call is one of the fields of its record. -/
theorem exists_call_of_check {now : Moment} {fs : Fields} {s : SignedCall}
    (h : check now fs = .ok s) :
    ∃ gs, fs.get? "call" = some (.object gs) ∧ LedgerCall.ofFields now gs = .ok s.call := by
  have hfields : ofFields now fs = .ok s := Form.finish_eq_ok_iff.1 h
  obtain ⟨g, signature, hcall, -, rfl⟩ := Form.Checked.seq_eq_ok_iff.1 hfields
  obtain ⟨c, hc, rfl⟩ := Form.Checked.map_eq_ok_iff.1 hcall
  obtain ⟨v, hv, hrecord⟩ := Form.field_eq_ok_iff.1 hc
  cases v with
  | object gs => exact ⟨gs, hv, hrecord⟩
  | _ => cases hrecord

/-- **A call that is accepted as a record is well-formed**, if it was issued at a point in time
where the record does not say when. -/
theorem wellFormed_of_check {now : Moment} {fs : Fields} {s : SignedCall} (hnow : now.Valid)
    (h : check now fs = .ok s) : s.WellFormed := by
  obtain ⟨gs, -, hcall⟩ := exists_call_of_check h
  obtain ⟨hmethod, -, hissued⟩ := LedgerCall.fields_of_ofFields hcall
  constructor
  · obtain ⟨v, -, hname⟩ := Form.field_eq_ok_iff.1 hmethod
    obtain ⟨t, -, ht⟩ := Form.Checked.andThen_eq_ok_iff.1 hname
    split at ht
    · next hsome =>
      obtain rfl := Except.ok.inj ht
      exact hsome
    · cases ht
  · rcases Form.fieldOr_eq_ok_iff.1 hissued with ⟨v, -, hv⟩ | ⟨-, habsent⟩
    · exact Moment.valid_of_ofValue hv
    · exact habsent ▸ hnow

/-! ## The plain form -/

/-- Texts are their own plain forms. -/
theorem plainFields_texts (ps : List (String × String)) :
    Value.plainFields (ps.map fun p => (p.1, .text p.2)) =
      .ok (ps.map fun p => (p.1, .text p.2)) := by
  induction ps with
  | nil => rfl
  | cons p ps ih =>
    simp only [List.map_cons, Value.plainFields, Value.plain, ih]
    rfl

theorem haveComeBack_texts (ps : List (String × String)) :
    Value.haveComeBack (ps.map fun p => (p.1, .text p.2)) = true := by
  induction ps with
  | nil => rfl
  | cons p ps ih => simp [Value.haveComeBack, Value.comesBack, ih]

variable {s : SignedCall}

theorem plain_of_texts (texts : s.call.HasTextParams) : s.plain = .ok (.object s.toFields) := by
  obtain ⟨ps, -, hparams⟩ := texts
  simp only [plain, LedgerCall.plain, hparams, plainFields_texts, toFields]
  rfl

theorem comesBack_toFields (texts : s.call.HasTextParams) :
    (Value.object s.toFields).comesBack = true := by
  obtain ⟨ps, hdistinct, hparams⟩ := texts
  have hnames : (ps.map fun p => ((p.1, Value.text p.2) : String × Value).1).Nodup := hdistinct
  simp [toFields, Value.comesBack, Value.haveComeBack, hparams, haveComeBack_texts,
    Function.comp_def, hnames]

/-- **A signed call out of its plain form.** -/
theorem check_toFields (wf : s.WellFormed) (now : Moment) : check now s.toFields = .ok s := by
  obtain ⟨⟨contract, method, params, signer, nonce, issuedAt⟩, signature⟩ := s
  have hmethod : LedgerCall.methodName (.text method) = .ok method := if_pos wf.method
  have hissued : Moment.ofValue (.text issuedAt.text) = .ok issuedAt :=
    Moment.ofValue_text wf.issued
  refine Form.finish_eq_ok_iff.2 (Form.Checked.seq_eq_ok_iff.2 ⟨mk _, signature,
    Form.Checked.map_eq_ok_iff.2 ⟨_, Form.field_eq_ok_iff.2 ⟨_, rfl, ?_⟩, rfl⟩,
    Form.field_eq_ok_iff.2 ⟨_, rfl, rfl⟩, rfl⟩)
  -- The fields of the call one by one, from the last to the first.
  refine Form.Checked.seq_eq_ok_iff.2 ⟨LedgerCall.mk contract method params signer nonce,
    issuedAt, ?_, Form.fieldOr_eq_ok_iff.2 (.inl ⟨_, rfl, hissued⟩), rfl⟩
  refine Form.Checked.seq_eq_ok_iff.2 ⟨LedgerCall.mk contract method params signer, nonce, ?_,
    Form.field_eq_ok_iff.2 ⟨_, rfl, rfl⟩, rfl⟩
  refine Form.Checked.seq_eq_ok_iff.2 ⟨LedgerCall.mk contract method params, signer, ?_,
    Form.field_eq_ok_iff.2 ⟨_, rfl, rfl⟩, rfl⟩
  refine Form.Checked.seq_eq_ok_iff.2 ⟨LedgerCall.mk contract method, params, ?_,
    Form.fieldOr_eq_ok_iff.2 (.inl ⟨_, rfl, rfl⟩), rfl⟩
  refine Form.Checked.seq_eq_ok_iff.2 ⟨LedgerCall.mk contract, method, ?_,
    Form.field_eq_ok_iff.2 ⟨_, rfl, hmethod⟩, rfl⟩
  exact Form.Checked.map_eq_ok_iff.2 ⟨contract, Form.fieldOr_eq_ok_iff.2 (.inl ⟨_, rfl, rfl⟩), rfl⟩

end SignedCall
end Plunder
