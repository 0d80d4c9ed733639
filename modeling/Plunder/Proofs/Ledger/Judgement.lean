import Plunder.Ledger.Rules
import Plunder.Proofs.Value.Json

/-!
# What a call does

The rules of the ledger, read as conditions on a call and on the state it meets. A call is credited,
advances the round, is reverted, or ends its block with a fault; each of these happens under one
condition, and the last one does not depend on the state of the round at all.

Main statements:
- `judge_eq_credit_iff`: when a haul is credited, to whom and with how much
- `judge_eq_advance_iff`: when the next round begins
- `judge_eq_fault_iff`: when a call ends its block with a fault
-/

namespace Plunder

/-! ## The parts of a call that the rules look at -/

namespace LedgerCall

/-- The whole number that the amount of a report stands for, if it stands for one. -/
def amount? (c : LedgerCall) : Option Int := (Ledger.param c.params "amount").toWhole.toOption

/-- The address that a report is for, if the parameter is a text. -/
def participant? (c : LedgerCall) : Option String := (Ledger.param c.params "participant").text?

/-- Whether the call is a report of a haul. -/
def isReport (c : LedgerCall) : Bool := c.method == Method.recordHaul.text

/-- Whether the call asks for the next round. -/
def isAdvance (c : LedgerCall) : Bool := c.method == Method.advanceRound.text

/-- Whether the call reports a haul of an address. -/
def isReportOf (a : String) (c : LedgerCall) : Bool := c.isReport && c.participant? == some a

end LedgerCall

namespace Ledger

/-- Whether a call ends its block with a fault: a report, by a signer who may act, of an infinite
amount, or of an amount in order for a participant that cannot be looked up. -/
def Disrupts (l : Ledger) (c : LedgerCall) : Prop :=
  c.isReport = true ∧ l.mayAct c.signer = true ∧
    ((param c.params "amount").isInfinite = true ∨
      (∃ n, c.amount? = some n ∧ 0 ≤ n) ∧ (param c.params "participant").isKey = false)

/-- A parameter of a call with parameters of JSON is of JSON, be it there or not. -/
theorem isJson_param {ps : Fields} (json : Value.haveJson ps = true) (name : String) :
    (param ps name).isJson = true := by
  rw [param]
  cases h : ps.get? name with
  | none => rfl
  | some v => exact Value.isJson_of_get? json h

/-- With parameters of JSON, the participants that cannot be looked up are the lists and objects. -/
theorem disrupts_iff_of_json {l : Ledger} {c : LedgerCall}
    (json : Value.haveJson c.params = true) :
    l.Disrupts c ↔ c.isReport = true ∧ l.mayAct c.signer = true ∧
      ((param c.params "amount").isInfinite = true ∨
        (∃ n, c.amount? = some n ∧ 0 ≤ n) ∧
          (param c.params "participant").isCollection = true) := by
  rw [Disrupts, Value.isKey_eq_false_iff (isJson_param json "participant")]

/-! ## Amounts and participants -/

theorem amountOf_eq_ok_iff {v : Value} {n : Int} :
    amountOf v = .ok (.ok n) ↔ v.toWhole.toOption = some n := by
  unfold amountOf
  cases h : v.toWhole with
  | ok m => simp [Except.toOption]
  | error f =>
    simp only [Except.toOption]
    split <;> simp

/-- An amount is refused when no whole number is made of it, unless it is too large to be judged. -/
theorem amountOf_of_none {v : Value} (none : v.toWhole.toOption = none)
    (finite : v.isInfinite = false) : amountOf v = .ok (.error .amountNotWhole) := by
  cases h : v.toWhole with
  | ok n =>
    rw [h] at none
    cases none
  | error f =>
    have hkind : f.kind ≠ .overflow := fun hkind => by
      rw [Value.toWhole_overflow_iff.1 ⟨f, h, hkind⟩] at finite
      cases finite
    simp only [amountOf, h]

theorem amountOf_eq_fault_iff {v : Value} :
    (∃ f, amountOf v = .error f) ↔ v.isInfinite = true := by
  rw [← Value.toWhole_overflow_iff]
  unfold amountOf
  cases h : v.toWhole with
  | ok m => simp
  | error f =>
    simp only [Except.error.injEq]
    split
    · next hk => exact ⟨fun _ => ⟨f, rfl, hk⟩, fun _ => ⟨f, rfl⟩⟩
    · next hk => exact ⟨fun ⟨_, h⟩ => (nomatch h), fun ⟨_, h, hf⟩ => (hk (h ▸ hf)).elim⟩

theorem participantOf_eq_ok_iff {l : Ledger} {v : Value} {a : String} :
    l.participantOf v = .ok (.ok a) ↔ v = .text a ∧ (l.total? a).isSome = true := by
  unfold participantOf
  cases v with
  | text b =>
    simp only [Value.isKey, Bool.not_true, Bool.false_eq_true, if_false, Except.ok.injEq,
      Value.text.injEq]
    by_cases hb : (l.total? b).isSome = true
    · simp only [hb, if_true, Except.ok.injEq]
      exact ⟨fun h => ⟨h, h ▸ hb⟩, And.left⟩
    · simp only [hb, Bool.false_eq_true, if_false, reduceCtorEq, false_iff, not_and]
      exact fun h => h ▸ hb
  | _ => split <;> simp

theorem participantOf_eq_fault_iff {l : Ledger} {v : Value} :
    (∃ f, l.participantOf v = .error f) ↔ v.isKey = false := by
  unfold participantOf
  cases hv : v.isKey with
  | false => simp
  | true => cases v <;> simp

/-- The rules on a report, one after the other: the amount, its sign, the participant, the round. -/
theorem judgeHaul_eq (l : Ledger) (ps : Fields) :
    l.judgeHaul ps =
      match amountOf (param ps "amount") with
      | .error f => .error f
      | .ok (.error r) => .ok (.error r)
      | .ok (.ok n) =>
        if n < 0 then .ok (.error .amountNegative)
        else
          match l.participantOf (param ps "participant") with
          | .error f => .error f
          | .ok (.error r) => .ok (.error r)
          | .ok (.ok a) =>
            if a ∈ l.reported then .ok (.error .alreadyReported)
            else .ok (.ok (.credit a n.toNat)) := by
  unfold judgeHaul
  cases amountOf (param ps "amount") with
  | error f => rfl
  | ok m =>
    cases m with
    | error r => rfl
    | ok n =>
      cases l.participantOf (param ps "participant") with
      | error f => rfl
      | ok p =>
        cases p with
        | error r => rfl
        | ok a => simp [bind, Except.bind, pure, Except.pure]

/-- A report is credited when its participant is on the roster and has not reported in this round,
and its amount is a whole number that is not negative. -/
theorem judgeHaul_eq_credit_iff {l : Ledger} {ps : Fields} {a : String} {n : Nat} :
    l.judgeHaul ps = .ok (.ok (.credit a n)) ↔
      param ps "participant" = .text a ∧ (param ps "amount").toWhole.toOption = some (n : Int) ∧
        (l.total? a).isSome = true ∧ a ∉ l.reported := by
  rw [← amountOf_eq_ok_iff, and_left_comm, ← and_assoc (a := param ps "participant" = _),
    ← participantOf_eq_ok_iff, judgeHaul_eq]
  -- The cases follow the rules: the amount, the participant, the sign, the round.
  rcases amountOf (param ps "amount") with f | r | k
  · simp
  · simp
  · rcases l.participantOf (param ps "participant") with f | r | b
    · by_cases hk : k < 0 <;> simp [hk]
    · by_cases hk : k < 0 <;> simp [hk]
    · by_cases hk : k < 0
      · simp only [hk, if_true, Except.ok.injEq, reduceCtorEq, false_iff, not_and]
        omega
      · by_cases hb : b ∈ l.reported
        · simp only [hk, hb, if_false, if_true, Except.ok.injEq, reduceCtorEq, false_iff, not_and]
          rintro - rfl
          exact absurd hb
        · simp only [hk, hb, if_false, Except.ok.injEq, Effect.credit.injEq]
          constructor
          · rintro ⟨rfl, rfl⟩
            exact ⟨(Int.toNat_of_nonneg (by omega)).symm, rfl, hb⟩
          · rintro ⟨rfl, rfl, -⟩
            exact ⟨rfl, Int.toNat_natCast n⟩

theorem judgeHaul_ne_advance {l : Ledger} {ps : Fields} :
    l.judgeHaul ps ≠ .ok (.ok .advance) := by
  rw [judgeHaul_eq]
  rcases amountOf (param ps "amount") with f | r | k
  · simp
  · simp
  · by_cases hk : k < 0
    · simp [hk]
    · rcases l.participantOf (param ps "participant") with f | r | b
      · simp [hk]
      · simp [hk]
      · by_cases hb : b ∈ l.reported <;> simp [hk, hb]

/-- A report ends its block with a fault when its amount is infinite, or its amount is in order and
its participant cannot be looked up. -/
theorem judgeHaul_eq_fault_iff {l : Ledger} {ps : Fields} :
    (∃ f, l.judgeHaul ps = .error f) ↔
      (param ps "amount").isInfinite = true ∨
        (∃ n, (param ps "amount").toWhole.toOption = some n ∧ 0 ≤ n) ∧
          (param ps "participant").isKey = false := by
  rw [← amountOf_eq_fault_iff, ← participantOf_eq_fault_iff (l := l), judgeHaul_eq]
  simp only [← amountOf_eq_ok_iff]
  rcases amountOf (param ps "amount") with f | r | k
  · simp
  · simp
  · by_cases hk : k < 0
    · -- A negative amount is refused before anyone looks at the participant.
      have h0 : ¬ 0 ≤ k := by omega
      simp [hk, h0]
    · have h0 : 0 ≤ k := by omega
      rcases l.participantOf (param ps "participant") with f | r | b
      · simp [hk, h0]
      · simp [hk]
      · by_cases hb : b ∈ l.reported <;> simp [hk, hb]

/-! ## Calls -/

private theorem ofText?_recordHaul : Method.ofText? Method.recordHaul.text = some .recordHaul := rfl

private theorem ofText?_advanceRound :
    Method.ofText? Method.advanceRound.text = some .advanceRound := rfl

theorem text_of_ofText? {s : String} {m : Method} (h : Method.ofText? s = some m) :
    m.text = s := by
  simpa using List.find?_some h

theorem ofText?_eq_recordHaul_iff {c : LedgerCall} :
    Method.ofText? c.method = some .recordHaul ↔ c.isReport = true := by
  rw [LedgerCall.isReport, beq_iff_eq]
  exact ⟨fun h => (text_of_ofText? h).symm, fun h => h ▸ ofText?_recordHaul⟩

theorem ofText?_eq_advanceRound_iff {c : LedgerCall} :
    Method.ofText? c.method = some .advanceRound ↔ c.isAdvance = true := by
  rw [LedgerCall.isAdvance, beq_iff_eq]
  exact ⟨fun h => (text_of_ofText? h).symm, fun h => h ▸ ofText?_advanceRound⟩

/-- Of a report the signer is judged first. -/
theorem judge_of_report {l : Ledger} {c : LedgerCall} (h : c.isReport = true) :
    l.judge c = if !l.mayAct c.signer then .ok (.error .notAnOperator) else l.judgeHaul c.params := by
  rw [judge, ofText?_eq_recordHaul_iff.2 h]

/-- **When a haul is credited**: the signer may act, the call is a report of an address on the
roster that has not reported in this round, and its amount is a whole number, not negative. -/
theorem judge_eq_credit_iff {l : Ledger} {c : LedgerCall} {a : String} {n : Nat} :
    l.judge c = .ok (.ok (.credit a n)) ↔
      l.mayAct c.signer = true ∧ c.isReportOf a = true ∧ c.amount? = some (n : Int) ∧
        (l.total? a).isSome = true ∧ a ∉ l.reported := by
  have hp : c.participant? = some a ↔ param c.params "participant" = .text a := by
    unfold LedgerCall.participant?
    cases param c.params "participant" <;> simp [Value.text?]
  rw [LedgerCall.isReportOf, Bool.and_eq_true, beq_iff_eq, hp, ← ofText?_eq_recordHaul_iff,
    LedgerCall.amount?]
  unfold judge
  cases hm : Method.ofText? c.method with
  | none => simp
  | some m =>
    cases ha : l.mayAct c.signer with
    | false => simp
    | true =>
      cases m with
      | recordHaul =>
        simp only [Bool.not_true, Bool.false_eq_true, if_false, judgeHaul_eq_credit_iff, true_and]
      | advanceRound => by_cases ho : l.outstanding.isEmpty = true <;> simp [ho]

/-- **When the next round begins**: the signer may act, the call asks for it, and everyone on the
roster has reported. -/
theorem judge_eq_advance_iff {l : Ledger} {c : LedgerCall} :
    l.judge c = .ok (.ok .advance) ↔
      l.mayAct c.signer = true ∧ c.isAdvance = true ∧ l.outstanding = [] := by
  rw [← ofText?_eq_advanceRound_iff]
  unfold judge
  cases hm : Method.ofText? c.method with
  | none => simp
  | some m =>
    cases ha : l.mayAct c.signer with
    | false => simp
    | true =>
      cases m with
      | recordHaul => simp [judgeHaul_ne_advance]
      | advanceRound => by_cases ho : l.outstanding = [] <;> simp [ho]

/-- **When a call ends its block with a fault**: exactly when it disrupts the ledger. -/
theorem judge_eq_fault_iff {l : Ledger} {c : LedgerCall} :
    (∃ f, l.judge c = .error f) ↔ l.Disrupts c := by
  rw [Disrupts, ← ofText?_eq_recordHaul_iff, LedgerCall.amount?]
  unfold judge
  cases hm : Method.ofText? c.method with
  | none => simp
  | some m =>
    cases ha : l.mayAct c.signer with
    | false => simp
    | true =>
      cases m with
      | recordHaul =>
        simp only [Bool.not_true, Bool.false_eq_true, if_false, judgeHaul_eq_fault_iff, true_and]
      | advanceRound => simp

end Ledger
end Plunder
