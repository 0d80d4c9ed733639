import Plunder.Proofs.Ledger.Atomicity
import Plunder.Proofs.Value.Whole

/-!
# What a report is worth

A confirmed haul adds to the total of its participant the whole number that is made of its amount. An
amount that is a whole number, or a text of one, is credited as it was signed. Of a truth value and
of a fraction a whole number is made as well, and that is credited in its place.

Main statements:
- `apply_accounted`: what becomes of a report, whatever its amount
- `coined_duo`: fractions and truth values that are confirmed
-/

namespace Plunder.Ledger

/-! ## Definitions -/

/-- The amount of a call, as it was signed. -/
def amountParam (c : LedgerCall) : Value := param c.params "amount"

/-- Whether a ledger has come out of another by a report with some receipt, in accordance with the
amount of the report. -/
structure Accounted (l : Ledger) (c : LedgerCall) (r : TransactionReceipt) (l' : Ledger) : Prop where
  /-- The report is confirmed exactly when the signer may act, the participant is on the roster and
  has not reported, and a whole number that is not negative is made of the amount. -/
  confirmed_iff : r.status = .confirmed ↔
    (l.setup.operators = [] ∨ c.signer ∈ l.setup.operators) ∧
      ∃ (a : String) (n : Nat), c.participant? = some a ∧ (amountParam c).Yields n ∧
        a ∈ l.setup.addresses ∧ a ∉ l.reported
  /-- Then the total of the participant grows by that number. -/
  credited : r.status = .confirmed → ∀ n : Nat, (amountParam c).Yields n →
    ∃ a, c.participant? = some a ∧ Credited l a n l'
  /-- An amount of which no whole number is made is reverted. -/
  refused : (∀ n, ¬ (amountParam c).Yields n) → r.status = .reverted ∧
    (l.setup.operators = [] ∨ c.signer ∈ l.setup.operators → r.reason = "amount is not an integer")
  /-- So is a negative one. -/
  negative : ∀ n, (amountParam c).Yields n → n < 0 → r.status = .reverted ∧
    (l.setup.operators = [] ∨ c.signer ∈ l.setup.operators → r.reason = "amount is negative")
  /-- A report that is reverted credits nothing. -/
  reverted : r.status = .reverted → Unmoved l l'

/-- Whether a report of an amount that means no whole number is accepted into a ledger and confirmed
there, and leaves its participant with some total. -/
structure Coined (l : Ledger) (amount : Value) (total : Nat) : Prop where
  meaningless : ∀ n, ¬ amount.Means n
  confirmed : ∃ hash, (l.submit (duoHaul "1" "A" amount).signed).outcome =
      .ok ⟨hash, Method.recordHaul.text⟩ ∧
    ∃ r, (l.submit (duoHaul "1" "A" amount).signed).ledger.receipt? hash = some r ∧
      r.confirmed = true
  total_eq : (l.submit (duoHaul "1" "A" amount).signed).ledger.total? "A" = some total

/-! ## Reports -/

variable {l : Ledger} {c : LedgerCall}

theorem amount?_eq_some_iff (json : Value.haveJson c.params = true) {n : Int} :
    c.amount? = some n ↔ (amountParam c).Yields n :=
  Value.toWhole_eq_ok_iff (isJson_param json "amount")

/-- A report by one who may act is reverted when no whole number is made of its amount. -/
theorem judge_of_meaningless (report : c.isReport = true) (act : l.mayAct c.signer = true)
    (none : c.amount? = none) (finite : (amountParam c).isInfinite = false) :
    l.judge c = .ok (.error .amountNotWhole) := by
  rw [judge_of_report report, act, judgeHaul_eq]
  rw [amountParam] at finite
  simp only [amountOf_of_none none finite]
  rfl

/-- A report by one who may act is reverted when its amount is negative. -/
theorem judge_of_negative (report : c.isReport = true) (act : l.mayAct c.signer = true) {n : Int}
    (amount : c.amount? = some n) (negative : n < 0) :
    l.judge c = .ok (.error .amountNegative) := by
  rw [judge_of_report report, act, judgeHaul_eq]
  simp only [amountOf_eq_ok_iff.2 amount, negative, if_true]
  rfl

/-- A report on which the rules have a verdict is settled in accordance with its amount. -/
theorem accounted_settle (rostered : Rostered l) {d : Applied}
    (judged : l.judge d.call = .ok d.verdict) (dated : d.block = l.block)
    (report : d.call.method = "recordHaul") (json : Value.haveJson d.call.params = true) :
    Accounted l d.call d.receipt (l.settle d) := by
  have ruled := ruled_settle rostered judged dated
  have hreport : d.call.isReport = true := by
    rw [LedgerCall.isReport, report]
    rfl
  -- Whoever may act is told of the rule; whoever may not is told of that.
  have hrefused : ∀ r : Revert,
      (l.mayAct d.call.signer = true → l.judge d.call = .ok (.error r)) →
        d.receipt.status = .reverted ∧ (l.setup.operators = [] ∨
          d.call.signer ∈ l.setup.operators → d.receipt.reason = r.reason) := by
    intro r hr
    by_cases hact : l.mayAct d.call.signer = true
    · have hverdict : d.verdict = .error r := Except.ok.inj (judged.symm.trans (hr hact))
      rw [Applied.receipt, hverdict]
      exact ⟨rfl, fun _ => rfl⟩
    · have hverdict : d.verdict = .error .notAnOperator := by
        rw [judge_of_report hreport, eq_false_of_ne_true hact] at judged
        exact (Except.ok.inj judged).symm
      rw [Applied.receipt, hverdict]
      exact ⟨rfl, fun h => absurd (mayAct_iff.2 h) hact⟩
  constructor
  case confirmed_iff =>
    rw [ruled.confirmed_iff]
    show l.Allows d.call ↔ _
    constructor
    · rintro ⟨hact, ⟨-, a, n, hp, hn, h0, ha, hnew⟩ | ⟨hmethod, -⟩⟩
      · obtain ⟨k, rfl⟩ := Int.eq_ofNat_of_zero_le h0
        exact ⟨hact, a, k, hp, (amount?_eq_some_iff json).1 hn, ha, hnew⟩
      · exact absurd (report.symm.trans hmethod) (by decide)
    · rintro ⟨hact, a, n, hp, hn, ha, hnew⟩
      exact ⟨hact, .inl ⟨report, a, n, hp, (amount?_eq_some_iff json).2 hn, Int.natCast_nonneg n,
        ha, hnew⟩⟩
  case credited =>
    intro confirmed n hn
    obtain ⟨a, k, hp, hk, hcredited⟩ := ruled.haul confirmed report
    -- One amount yields one number.
    have heq : some (k : Int) = some (n : Int) := hk.symm.trans ((amount?_eq_some_iff json).2 hn)
    obtain rfl : k = n := Int.ofNat_inj.1 (Option.some.inj heq)
    exact ⟨a, hp, hcredited⟩
  case refused =>
    intro hnone
    have hamount : d.call.amount? = none := by
      cases h : d.call.amount? with
      | none => rfl
      | some n => exact absurd ((amount?_eq_some_iff json).1 h) (hnone n)
    apply hrefused .amountNotWhole
    intro hact
    -- An infinite amount would have ended the block.
    have hfinite : (amountParam d.call).isInfinite = false := by
      by_contra hinfinite
      obtain ⟨f, hf⟩ := judge_eq_fault_iff.2 ⟨hreport, hact, .inl (eq_true_of_ne_false hinfinite)⟩
      rw [judged] at hf
      cases hf
    exact judge_of_meaningless hreport hact hamount hfinite
  case negative =>
    intro n hn hnegative
    apply hrefused .amountNegative
    intro hact
    exact judge_of_negative hreport hact ((amount?_eq_some_iff json).2 hn) hnegative
  case reverted =>
    intro h
    exact (ruled.reverted (by rw [h]; decide)).2.2

/-- **What becomes of a report, whatever its amount.** With parameters of JSON a report is applied,
unless its amount is infinite or its participant cannot be looked up. It is credited with the whole
number that is made of its amount, or else it is reverted and credits nothing. -/
theorem apply_accounted (rostered : Rostered l) {tx : Queued}
    (report : tx.signed.call.method = "recordHaul")
    (json : Value.haveJson tx.signed.call.params = true) :
    (l.Disrupts tx.signed.call ∧ ∃ f, l.apply tx = .error f) ∨
      ∃ l' notes r, l.apply tx = .ok (l', notes) ∧ Ruled l tx r l' ∧
        Accounted l tx.signed.call r l' := by
  rcases apply_cases l tx with hfault | ⟨d, notes, rfl, dated, judged, happly⟩
  · exact .inl hfault
  · right
    have hruled := ruled_settle rostered judged dated
    have haccounted := accounted_settle rostered judged dated report json
    exact ⟨l.settle d, notes, d.receipt, happly, hruled, haccounted⟩

/-! ## Amounts that mean no whole number -/

/-- One and a half. -/
def oneAndHalf : Binary64 := ⟨0x3FF8000000000000⟩

/-- Half of one, less than nothing. -/
def minusHalf : Binary64 := ⟨0xBFE0000000000000⟩

/-- A report of one and a half in a new ledger. -/
theorem apply_accounted_oneAndHalf :
    ((fresh duo).Disrupts (duoHaul "1" "A" (.float oneAndHalf)).signed.call ∧
        ∃ f, (fresh duo).apply (duoHaul "1" "A" (.float oneAndHalf)) = .error f) ∨
      ∃ l' notes r, (fresh duo).apply (duoHaul "1" "A" (.float oneAndHalf)) = .ok (l', notes) ∧
        Ruled (fresh duo) (duoHaul "1" "A" (.float oneAndHalf)) r l' ∧
          Accounted (fresh duo) (duoHaul "1" "A" (.float oneAndHalf)).signed.call r l' :=
  apply_accounted (rostered_fresh (by decide)) (by decide) (by decide)

/-- An amount of which a whole number is made, and not a negative one, is credited with it. -/
theorem coined_of_whole {amount : Value} {n : Nat} (readable : amount.Readable)
    (whole : amount.toWhole.toOption = some (n : Int)) (meaningless : ∀ k, ¬ amount.Means k) :
    Coined (fresh duo) amount n := by
  have hreadable : (Value.object (duoHaul "1" "A" amount).signed.call.params).Readable :=
    Value.readable_object (by simp [duoHaul, readable])
  -- The call can be hashed, and the ledger is new, so that it is accepted and applied at once.
  obtain ⟨hash, hhash⟩ := SignedCall.exists_txHash hreadable
  have hfits : ((fresh duo).run []).accept (duoHaul "1" "A" amount).signed = .ok hash :=
    accept_eq_ok_iff.2 ⟨rfl, (fun checks => nomatch checks), hhash, List.not_mem_nil⟩
  have hdoes : ((fresh duo).run []).judge (duoHaul "1" "A" amount).signed.call =
      .ok (.ok (.credit "A" n)) :=
    judge_eq_credit_iff.2 ⟨rfl, rfl, whole, rfl, List.not_mem_nil⟩
  obtain ⟨henacts, houtcome⟩ := enacts_submit (s := duo) rfl [] hfits hdoes
  obtain ⟨r, hr, -, hconfirmed⟩ := henacts.receipt
  refine ⟨meaningless, ⟨hash, houtcome, r, hr, hconfirmed⟩, ?_⟩
  have htotal := henacts.total?_eq "A"
  rw [total?_effect_credit] at htotal
  exact htotal.trans (congrArg some (Nat.zero_add n))

/-- Reports of one and a half, of half of one less than nothing, and of a truth value are confirmed:
the first adds one to the total, the second nothing, and the third one. -/
theorem coined_duo : found duo = .ok (fresh duo) ∧
    oneAndHalf.value? = some (3 / 2) ∧ Coined (fresh duo) (.float oneAndHalf) 1 ∧
      minusHalf.value? = some (-1 / 2) ∧ Coined (fresh duo) (.float minusHalf) 0 ∧
        Coined (fresh duo) (.bool true) 1 := by
  have hone : oneAndHalf.form = .finite false 6755399441055744 (-52) := by decide
  have hminus : minusHalf.form = .finite true 4503599627370496 (-53) := by decide
  refine ⟨found_eq_ok_iff.2 ⟨by decide, rfl⟩, ?_, ?_, ?_, ?_, ?_⟩
  · rw [Binary64.value?, hone]
    norm_num
  · exact coined_of_whole ⟨rfl, rfl⟩ (by decide) nofun
  · rw [Binary64.value?, hminus]
    norm_num
  · exact coined_of_whole ⟨rfl, rfl⟩ (by decide) nofun
  · exact coined_of_whole ⟨rfl, rfl⟩ (by decide) nofun

end Plunder.Ledger
