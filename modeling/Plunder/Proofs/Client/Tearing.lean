import Plunder.Proofs.Call.Signing
import Plunder.Proofs.Client.Watch

/-!
# Torn snapshots

The two readings of a refresh are answered one by one. If the ledger goes on to the next round in
between, the snapshot may pair a round with participants who were never outstanding in it. Within
one round this cannot happen.

Main statements:
- `application_moments`: a snapshot is that of one moment if its two moments are in the same round
- `torn_crossing`: a round nobody has reported in, with nobody outstanding
-/

namespace Plunder.Watch

/-! ## Definitions -/

/-- Whether a client and its ledger can come to be as they are. -/
def Reached (w : Watch) : Prop :=
  ∃ (settings : Settings) (signer : Option Signer) (desk : Desk) (nonce : Nat) (now : Moment)
    (setup : Ledger.Setup) (es : List Event),
    w = (start (.start settings signer desk nonce now) (.fresh setup)).after es

/-- Whether a snapshot is what the ledger was at one moment of the wait of a refresh. -/
def Whole (w : Watch) (ticket : Nat) (new : RoundSnapshot) : Prop :=
  ∃ k, w.Within ticket k ∧ new = w.pair k k

/-! ## The moments of a snapshot -/

variable {w : Watch}

/-- An answer to the latest refresh is put in place. -/
theorem application?_answer {flow i j : Nat}
    (awaits : w.session.Awaits flow w.session.client.sync.issued)
    (hi : w.Within w.session.client.sync.issued i) (hj : w.Within w.session.client.sync.issued j)
    (nonneg : 0 ≤ (w.moment i).round) :
    w.application? (.answer flow i j) = some (w.session.client.sync.issued, w.pair i j) := by
  have hnews : w.news? (.answer flow i j) =
      some (.resume flow (readings (w.moment i) (w.moment j))) := by
    simp only [news?]
    rw [show w.session.flows[flow]?.bind ticketOf = _ from awaits]
    exact if_pos ⟨hi, hj⟩
  rw [application?, hnews]
  exact Session.application?_eq_some_iff.2 ⟨flow, _, rfl, awaits,
    Client.arrival?_eq_some_iff.2 ⟨rfl, snapshotOf_readings nonneg, rfl⟩⟩

/-- **The moments of a snapshot**: every snapshot that is put in place pairs the round at a moment
of the wait with those who were outstanding at another. If both moments are in the same round, it is
what the ledger was at the second one; so a snapshot is torn only if the round went on in
between. -/
theorem application_moments (reached : w.Reached) {e : Event} {ticket : Nat} {new : RoundSnapshot}
    (applied : w.application? e = some (ticket, new)) :
    ∃ flow i j, e = .answer flow i j ∧ w.Within ticket i ∧ w.Within ticket j ∧
      new = w.pair i j ∧ ((w.moment i).round = (w.moment j).round → w.Whole ticket new) := by
  have h : w.Sound fun _ _ => True := by
    obtain ⟨settings, signer, desk, nonce, now, setup, es, rfl⟩ := reached
    exact (Sound.fresh settings signer desk nonce now setup).after fun e _ => relates_any e
  obtain ⟨flow, i, j, rfl, -, hi, hj, -, hnew⟩ := application?_spec applied
  have hpair := hnew (h.round_nonneg i)
  refine ⟨flow, i, j, rfl, hi, hj, hpair, fun hround => ⟨j, hj, ?_⟩⟩
  rw [hpair, pair, pair, hround]

/-! ## A snapshot that is torn -/

/-- A ledger for one participant, with a block for every transaction; everyone may sign. -/
def lone : Ledger.Setup where
  roster := [⟨"A", "Anne"⟩]
  operators := []
  contractAddress := ""
  blockTime := none
  finalityTimeout := .whole 60
  verifySignatures := false
  render _ := .ok []

/-- A call to the ledger, with a nonce. -/
def loneCall (m : Method) (params : Fields) (nonce : String) : LedgerCall where
  contract := ""
  method := m.text
  params
  signer := "seed:ops"
  nonce
  issuedAt := ⟨2024, 1, 2, 3, 4, 5, 0, some 0⟩

/-- The participant reports. -/
def loneHaul : Ledger.Queued :=
  ⟨"0x" ++ "aa50ea68d6d322ee77ec24c1bef98f39da0dc06e8e75e2595ab83c9a93103d8f",
    loneCall .recordHaul [("amount", .text "3"), ("participant", .text "A")] "n1", ""⟩

/-- The next round begins. -/
def loneAdvance : Ledger.Queued :=
  ⟨"0x" ++ "ea85de5fdc0046a7c93f5481b65fcdc654052afa7f12014ca9171de715eed45a",
    loneCall .advanceRound [] "n2", ""⟩

private theorem hash_loneHaul : loneHaul.signed.txHash = .ok loneHaul.txHash :=
  txHash_of_ordered rfl
    (by simp [Value.sortFields, Value.sortEach, List.mergeSort]; rfl) (by decide +kernel)

private theorem hash_loneAdvance : loneAdvance.signed.txHash = .ok loneAdvance.txHash :=
  txHash_of_ordered rfl
    (by simp [Value.sortFields, Value.sortEach]; rfl) (by decide +kernel)

/-- The ledger once the participant has reported. -/
def loneReported : Ledger :=
  ((Ledger.fresh lone).enqueue loneHaul.txHash loneHaul.signed).produceBlock.ledger

/-- The ledger in the next round. -/
def loneAdvanced : Ledger :=
  (loneReported.enqueue loneAdvance.txHash loneAdvance.signed).produceBlock.ledger

private theorem step_loneHaul :
    (Ledger.fresh lone).step (.submit loneHaul.signed) = loneReported :=
  Ledger.submit_of_immediate
    (Ledger.accept_eq_ok_iff.2 ⟨rfl, nofun, hash_loneHaul, by simp [Ledger.fresh]⟩) rfl

private theorem step_loneAdvance :
    loneReported.step (.submit loneAdvance.signed) = loneAdvanced := by
  have hknown : loneReported.known = [loneHaul.txHash] := by rfl
  have hnew : loneAdvance.txHash ∉ loneReported.known := by
    simp [hknown, loneHaul, loneAdvance]
  exact Ledger.submit_of_immediate
    (Ledger.accept_eq_ok_iff.2 ⟨rfl, nofun, hash_loneAdvance, hnew⟩) rfl

/-- The participant reports; a refresh begins; and the next round begins while it waits. -/
def crossing : Watch :=
  (start (.start .builtIn none (.empty false) 0 ⟨2024, 1, 2, 3, 4, 5, 0, some 0⟩)
    (.fresh lone)).after
      [.ledger (.submit loneHaul.signed), .client (.begin .refresh),
        .ledger (.submit loneAdvance.signed)]

private theorem reached_crossing : crossing.Reached := ⟨_, _, _, _, _, _, _, rfl⟩

private theorem moment_crossing :
    crossing.moment 1 = loneReported ∧ crossing.moment 2 = loneAdvanced := by
  constructor
  · exact step_loneHaul
  · show ((Ledger.fresh lone).step (.submit loneHaul.signed)).step
      (.submit loneAdvance.signed) = loneAdvanced
    rw [step_loneHaul, step_loneAdvance]

/-- The round is read after the next one has begun, and who is outstanding before that. -/
private theorem application?_crossing :
    crossing.application? (.answer 0 2 1) = some (1, ⟨1, []⟩) := by
  obtain ⟨h₁, h₂⟩ := moment_crossing
  have hround : loneAdvanced.round = 1 := by decide
  have hnobody : loneReported.outstanding = [] := by decide
  have hpair : crossing.pair 2 1 = ⟨1, []⟩ := by
    rw [pair, h₁, h₂, hround, hnobody]
    rfl
  have hawaits : crossing.session.Awaits 0 crossing.session.client.sync.issued := rfl
  have happ := application?_answer (i := 2) (j := 1) hawaits (by decide) (by decide)
    (by rw [h₂, hround]; decide)
  rwa [hpair] at happ

/-- Two moments of a wait in different rounds, and the snapshot that is made of them. -/
theorem application_moments_crossing : crossing.Reached ∧
    crossing.application? (.answer 0 2 1) = some (1, ⟨1, []⟩) ∧
      ∃ flow i j, Event.answer 0 2 1 = .answer flow i j ∧ crossing.Within 1 i ∧
        crossing.Within 1 j ∧ ⟨1, []⟩ = crossing.pair i j ∧
          ((crossing.moment i).round = (crossing.moment j).round → crossing.Whole 1 ⟨1, []⟩) :=
  ⟨reached_crossing, application?_crossing,
    application_moments reached_crossing application?_crossing⟩

/-- **A snapshot that is torn**: the ledger was never in the second round with nobody outstanding,
but this is what the client takes it for. -/
theorem torn_crossing : crossing.Reached ∧
    crossing.application? (.answer 0 2 1) = some (1, ⟨1, []⟩) ∧ ¬ crossing.Whole 1 ⟨1, []⟩ := by
  refine ⟨reached_crossing, application?_crossing, ?_⟩
  rintro ⟨k, ⟨hbegun, hnow⟩, hpair⟩
  obtain ⟨h₁, h₂⟩ := moment_crossing
  -- The wait has two moments, one in each round.
  have hk : k = 1 ∨ k = 2 := by
    replace hbegun : 1 ≤ k := hbegun
    replace hnow : k ≤ 2 := hnow
    omega
  rcases hk with rfl | rfl
  · have hround : loneReported.round = 0 := by decide
    rw [pair, h₁, hround] at hpair
    cases hpair
  · have hanne : loneAdvanced.outstanding = [⟨"A", "Anne"⟩] := by decide
    rw [pair, h₂, hanne] at hpair
    cases hpair

end Plunder.Watch
