import Plunder.Proofs.Rehearsal.Sound

/-!
# What happens beside a task

Where a task does not have its turn, hears no news and is not called off, what happens leaves it as
it is, or wakes it: its time comes, or the transaction that it waits for becomes final.

Main statements:
- `beside_act`: whatever does not concern a task happens beside it
-/

namespace Plunder.Rehearsal

open Crew (isTurn Spares Rouses)

/-! ## Definitions -/

/-- Whether something due is for a task: its turn, or news that it is told. -/
def isFor (t : Nat) : Due → Bool
  | .turn u => u == t
  | .news u _ => u == t

/-- What concerns a task: it goes on with its turn, takes its turn, or hears news. -/
inductive Concerns (r : Rehearsal) (t : Nat) : Act → Prop where
  | turn (fs : List Frame) (o : Outcome) (running : r.running = some (t, fs, o)) :
      Concerns r t .tick
  | take (queue : List Due) (idle : r.running = none) (first : r.crew.queue = .turn t :: queue) :
      Concerns r t .tick
  | news (child : Nat) (queue : List Due) (idle : r.running = none)
      (first : r.crew.queue = .news t child :: queue) : Concerns r t .tick

/-- Whether an act calls a task off. -/
def callsOff (r : Rehearsal) (t : Nat) : Act → Prop
  | .tick => ∃ u f fs o, r.running = some (u, f :: fs, o) ∧ f.probe? = some t
  | _ => False

/-- How a task that nobody disturbs finds itself after something has happened. -/
structure Beside (t : Nat) (r r' : Rehearsal) : Prop where
  running : ∀ fs o, r'.running = some (t, fs, o) ↔ r.running = some (t, fs, o)
  /-- What was due and is so no more is nothing for the task. -/
  queue : ∃ done rest, r.crew.queue = done ++ rest ∧ rest <+: r'.crew.queue ∧
    ∀ d ∈ done, isFor t d = false
  receipts : r.ledger.receipts <+: r'.ledger.receipts
  about : (r'.crew.about t = r.crew.about t ∧
      (∀ x, r.crew.entries t = [(t, .final x)] → r.ledger.receipt? x = none →
        r'.ledger.receipt? x = none) ∧
      ∀ d, r.crew.due? t = some d → r.crew.now < d → r'.crew.now < d) ∨
    (r'.crew.about t =
        ((r.crew.tasks[t]?).map (Crew.Task.due (.ok .nothing)), [], r.crew.turns t + 1) ∧
      ((∃ d, r.crew.due? t = some d) ∨
        ∃ x, r.crew.entries t = [(t, .final x)] ∧ (r'.ledger.receipt? x).isSome = true))

variable {w t u : Nat} {ks : List Nat} {r r' : Rehearsal}

theorem Concerns.eq {a : Act} (h : r.Concerns t a) (h' : r.Concerns u a) : t = u := by
  cases h <;> cases h' <;> simp_all

/-- Nobody but `w` calls off what only `w` has to do with. -/
theorem Sound.not_callsOff (h : Sound w ks r) (ht : t ∈ ks) {a : Act}
    (other : ∀ fs o, a = .tick → r.running ≠ some (w, fs, o)) : ¬r.callsOff t a := by
  cases a with
  | tick =>
    rintro ⟨u, f, fs, o, hr, hf⟩
    have hu : u ≠ w := fun he => other (f :: fs) o rfl (he ▸ hr)
    exact (((h.running u _ o hr).2 f List.mem_cons_self).2 t hf).2 hu ht
  | _ => exact id

namespace Beside

/-- What spares a task happens beside it. -/
theorem of_spares {done rest : List Due} (taken : r.crew.queue = done ++ rest)
    (others : ∀ d ∈ done, isFor t d = false)
    (spares : Spares t { r.crew with queue := rest } r'.crew) (ledger : r'.ledger = r.ledger)
    (running : ∀ fs o, r'.running = some (t, fs, o) ↔ r.running = some (t, fs, o)) :
    Beside t r r' where
  running := running
  queue := ⟨done, rest, taken, spares.queue, others⟩
  receipts := ledger ▸ List.prefix_rfl
  about := by
    have habout : Crew.about { r.crew with queue := rest } t = r.crew.about t := by
      have hturns : done.countP (isTurn t) = 0 := List.countP_eq_zero.2 fun d hd => by
        have := others d hd
        cases d <;> simp_all [isFor, isTurn]
      simp [Crew.about, Crew.turns, taken, hturns, Crew.entries]
    refine .inl ⟨spares.about_eq.trans habout, fun x _ hx => ledger ▸ hx, fun d _ hd => ?_⟩
    rw [spares.now_eq]
    exact hd

/-- So does what spares it without taking anything from the queue. -/
theorem of_spared (spares : Spares t r.crew r'.crew) (ledger : r'.ledger = r.ledger)
    (running : ∀ fs o, r'.running = some (t, fs, o) ↔ r.running = some (t, fs, o)) :
    Beside t r r' :=
  of_spares (List.nil_append _).symm (by simp) spares ledger running

/-- Transactions become final beside a task, or wake it. -/
theorem of_finals {finals : List String}
    (entries : r.crew.entries t = [] ∨ ∃ x, r.crew.entries t = [(t, .final x)])
    (crew : r'.crew = finals.foldl (fun c x => c.raise (.final x)) r.crew)
    (finals_iff : ∀ x, (r'.ledger.receipt? x).isSome = true ↔
      (r.ledger.receipt? x).isSome = true ∨ x ∈ finals)
    (receipts : r.ledger.receipts <+: r'.ledger.receipts)
    (running : ∀ fs o, r'.running = some (t, fs, o) ↔ r.running = some (t, fs, o)) :
    Beside t r r' := by
  -- The task waits for one transaction at most, which becomes final now or does not.
  by_cases hx : ∃ x ∈ finals, r.crew.entries t = [(t, .final x)]
  · obtain ⟨x, hmem, hentries⟩ := hx
    have hr : Rouses t r.crew r'.crew := crew ▸ Crew.rouses_announce hentries hmem
    exact ⟨running, ⟨[], _, rfl, hr.queue, by simp⟩, receipts,
      .inr ⟨hr.about_eq, .inr ⟨x, hentries, (finals_iff x).2 (.inr hmem)⟩⟩⟩
  · have hs : Spares t r.crew r'.crew := by
      rw [crew]
      refine Crew.spares_announce fun e he x hmem hex => hx ⟨x, hmem, ?_⟩
      rcases entries with hnone | ⟨y, hy⟩
      · rw [hnone] at he
        cases he
      · rw [hy, List.mem_singleton] at he
        subst he
        simp only [Signal.final.injEq] at hex
        rw [hy, hex]
    refine ⟨running, ⟨[], _, rfl, hs.queue, by simp⟩, receipts,
      .inl ⟨hs.about_eq, fun x hentries hnone => ?_, fun d _ hd => ?_⟩⟩
    · have hsome : (r'.ledger.receipt? x).isSome ≠ true := by
        rw [Ne, finals_iff, hnone]
        simp only [Option.isSome_none, Bool.false_eq_true, false_or]
        exact fun hmem => hx ⟨x, hmem, hentries⟩
      simpa using hsome
    · rw [hs.now_eq]
      exact hd

end Beside

theorem Beside.outcome?_isSome (hb : Beside t r r') (h : (r'.crew.outcome? t).isSome = true) :
    (r.crew.outcome? t).isSome = true := by
  rcases hb.about with ⟨habout, -⟩ | ⟨habout, -⟩
  · have htask : r'.crew.tasks[t]? = r.crew.tasks[t]? := (Crew.parts_of_about habout).1
    rwa [Crew.outcome?, htask] at h
  · obtain ⟨htask, -, -⟩ := Crew.parts_of_about habout
    have hnone : r'.crew.outcome? t = none := by
      rw [Crew.outcome?, htask]
      cases r.crew.tasks[t]? <;> rfl
    rw [hnone] at h
    cases h

theorem Beside.mem_queue (hb : Beside t r r') {d : Due} (hd : isFor t d = true)
    (h : d ∈ r.crew.queue) : d ∈ r'.crew.queue := by
  obtain ⟨done, rest, htaken, hrest, hothers⟩ := hb.queue
  rw [htaken] at h
  rcases List.mem_append.1 h with h | h
  · rw [hothers d h] at hd
    cases hd
  · exact hrest.subset h

/-! ## Turns of others -/

private theorem running_other {v : Nat} {fs : List Frame} {o : Outcome} (hv : v ≠ t)
    (hr : r.running = some (v, fs, o)) {x : Option (Nat × List Frame × Outcome)}
    (hx : ∀ gs o', x ≠ some (t, gs, o')) (gs : List Frame) (o' : Outcome) :
    x = some (t, gs, o') ↔ r.running = some (t, gs, o') := by
  refine ⟨fun h => absurd h (hx gs o'), fun h => ?_⟩
  rw [hr] at h
  cases h
  exact absurd rfl hv

/-- **The turn of another task passes a task by**, unless it calls it off. -/
theorem beside_advance (h : Sound w ks r) {fs : List Frame} {o : Outcome}
    (hr : r.running = some (u, fs, o)) (hu : u ≠ t) (ht : t < r.crew.tasks.length)
    (entries : r.crew.entries t = [] ∨ ∃ x, r.crew.entries t = [(t, .final x)])
    (spared : ∀ f ∈ fs.head?, f.probe? ≠ some t) : Beside t r (r.advance u fs o) := by
  have hidle := running_other hu hr (x := none) (by simp)
  have hgoes : ∀ gs o', ∀ fs' o'', some (u, gs, o') = some (t, fs', o'') ↔
      r.running = some (t, fs', o'') := fun gs o' => running_other hu hr (by simp [hu])
  cases fs with
  | nil => exact .of_spared (Crew.spares_finish hu o) rfl hidle
  | cons f fs =>
    have hmove := h.move hr
    -- The frame is about its own task, about a new one, or about the one that it calls off.
    have hnot : f.probe? ≠ some t := spared f rfl
    rw [advance_cons]
    generalize (r.resume o f).1 = r', (r.resume o f).2 = next at hmove
    cases hmove with
    | quiet still ledger crew controls plain silent =>
      have hs : Spares t r.crew r'.crew := crew ▸ .refl t r.crew
      exact .of_spared hs ledger (hgoes _ _)
    | event e one ledger finals crew controls plain silent =>
      have hreceipts : r.ledger.receipts <+: r'.ledger.receipts :=
        ledger ▸ Ledger.receipts_prefix_step r.ledger e
      exact .of_finals entries crew finals hreceipts (hgoes _ _)
    | await th =>
      have hne : t ≠ r.crew.tasks.length := Nat.ne_of_lt ht
      have hs := (Crew.spares_spawn hne [Frame.heed (.final th.txHash)]).trans
        (Crew.spares_block hu ([.probing th r.crew.tasks.length] ++ fs)
          (w := .ending r.crew.tasks.length r.deadline?) (by simpa [Wait.children] using hne))
      exact .of_spared hs rfl hidle
    | @callOff th probe g frame out =>
      have hne : probe ≠ t := fun he => hnot (congrArg some he)
      have hcancel : Spares t r.crew (r.crew.cancel probe) :=
        h.crew.cancel_eq probe ▸ Crew.spares_cancelOne hne
      have hs := hcancel.trans (Crew.spares_block hu ([g] ++ fs) (w := .ending probe none)
        (by simpa [Wait.children] using hne.symm))
      exact .of_spared hs rfl hidle
    | listen s =>
      have hs : Spares t r.crew (r.crew.block u ([.heeded] ++ fs) (.signal s)) :=
        Crew.spares_block hu _ (by simp [Wait.children])
      exact .of_spared hs rfl hidle
    | rest d lasts =>
      have hs : Spares t r.crew (r.crew.block u ([] ++ fs)
          (.alarm (d.length?.map (r.crew.now + ·)))) :=
        Crew.spares_block hu _ (by simp [Wait.children])
      exact .of_spared hs rfl hidle
    | again d =>
      exact .of_spared (Crew.spares_again hu _) rfl hidle

/-- What comes next in the queue passes a task by that it is not for. -/
theorem beside_dequeue {d : Due} {queue : List Due} (hr : r.running = none)
    (hq : r.crew.queue = d :: queue) (hd : isFor t d = false) : Beside t r (r.dequeue d queue) := by
  have htaken : r.crew.queue = [d] ++ queue := hq
  have hothers : ∀ e ∈ [d], isFor t e = false := by simpa using hd
  cases d with
  | news a b =>
    have ha : a ≠ t := by simpa [isFor] using hd
    exact .of_spares htaken hothers (Crew.spares_tell ha b) rfl (fun _ _ => Iff.rfl)
  | turn v =>
    have hv : v ≠ t := by simpa [isFor] using hd
    simp only [Rehearsal.dequeue]
    split
    · next crew stack o htake =>
      have hs : Spares t { r.crew with queue } crew := by
        -- Taking a turn changes the record of the one that takes it.
        unfold Crew.take at htake
        split at htake
        · cases htake
          exact Crew.spares_modify hv _
        · cases htake
      refine .of_spares htaken hothers hs rfl fun fs o' => ?_
      simp [hr, hv]
    · exact .of_spares htaken hothers (.refl t _) rfl (fun _ _ => Iff.rfl)

/-- **Whatever does not concern a task happens beside it.** -/
theorem beside_act (h : Sound w ks r) (ht : t < r.crew.tasks.length)
    (entries : r.crew.entries t = [] ∨ ∃ x, r.crew.entries t = [(t, .final x)]) {a : Act}
    (elsewhere : ¬r.Concerns t a) (spared : ¬r.callsOff t a) : Beside t r (r.act a) := by
  have hspawn : ∀ stack, Beside t r (r.spawn stack).1 := fun stack =>
    .of_spared (Crew.spares_spawn (Nat.ne_of_lt ht) stack) rfl (fun _ _ => Iff.rfl)
  have hstay : Beside t r r := .of_spared (.refl t r.crew) rfl (fun _ _ => Iff.rfl)
  cases a with
  | ask c => exact hspawn _
  | rest d => exact hspawn _
  | produce =>
    exact .of_finals entries rfl (Ledger.receipt?_produceBlock r.ledger)
      (Ledger.produceBlock_frame r.ledger).2.2.1 (fun _ _ => Iff.rfl)
  | startBlocks =>
    simp only [Rehearsal.act, Rehearsal.startBlocks]
    split
    · next d _ _ =>
      have hs := hspawn [.sleep d, .produce]
      exact ⟨hs.running, hs.queue, hs.receipts, hs.about⟩
    · exact hstay
  | tick =>
    simp only [Rehearsal.act, Rehearsal.tick]
    split
    · next u fs o hr =>
      have hu : u ≠ t := fun he => elsewhere (.turn fs o (he ▸ hr))
      refine beside_advance h hr hu ht entries fun f hf he => spared ?_
      obtain ⟨fs', rfl⟩ := List.head?_eq_some_iff.1 hf
      exact ⟨u, f, fs', o, hr, he⟩
    · next d queue hr hq =>
      have hd : isFor t d = false := by
        cases d with
        | turn v =>
          simp only [isFor, beq_eq_false_iff_ne, ne_eq]
          exact fun he => elsewhere (.take queue hr (he ▸ hq))
        | news v b =>
          simp only [isFor, beq_eq_false_iff_ne, ne_eq]
          exact fun he => elsewhere (.news b queue hr (he ▸ hq))
      exact beside_dequeue hr hq hd
    · exact hstay
  | elapse =>
    simp only [Rehearsal.act]
    split
    · next crew he =>
      obtain ⟨hqueue, ⟨hlate, habout⟩ | ⟨hdue, habout⟩⟩ := Crew.elapse_cases he t
      · exact ⟨fun _ _ => Iff.rfl, ⟨[], _, rfl, hqueue, by simp⟩, List.prefix_rfl,
          .inl ⟨habout, fun _ _ hx => hx, fun d hd _ => hlate d hd⟩⟩
      · exact ⟨fun _ _ => Iff.rfl, ⟨[], _, rfl, hqueue, by simp⟩, List.prefix_rfl,
          .inr ⟨habout, .inl hdue⟩⟩
    · exact hstay

end Plunder.Rehearsal
