import Plunder.Proofs.Rehearsal.Steps

/-!
# What is true of every task of a rehearsal

Where clients ask the ledger itself, every task is made of plain frames, whatever happens, and
nothing but the task that waits for a final transaction may call off the probe that it has sent out.
So the ledger is always where the events of the rehearsal have brought it.

Main statements:
- `Sound.advance`, `Sound.act`: what is true of every task stays true
- `Sound.ledger_after`: the ledger is where the events of the rehearsal have brought it
-/

namespace Plunder

/-- Whether a frame may stand on the stack of a task: it is plain, and what it may call off is one
of the tasks that there are, and none of some that only the task `w` has to do with. -/
def Frame.Fits (w : Nat) (ks : List Nat) (n t : Nat) (f : Frame) : Prop :=
  f.isPlain = true ∧ ∀ k, f.probe? = some k → k < n ∧ (t ≠ w → k ∉ ks)

namespace Rehearsal

variable {w t : Nat} {ks : List Nat} {r r' : Rehearsal} {o : Outcome}

/-- What is true of every task: its frames fit, and no answer is held back. -/
structure Sound (w : Nat) (ks : List Nat) (r : Rehearsal) : Prop where
  answers : r.Open
  positive : r.ledger.setup.finalityTimeout.isOver = false
  crew : r.crew.Keeps r.crew.tasks.length r.crew.now (Frame.Fits w ks r.crew.tasks.length)
  running : ∀ t fs o, r.running = some (t, fs, o) →
    t < r.crew.tasks.length ∧ ∀ f ∈ fs, f.Fits w ks r.crew.tasks.length t

/-- A rehearsal goes on: it is sound, there are no fewer tasks, and it is no earlier. -/
structure Continues (w : Nat) (ks : List Nat) (r r' : Rehearsal) : Prop where
  sound : Sound w ks r'
  tasks_le : r.crew.tasks.length ≤ r'.crew.tasks.length
  now_le : r.crew.now ≤ r'.crew.now

/-! ## Frames that fit -/

private theorem fits_mono {n m : Nat} (h : n ≤ m) {f : Frame} (hf : f.Fits w ks n t) :
    f.Fits w ks m t :=
  ⟨hf.1, fun k hk => ⟨Nat.lt_of_lt_of_le (hf.2 k hk).1 h, (hf.2 k hk).2⟩⟩

private theorem fits_of_silent {n : Nat} {f : Frame} (plain : f.isPlain = true)
    (silent : f.probe? = none) : f.Fits w ks n t :=
  ⟨plain, fun k hk => by rw [silent] at hk; cases hk⟩

namespace Sound

/-- A rehearsal whose crew keeps to frames that fit goes on soundly. -/
private theorem to_keeps (h : Sound w ks r) {n : Nat} {now : Rat}
    (controls : r'.controls = r.controls) (setup : r'.ledger.setup = r.ledger.setup)
    (tasks_le : r.crew.tasks.length ≤ n)
    (now_le : r.crew.now ≤ now) (crew : r'.crew.Keeps n now (Frame.Fits w ks n))
    (running : ∀ t fs o, r'.running = some (t, fs, o) → t < n ∧ ∀ f ∈ fs, f.Fits w ks n t) :
    Continues w ks r r' := by
  obtain rfl := crew.length_eq
  obtain rfl := crew.now_eq
  refine ⟨⟨fun m => ?_, ?_, crew, running⟩, tasks_le, now_le⟩
  · rw [controls]
    exact h.answers m
  · rw [setup]
    exact h.positive

private theorem of_keeps (h : Sound w ks r) (controls : r'.controls = r.controls)
    (setup : r'.ledger.setup = r.ledger.setup)
    (crew : r'.crew.Keeps r.crew.tasks.length r.crew.now (Frame.Fits w ks r.crew.tasks.length))
    (running : ∀ t fs o, r'.running = some (t, fs, o) →
      t < r.crew.tasks.length ∧ ∀ f ∈ fs, f.Fits w ks r.crew.tasks.length t) :
    Continues w ks r r' :=
  h.to_keeps controls setup (Nat.le_refl _) (le_refl _) crew running

theorem start {l : Ledger} (positive : l.setup.finalityTimeout.isOver = false) (client : Client)
    (link : Link) : Sound w ks (Rehearsal.start l client link) where
  answers _ := rfl
  positive := positive
  crew := .empty _
  running _ _ _ h := by cases h

/-- A task that is still to come has to do with nothing yet. -/
theorem enlarge (h : Sound w ks r) : Sound w (r.crew.tasks.length :: ks) r := by
  have hfits : ∀ t f, Frame.Fits w ks r.crew.tasks.length t f →
      f.Fits w (r.crew.tasks.length :: ks) r.crew.tasks.length t := fun t f hf =>
    ⟨hf.1, fun k hk => ⟨(hf.2 k hk).1, fun ht hmem => by
      rcases List.mem_cons.1 hmem with rfl | hmem
      · exact Nat.lt_irrefl _ (hf.2 _ hk).1
      · exact (hf.2 k hk).2 ht hmem⟩⟩
  exact ⟨h.answers, h.positive, h.crew.mono hfits, fun t fs o ht =>
    ⟨(h.running t fs o ht).1, fun f hf => hfits t f ((h.running t fs o ht).2 f hf)⟩⟩

theorem move (h : Sound w ks r) {f : Frame} {fs : List Frame}
    (hr : r.running = some (t, f :: fs, o)) : Move r o f (r.resume o f).1 (r.resume o f).2 :=
  move_of_plain h.answers h.positive ((h.running t _ o hr).2 f List.mem_cons_self).1 o

/-- **A turn keeps every task sound**, if the probe it may send out is none of those that only `w`
has to do with. -/
theorem advance (h : Sound w ks r) {fs : List Frame} (hr : r.running = some (t, fs, o))
    (fresh : t ≠ w → r.crew.tasks.length ∉ ks) : Continues w ks r (r.advance t fs o) := by
  obtain ⟨ht, hfs⟩ := h.running t fs o hr
  have hidle : ∀ n u gs o', (none : Option (Nat × List Frame × Outcome)) = some (u, gs, o') →
      u < n ∧ ∀ g ∈ gs, g.Fits w ks n u := fun _ _ _ _ h => by cases h
  cases fs with
  | nil => exact h.of_keeps rfl rfl (h.crew.finish t o) (hidle _)
  | cons f fs =>
    have hrest : ∀ g ∈ fs, g.Fits w ks r.crew.tasks.length t := fun g hg =>
      hfs g (List.mem_cons_of_mem f hg)
    have hjoin : ∀ {gs : List Frame}, (∀ g ∈ gs, g.Fits w ks r.crew.tasks.length t) →
        ∀ g ∈ gs ++ fs, g.Fits w ks r.crew.tasks.length t := fun hgs g hg =>
      (List.mem_append.1 hg).elim (hgs g) (hrest g)
    -- One case for each thing that the first frame can do; those below it stay.
    have hmove := h.move hr
    rw [advance_cons]
    generalize (r.resume o f).1 = r', (r.resume o f).2 = next at hmove
    cases hmove with
    | quiet still ledger crew controls plain silent =>
      have hcrew : r'.crew.Keeps r.crew.tasks.length r.crew.now
          (Frame.Fits w ks r.crew.tasks.length) := by
        rw [crew]
        exact h.crew
      refine h.of_keeps controls (congrArg _ ledger) hcrew ?_
      rintro u gs o' ⟨⟩
      exact ⟨ht, hjoin fun g hg => fits_of_silent (plain g hg) (silent g hg)⟩
    | event e one ledger finals crew controls plain silent =>
      have hcrew : r'.crew.Keeps r.crew.tasks.length r.crew.now
          (Frame.Fits w ks r.crew.tasks.length) := by
        rw [crew]
        exact h.crew.announce _
      refine h.of_keeps controls ?_ hcrew ?_
      · rw [proceed_ledger, ledger, Ledger.step_setup]
      · rintro u gs o' ⟨⟩
        exact ⟨ht, hjoin fun g hg => fits_of_silent (plain g hg) (silent g hg)⟩
    | await th =>
      -- The probe is the task with the next number, and the one who sends it out may call it off.
      have hheed : ∀ g ∈ [Frame.heed (.final th.txHash)], g.Fits w ks (r.crew.tasks.length + 1)
          r.crew.tasks.length := by
        simp [Frame.Fits, Frame.isPlain, Frame.probe?]
      have hspawn := (h.crew.mono fun _ _ => fits_mono (Nat.le_succ _)).spawn hheed
      have hstack : ∀ g ∈ Frame.probing th r.crew.tasks.length :: fs,
          g.Fits w ks (r.crew.tasks.length + 1) t := by
        intro g hg
        rcases List.mem_cons.1 hg with rfl | hg
        · refine ⟨rfl, fun k hk => ?_⟩
          obtain rfl := Option.some.inj hk
          exact ⟨Nat.lt_succ_self _, fresh⟩
        · exact fits_mono (Nat.le_succ _) (hrest g hg)
      have hlater : ∀ d, r.deadline? = some d → r.crew.now < d := by
        intro d hd
        obtain ⟨s, hs, rfl⟩ := Option.map_eq_some_iff.1 hd
        exact lt_add_of_pos_right _ (Duration.length_pos h.positive hs)
      have hblock := hspawn.block (w := .ending r.crew.tasks.length r.deadline?)
        (Nat.lt_succ_of_lt ht) hstack (by simp) hlater
      exact h.to_keeps rfl rfl (Nat.le_succ _) (le_refl _) hblock (hidle _)
    | @callOff th probe g frame out =>
      -- The frame that is left may call off nothing any more.
      have hg : ∀ g' ∈ [g], g'.Fits w ks r.crew.tasks.length t := by
        rcases frame with rfl | rfl <;> simp [Frame.Fits, Frame.isPlain, Frame.probe?]
      exact h.of_keeps rfl rfl ((h.crew.cancel probe).block (w := .ending probe none) ht (hjoin hg)
        (by simp) (by simp [Wait.due?])) (hidle _)
    | listen s =>
      have hg : ∀ g ∈ [Frame.heeded], g.Fits w ks r.crew.tasks.length t := by
        simp [Frame.Fits, Frame.isPlain, Frame.probe?]
      exact h.of_keeps rfl rfl (h.crew.block (w := .signal s) ht (hjoin hg) (by simp)
        (by simp [Wait.due?])) (hidle _)
    | rest d lasts =>
      have hlater : ∀ due, d.length?.map (r.crew.now + ·) = some due → r.crew.now < due := by
        intro due hd
        obtain ⟨s, hs, rfl⟩ := Option.map_eq_some_iff.1 hd
        exact lt_add_of_pos_right _ (Duration.length_pos lasts hs)
      exact h.of_keeps rfl rfl (h.crew.block (w := .alarm _) ht hrest (by simp) hlater) (hidle _)
    | again d => exact h.of_keeps rfl rfl (h.crew.again ht hrest) (hidle _)

/-- What comes next in the queue keeps every task sound. -/
theorem dequeue (h : Sound w ks r) {d : Due} {queue : List Due} (hr : r.running = none)
    (hq : r.crew.queue = d :: queue) : Continues w ks r (r.dequeue d queue) := by
  have hcrew : Crew.Keeps r.crew.tasks.length r.crew.now (Frame.Fits w ks r.crew.tasks.length)
      { r.crew with queue } :=
    h.crew.subset (fun t ht => h.crew.due t (hq ▸ List.mem_cons_of_mem d ht)) h.crew.waits
  cases d with
  | news a b => exact h.of_keeps rfl rfl (hcrew.tell a b) (by simp [Rehearsal.dequeue, hr])
  | turn t =>
    simp only [Rehearsal.dequeue]
    split
    · next crew stack o htake =>
      obtain ⟨hkeeps, ht, hstack⟩ := hcrew.take htake
      refine h.of_keeps rfl rfl hkeeps ?_
      rintro u gs o' ⟨⟩
      exact ⟨ht, hstack⟩
    · exact h.of_keeps rfl rfl hcrew (by simp [hr])

private theorem spawn (h : Sound w ks r) {stack : List Frame}
    (plain : ∀ f ∈ stack, f.isPlain = true) (silent : ∀ f ∈ stack, f.probe? = none) :
    Continues w ks r (r.spawn stack).1 := by
  refine h.to_keeps rfl rfl (Nat.le_succ _) (le_refl _) ((h.crew.mono fun _ _ =>
    fits_mono (Nat.le_succ _)).spawn fun f hf => fits_of_silent (plain f hf) (silent f hf))
      fun u fs o hu => ?_
  obtain ⟨hlt, hfs⟩ := h.running u fs o hu
  exact ⟨Nat.lt_succ_of_lt hlt, fun f hf => fits_mono (Nat.le_succ _) (hfs f hf)⟩

/-- **Whatever happens keeps every task sound**, where the tasks that only `w` has to do with are
there already when another one has its turn. -/
theorem act (h : Sound w ks r) (a : Act)
    (there : a = .tick → ∀ k ∈ ks, k < r.crew.tasks.length) :
    Continues w ks r (r.act a) := by
  have hstay : Continues w ks r r := ⟨h, Nat.le_refl _, le_refl _⟩
  cases a with
  | ask c => exact h.spawn (by simp [Frame.isPlain]) (by simp [Frame.probe?])
  | rest d => exact h.spawn (by simp [Frame.isPlain]) (by simp [Frame.probe?])
  | produce =>
    have hsetup := (Ledger.produceBlock_frame r.ledger).1
    exact h.of_keeps rfl hsetup (h.crew.announce _) h.running
  | startBlocks =>
    simp only [Rehearsal.act, Rehearsal.startBlocks]
    split
    · next d _ _ =>
      have hs : Continues w ks r (r.spawn [.sleep d, .produce]).1 :=
        h.spawn (by simp [Frame.isPlain]) (by simp [Frame.probe?])
      exact ⟨⟨hs.sound.answers, hs.sound.positive, hs.sound.crew, hs.sound.running⟩, hs.tasks_le,
        hs.now_le⟩
    · exact hstay
  | tick =>
    simp only [Rehearsal.act, Rehearsal.tick]
    split
    · next t fs o hr => exact h.advance hr fun _ hmem => Nat.lt_irrefl _ (there rfl _ hmem)
    · next d queue hr hq => exact h.dequeue hr hq
    · exact hstay
  | elapse =>
    simp only [Rehearsal.act]
    split
    · next crew he =>
      obtain ⟨hnow, hkeeps⟩ := h.crew.elapse he
      exact h.to_keeps rfl rfl (Nat.le_refl _) hnow.le hkeeps h.running
    · exact hstay

/-- What happens to the ledger when something happens. -/
theorem act_ledger (h : Sound w ks r) (a : Act) : (r.act a).ledger = r.ledger.run (r.events a) := by
  cases a with
  | ask c => rfl
  | rest d => rfl
  | produce => rfl
  | startBlocks =>
    simp only [Rehearsal.act, Rehearsal.startBlocks]
    split <;> rfl
  | tick =>
    simp only [Rehearsal.act, Rehearsal.tick, events]
    split
    · next t fs o hr =>
      cases fs with
      | nil => simp [hr, Rehearsal.advance]
      | cons f fs => simp [hr, advance_cons, (h.move hr).ledger_eq]
    · next d queue hr _ =>
      cases d with
      | news a b => simp [hr, Rehearsal.dequeue]
      | turn t =>
        simp only [hr, Option.getD_some, Rehearsal.dequeue]
        split <;> rfl
    · next hr _ => simp [hr]
  | elapse =>
    simp only [Rehearsal.act]
    split <;> rfl

end Sound

theorem Sound.after (h : Sound w [] r) (as : List Act) : Sound w [] (r.after as) := by
  induction as generalizing r with
  | nil => exact h
  | cons a as ih => exact ih (h.act a (by simp)).sound

end Rehearsal
end Plunder
