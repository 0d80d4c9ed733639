import Plunder.Proofs.Rehearsal.Beside

/-!
# How a task stands

The standing of a task is what there is to know of it between two steps of a rehearsal: its frames,
what it goes on with or waits for, and who is to be told of its end. It changes when the task has
its turn, and otherwise only when the task is woken.

Main statements:
- `Stands.beside`: what happens beside a task leaves its standing as it is, or wakes it
- `Stands.take`, `Stands.goes`, `Stands.finish`: a task has its turn
-/

namespace Plunder.Rehearsal

/-! ## Definitions -/

/-- How a task stands. -/
inductive Standing where
  /-- Its turn is due, with an outcome; it gives up then if it was withdrawn. -/
  | due (stack : List Frame) (o : Outcome) (withdrawn : Bool)
  /-- It has its turn, with the frames that are left and what they go on with. -/
  | turn (stack fs : List Frame) (o : Outcome)
  /-- It waits for the end of another task, or for a time that is still to come. -/
  | awaiting (stack : List Frame) (child : Nat) (alarm : Option Rat)
  /-- It waits for a transaction that is not final yet. -/
  | listening (stack : List Frame) (x : String)
  | ended (o : Outcome)

/-- Whether it is not the turn of a task. -/
def Idle (r : Rehearsal) (t : Nat) : Prop := ∀ fs o, r.running ≠ some (t, fs, o)

namespace Standing

/-- What the crew says of a task that stands in a way; while the task has its turn, its record still
shows what that turn was for. -/
def record (t : Nat) (watchers : List Nat) (shown : Outcome) :
    Standing → Option (Task Frame) × List (Nat × Signal) × Nat
  | .due stack o withdrawn => (some ⟨stack, .scheduled o, withdrawn, watchers⟩, [], 1)
  | .turn stack _ _ => (some ⟨stack, .scheduled shown, false, watchers⟩, [], 0)
  | .awaiting stack child alarm =>
    (some ⟨stack, .blocked (.ending child alarm), false, watchers⟩, [], 0)
  | .listening stack x =>
    (some ⟨stack, .blocked (.signal (.final x)), false, watchers⟩, [(t, .final x)], 0)
  | .ended o => (some ⟨[], .ended o, false, watchers⟩, [], 0)

/-- Whether a task has its turn if it stands so, and not otherwise. -/
def Fits (r : Rehearsal) (t : Nat) : Standing → Prop
  | .turn _ fs o => r.running = some (t, fs, o)
  | _ => r.Idle t

/-- Whether what a task waits for has not come yet. -/
def Lasts (r : Rehearsal) : Standing → Prop
  | .awaiting _ _ alarm => ∀ d, alarm = some d → r.crew.now < d
  | .listening _ x => r.ledger.receipt? x = none
  | _ => True

end Standing

/-- Whether a task stands in a way, while some others are to be told of its end. -/
structure Stands (r : Rehearsal) (t : Nat) (watchers : List Nat) (st : Standing) : Prop where
  record : ∃ o, r.crew.about t = st.record t watchers o
  fits : st.Fits r t
  lasts : st.Lasts r

variable {t : Nat} {ws : List Nat} {r r' : Rehearsal} {st : Standing}

/-! ## Steps -/

theorem idle_of_none (h : r.running = none) : r.Idle t := by
  intro fs o ht
  rw [h] at ht
  cases ht

theorem act_tick_of_running {fs : List Frame} {o : Outcome} (hr : r.running = some (t, fs, o)) :
    r.act .tick = r.advance t fs o := by
  simp [act, tick, hr]

theorem running_of_news {a b : Nat} {queue : List Due} (hr : r.running = none)
    (hq : r.crew.queue = .news a b :: queue) : (r.act .tick).running = none := by
  simp [act, tick, hr, hq, dequeue]

theorem act_tick_of_queue {d : Due} {queue : List Due} (hr : r.running = none)
    (hq : r.crew.queue = d :: queue) : r.act .tick = r.dequeue d queue := by
  simp [act, tick, hr, hq]

namespace Stands

/-! ## What a standing says -/

/-- The record of a task, part by part: the task itself, what it listens to, and its turns. -/
theorem parts (h : Stands r t ws st) :
    ∃ o, r.crew.tasks[t]? = (st.record t ws o).1 ∧ r.crew.entries t = (st.record t ws o).2.1 ∧
      r.crew.turns t = (st.record t ws o).2.2 := by
  obtain ⟨o, hrecord⟩ := h.record
  exact ⟨o, Crew.parts_of_about hrecord⟩

theorem exists_task (h : Stands r t ws st) : ∃ task, r.crew.tasks[t]? = some task := by
  obtain ⟨o, htask, -⟩ := h.parts
  cases st <;> exact ⟨_, htask⟩

theorem lt (h : Stands r t ws st) : t < r.crew.tasks.length := by
  obtain ⟨task, ht⟩ := h.exists_task
  exact (List.getElem?_eq_some_iff.1 ht).1

theorem entries (h : Stands r t ws st) :
    r.crew.entries t = [] ∨ ∃ x, r.crew.entries t = [(t, .final x)] := by
  obtain ⟨o, -, he, -⟩ := h.parts
  cases st with
  | listening stack x => exact .inr ⟨x, he⟩
  | _ => exact .inl he

theorem eq_turn (h : Stands r t ws st) {fs : List Frame} {o : Outcome}
    (hr : r.running = some (t, fs, o)) : ∃ stack, st = .turn stack fs o := by
  have hfits := h.fits
  cases st with
  | turn stack fs' o' =>
    rw [Standing.Fits, hr] at hfits
    cases hfits
    exact ⟨stack, rfl⟩
  | _ => exact absurd hr (hfits fs o)

/-- A task whose turn is in the queue is one whose turn is due. -/
theorem eq_due (h : Stands r t ws st) (hq : .turn t ∈ r.crew.queue) :
    ∃ stack o withdrawn, st = .due stack o withdrawn := by
  obtain ⟨o, -, -, hturns⟩ := h.parts
  -- The turn in the queue counts, and only a task that is due has one.
  have hsome : (st.record t ws o).2.2 ≠ 0 := by
    intro hz
    have hzero : r.crew.turns t = 0 := hturns.trans hz
    simpa [Crew.isTurn] using List.countP_eq_zero.1 hzero (.turn t) hq
  cases st with
  | due stack o withdrawn => exact ⟨stack, o, withdrawn, rfl⟩
  | _ => exact absurd rfl hsome

theorem mem_queue {stack : List Frame} {o : Outcome} {withdrawn : Bool}
    (h : Stands r t ws (.due stack o withdrawn)) : .turn t ∈ r.crew.queue := by
  obtain ⟨o', -, -, hturns⟩ := h.parts
  obtain ⟨d, hd, ht⟩ := List.countP_pos_iff.1 (Nat.lt_of_lt_of_eq Nat.one_pos hturns.symm)
  cases d with
  | news a b => cases ht
  | turn u =>
    obtain rfl : u = t := by simpa [Crew.isTurn] using ht
    exact hd

/-- The outcome of a task is known when it has ended, and not before. -/
theorem outcome?_eq (h : Stands r t ws st) :
    r.crew.outcome? t = match st with
      | .ended o => some o
      | _ => none := by
  obtain ⟨o, htask, -⟩ := h.parts
  cases st <;> simp only [Crew.outcome?, htask, Standing.record]

theorem alive (h : Stands r t ws st) (other : ∀ o, st ≠ .ended o) :
    r.crew.outcome? t = none := by
  rw [h.outcome?_eq]
  cases st with
  | ended o => exact absurd rfl (other o)
  | _ => rfl

/-! ## What happens beside a task -/

/-- **What happens beside a task leaves its standing as it is**, or wakes it. -/
theorem beside (h : Stands r t ws st) (hb : Beside t r r') :
    Stands r' t ws st ∨
      ∃ stack, Stands r' t ws (.due stack (.ok .nothing) false) ∧
        ((∃ child d, st = .awaiting stack child (some d)) ∨
          ∃ x, st = .listening stack x ∧ (r'.ledger.receipt? x).isSome = true) := by
  have hidle : r.Idle t → r'.Idle t := fun hi fs o hr => hi fs o ((hb.running fs o).1 hr)
  obtain ⟨⟨o, hrecord⟩, hfits, hlasts⟩ := h
  obtain ⟨htask, hentries, hturns⟩ := Crew.parts_of_about hrecord
  rcases hb.about with ⟨habout, hsilent, hearly⟩ | ⟨habout, hwoken⟩
  · refine .inl ⟨⟨o, habout.trans hrecord⟩, ?_, ?_⟩
    · cases st with
      | turn stack fs o => exact (hb.running fs o).2 hfits
      | _ => exact hidle hfits
    · cases st with
      | awaiting stack child alarm =>
        exact fun d hd => hearly d (by rw [Crew.due?, htask]; exact hd) (hlasts d hd)
      | listening stack x => exact hsilent x hentries hlasts
      | _ => trivial
  · -- Only a task that waits can be woken.
    rw [Crew.due?, htask, hentries] at hwoken
    rw [htask, hturns] at habout
    cases st with
    | awaiting stack child alarm =>
      refine .inr ⟨stack, ⟨⟨o, habout⟩, hidle hfits, trivial⟩, .inl ?_⟩
      rcases hwoken with ⟨d, hd⟩ | ⟨x, hx, -⟩
      · obtain rfl : alarm = some d := hd
        exact ⟨child, d, rfl⟩
      · cases hx
    | listening stack x =>
      refine .inr ⟨stack, ⟨⟨o, habout⟩, hidle hfits, trivial⟩, .inr ⟨x, rfl, ?_⟩⟩
      rcases hwoken with ⟨d, hd⟩ | ⟨y, hy, hsome⟩
      · cases hd
      · obtain rfl : x = y := by simpa [Standing.record] using hy
        exact hsome
    | _ =>
      rcases hwoken with ⟨d, hd⟩ | ⟨x, hx, -⟩
      · cases hd
      · cases hx

/-- A task that waits for nothing is not woken. -/
theorem beside_of_busy (h : Stands r t ws st) (hb : Beside t r r')
    (awaits : ∀ stack child d, st ≠ .awaiting stack child (some d))
    (listens : ∀ stack x, st ≠ .listening stack x) : Stands r' t ws st := by
  rcases h.beside hb with h' | ⟨stack, -, ⟨child, d, he⟩ | ⟨x, he, -⟩⟩
  · exact h'
  · exact absurd he (awaits stack child d)
  · exact absurd he (listens stack x)

/-! ## Turns -/

/-- A task takes its turn when it comes first in the queue. -/
theorem take {stack : List Frame} {o : Outcome} {withdrawn : Bool}
    (h : Stands r t ws (.due stack o withdrawn)) (hr : r.running = none) {queue : List Due}
    (hq : r.crew.queue = .turn t :: queue) :
    Stands (r.act .tick) t ws (.turn stack stack (if withdrawn then .error .cancelled else o)) ∧
      (r.act .tick).crew.queue = queue := by
  obtain ⟨_, htask, hentries, hone⟩ := h.parts
  simp only [Standing.record] at htask
  -- That was the only turn of the task in the queue.
  have hturns : queue.countP (Crew.isTurn t) = 0 := by
    change r.crew.queue.countP (Crew.isTurn t) = 1 at hone
    rw [hq, List.countP_cons_of_pos (by simp [Crew.isTurn])] at hone
    omega
  change r.crew.waiting.filter (·.1 == t) = [] at hentries
  have htake : Crew.take { r.crew with queue } t =
      some (Crew.modify { r.crew with queue } t fun task => { task with withdrawn := false }, stack,
        if withdrawn then .error .cancelled else o) := by
    simp only [Crew.take, htask]
  rw [act_tick_of_queue hr hq, dequeue]
  simp only [htake]
  refine ⟨⟨⟨o, ?_⟩, rfl, trivial⟩, rfl⟩
  simp [Crew.about_modify, htask, Crew.entries, hentries, Crew.turns, hturns, Standing.record]

/-- A task that has its turn goes on. -/
theorem goes {stack fs gs : List Frame} {f : Frame} {o o' : Outcome}
    (h : Stands r t ws (.turn stack (f :: fs) o)) (hgo : r.resume o f = (r', .go gs o'))
    (crew : r'.crew = r.crew) : Stands (r.act .tick) t ws (.turn stack (gs ++ fs) o') := by
  obtain ⟨hrecord, hr, -⟩ := h
  rw [act_tick_of_running hr, advance_cons, hgo]
  obtain ⟨o'', hrecord⟩ := hrecord
  refine ⟨⟨o'', ?_⟩, rfl, trivial⟩
  exact (congrArg (Crew.about · t) crew).trans hrecord

/-- A task that has nothing left to do ends, and those who watch it are to be told. -/
theorem finish {stack : List Frame} {o : Outcome} (h : Stands r t ws (.turn stack [] o)) :
    Stands (r.act .tick) t [] (.ended o) ∧
      (r.act .tick).crew.queue = r.crew.queue ++ ws.map (.news · t) := by
  obtain ⟨o', htask, hentries, hturns⟩ := h.parts
  simp only [Standing.record] at htask hentries hturns
  rw [act_tick_of_running h.fits, advance]
  refine ⟨⟨⟨o', ?_⟩, idle_of_none rfl, trivial⟩, ?_⟩
  · rw [Crew.about_finish, htask, hentries, hturns]
    rfl
  · simp [Crew.finish, htask, Crew.modify]

/-- A task that has its turn waits for a transaction. -/
theorem listens {stack fs gs : List Frame} {f : Frame} {o : Outcome} {x : String}
    (h : Stands r t ws (.turn stack (f :: fs) o))
    (hblock : r.resume o f = (r, .block gs (.signal (.final x))))
    (hnone : r.ledger.receipt? x = none) :
    Stands (r.act .tick) t ws (.listening (gs ++ fs) x) := by
  obtain ⟨o', htask, hentries, hturns⟩ := h.parts
  rw [act_tick_of_running h.fits, advance_cons, hblock]
  refine ⟨⟨o', ?_⟩, idle_of_none rfl, hnone⟩
  rw [proceed, Crew.about_block_signal, htask, hentries, hturns]
  rfl

/-- A task that has its turn waits for the end of another one. -/
theorem awaits {stack fs gs : List Frame} {f : Frame} {o : Outcome} {child : Nat}
    {alarm : Option Rat} (h : Stands r t ws (.turn stack (f :: fs) o))
    (hblock : r.resume o f = (r', .block gs (.ending child alarm)))
    (spares : Crew.Spares t r.crew r'.crew) (hchild : child ≠ t)
    (early : ∀ d, alarm = some d → r.crew.now < d) :
    Stands (r.act .tick) t ws (.awaiting (gs ++ fs) child alarm) := by
  obtain ⟨o', hrecord⟩ := h.record
  obtain ⟨htask, hentries, hturns⟩ := Crew.parts_of_about (spares.about_eq.trans hrecord)
  rw [act_tick_of_running h.fits, advance_cons, hblock]
  refine ⟨⟨o', ?_⟩, idle_of_none rfl, fun d hd => ?_⟩
  · rw [proceed, Crew.about_block_ending hchild, htask, hentries, hturns]
    rfl
  · have hnow : (r'.crew.block t (gs ++ fs) (.ending child alarm)).now = r'.crew.now := by
      simp only [Crew.block, Crew.watch]
      split <;> rfl
    rw [proceed, show Crew.now _ = r.crew.now from hnow.trans spares.now_eq]
    exact early d hd

/-! ## News -/

private theorem skip (h : Stands r t ws st) {a b : Nat} {queue : List Due}
    (hq : r.crew.queue = .news a b :: queue) :
    Stands { r with crew := { r.crew with queue } } t ws st := by
  obtain ⟨⟨o, hrecord⟩, hfits, hlasts⟩ := h
  refine ⟨⟨o, Eq.trans ?_ hrecord⟩, ?_, ?_⟩
  · simp [Crew.about, Crew.entries, Crew.turns, hq, Crew.isTurn]
  · cases st <;> exact hfits
  · cases st <;> exact hlasts

/-- A task hears news: it is due if it waits for just that, and otherwise it stands as before. -/
theorem tell (h : Stands r t ws st) (hr : r.running = none) {child : Nat} {queue : List Due}
    (hq : r.crew.queue = .news t child :: queue) :
    (Stands (r.act .tick) t ws st ∧ (r.act .tick).crew.queue = queue ∧
        ((r.crew.outcome? child).isSome = true → ∀ stack alarm, st ≠ .awaiting stack child alarm)) ∨
      ∃ stack alarm, st = .awaiting stack child alarm ∧
        Stands (r.act .tick) t ws (.due stack (.ok .nothing) false) := by
  have hskip := h.skip hq
  obtain ⟨o, htask, -⟩ := h.parts
  rw [act_tick_of_queue hr hq, dequeue]
  have hdeaf : Crew.tell { r.crew with queue } t child = { r.crew with queue } →
      Stands { r with crew := Crew.tell { r.crew with queue } t child } t ws st ∧
        (Crew.tell { r.crew with queue } t child).queue = queue := by
    intro he
    rw [he]
    exact ⟨hskip, rfl⟩
  have hwait : Crew.wait? { r.crew with queue } t = r.crew.wait? t := rfl
  have hout : Crew.outcome? { r.crew with queue } child = r.crew.outcome? child := rfl
  cases st with
  | awaiting stack child' alarm =>
    have hw : r.crew.wait? t = some (.ending child' alarm) := by
      simp only [Crew.wait?, htask, Standing.record]
    -- News of a task that has not ended, or of another one than it awaits, means nothing to it.
    cases ho : r.crew.outcome? child with
    | none =>
      obtain ⟨hs, hq'⟩ := hdeaf (by simp only [Crew.tell, hwait, hw, hout, ho])
      exact .inl ⟨hs, hq', by simp⟩
    | some oc =>
      by_cases hc : child' = child
      · subst hc
        refine .inr ⟨stack, alarm, rfl, ⟨⟨o, ?_⟩, idle_of_none hr, trivial⟩⟩
        simp only [Crew.tell, hwait, hw, hout, ho, if_true]
        obtain ⟨_, -, -, hturns⟩ := hskip.parts
        rw [Crew.about_schedule, htask, hturns]
        rfl
      · obtain ⟨hs, hq'⟩ := hdeaf (by simp only [Crew.tell, hwait, hw, hout, ho, if_neg hc])
        refine .inl ⟨hs, hq', fun _ stack' alarm' he => hc ?_⟩
        cases he
        rfl
  | listening stack x =>
    have hw : r.crew.wait? t = some (.signal (.final x)) := by
      simp only [Crew.wait?, htask, Standing.record]
    obtain ⟨hs, hq'⟩ := hdeaf (by simp only [Crew.tell, hwait, hw])
    exact .inl ⟨hs, hq', by simp⟩
  | _ =>
    have hw : r.crew.wait? t = none := by simp only [Crew.wait?, htask, Standing.record]
    obtain ⟨hs, hq'⟩ := hdeaf (by simp only [Crew.tell, hwait, hw])
    exact .inl ⟨hs, hq', by simp⟩

/-- News means nothing to a task that awaits no other one. -/
theorem tell_of_busy (h : Stands r t ws st) (hr : r.running = none) {child : Nat}
    {queue : List Due} (hq : r.crew.queue = .news t child :: queue)
    (awaits : ∀ stack child alarm, st ≠ .awaiting stack child alarm) :
    Stands (r.act .tick) t ws st ∧ (r.act .tick).crew.queue = queue := by
  rcases h.tell hr hq with ⟨h', hqueue, -⟩ | ⟨stack, alarm, he, -⟩
  · exact ⟨h', hqueue⟩
  · exact absurd he (awaits stack child alarm)

end Stands
end Plunder.Rehearsal
