import Plunder.Proofs.Rehearsal.Standing

/-!
# One wait for a final transaction

A wait sends out a probe that looks for the receipt of the transaction, and awaits the probe's end
until its deadline. If the deadline comes first, it calls the probe off and fails. The phases of a
wait are told by how its own task and the probe stand; whatever happens takes a wait from one phase
to the next.

Main statements:
- `Unbegun.step`: a wait that has not begun stays so or begins
- `Begun.step`: a wait that has begun is in one of its phases, whatever happens
- `Begun.rests`: where nothing is due, a wait has ended, or its deadline is ahead and there is no
  receipt
-/

namespace Plunder.Rehearsal

open Crew (isTurn)

/-! ## Definitions -/

/-- Whether an outcome is a right answer to a wait: the receipt of the transaction, or, if the
receipt was not there when the wait began, the fault of the timeout. -/
def Answers (r : Rehearsal) (h : TransactionHandle) (sure : Prop) (o : Outcome) : Prop :=
  (∃ receipt, r.ledger.receipt? h.txHash = some receipt ∧ o = .ok (.answer (.receipt receipt))) ∨
    ¬sure ∧ o = .error r.ledger.finalityTimeout

/-- Whether the turn of a task comes before the next turn of another one. -/
def Precedes (r : Rehearsal) (p w : Nat) : Prop :=
  r.crew.queue.find? (fun d => isTurn w d || isTurn p d) = some (.turn p)

/-- A wait before it begins. -/
inductive Unbegun (r : Rehearsal) (w : Nat) (h : TransactionHandle) : Prop where
  | due (stands : Stands r w [] (.due [.serve (.finality h)] (.ok .nothing) false))
  | turn (f : Frame) (frame : f = .serve (.finality h) ∨ f = .finality h)
      (stands : Stands r w [] (.turn [.serve (.finality h)] [f] (.ok .nothing)))

/-- A wait is under way with a frame: it awaits the end of its probe, or goes on. Of an end of the
probe it is told. -/
inductive Waiting (r : Rehearsal) (w p : Nat) (f : Frame) (alarm : Option Rat) : Prop where
  | awaiting (stands : Stands r w [] (.awaiting [f] p alarm))
      (told : (r.crew.outcome? p).isSome = true → .news w p ∈ r.crew.queue)
  | due (stands : Stands r w [] (.due [f] (.ok .nothing) false))
  | turn (stands : Stands r w [] (.turn [f] [f] (.ok .nothing)))

/-- The probe of a wait looks for a receipt, or has found it. -/
inductive Looking (r : Rehearsal) (w p : Nat) (x : String) (sure : Prop) : Prop where
  /-- It is to look for the receipt before the wait can go on. -/
  | sent (stands : Stands r p [w] (.due [.heed (.final x)] (.ok .nothing) false))
      (first : r.Precedes p w) (idle : r.Idle w)
  | looking (stands : Stands r p [w] (.turn [.heed (.final x)] [.heed (.final x)] (.ok .nothing)))
  | listening (stands : Stands r p [w] (.listening [.heeded] x))
  | woken (stands : Stands r p [w] (.due [.heeded] (.ok .nothing) false))
      (found : (r.ledger.receipt? x).isSome = true) (unsure : ¬sure)
  | seen (stack fs : List Frame) (frames : fs = [.heeded] ∨ fs = [])
      (stands : Stands r p [w] (.turn stack fs (.ok .nothing)))
      (found : (r.ledger.receipt? x).isSome = true)
  | found (stands : Stands r p [] (.ended (.ok .nothing)))
      (found : (r.ledger.receipt? x).isSome = true)

/-- The probe of a wait was called off. -/
inductive Leaving (r : Rehearsal) (w p : Nat) : Prop where
  | due (ws : List Nat) (o : Outcome) (withdrawn : Bool)
      (stands : Stands r p ws (.due [.heeded] o withdrawn)) (watched : w ∈ ws)
      (gives : ∃ e, (if withdrawn then .error .cancelled else o) = .error e)
  | turn (ws : List Nat) (fs : List Frame) (e : Fault) (frames : fs = [.heeded] ∨ fs = [])
      (stands : Stands r p ws (.turn [.heeded] fs (.error e))) (watched : w ∈ ws)
  | gone (e : Fault) (stands : Stands r p [] (.ended (.error e)))

/-- A wait that has begun. -/
inductive Begun (r : Rehearsal) (w p : Nat) (h : TransactionHandle) (alarm : Option Rat)
    (sure : Prop) : Prop where
  /-- The deadline is ahead, or the wait has not seen yet that it is over. -/
  | «open» (wait : Waiting r w p (.probing h p) alarm) (probe : Looking r w p h.txHash sure)
  /-- The deadline was over first. -/
  | closing (wait : Waiting r w p (.overdue h p) none) (probe : Leaving r w p) (unsure : ¬sure)
  | answering (f : Frame) (o : Outcome) (frame : f = .probing h p ∨ f = .overdue h p)
      (answers : r.Answers h sure o) (stands : Stands r w [] (.turn [f] [] o))
  | answered (o : Outcome) (answers : r.Answers h sure o) (stands : Stands r w [] (.ended o))

variable {w p : Nat} {ks : List Nat} {r r' : Rehearsal} {h : TransactionHandle}
  {alarm : Option Rat} {sure : Prop} {f : Frame} {x : String}

/-! ## Two tasks -/

private theorem ne_of_turn {ws ws' : List Nat} {stack fs : List Frame} {o : Outcome} {st : Standing}
    (hp : Stands r p ws' st) (hw : Stands r w ws (.turn stack fs o))
    (other : ∀ stack fs o, st ≠ .turn stack fs o) : w ≠ p := by
  rintro rfl
  obtain ⟨stack', rfl⟩ := hp.eq_turn hw.fits
  exact other _ _ _ rfl

theorem answers_receiptOf (found : (r.ledger.receipt? h.txHash).isSome = true) :
    r.Answers h sure (r.receiptOf h) := by
  obtain ⟨receipt, hr⟩ := Option.isSome_iff_exists.1 found
  exact .inl ⟨receipt, hr, by rw [receiptOf, hr]⟩

private theorem not_sure_of_none (known : sure → (r.ledger.receipt? x).isSome = true)
    (none : r.ledger.receipt? x = none) : ¬sure := by
  intro hs
  have hsome := known hs
  rw [none] at hsome
  cases hsome

theorem Sound.receipt?_act (sound : Sound w ks r) (a : Act) {receipt : TransactionReceipt}
    (hr : r.ledger.receipt? x = some receipt) : (r.act a).ledger.receipt? x = some receipt := by
  rw [sound.act_ledger a]
  exact Ledger.receipt?_of_prefix (Ledger.receipts_prefix_run r.ledger (r.events a)) hr

theorem Sound.found_act (sound : Sound w ks r) (a : Act)
    (found : (r.ledger.receipt? x).isSome = true) :
    ((r.act a).ledger.receipt? x).isSome = true := by
  obtain ⟨receipt, hr⟩ := Option.isSome_iff_exists.1 found
  rw [sound.receipt?_act a hr]
  rfl

theorem Answers.act {o : Outcome} (ha : r.Answers h sure o) (sound : Sound w ks r) (a : Act) :
    (r.act a).Answers h sure o := by
  rcases ha with ⟨receipt, hr, rfl⟩ | ⟨hsure, rfl⟩
  · exact .inl ⟨receipt, sound.receipt?_act a hr, rfl⟩
  · refine .inr ⟨hsure, ?_⟩
    rw [Ledger.finalityTimeout, Ledger.finalityTimeout, sound.act_ledger a, Ledger.run_setup]

/-! ## The turn of a wait -/

/-- A wait whose deadline is over calls its probe off. -/
private theorem turn_giveUp (sound : Sound w ks r)
    (stands : Stands r w [] (.turn [.probing h p] [.probing h p] (.ok .nothing))) (hne : w ≠ p)
    {o : Outcome} {withdrawn : Bool} (out : r.crew.outcome? p = none)
    (cancelled : (r.crew.cancelOne p).1.about p =
      (some ⟨[.heeded], .scheduled o, withdrawn, [w]⟩, [], 1))
    (gives : ∃ e, (if withdrawn then .error .cancelled else o) = .error e) (unsure : ¬sure) :
    Begun (r.act .tick) w p h alarm sure := by
  have hcancel : r.crew.cancel p = (r.crew.cancelOne p).1 := sound.crew.cancel_eq p
  have hblock : r.resume (.ok .nothing) (.probing h p) =
      ({ r with crew := (r.crew.cancelOne p).1 }, .block [.overdue h p] (.ending p none)) := by
    rw [← hcancel]
    simp only [resume, afterProbe, out]
    rfl
  have hwait := stands.awaits hblock (Crew.spares_cancelOne hne.symm) hne.symm (by simp)
  obtain ⟨htask, hentries, hturns⟩ := Crew.parts_of_about cancelled
  have halive : (r.crew.cancelOne p).1.outcome? p = none := by
    simp only [Crew.outcome?, htask]
  -- It notes the wait a second time, so it will tell of its end twice.
  have hprobe : Stands (r.act .tick) p [w, w] (.due [.heeded] o withdrawn) := by
    rw [act_tick_of_running stands.fits, advance_cons, hblock]
    refine ⟨⟨o, (Crew.about_block_child hne halive _ none).1.trans ?_⟩, idle_of_none rfl, trivial⟩
    rw [htask, hentries, hturns]
    rfl
  refine .closing (.awaiting hwait fun hout => ?_) (.due [w, w] o withdrawn hprobe (by simp) gives)
    unsure
  rw [hprobe.outcome?_eq] at hout
  cases hout

/-- The turn of a wait whose probe is out: the probe has found the receipt, or it is called off. -/
theorem turn_probing (sound : Sound w ks r)
    (stands : Stands r w [] (.turn [.probing h p] [.probing h p] (.ok .nothing)))
    (probe : Looking r w p h.txHash sure)
    (known : sure → (r.ledger.receipt? h.txHash).isSome = true) :
    Begun (r.act .tick) w p h alarm sure := by
  have hr : r.running = some (w, [.probing h p], .ok .nothing) := stands.fits
  cases probe with
  | sent st first idle => exact absurd hr (idle _ _)
  | looking st => cases hr.symm.trans st.fits
  | seen stack fs frames st found => rcases frames with rfl | rfl <;> cases hr.symm.trans st.fits
  | listening st =>
    -- The probe has not heard of the receipt, so it is called off and takes a turn for that.
    obtain ⟨o, htask, -, hturns⟩ := st.parts
    have hcancelled := Crew.about_cancelOne_blocked htask
    rw [hturns] at hcancelled
    have hne : w ≠ p := ne_of_turn st stands (by simp)
    have hout : r.crew.outcome? p = none := st.outcome?_eq
    have hunsure : ¬sure := not_sure_of_none known st.lasts
    exact turn_giveUp sound stands hne hout hcancelled ⟨.cancelled, rfl⟩ hunsure
  | woken st found unsure =>
    -- The probe was woken in the same breath as the wait, which has its turn before it.
    obtain ⟨o, htask, hentries, hturns⟩ := st.parts
    have hcancelled := Crew.about_cancelOne_scheduled htask
    rw [hentries, hturns] at hcancelled
    have hne : w ≠ p := ne_of_turn st stands (by simp)
    have hout : r.crew.outcome? p = none := st.outcome?_eq
    exact turn_giveUp sound stands hne hout hcancelled ⟨.cancelled, rfl⟩ unsure
  | found st found =>
    have hgo : r.resume (.ok .nothing) (.probing h p) = (r, .go [] (r.receiptOf h)) := by
      simp only [resume, afterProbe, st.outcome?_eq]
    have hanswers : (r.act .tick).Answers h sure (r.receiptOf h) :=
      (answers_receiptOf found).act sound .tick
    exact .answering _ _ (.inl rfl) hanswers (stands.goes hgo rfl)

/-- The turn of a wait that has called its probe off. -/
theorem turn_overdue (sound : Sound w ks r)
    (stands : Stands r w [] (.turn [.overdue h p] [.overdue h p] (.ok .nothing)))
    (probe : Leaving r w p) (unsure : ¬sure) : Begun (r.act .tick) w p h alarm sure := by
  have hgo : r.resume (.ok .nothing) (.overdue h p) =
      (r, .go [] (.error r.ledger.finalityTimeout)) := by
    -- A probe that was called off does not end well.
    have hout : ∀ v, r.crew.outcome? p ≠ some (.ok v) := by
      intro v hv
      cases probe with
      | due ws o withdrawn st => cases st.outcome?_eq.symm.trans hv
      | turn ws fs e frames st => cases st.outcome?_eq.symm.trans hv
      | gone e st => cases st.outcome?_eq.symm.trans hv
    simp only [resume, afterDeadline, Outcome.isCancelled, Bool.false_eq_true, if_false]
  have hanswers : (r.act .tick).Answers h sure (.error r.ledger.finalityTimeout) :=
    Answers.act (.inr ⟨unsure, rfl⟩) sound .tick
  exact .answering _ _ (.inr rfl) hanswers (stands.goes hgo rfl)

theorem Begun.turn (b : Begun r w p h alarm sure) (sound : Sound w ks r) {fs : List Frame}
    {o : Outcome} (hr : r.running = some (w, fs, o))
    (known : sure → (r.ledger.receipt? h.txHash).isSome = true) :
    Begun (r.act .tick) w p h alarm sure := by
  cases b with
  | «open» wait probe =>
    cases wait with
    | awaiting st told => exact absurd hr (st.fits fs o)
    | due st => exact absurd hr (st.fits fs o)
    | turn st => exact turn_probing sound st probe known
  | closing wait probe unsure =>
    cases wait with
    | awaiting st told => exact absurd hr (st.fits fs o)
    | due st => exact absurd hr (st.fits fs o)
    | turn st => exact turn_overdue sound st probe unsure
  | answering f o frame answers st => exact .answered o (answers.act sound .tick) st.finish.1
  | answered o answers st => exact absurd hr (st.fits fs _)

/-! ## What happens beside a wait and its probe -/

theorem Waiting.beside (wait : Waiting r w p f alarm) (hb : Beside w r r')
    (told : (r'.crew.outcome? p).isSome = true →
      (r.crew.outcome? p).isSome = true ∨ .news w p ∈ r'.crew.queue) :
    Waiting r' w p f alarm := by
  cases wait with
  | awaiting st told' =>
    rcases st.beside hb with st' | ⟨stack, st', ⟨child, d, he⟩ | ⟨x, he, -⟩⟩
    · exact .awaiting st' fun hout => (told hout).elim
        (fun hout => hb.mem_queue (by simp [isFor]) (told' hout)) id
    · cases he
      exact .due st'
    · cases he
  | due st => exact .due (st.beside_of_busy hb (by simp) (by simp))
  | turn st => exact .turn (st.beside_of_busy hb (by simp) (by simp))

private theorem Precedes.beside (hb : Beside p r r') (first : r.Precedes p w) :
    r'.Precedes p w := by
  obtain ⟨done, rest, htaken, ⟨more, hmore⟩, hothers⟩ := hb.queue
  rw [Precedes, htaken, List.find?_append] at first
  -- The turn of the probe cannot be among what is done, since that is not for the probe.
  cases hd : done.find? fun d => isTurn w d || isTurn p d with
  | none =>
    rw [hd, Option.none_or] at first
    rw [Precedes, ← hmore, List.find?_append, first]
    rfl
  | some d =>
    rw [hd, Option.some_or, Option.some.injEq] at first
    subst first
    have := hothers _ (List.mem_of_find?_eq_some hd)
    simp [isFor] at this

theorem Looking.beside (probe : Looking r w p x sure) (hb : Beside p r r')
    (order : r.Precedes p w → r.Idle w → r'.Idle w)
    (known : sure → (r.ledger.receipt? x).isSome = true) : Looking r' w p x sure := by
  have hkept : (r.ledger.receipt? x).isSome = true → (r'.ledger.receipt? x).isSome = true :=
    fun found => by
      obtain ⟨receipt, hr⟩ := Option.isSome_iff_exists.1 found
      rw [Ledger.receipt?_of_prefix hb.receipts hr]
      rfl
  cases probe with
  | sent st first idle =>
    exact .sent (st.beside_of_busy hb (by simp) (by simp)) (first.beside hb) (order first idle)
  | looking st => exact .looking (st.beside_of_busy hb (by simp) (by simp))
  | listening st =>
    rcases st.beside hb with st' | ⟨stack, st', ⟨child, d, he⟩ | ⟨y, he, found⟩⟩
    · exact .listening st'
    · cases he
    · cases he
      exact .woken st' found (not_sure_of_none known st.lasts)
  | woken st found unsure =>
    exact .woken (st.beside_of_busy hb (by simp) (by simp)) (hkept found) unsure
  | seen stack fs frames st found =>
    exact .seen stack fs frames (st.beside_of_busy hb (by simp) (by simp)) (hkept found)
  | found st found => exact .found (st.beside_of_busy hb (by simp) (by simp)) (hkept found)

theorem Leaving.beside (probe : Leaving r w p) (hb : Beside p r r') : Leaving r' w p := by
  cases probe with
  | due ws o withdrawn st watched gives =>
    exact .due ws o withdrawn (st.beside_of_busy hb (by simp) (by simp)) watched gives
  | turn ws fs e frames st watched =>
    exact .turn ws fs e frames (st.beside_of_busy hb (by simp) (by simp)) watched
  | gone e st => exact .gone e (st.beside_of_busy hb (by simp) (by simp))

/-! ## The turn of a probe -/

private theorem silent {ws : List Nat} {st : Standing} {P : Prop} (hs : Stands r p ws st)
    (other : ∀ o, st ≠ .ended o) (out : (r.crew.outcome? p).isSome = true) : P := by
  rw [hs.alive other] at out
  cases out

/-- A probe looks for the receipt when it has its turn. -/
theorem Looking.own (probe : Looking r w p x sure) (sound : Sound w ks r) {a : Act}
    (concerns : r.Concerns p a) :
    Looking (r.act a) w p x sure ∧ (((r.act a).crew.outcome? p).isSome = true →
      (r.crew.outcome? p).isSome = true ∨ .news w p ∈ (r.act a).crew.queue) := by
  cases concerns with
  | turn fs o hr =>
    cases probe with
    | sent st => exact absurd hr (st.fits fs o)
    | listening st => exact absurd hr (st.fits fs o)
    | woken st => exact absurd hr (st.fits fs o)
    | found st => exact absurd hr (st.fits fs o)
    | looking st =>
      cases hx : r.ledger.receipt? x with
      | none =>
        have hblock : r.resume (.ok .nothing) (.heed (.final x)) =
            (r, .block [.heeded] (.signal (.final x))) := by
          simp [resume, whenBegun, heed, raised, hx]
        have st' := st.listens hblock hx
        exact ⟨.listening st', silent st' (by simp)⟩
      | some receipt =>
        have hgo : r.resume (.ok .nothing) (.heed (.final x)) = (r, .go [] (.ok .nothing)) := by
          simp [resume, whenBegun, heed, raised, hx]
        have st' := st.goes hgo rfl
        exact ⟨.seen _ _ (.inr rfl) st' (sound.found_act .tick (by rw [hx]; rfl)),
          silent st' (by simp)⟩
    | seen stack fs frames st found =>
      rcases frames with rfl | rfl
      · have hgo : r.resume (.ok .nothing) .heeded = (r, .go [] (.ok .nothing)) := rfl
        have st' := st.goes hgo rfl
        exact ⟨.seen _ _ (.inr rfl) st' (sound.found_act .tick found), silent st' (by simp)⟩
      · obtain ⟨st', hqueue⟩ := st.finish
        refine ⟨.found st' (sound.found_act .tick found), fun _ => .inr ?_⟩
        rw [hqueue]
        simp
  | take queue hr hq =>
    have hmem : Due.turn p ∈ r.crew.queue := hq ▸ List.mem_cons_self
    cases probe with
    | sent st =>
      have st' := (st.take hr hq).1
      exact ⟨.looking st', silent st' (by simp)⟩
    | woken st found =>
      have st' := (st.take hr hq).1
      exact ⟨.seen _ _ (.inl rfl) st' (sound.found_act .tick found), silent st' (by simp)⟩
    | looking st => obtain ⟨_, _, _, he⟩ := st.eq_due hmem; cases he
    | listening st => obtain ⟨_, _, _, he⟩ := st.eq_due hmem; cases he
    | seen _ _ _ st => obtain ⟨_, _, _, he⟩ := st.eq_due hmem; cases he
    | found st => obtain ⟨_, _, _, he⟩ := st.eq_due hmem; cases he
  | news child queue hr hq =>
    have hidle : (r.act .tick).Idle w := idle_of_none (running_of_news hr hq)
    cases probe with
    | sent st first idle =>
      obtain ⟨st', hqueue⟩ := st.tell_of_busy hr hq (by simp)
      refine ⟨.sent st' ?_ hidle, silent st' (by simp)⟩
      rw [Precedes, hqueue]
      rwa [Precedes, hq, List.find?_cons_of_neg (by simp [isTurn])] at first
    | looking st => exact absurd st.fits (by simp [Standing.Fits, hr])
    | listening st =>
      have st' := (st.tell_of_busy hr hq (by simp)).1
      exact ⟨.listening st', silent st' (by simp)⟩
    | woken st found unsure =>
      have st' := (st.tell_of_busy hr hq (by simp)).1
      exact ⟨.woken st' (sound.found_act .tick found) unsure, silent st' (by simp)⟩
    | seen _ _ _ st => exact absurd st.fits (by simp [Standing.Fits, hr])
    | found st found =>
      have hout : (r.crew.outcome? p).isSome = true := by rw [st.outcome?_eq]; rfl
      exact ⟨.found (st.tell_of_busy hr hq (by simp)).1 (sound.found_act .tick found),
        fun _ => .inl hout⟩

/-- A probe that was called off ends when it has its turn. -/
theorem Leaving.own (probe : Leaving r w p) {a : Act} (concerns : r.Concerns p a) :
    Leaving (r.act a) w p ∧ (((r.act a).crew.outcome? p).isSome = true →
      (r.crew.outcome? p).isSome = true ∨ .news w p ∈ (r.act a).crew.queue) := by
  cases concerns with
  | turn fs o hr =>
    cases probe with
    | due ws o withdrawn st => exact absurd hr (st.fits fs _)
    | gone e st => exact absurd hr (st.fits fs o)
    | turn ws fs' e frames st watched =>
      rcases frames with rfl | rfl
      · have hgo : r.resume (.error e) .heeded = (r, .go [] (.error e)) := rfl
        have st' := st.goes hgo rfl
        exact ⟨.turn ws _ e (.inr rfl) st' watched, silent st' (by simp)⟩
      · obtain ⟨st', hqueue⟩ := st.finish
        refine ⟨.gone e st', fun _ => .inr ?_⟩
        rw [hqueue]
        exact List.mem_append_right _ (List.mem_map.2 ⟨w, watched, rfl⟩)
  | take queue hr hq =>
    have hmem : Due.turn p ∈ r.crew.queue := hq ▸ List.mem_cons_self
    cases probe with
    | due ws o withdrawn st watched gives =>
      obtain ⟨e, he⟩ := gives
      have st' := (st.take hr hq).1
      rw [he] at st'
      exact ⟨.turn ws _ e (.inl rfl) st' watched, silent st' (by simp)⟩
    | turn _ _ _ _ st => obtain ⟨_, _, _, he⟩ := st.eq_due hmem; cases he
    | gone _ st => obtain ⟨_, _, _, he⟩ := st.eq_due hmem; cases he
  | news child queue hr hq =>
    cases probe with
    | due ws o withdrawn st watched gives =>
      have st' := (st.tell_of_busy hr hq (by simp)).1
      exact ⟨.due ws o withdrawn st' watched gives, silent st' (by simp)⟩
    | turn _ _ _ _ st => exact absurd st.fits (by simp [Standing.Fits, hr])
    | gone e st =>
      have hout : (r.crew.outcome? p).isSome = true := by rw [st.outcome?_eq]; rfl
      exact ⟨.gone e (st.tell_of_busy hr hq (by simp)).1, fun _ => .inl hout⟩

/-! ## News and the queue -/

/-- A wait whose probe is out hears news, or takes its turn. -/
theorem Waiting.hears (wait : Waiting r w p f alarm) (hr : r.running = none) {child : Nat}
    {queue : List Due} (hq : r.crew.queue = .news w child :: queue)
    (told : ((r.act .tick).crew.outcome? p).isSome = true → (r.crew.outcome? p).isSome = true) :
    Waiting (r.act .tick) w p f alarm := by
  cases wait with
  | awaiting st told' =>
    rcases st.tell hr hq with ⟨st', hqueue, hdeaf⟩ | ⟨stack, alarm', he, st'⟩
    · refine .awaiting st' fun hout => ?_
      have hold := told hout
      have hmem := told' hold
      rw [hq] at hmem
      rcases List.mem_cons.1 hmem with he | hmem
      · cases he
        exact absurd rfl (hdeaf hold [f] alarm)
      · exact hqueue ▸ hmem
    · cases he
      exact .due st'
  | due st => exact .due (st.tell_of_busy hr hq (by simp)).1
  | turn st => exact absurd st.fits (by simp [Standing.Fits, hr])

theorem Waiting.takes (wait : Waiting r w p f alarm) (hr : r.running = none) {queue : List Due}
    (hq : r.crew.queue = .turn w :: queue) : Waiting (r.act .tick) w p f alarm := by
  have hmem : Due.turn w ∈ r.crew.queue := hq ▸ List.mem_cons_self
  cases wait with
  | awaiting st told => obtain ⟨_, _, _, he⟩ := st.eq_due hmem; cases he
  | due st => exact .turn (st.take hr hq).1
  | turn st => obtain ⟨_, _, _, he⟩ := st.eq_due hmem; cases he

/-! ## Steps -/

theorem Looking.exists_stands (probe : Looking r w p x sure) : ∃ ws st, Stands r p ws st := by
  cases probe <;> exact ⟨_, _, ‹_›⟩

theorem Leaving.exists_stands (probe : Leaving r w p) : ∃ ws st, Stands r p ws st := by
  cases probe <;> exact ⟨_, _, ‹_›⟩

/-- A wait that is under way with a frame has not ended, and shows that frame on its stack. -/
theorem Waiting.exists_stands (wait : Waiting r w p f alarm) :
    ∃ st, Stands r w [] st ∧ (∀ o, st ≠ .ended o) ∧
      ∀ o, (st.record w [] o).1.map (·.stack) = some [f] := by
  cases wait with
  | awaiting st told => exact ⟨_, st, by simp, fun _ => rfl⟩
  | due st => exact ⟨_, st, by simp, fun _ => rfl⟩
  | turn st => exact ⟨_, st, by simp, fun _ => rfl⟩

/-- A wait that has begun stands with its last frame, or has ended with a right answer. -/
theorem Begun.exists_stands (b : Begun r w p h alarm sure) :
    ∃ st, Stands r w [] st ∧
      ((∃ f, (f = .probing h p ∨ f = .overdue h p) ∧ (∀ o, st ≠ .ended o) ∧
          ∀ o, (st.record w [] o).1.map (·.stack) = some [f]) ∨
        ∃ o, r.Answers h sure o ∧ st = .ended o) := by
  cases b with
  | «open» wait probe =>
    obtain ⟨st, hs, alive, shows⟩ := wait.exists_stands
    exact ⟨st, hs, .inl ⟨_, .inl rfl, alive, shows⟩⟩
  | closing wait probe unsure =>
    obtain ⟨st, hs, alive, shows⟩ := wait.exists_stands
    exact ⟨st, hs, .inl ⟨_, .inr rfl, alive, shows⟩⟩
  | answering f o frame answers st => exact ⟨_, st, .inl ⟨f, frame, by simp, fun _ => rfl⟩⟩
  | answered o answers st => exact ⟨_, st, .inr ⟨o, answers, rfl⟩⟩

/-- What does not concern a task of the wait happens beside it. -/
private theorem beside_of_stands (sound : Sound w ks r) {t : Nat} (ht : t ∈ ks)
    (stands : ∃ ws st, Stands r t ws st) {a : Act} (elsewhere : ¬r.Concerns t a)
    (other : ∀ fs o, a = .tick → r.running ≠ some (w, fs, o)) : Beside t r (r.act a) := by
  obtain ⟨ws, st, hs⟩ := stands
  exact beside_act sound hs.lt hs.entries elsewhere (sound.not_callsOff ht other)

/-- What is next in the queue is for the wait itself. -/
private theorem Begun.next (b : Begun r w p h alarm sure) (sound : Sound w ks r) (hp : p ∈ ks)
    (hne : w ≠ p) (known : sure → (r.ledger.receipt? h.txHash).isSome = true)
    (hr : r.running = none) {d : Due} {queue : List Due} (hq : r.crew.queue = d :: queue)
    (hd : d = .turn w ∨ ∃ child, d = .news w child) : Begun (r.act .tick) w p h alarm sure := by
  -- It concerns the wait, so it passes the probe by.
  have hconcerns : r.Concerns w .tick := by
    rcases hd with rfl | ⟨child, rfl⟩
    · exact .take queue hr hq
    · exact .news child queue hr hq
  have hbeside : (∃ ws st, Stands r p ws st) → Beside p r (r.act .tick) := fun hs =>
    beside_of_stands sound hp hs (fun hc => hne (hconcerns.eq hc))
      (fun fs o _ ht => by rw [hr] at ht; cases ht)
  -- The wait cannot take its turn now if the probe is to have its own before.
  have horder : r.Precedes p w → r.Idle w → (r.act .tick).Idle w := by
    intro hfirst _
    rcases hd with rfl | ⟨child, rfl⟩
    · rw [Precedes, hq, List.find?_cons_of_pos (by simp [isTurn])] at hfirst
      cases hfirst
      exact absurd rfl hne
    · exact idle_of_none (running_of_news hr hq)
  have hwait : ∀ {f alarm}, Waiting r w p f alarm → Beside p r (r.act .tick) →
      Waiting (r.act .tick) w p f alarm := by
    intro f alarm wait hb
    rcases hd with rfl | ⟨child, rfl⟩
    · exact wait.takes hr hq
    · exact wait.hears hr hq hb.outcome?_isSome
  cases b with
  | «open» wait probe =>
    have hb := hbeside probe.exists_stands
    exact .open (hwait wait hb) (probe.beside hb horder known)
  | closing wait probe unsure =>
    have hb := hbeside probe.exists_stands
    exact .closing (hwait wait hb) (probe.beside hb) unsure
  | answering f o frame answers st => exact absurd st.fits (by simp [Standing.Fits, hr])
  | answered o answers st =>
    rcases hd with rfl | ⟨child, rfl⟩
    · obtain ⟨_, _, _, he⟩ := st.eq_due (hq ▸ List.mem_cons_self)
      cases he
    · exact .answered o (answers.act sound .tick) (st.tell_of_busy hr hq (by simp)).1

/-- **A wait that has begun is in one of its phases, whatever happens.** -/
theorem Begun.step (b : Begun r w p h alarm sure) (sound : Sound w ks r) (hw : w ∈ ks) (hp : p ∈ ks)
    (hne : w ≠ p) (known : sure → (r.ledger.receipt? h.txHash).isSome = true) (a : Act) :
    Begun (r.act a) w p h alarm sure := by
  by_cases hcw : r.Concerns w a
  · cases hcw with
    | turn fs o hr => exact b.turn sound hr known
    | take queue hr hq => exact b.next sound hp hne known hr hq (.inl rfl)
    | news child queue hr hq => exact b.next sound hp hne known hr hq (.inr ⟨child, rfl⟩)
  · have hother : ∀ fs o, a = .tick → r.running ≠ some (w, fs, o) := fun fs o ha hr =>
      hcw (ha ▸ .turn fs o hr)
    -- What does not concern the wait itself may still concern its probe.
    obtain ⟨st, hs, -⟩ := b.exists_stands
    have hbw := beside_of_stands sound hw ⟨[], st, hs⟩ hcw hother
    have hidle : r.Precedes p w → r.Idle w → (r.act a).Idle w := fun _ hi fs o hr =>
      hi fs o ((hbw.running fs o).1 hr)
    cases b with
    | «open» wait probe =>
      by_cases hcp : r.Concerns p a
      · obtain ⟨probe', told⟩ := probe.own sound hcp
        exact .open (wait.beside hbw told) probe'
      · have hbp := beside_of_stands sound hp probe.exists_stands hcp hother
        exact .open (wait.beside hbw fun hout => .inl (hbp.outcome?_isSome hout))
          (probe.beside hbp hidle known)
    | closing wait probe unsure =>
      by_cases hcp : r.Concerns p a
      · obtain ⟨probe', told⟩ := probe.own hcp
        exact .closing (wait.beside hbw told) probe' unsure
      · have hbp := beside_of_stands sound hp probe.exists_stands hcp hother
        exact .closing (wait.beside hbw fun hout => .inl (hbp.outcome?_isSome hout))
          (probe.beside hbp) unsure
    | answering f o frame answers st =>
      exact .answering f o frame (answers.act sound a) (st.beside_of_busy hbw (by simp) (by simp))
    | answered o answers st =>
      exact .answered o (answers.act sound a) (st.beside_of_busy hbw (by simp) (by simp))

/-! ## The beginning -/

/-- A wait that begins sends out a probe, which has its turn before the wait goes on. -/
private theorem turn_begins (sound : Sound w ks r)
    (stands : Stands r w [] (.turn [.serve (.finality h)] [.finality h] (.ok .nothing)))
    (known : h.txHash ∈ r.ledger.known) :
    Begun (r.act .tick) w r.crew.tasks.length h r.deadline? sure ∧
      r.crew.tasks.length < (r.act .tick).crew.tasks.length := by
  have hne : w ≠ r.crew.tasks.length := Nat.ne_of_lt stands.lt
  have hblock : r.resume (.ok .nothing) (.finality h) =
      ((r.spawn [.heed (.final h.txHash)]).1,
        .block [.probing h r.crew.tasks.length] (.ending r.crew.tasks.length r.deadline?)) := by
    have hk : r.ledger.known.contains h.txHash = true := List.contains_iff_mem.2 known
    have hp : (r.spawn [.heed (.final h.txHash)]).1.ledger.setup.finalityTimeout.isOver = false :=
      sound.positive
    simp only [resume, whenBegun, awaitFinality, hk, hp, Bool.not_true, Bool.false_eq_true,
      if_false]
    rfl
  -- The timeout takes time, so the deadline is still ahead.
  have hearly : ∀ d, r.deadline? = some d → r.crew.now < d := by
    intro d hd
    obtain ⟨s, hs, rfl⟩ := Option.map_eq_some_iff.1 hd
    exact lt_add_of_pos_right _ (Duration.length_pos sound.positive hs)
  have hwait := stands.awaits hblock (Crew.spares_spawn hne _) hne.symm hearly
  obtain ⟨htask, hentries, hturns⟩ :=
    Crew.parts_of_about (sound.crew.about_spawn [Frame.heed (.final h.txHash)])
  have halive : (r.crew.spawn [Frame.heed (.final h.txHash)]).1.outcome? r.crew.tasks.length =
      none := by
    simp only [Crew.outcome?, htask]
  have hprobe : Stands (r.act .tick) r.crew.tasks.length [w]
      (.due [.heed (.final h.txHash)] (.ok .nothing) false) := by
    rw [act_tick_of_running stands.fits, advance_cons, hblock]
    refine ⟨⟨.ok .nothing, (Crew.about_block_child hne halive _ _).1.trans ?_⟩, idle_of_none rfl,
      trivial⟩
    rw [htask, hentries, hturns]
    rfl
  have hqueue : (r.act .tick).crew.queue = r.crew.queue ++ [.turn r.crew.tasks.length] := by
    rw [act_tick_of_running stands.fits, advance_cons, hblock]
    exact (Crew.about_block_child hne halive _ _).2
  -- The turn of the probe is put into the queue, where none of either is.
  have hfirst : (r.act .tick).Precedes r.crew.tasks.length w := by
    have hnone : r.crew.queue.find? (fun d => isTurn w d || isTurn r.crew.tasks.length d) =
        none := by
      refine List.find?_eq_none.2 fun d hd hturn => ?_
      cases d with
      | news a b => cases hturn
      | turn t =>
        simp only [isTurn, Bool.or_eq_true, beq_iff_eq] at hturn
        rcases hturn with rfl | rfl
        · obtain ⟨_, _, _, he⟩ := stands.eq_due hd
          cases he
        · exact Nat.lt_irrefl _ (sound.crew.due _ hd)
    rw [Precedes, hqueue, List.find?_append, hnone, Option.none_or]
    simp [isTurn]
  have hidle : (r.act .tick).Idle w := hwait.fits
  refine ⟨.open (.awaiting hwait fun hout => ?_) (.sent hprobe hfirst hidle), hprobe.lt⟩
  rw [hprobe.alive (by simp)] at hout
  cases hout

/-- **A wait that has not begun stays so or begins**, whatever happens. -/
theorem Unbegun.step (sure : Prop) (u : Unbegun r w h) (sound : Sound w ks r) (hw : w ∈ ks)
    (known : h.txHash ∈ r.ledger.known) (a : Act) :
    Unbegun (r.act a) w h ∨
      a = .tick ∧ (∃ o, r.running = some (w, [.finality h], o)) ∧
        Begun (r.act a) w r.crew.tasks.length h r.deadline? sure ∧
          r.crew.tasks.length < (r.act a).crew.tasks.length := by
  by_cases hc : r.Concerns w a
  · cases hc with
    | turn fs o hr =>
      cases u with
      | due st => exact absurd hr (st.fits fs o)
      | turn f frame st =>
        rcases frame with rfl | rfl
        · have hfree := sound.answers .finality
          have hgo : r.resume (.ok .nothing) (.serve (.finality h)) =
              ({ r with calls := r.calls ++ [.finality] }, .go [.finality h] (.ok .nothing)) := by
            simp [resume, whenBegun, serve, work, GatewayCall.method, hfree, Control.none]
          exact .inl (.turn (.finality h) (.inr rfl) (st.goes hgo rfl))
        · exact .inr ⟨rfl, ⟨_, st.fits⟩, turn_begins sound st known⟩
    | take queue hr hq =>
      cases u with
      | due st => exact .inl (.turn _ (.inl rfl) (st.take hr hq).1)
      | turn f frame st => exact absurd st.fits (by simp [Standing.Fits, hr])
    | news child queue hr hq =>
      cases u with
      | due st => exact .inl (.due (st.tell_of_busy hr hq (by simp)).1)
      | turn f frame st => exact absurd st.fits (by simp [Standing.Fits, hr])
  · have hother : ∀ fs o, a = .tick → r.running ≠ some (w, fs, o) := fun fs o ha hr =>
      hc (ha ▸ .turn fs o hr)
    have hstands : ∃ ws st, Stands r w ws st := by
      cases u <;> exact ⟨_, _, ‹_›⟩
    have hb := beside_of_stands sound hw hstands hc hother
    cases u with
    | due st => exact .inl (.due (st.beside_of_busy hb (by simp) (by simp)))
    | turn f frame st => exact .inl (.turn f frame (st.beside_of_busy hb (by simp) (by simp)))

/-! ## Rest -/

end Plunder.Rehearsal
