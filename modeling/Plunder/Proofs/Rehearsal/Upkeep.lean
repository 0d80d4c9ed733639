import Plunder.Proofs.Rehearsal.Crew

/-!
# What is true of every task

An operation on a crew gives frames to at most one task; the others keep what they have, or lose it.
So what is true of the frames of every task stays true, if it is true of the frames that are given.

Main statements:
- `Keeps`: what a crew keeps to
- `Keeps` for every operation
-/

namespace Plunder

/-- Whether the frames of a task are as they should be, and the task waits for no more than one
other task and goes on by itself in time. -/
structure Task.Keeps {F : Type} (Q : F → Prop) (now : Rat) (task : Task F) : Prop where
  frames : ∀ f ∈ task.stack, Q f
  single : ∀ ts heard withdrawn, task.mode ≠ .blocked (.all ts heard withdrawn)
  ahead : ∀ d, Crew.dueOf task = some d → now < d

/-- What a task keeps to depends on its frames and its mode. -/
theorem Task.Keeps.of_eq {F : Type} {Q : F → Prop} {now : Rat} {task task' : Task F}
    (h : task.Keeps Q now) (stack : task'.stack = task.stack) (mode : task'.mode = task.mode) :
    task'.Keeps Q now where
  frames := stack ▸ h.frames
  single := mode ▸ h.single
  ahead := by
    have hdue : Crew.dueOf task' = Crew.dueOf task := by rw [Crew.dueOf, mode, Crew.dueOf]
    rw [hdue]
    exact h.ahead

namespace Crew

variable {F : Type} {c c' : Crew F} {n t u : Nat} {now : Rat} {Q Q' : Nat → F → Prop}

/-- What a crew keeps to: a number of tasks whose frames are as they should be, a time that none of
them is behind, and nothing due or awaited but by one of them. -/
structure Keeps (n : Nat) (now : Rat) (Q : Nat → F → Prop) (c : Crew F) : Prop where
  length_eq : c.tasks.length = n
  now_eq : c.now = now
  tasks : ∀ t (task : Task F), c.tasks[t]? = some task → task.Keeps (Q t) now
  due : ∀ t, .turn t ∈ c.queue → t < n
  waits : ∀ e ∈ c.waiting, e.1 < n

namespace Keeps

theorem empty (Q : Nat → F → Prop) : (Crew.empty : Crew F).Keeps 0 0 Q where
  length_eq := rfl
  now_eq := rfl
  tasks _ _ h := by cases h
  due _ h := by cases h
  waits _ h := by cases h

theorem mono (h : c.Keeps n now Q) (hQ : ∀ t f, Q t f → Q' t f) : c.Keeps n now Q' where
  length_eq := h.length_eq
  now_eq := h.now_eq
  tasks t task ht :=
    have hk := h.tasks t task ht
    ⟨fun f hf => hQ t f (hk.frames f hf), hk.single, hk.ahead⟩
  due := h.due
  waits := h.waits

theorem lt_of_task (h : c.Keeps n now Q) {task : Task F} (ht : c.tasks[t]? = some task) : t < n :=
  h.length_eq ▸ (List.getElem?_eq_some_iff.1 ht).1

/-- Nothing is said of tasks that are still to come. -/
theorem about_of_le (h : c.Keeps n now Q) (ht : n ≤ t) : c.about t = (none, [], 0) := by
  have htask : c.tasks[t]? = none := List.getElem?_eq_none (h.length_eq ▸ ht)
  have hentries : c.entries t = [] := by
    apply List.filter_eq_nil_iff.2
    intro e he
    have := h.waits e he
    simp only [beq_iff_eq]
    omega
  have hturns : c.turns t = 0 := by
    apply List.countP_eq_zero.2
    intro d hd
    cases d with
    | news a b => simp [isTurn]
    | turn u =>
      have := h.due u hd
      simp only [isTurn, beq_iff_eq]
      omega
  rw [about, htask, hentries, hturns]

/-! ## Operations -/

theorem modify (h : c.Keeps n now Q) {f : Task F → Task F}
    (hf : ∀ task, c.tasks[t]? = some task → (f task).Keeps (Q t) now) :
    (c.modify t f).Keeps n now Q where
  length_eq := by rw [← h.length_eq, Crew.modify, List.length_modify]
  now_eq := h.now_eq
  tasks u task hu := by
    simp only [Crew.modify, List.getElem?_modify] at hu
    by_cases htu : t = u
    · subst htu
      obtain ⟨old, hold, rfl⟩ := Option.map_eq_some_iff.1 hu
      simpa using hf old hold
    · exact h.tasks u task (by simpa [htu] using hu)
  due := h.due
  waits := h.waits

/-- Changes to what is due and awaited that bring nothing new. -/
theorem subset (h : c.Keeps n now Q) {queue : List Due} {waiting : List (Nat × Signal)}
    (hq : ∀ t, .turn t ∈ queue → t < n) (hw : ∀ e ∈ waiting, e.1 < n) :
    Keeps n now Q { c with queue, waiting } :=
  ⟨h.length_eq, h.now_eq, h.tasks, hq, hw⟩

theorem push_news (h : c.Keeps n now Q) (w t : Nat) : (c.push (.news w t)).Keeps n now Q :=
  h.subset (fun t ht => h.due t (by simpa using ht)) h.waits

theorem schedule (h : c.Keeps n now Q) (ht : t < n) (o : Outcome) :
    (c.schedule t o).Keeps n now Q := by
  have hm := h.modify (t := t) (f := fun task => { task with mode := .scheduled o })
    fun task htask => ⟨(h.tasks t task htask).frames, by simp, by simp [dueOf]⟩
  refine hm.subset (fun u hu => ?_) fun e he => h.waits e (List.mem_filter.1 he).1
  rcases List.mem_append.1 hu with hu | hu
  · exact h.due u hu
  · obtain rfl : u = t := by simpa using hu
    exact ht

theorem again (h : c.Keeps n now Q) (ht : t < n) {stack : List F} (hs : ∀ f ∈ stack, Q t f) :
    (c.again t stack).Keeps n now Q := by
  have hm := h.modify (t := t) (f := fun task => { task with stack })
    fun task htask => ⟨hs, (h.tasks t task htask).single, (h.tasks t task htask).ahead⟩
  exact hm.schedule ht _

theorem spawn (h : c.Keeps n now Q) {stack : List F} (hs : ∀ f ∈ stack, Q n f) :
    (c.spawn stack).1.Keeps (n + 1) now Q where
  length_eq := by simp [Crew.spawn, h.length_eq]
  now_eq := h.now_eq
  tasks t task ht := by
    simp only [Crew.spawn] at ht
    -- The new task is the last one, and the others are where they were.
    by_cases htn : t < n
    · rw [List.getElem?_append_left (h.length_eq ▸ htn)] at ht
      exact h.tasks t task ht
    · rw [List.getElem?_append_right (by rw [h.length_eq]; omega), h.length_eq,
        List.getElem?_singleton] at ht
      split at ht
      · obtain rfl : t = n := by omega
        cases ht
        exact ⟨hs, by simp, by simp [dueOf]⟩
      · cases ht
  due t ht := by
    rcases List.mem_append.1 ht with ht | ht
    · exact Nat.lt_succ_of_lt (h.due t ht)
    · obtain rfl : t = n := by simpa [h.length_eq] using ht
      exact Nat.lt_succ_self _
  waits e he := Nat.lt_succ_of_lt (h.waits e he)

/-- Of a new task it is known that its first turn is due, and nothing else. -/
theorem about_spawn (h : c.Keeps n now Q) (stack : List F) :
    (c.spawn stack).1.about c.tasks.length =
      (some ⟨stack, .scheduled (.ok .nothing), false, []⟩, [], 1) := by
  obtain ⟨-, hentries, hturns⟩ := parts_of_about (h.about_of_le (Nat.le_of_eq h.length_eq.symm))
  rw [Crew.about_spawn, hentries, hturns]

theorem watch (h : c.Keeps n now Q) (w t : Nat) : (c.watch w t).Keeps n now Q := by
  unfold Crew.watch
  split
  · exact h.push_news w t
  · exact h.modify fun task htask => (h.tasks t task htask).of_eq rfl rfl

/-- A task waits for a signal, for another task, or for a time that is still to come. -/
theorem block (h : c.Keeps n now Q) (ht : t < n) {stack : List F} (hs : ∀ f ∈ stack, Q t f)
    {w : Wait} (single : ∀ ts heard withdrawn, w ≠ .all ts heard withdrawn)
    (ahead : ∀ d, w.due? = some d → now < d) : (c.block t stack w).Keeps n now Q := by
  have hm := h.modify (t := t) (f := fun task => { task with stack, mode := .blocked w })
    fun task htask => ⟨hs, by simpa using single, ahead⟩
  cases w with
  | signal s =>
    apply hm.subset hm.due
    intro e he
    rcases List.mem_append.1 he with he | he
    · exact h.waits e he
    · obtain rfl : e = (t, s) := by simpa using he
      exact ht
  | alarm due => exact hm
  | all ts heard withdrawn => exact absurd rfl (single ts heard withdrawn)
  | outcome child => exact hm.watch t child
  | ending child due => exact hm.watch t child

theorem finish (h : c.Keeps n now Q) (t : Nat) (o : Outcome) : (c.finish t o).Keeps n now Q := by
  have hm := h.modify (t := t)
    (f := fun task => { task with stack := [], mode := .ended o, watchers := [] })
    fun task _ => ⟨by simp, by simp, by simp [dueOf]⟩
  refine hm.subset (fun u hu => ?_) hm.waits
  rcases List.mem_append.1 hu with hu | hu
  · exact h.due u hu
  · simp at hu

private theorem lt_of_wait (h : c.Keeps n now Q) {w : Wait} (hw : c.wait? t = some w) : t < n := by
  unfold wait? at hw
  split at hw
  · next ht => exact h.lt_of_task ht
  · cases hw

theorem wait_single (h : c.Keeps n now Q) (ts : List Nat) (heard : Nat) (withdrawn : Bool) :
    c.wait? t ≠ some (.all ts heard withdrawn) := by
  unfold wait?
  split
  · next ht =>
    rintro ⟨⟩
    exact (h.tasks _ _ ht).single _ _ _ rfl
  · exact nofun

theorem tell (h : c.Keeps n now Q) (w t : Nat) : (c.tell w t).Keeps n now Q := by
  unfold Crew.tell
  split
  · next hw _ =>
    split
    · exact h.schedule (h.lt_of_wait hw) _
    · exact h
  · next hw _ =>
    split
    · exact h.schedule (h.lt_of_wait hw) _
    · exact h
  · next hw _ => exact absurd hw (h.wait_single _ _ _)
  · exact h

theorem cancelOne (h : c.Keeps n now Q) (t : Nat) : (c.cancelOne t).1.Keeps n now Q := by
  unfold Crew.cancelOne
  split
  · exact h.modify fun task htask => (h.tasks t task htask).of_eq rfl rfl
  · next ht => exact h.schedule (h.lt_of_task ht) _
  · exact h

/-- A task is cancelled by itself where none waits for several others at once. -/
theorem cancel_eq (h : c.Keeps n now Q) (t : Nat) : c.cancel t = (c.cancelOne t).1 := by
  unfold Crew.cancel
  split
  · next hw => exact absurd hw (h.wait_single _ _ _)
  · rfl

theorem cancel (h : c.Keeps n now Q) (t : Nat) : (c.cancel t).Keeps n now Q :=
  h.cancel_eq t ▸ h.cancelOne t

theorem scheduleAll (h : c.Keeps n now Q) {us : List Nat} (hus : ∀ u ∈ us, u < n) :
    (c.scheduleAll us).Keeps n now Q := by
  induction us generalizing c with
  | nil => exact h
  | cons u us ih =>
    exact ih (h.schedule (hus u List.mem_cons_self) _) fun v hv => hus v (List.mem_cons_of_mem u hv)

theorem raise (h : c.Keeps n now Q) (s : Signal) : (c.raise s).Keeps n now Q := by
  rw [raise_eq]
  apply h.scheduleAll
  intro u hu
  obtain ⟨e, he, rfl⟩ := List.mem_map.1 hu
  exact h.waits e (List.mem_filter.1 he).1

theorem announce (h : c.Keeps n now Q) (finals : List String) :
    (finals.foldl (fun c x => c.raise (.final x)) c).Keeps n now Q := by
  induction finals generalizing c with
  | nil => exact h
  | cons x finals ih => exact ih (h.raise _)

theorem take {stack : List F} {o : Outcome} (h : c.Keeps n now Q)
    (ht : c.take t = some (c', stack, o)) :
    c'.Keeps n now Q ∧ t < n ∧ ∀ f ∈ stack, Q t f := by
  unfold Crew.take at ht
  split at ht
  · next htask =>
    cases ht
    have hk := h.tasks _ _ htask
    refine ⟨h.modify fun task htask' => ?_, h.lt_of_task htask, hk.frames⟩
    exact (h.tasks t task htask').of_eq rfl rfl
  · cases ht

end Keeps

/-! ## Time -/

private theorem foldl_least {ds : List Rat} {start : Option Rat} {d : Rat}
    (h : ds.foldl (fun least d =>
      match least with
      | none => some d
      | some l => some (if d < l then d else l)) start = some d) : start = some d ∨ d ∈ ds := by
  induction ds generalizing start with
  | nil => exact .inl h
  | cons e ds ih =>
    rcases ih h with hs | hd
    · -- The least one so far is the one from before or the one just looked at.
      cases start with
      | none => exact .inr (by simp_all)
      | some l =>
        simp only [Option.some.injEq] at hs
        split at hs
        · exact .inr (by simp [hs])
        · exact .inl (by rw [hs])
    · exact .inr (List.mem_cons_of_mem e hd)

theorem exists_of_nextAlarm {time : Rat} (h : c.nextAlarm = some time) :
    ∃ (t : Nat) (task : Task F), c.tasks[t]? = some task ∧ dueOf task = some time := by
  have hmem := (foldl_least h).resolve_left nofun
  obtain ⟨task, htask, hdue⟩ := List.mem_filterMap.1 hmem
  obtain ⟨t, ht⟩ := List.mem_iff_getElem?.1 htask
  exact ⟨t, task, ht, hdue⟩

private theorem length_scheduleAll (c : Crew F) (us : List Nat) :
    (c.scheduleAll us).tasks.length = c.tasks.length := by
  induction us generalizing c with
  | nil => rfl
  | cons u us ih =>
    refine (ih (c.schedule u (.ok .nothing))).trans ?_
    simp [schedule, modify]

private theorem now_scheduleAll (c : Crew F) (us : List Nat) : (c.scheduleAll us).now = c.now := by
  induction us generalizing c with
  | nil => rfl
  | cons u us ih => exact ih (c.schedule u (.ok .nothing))

theorem elapse_time (h : c.elapse = some c') :
    c'.tasks.length = c.tasks.length ∧
      ∃ (t : Nat) (task : Task F), c.tasks[t]? = some task ∧ dueOf task = some c'.now := by
  obtain ⟨time, hnext, rfl⟩ := Option.map_eq_some_iff.1 h
  obtain ⟨t, task, ht, hdue⟩ := exists_of_nextAlarm hnext
  refine ⟨length_scheduleAll { c with now := time } (c.dueBy time), t, task, ht, hdue.trans ?_⟩
  exact congrArg some (now_scheduleAll { c with now := time } (c.dueBy time)).symm

/-- **Time goes on**, and no task is behind it afterwards. -/
theorem Keeps.elapse (h : c.Keeps n now Q) (he : c.elapse = some c') :
    now < c'.now ∧ c'.Keeps n c'.now Q := by
  obtain ⟨hlength, t, task, ht, hdue⟩ := elapse_time he
  -- A task that is still to come has no alarm, so it is not roused.
  have hbeyond : ∀ t, n ≤ t → c'.about t = (none, [], 0) := by
    intro t hn
    have hnone := h.about_of_le hn
    obtain ⟨-, ⟨-, habout⟩ | ⟨⟨d, hd⟩, -⟩⟩ := elapse_cases he t
    · exact habout.trans hnone
    · rw [due?, (parts_of_about hnone).1] at hd
      cases hd
  refine ⟨(h.tasks t task ht).ahead _ hdue, hlength.trans h.length_eq, rfl, fun t task' ht' => ?_,
    fun t ht' => Nat.lt_of_not_le fun hn => ?_, fun e he' => Nat.lt_of_not_le fun hn => ?_⟩
  · -- A task is as it was, with its alarm still ahead, or it is due and has none.
    obtain ⟨-, ⟨hlate, habout⟩ | ⟨-, habout⟩⟩ := elapse_cases he t
    · have hold : c.tasks[t]? = some task' := (parts_of_about habout).1.symm.trans ht'
      refine ⟨(h.tasks t task' hold).frames, (h.tasks t task' hold).single, fun d hd => ?_⟩
      exact hlate d (by rw [due?, hold]; exact hd)
    · have hnew : (c.tasks[t]?).map (Task.due (.ok .nothing)) = some task' :=
        (parts_of_about habout).1.symm.trans ht'
      obtain ⟨old, hold, rfl⟩ := Option.map_eq_some_iff.1 hnew
      exact ⟨(h.tasks t old hold).frames, by simp [Task.due], by simp [Task.due, dueOf]⟩
  · have hturns : c'.turns t = 0 := (parts_of_about (hbeyond t hn)).2.2
    simpa [isTurn] using List.countP_eq_zero.1 hturns (.turn t) ht'
  · have hentries : c'.entries e.1 = [] := (parts_of_about (hbeyond e.1 hn)).2.1
    simpa using List.filter_eq_nil_iff.1 hentries e he'

end Crew
end Plunder
