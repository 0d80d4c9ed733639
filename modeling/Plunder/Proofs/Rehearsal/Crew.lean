import Plunder.Rehearsal.Crew

/-!
# What concerns one task

Most of what happens in a crew concerns one task and spares the others. What a crew says of a task
is its record, the signals it waits for, and how often its turn is due; an operation spares a task
if it leaves these as they are, lets time stand still, and only adds to the queue.

Main statements:
- `Spares`: what an operation on another task does to a task
- `rouses_announce`, `spares_announce`: transactions become final, for one who waits for one of them
  and for everyone else
- `elapse_cases`: time goes on to the next alarm
-/

namespace Plunder

/-- The tasks that a wait is for. -/
def Wait.children : Wait → List Nat
  | .all ts _ _ => ts
  | .outcome child | .ending child _ => [child]
  | .signal _ | .alarm _ => []

namespace Crew

variable {F : Type} {c c' c'' : Crew F} {t u : Nat}

/-! ## Definitions -/

/-- Whether something due is the turn of a task. -/
def isTurn (t : Nat) : Due → Bool
  | .turn u => u == t
  | .news .. => false

/-- How often the turn of a task is due. -/
def turns (c : Crew F) (t : Nat) : Nat := c.queue.countP (isTurn t)

/-- The signals that a task waits for, as the crew lists them. -/
def entries (c : Crew F) (t : Nat) : List (Nat × Signal) := c.waiting.filter (·.1 == t)

/-- What a crew says of a task. -/
def about (c : Crew F) (t : Nat) : Option (Task F) × List (Nat × Signal) × Nat :=
  (c.tasks[t]?, c.entries t, c.turns t)

/-- What a crew says of a task, part by part. -/
theorem parts_of_about {task : Option (Task F)} {listed : List (Nat × Signal)} {n : Nat}
    (h : c.about t = (task, listed, n)) :
    c.tasks[t]? = task ∧ c.entries t = listed ∧ c.turns t = n := by
  simpa only [about, Prod.mk.injEq] using h

/-- A task whose next turn is due, with an outcome. -/
def Task.due (o : Outcome) (task : Task F) : Task F := { task with mode := .scheduled o }

/-- Whether what happens spares a task. -/
structure Spares (t : Nat) (c c' : Crew F) : Prop where
  about_eq : c'.about t = c.about t
  queue : c.queue <+: c'.queue
  now_eq : c'.now = c.now

namespace Spares

theorem refl (t : Nat) (c : Crew F) : Spares t c c := ⟨rfl, List.prefix_rfl, rfl⟩

theorem trans (h : Spares t c c') (h' : Spares t c' c'') : Spares t c c'' :=
  ⟨h'.about_eq.trans h.about_eq, h.queue.trans h'.queue, h'.now_eq.trans h.now_eq⟩

theorem tasks_eq (h : Spares t c c') : c'.tasks[t]? = c.tasks[t]? :=
  (parts_of_about h.about_eq).1

theorem entries_eq (h : Spares t c c') : c'.entries t = c.entries t :=
  (parts_of_about h.about_eq).2.1

theorem turns_eq (h : Spares t c c') : c'.turns t = c.turns t :=
  (parts_of_about h.about_eq).2.2

end Spares

/-! ## Operations on one task -/

private theorem tasks_modify_ne (h : u ≠ t) (f : Task F → Task F) (ts : List (Task F)) :
    (ts.modify u f)[t]? = ts[t]? := by
  simp [h]

theorem about_modify (c : Crew F) (t : Nat) (f : Task F → Task F) :
    (c.modify t f).about t = ((c.tasks[t]?).map f, c.entries t, c.turns t) := by
  simp [about, modify, entries, turns]

theorem about_schedule (c : Crew F) (t : Nat) (o : Outcome) :
    (c.schedule t o).about t = ((c.tasks[t]?).map (Task.due o), [], c.turns t + 1) := by
  simp [about, schedule, modify, entries, turns, isTurn, List.filter_filter]
  rfl

theorem about_spawn (c : Crew F) (stack : List F) :
    (c.spawn stack).1.about c.tasks.length =
      (some ⟨stack, .scheduled (.ok .nothing), false, []⟩, c.entries c.tasks.length,
        c.turns c.tasks.length + 1) := by
  simp [about, spawn, entries, turns, isTurn]

theorem about_finish (c : Crew F) (t : Nat) (o : Outcome) :
    (c.finish t o).about t =
      ((c.tasks[t]?).map fun task => { task with stack := [], mode := .ended o, watchers := [] },
        c.entries t, c.turns t) := by
  have hn : ∀ ws : List Nat, (ws.map (Due.news · t)).countP (isTurn t) = 0 := by
    intro ws
    simp [List.countP_eq_zero, isTurn]
  simp [about, finish, modify, entries, turns, hn]

/-- A task whose turn is due is withdrawn when it is cancelled. -/
theorem about_cancelOne_scheduled {stack : List F} {o : Outcome} {withdrawn : Bool} {ws : List Nat}
    (h : c.tasks[t]? = some ⟨stack, .scheduled o, withdrawn, ws⟩) :
    (c.cancelOne t).1.about t =
      (some ⟨stack, .scheduled o, true, ws⟩, c.entries t, c.turns t) := by
  simp only [cancelOne, h, about_modify, Option.map_some]

/-- A task that waits is due when it is cancelled. -/
theorem about_cancelOne_blocked {stack : List F} {w : Wait} {withdrawn : Bool} {ws : List Nat}
    (h : c.tasks[t]? = some ⟨stack, .blocked w, withdrawn, ws⟩) :
    (c.cancelOne t).1.about t =
      (some ⟨stack, .scheduled (.error .cancelled), withdrawn, ws⟩, [], c.turns t + 1) := by
  simp only [cancelOne, h, about_schedule, Option.map_some, Task.due]

/-- A task that has not ended notes who is to be told of its end. -/
theorem about_watch (h : c.outcome? t = none) (watcher : Nat) :
    (c.watch watcher t).about t =
      ((c.tasks[t]?).map fun task => { task with watchers := task.watchers ++ [watcher] },
        c.entries t, c.turns t) := by
  rw [watch, hasEnded, h]
  exact about_modify c t _

/-! ## Operations on other tasks -/

theorem spares_modify (h : u ≠ t) (f : Task F → Task F) : Spares t c (c.modify u f) where
  about_eq := by simp [about, modify, entries, turns, tasks_modify_ne h]
  queue := List.prefix_rfl
  now_eq := rfl

theorem spares_push {d : Due} (h : isTurn t d = false) : Spares t c (c.push d) where
  about_eq := by simp [about, push, entries, turns, h]
  queue := List.prefix_append _ _
  now_eq := rfl

theorem spares_schedule (h : u ≠ t) (o : Outcome) : Spares t c (c.schedule u o) where
  about_eq := by
    have hf : ∀ ws : List (Nat × Signal),
        (ws.filter (·.1 != u)).filter (·.1 == t) = ws.filter (·.1 == t) := by
      intro ws
      rw [List.filter_filter]
      apply List.filter_congr
      intro e _
      by_cases he : e.1 = t <;> simp [he, h.symm]
    simp [about, schedule, modify, entries, turns, isTurn, tasks_modify_ne h, hf, h]
  queue := List.prefix_append _ _
  now_eq := rfl

theorem spares_again (h : u ≠ t) (stack : List F) : Spares t c (c.again u stack) :=
  (spares_modify h _).trans (spares_schedule h _)

/-- A new task spares every other, those that are still to come included. -/
theorem spares_spawn (h : t ≠ c.tasks.length) (stack : List F) : Spares t c (c.spawn stack).1 where
  about_eq := by
    -- There is nothing at a number beyond the new one, before or after.
    have ht : (c.tasks ++ [⟨stack, .scheduled (.ok .nothing), false, []⟩])[t]? = c.tasks[t]? := by
      rcases Nat.lt_or_gt_of_ne h with h | h
      · rw [List.getElem?_append_left h]
      · rw [List.getElem?_eq_none (by simp; omega), List.getElem?_eq_none (by omega)]
    simp [about, spawn, entries, turns, isTurn, ht, h.symm]
  queue := List.prefix_append _ _
  now_eq := rfl

theorem spares_watch (h : u ≠ t) (watcher : Nat) : Spares t c (c.watch watcher u) := by
  unfold watch
  split
  · exact spares_push rfl
  · exact spares_modify h _

theorem spares_finish (h : u ≠ t) (o : Outcome) : Spares t c (c.finish u o) where
  about_eq := by
    have hn : ∀ ws : List Nat, (ws.map (Due.news · u)).countP (isTurn t) = 0 := by
      intro ws
      simp [List.countP_eq_zero, isTurn]
    simp [about, finish, modify, entries, turns, tasks_modify_ne h, hn]
  queue := List.prefix_append _ _
  now_eq := rfl

theorem spares_tell (h : u ≠ t) (b : Nat) : Spares t c (c.tell u b) := by
  unfold tell
  split
  · split
    · exact spares_schedule h _
    · exact .refl t c
  · split
    · exact spares_schedule h _
    · exact .refl t c
  · split
    · exact .refl t c
    · split
      · exact spares_schedule h _
      · split
        · exact spares_modify h _
        · exact spares_schedule h _
  · exact .refl t c

theorem spares_cancelOne (h : u ≠ t) : Spares t c (c.cancelOne u).1 := by
  unfold cancelOne
  split
  · exact spares_modify h _
  · exact spares_schedule h _
  · exact .refl t c

private theorem spares_foldl_watch {ts : List Nat} (h : t ∉ ts) (watcher : Nat) :
    Spares t c (ts.foldl (fun c child => c.watch watcher child) c) := by
  induction ts generalizing c with
  | nil => exact .refl t c
  | cons child ts ih =>
    have hc : child ≠ t := Ne.symm (List.ne_of_not_mem_cons h)
    exact (spares_watch hc watcher).trans (ih (List.not_mem_of_not_mem_cons h))

/-- A task that waits spares those that it does not wait for. -/
theorem spares_block (h : u ≠ t) (stack : List F) {w : Wait} (hw : t ∉ w.children) :
    Spares t c (c.block u stack w) := by
  have hm : Spares t c (c.modify u fun task => { task with stack, mode := .blocked w }) :=
    spares_modify h _
  refine hm.trans ?_
  cases w with
  | signal s =>
    exact ⟨by simp [about, block, modify, entries, turns, h], List.prefix_rfl, rfl⟩
  | alarm due => exact .refl t _
  | all ts heard withdrawn => exact spares_foldl_watch hw u
  | outcome child => exact spares_watch (Ne.symm (List.ne_of_not_mem_cons hw)) u
  | ending child due => exact spares_watch (Ne.symm (List.ne_of_not_mem_cons hw)) u

theorem about_block_ending (h : u ≠ t) (stack : List F) (due : Option Rat) :
    (c.block t stack (.ending u due)).about t =
      ((c.tasks[t]?).map fun task => { task with stack, mode := .blocked (.ending u due) },
        c.entries t, c.turns t) :=
  (spares_watch h t).about_eq.trans (about_modify c t _)

theorem about_block_signal (c : Crew F) (t : Nat) (stack : List F) (s : Signal) :
    (c.block t stack (.signal s)).about t =
      ((c.tasks[t]?).map fun task => { task with stack, mode := .blocked (.signal s) },
        c.entries t ++ [(t, s)], c.turns t) := by
  simp [about, block, modify, entries, turns]

/-- A task whose end another one waits for. -/
theorem about_block_child (h : u ≠ t) (alive : c.outcome? t = none) (stack : List F)
    (due : Option Rat) :
    (c.block u stack (.ending t due)).about t =
        ((c.tasks[t]?).map fun task => { task with watchers := task.watchers ++ [u] },
          c.entries t, c.turns t) ∧
      (c.block u stack (.ending t due)).queue = c.queue := by
  have hs : Spares t c (c.modify u fun task =>
      { task with stack, mode := .blocked (.ending t due) }) := spares_modify h _
  have hout : Crew.outcome? (c.modify u fun task =>
      { task with stack, mode := .blocked (.ending t due) }) t = none := by
    rw [← alive, outcome?, hs.tasks_eq, outcome?]
  constructor
  · -- First the one that waits goes to sleep, then the other one notes it.
    refine (about_watch hout u).trans ?_
    rw [hs.tasks_eq, hs.entries_eq, hs.turns_eq]
  · rw [block, watch, hasEnded, hout]
    rfl

/-! ## Many tasks at once -/

/-- Whether what happens makes the next turn of a task due. -/
structure Rouses (t : Nat) (c c' : Crew F) : Prop where
  about_eq : c'.about t = ((c.tasks[t]?).map (Task.due (.ok .nothing)), [], c.turns t + 1)
  queue : c.queue <+: c'.queue
  now_eq : c'.now = c.now

theorem rouses_schedule (c : Crew F) (t : Nat) : Rouses t c (c.schedule t (.ok .nothing)) :=
  ⟨about_schedule c t _, List.prefix_append _ _, rfl⟩

theorem Spares.rouses (h : Spares t c c') (h' : Rouses t c' c'') : Rouses t c c'' where
  about_eq := by rw [h'.about_eq, h.tasks_eq, h.turns_eq]
  queue := h.queue.trans h'.queue
  now_eq := h'.now_eq.trans h.now_eq

theorem Rouses.spares (h : Rouses t c c') (h' : Spares t c' c'') : Rouses t c c'' :=
  ⟨h'.about_eq.trans h.about_eq, h.queue.trans h'.queue, h'.now_eq.trans h.now_eq⟩

/-- The next turns of several tasks are due. -/
def scheduleAll (c : Crew F) (us : List Nat) : Crew F :=
  us.foldl (fun c u => c.schedule u (.ok .nothing)) c

theorem spares_scheduleAll {us : List Nat} (h : t ∉ us) : Spares t c (c.scheduleAll us) := by
  induction us generalizing c with
  | nil => exact .refl t c
  | cons u us ih =>
    have hu : u ≠ t := Ne.symm (List.ne_of_not_mem_cons h)
    exact (spares_schedule hu _).trans (ih (List.not_mem_of_not_mem_cons h))

theorem rouses_scheduleAll {us : List Nat} (h : us.count t = 1) :
    Rouses t c (c.scheduleAll us) := by
  induction us generalizing c with
  | nil => cases h
  | cons u us ih =>
    -- It is roused when its entry comes, and spared before and afterwards.
    by_cases hu : u = t
    · subst hu
      have hus : u ∉ us := by simpa [List.count_eq_zero] using h
      exact (rouses_schedule c u).spares (spares_scheduleAll hus)
    · rw [List.count_cons_of_ne hu] at h
      exact (spares_schedule hu _).rouses (ih h)

/-! ## Signals -/

theorem raise_eq (c : Crew F) (s : Signal) :
    c.raise s = c.scheduleAll ((c.waiting.filter (·.2 == s)).map (·.1)) := by
  rw [raise, scheduleAll, List.foldl_map]

private theorem count_waiting (c : Crew F) (s : Signal) (t : Nat) :
    ((c.waiting.filter (·.2 == s)).map (·.1)).count t = (c.entries t).countP (·.2 == s) := by
  rw [List.count, List.countP_map, List.countP_filter, entries, List.countP_filter]
  exact List.countP_congr fun e _ => by simp [and_comm]

theorem spares_raise {s : Signal} (h : ∀ e ∈ c.entries t, e.2 ≠ s) : Spares t c (c.raise s) := by
  rw [raise_eq]
  refine spares_scheduleAll ?_
  rw [← List.count_eq_zero, count_waiting, List.countP_eq_zero]
  simpa using h

theorem rouses_raise {s : Signal} (h : c.entries t = [(t, s)]) : Rouses t c (c.raise s) := by
  rw [raise_eq]
  refine rouses_scheduleAll ?_
  rw [count_waiting, h]
  simp

/-- Several transactions become final; that spares those who wait for none of them. -/
theorem spares_announce {finals : List String}
    (h : ∀ e ∈ c.entries t, ∀ x ∈ finals, e.2 ≠ .final x) :
    Spares t c (finals.foldl (fun c x => c.raise (.final x)) c) := by
  induction finals generalizing c with
  | nil => exact .refl t c
  | cons x finals ih =>
    have hx : Spares t c (c.raise (.final x)) := spares_raise fun e he => h e he x (by simp)
    refine hx.trans (ih fun e he y hy => ?_)
    rw [hx.entries_eq] at he
    exact h e he y (by simp [hy])

/-- Several transactions become final; that rouses those who wait for one of them. -/
theorem rouses_announce {finals : List String} {x : String} (h : c.entries t = [(t, .final x)])
    (hx : x ∈ finals) : Rouses t c (finals.foldl (fun c x => c.raise (.final x)) c) := by
  induction finals generalizing c with
  | nil => cases hx
  | cons y finals ih =>
    by_cases hy : y = x
    · subst hy
      have hr : Rouses t c (c.raise (.final y)) := rouses_raise h
      have hnone : (c.raise (.final y)).entries t = [] :=
        (parts_of_about hr.about_eq).2.1
      exact hr.spares (spares_announce (by simp [hnone]))
    · have hs : Spares t c (c.raise (.final y)) :=
        spares_raise (by simpa [h] using Ne.symm hy)
      have hmem : x ∈ finals := (List.mem_cons.1 hx).resolve_left (Ne.symm hy)
      exact hs.rouses (ih (hs.entries_eq.trans h) hmem)

/-! ## Time -/

/-- When a task goes on by itself. -/
def due? (c : Crew F) (t : Nat) : Option Rat := (c.tasks[t]?).bind dueOf

/-- Time goes on to the next alarm: those whose time has come are roused, and the others are spared
but for the time. -/
theorem elapse_cases (h : c.elapse = some c') (t : Nat) :
    c.queue <+: c'.queue ∧
      (((∀ d, c.due? t = some d → c'.now < d) ∧ c'.about t = c.about t) ∨
        (∃ d, c.due? t = some d) ∧
          c'.about t = ((c.tasks[t]?).map (Task.due (.ok .nothing)), [], c.turns t + 1)) := by
  obtain ⟨time, -, rfl⟩ := Option.map_eq_some_iff.1 h
  -- A task is listed once at most among those whose time has come.
  have hcount : (c.dueBy time).count t ≤ 1 :=
    (List.nodup_iff_count.1 (List.nodup_range.filter _)) t
  by_cases ht : t ∈ c.dueBy time
  · have hone : (c.dueBy time).count t = 1 := by
      have := List.count_pos_iff.2 ht
      omega
    have hr := rouses_scheduleAll (c := { c with now := time }) hone
    refine ⟨hr.queue, .inr ⟨?_, hr.about_eq⟩⟩
    have hd := (List.mem_filter.1 ht).2
    cases hdue : (c.tasks[t]?).bind dueOf with
    | none => simp [hdue] at hd
    | some d => exact ⟨d, hdue⟩
  · have hs := spares_scheduleAll (c := { c with now := time }) ht
    refine ⟨hs.queue, .inl ⟨fun d hd => ?_, hs.about_eq⟩⟩
    rw [due?] at hd
    have hlt : t < c.tasks.length := Nat.lt_of_not_ge fun hge => by
      rw [List.getElem?_eq_none hge] at hd
      cases hd
    have hnow : (scheduleAll { c with now := time } (c.dueBy time)).now = time := hs.now_eq
    rw [show (List.foldl _ _ _ : Crew F).now = time from hnow, ← Rat.not_le]
    intro hle
    exact ht (List.mem_filter.2 ⟨List.mem_range.2 hlt, by simp [hd, hle]⟩)

end Crew
end Plunder
