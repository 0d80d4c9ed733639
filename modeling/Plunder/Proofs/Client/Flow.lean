import Plunder.Client.Flow

/-!
# What a flow does to the copy of the round

A step of a flow leaves the copy of the round as it is, apart from those who are told of it; or it
draws a ticket for a refresh, or goes on with the readings of one. A refresh may be called by other
flows, but none of the flows that called one touch the copy when it ends.

Main statements:
- `begin_cases`, `resume_cases`: a step of a flow that waits for no readings
- `afterReadings_cases`: a step of a refresh that waits for its readings
- `proceed_leaves`: what goes on in the flows that called
-/

namespace Plunder

/-! ## Definitions -/

/-- The copy of the round without those who are told of it. -/
def Synchronizer.silent {L : Type} (s : Synchronizer L) : Synchronizer L :=
  { s with listeners := [] }

theorem Synchronizer.silent_eq_iff {L : Type} {s s' : Synchronizer L} :
    s'.silent = s.silent ↔ s'.snapshot = s.snapshot ∧ s'.applied = s.applied ∧
      s'.selected = s.selected ∧ s'.issued = s.issued ∧ s'.waiting = s.waiting := by
  cases s
  cases s'
  simp [silent]

/-- Whether a point may have called a refresh or an action. -/
def Point.isOuter : Point → Bool
  | .followUp _ | .reporting _ | .loading => true
  | _ => false

/-- The points at which a flow waits after a step; none if it has ended. -/
def Move.stack? : Move → Option (List Point)
  | .done _ => none
  | .wait _ ps => some ps

/-- The ticket of the readings that a flow waits for, if it waits for readings. -/
def ticketOf : Option (List Point) → Option Nat
  | some (.readings ticket :: _) => some ticket
  | _ => none

/-- The points of the flows that called the one that waits. -/
def callersOf : Option (List Point) → List Point
  | some (_ :: ps) => ps
  | _ => []

/-- What a step leaves behind: a copy of the round, apart from those who are told of it, and a flow
that waits for readings with a ticket, or for none. -/
structure Turn.Leaves (s : Synchronizer Listener) (ticket : Option Nat) (t : Turn) : Prop where
  sync_eq : t.client.sync.silent = s.silent
  ticket_eq : ticketOf t.move.stack? = ticket
  outer : ∀ q ∈ callersOf t.move.stack?, q.isOuter = true

/-! ## Stacks of points -/

section Stacks

variable {qs ps : List Point}

/-- Flows that called others wait for no readings themselves. -/
theorem ticketOf_append (qs : List Point) (houter : ∀ p ∈ ps, p.isOuter = true) :
    ticketOf (some (qs ++ ps)) = ticketOf (some qs) := by
  cases qs with
  | cons q qs => cases q <;> rfl
  | nil =>
    cases ps with
    | nil => rfl
    | cons p ps =>
      have hp := houter p List.mem_cons_self
      cases p <;> first | rfl | cases hp

theorem outer_append (hqs : ∀ q ∈ callersOf (some qs), q.isOuter = true)
    (houter : ∀ p ∈ ps, p.isOuter = true) :
    ∀ q ∈ callersOf (some (qs ++ ps)), q.isOuter = true := by
  intro q hq
  cases qs with
  | nil =>
    cases ps with
    | nil => cases hq
    | cons p ps => exact houter q (List.mem_cons_of_mem _ hq)
  | cons r rs =>
    rcases List.mem_append.1 hq with hq | hq
    · exact hqs q hq
    · exact houter q hq

end Stacks

/-! ## Parts of steps -/

namespace Turn.Leaves

variable {s : Synchronizer Listener} {ticket : Option Nat} {c : Client} {t : Turn}

theorem finish {notes : List Note} {o : Outcome} (h : c.sync.silent = s.silent) :
    Leaves s none (.finish c notes o) :=
  ⟨h, rfl, nofun⟩

theorem await {notes : List Note} {need : Need} {p : Point} (h : c.sync.silent = s.silent)
    (hp : ticketOf (some [p]) = none) : Leaves s none (.await c notes need p) :=
  ⟨h, hp, nofun⟩

theorem after {notes : List Note} {orders : List Order} (h : Leaves s ticket t) :
    Leaves s ticket (t.after notes orders) :=
  ⟨h.sync_eq, h.ticket_eq, h.outer⟩

/-- Flows that called others wait beneath them. -/
theorem beneath {need : Need} {qs ps : List Point} (h : Leaves s ticket t)
    (hm : t.move = .wait need qs) (houter : ∀ p ∈ ps, p.isOuter = true) :
    Leaves s ticket { t with move := .wait need (qs ++ ps) } := by
  have hticket := h.ticket_eq
  have hqs := h.outer
  rw [hm] at hticket hqs
  exact ⟨h.sync_eq, (ticketOf_append qs houter).trans hticket, outer_append hqs houter⟩

/-- A flow that has ended waits for no readings. -/
theorem eq_none {o : Outcome} (h : Leaves s ticket t) (hm : t.move = .done o) : ticket = none := by
  have hticket := h.ticket_eq
  rw [hm] at hticket
  exact hticket.symm

/-- A flow that called another waits beneath it, or goes on with what it ended with. -/
theorem into {p : Point} {resume : Client → Outcome → Turn} (h : Leaves s ticket t)
    (hp : p.isOuter = true)
    (hresume : ticket = none → ∀ c o, c.sync.silent = s.silent → Leaves s none (resume c o)) :
    Leaves s ticket (t.into p resume) := by
  unfold Turn.into
  cases hm : t.move with
  | wait need qs => exact h.beneath hm (by simpa using hp)
  | done o =>
    obtain rfl := h.eq_none hm
    have hnext := hresume rfl t.client o h.sync_eq
    exact ⟨hnext.sync_eq, hnext.ticket_eq, hnext.outer⟩

end Turn.Leaves

namespace Client

open Turn

variable {s : Synchronizer Listener} {c : Client}

/-! ## Listeners -/

theorem hear_sync (c : Client) (l : Listener) (ticket : Nat) (new : RoundSnapshot) :
    (c.hear l ticket new).1.sync.silent = c.sync.silent := by
  cases l with
  | screen =>
    simp only [hear, hearOnScreen]
    split <;> rfl
  | named name kind => cases kind <;> rfl

/-- Whatever the listeners do, they do not touch the copy of the round. -/
theorem notify_quiet (ticket : Nat) (new : RoundSnapshot) (ls : List Listener)
    (h : c.sync.silent = s.silent) : Leaves s none (notify ticket new ls c) := by
  induction ls generalizing c with
  | nil => exact .finish h
  | cons l ls ih =>
    rw [notify]
    split
    · exact .await h rfl
    · exact (ih ((hear_sync c l ticket new).trans h)).after

/-! ## Steps that begin nothing -/

theorem launch_quiet {kind : ActionKind} {participant : String} {amount : Value}
    (h : c.sync.silent = s.silent) : Leaves s none (c.launch kind participant amount) := by
  unfold launch
  split
  · exact .finish h
  · exact ⟨h, rfl, nofun⟩

theorem failAction_quiet {kind : ActionKind} {notes : List Note} {f : Fault}
    (h : c.sync.silent = s.silent) : Leaves s none (c.failAction kind notes f) := by
  unfold failAction
  split
  · exact .finish h
  · exact .finish h

theorem action_quiet {kind : ActionKind} {participant : String} {amount : Value}
    (h : c.sync.silent = s.silent) : Leaves s none (c.action kind participant amount) := by
  unfold action
  simp only
  split
  · exact failAction_quiet h
  · exact .await h rfl

theorem afterAction_quiet {kind : ActionKind} {o : Outcome} (h : c.sync.silent = s.silent) :
    Leaves s none (c.afterAction kind o) := by
  unfold afterAction
  split
  · exact .finish h
  · split <;> exact .finish h

/-- The screen goes on with an action, or with its refusal. -/
theorem launch_into_quiet {kind : ActionKind} {participant : String} {amount : Value}
    (h : c.sync.silent = s.silent) :
    Leaves s none
      ((c.launch kind participant amount).into (.reporting kind) (afterAction · kind)) :=
  (launch_quiet h).into rfl fun _ _ _ h => afterAction_quiet h

/-! ## Steps from a point -/

theorem refresh_issues (h : c.sync = s) :
    Leaves s.issue.1 (some (s.issued + 1)) c.refresh :=
  h ▸ ⟨rfl, rfl, nofun⟩

/-- **The first step of a flow**: it leaves the copy of the round as it is, or draws a ticket. -/
theorem begin_cases (c : Client) (r : Routine) :
    Leaves c.sync none (c.begin r) ∨
      Leaves c.sync.issue.1 (some (c.sync.issued + 1)) (c.begin r) := by
  cases r with
  | refresh => exact .inr (refresh_issues rfl)
  | submitHaul participant amount => exact .inl (launch_quiet rfl)
  | advanceRound => exact .inl (launch_quiet rfl)
  | action kind participant amount => exact .inl (action_quiet rfl)
  | load =>
    simp only [begin, load]
    split
    · exact .inl (.finish rfl)
    · exact .inr ((refresh_issues (by rfl)).into rfl nofun)
  | report amount participant =>
    simp only [begin, report]
    split
    · exact .inl (.finish rfl)
    · cases amount with
      | none => exact .inl (launch_into_quiet rfl)
      | some a => exact .inl (launch_into_quiet rfl)
  | setSail =>
    simp only [begin, setSail]
    split
    · exact .inl (.finish rfl)
    · exact .inl (launch_into_quiet rfl)
  | chart => exact .inl (.await rfl rfl)

/-- A flow that called a refresh or an action leaves the copy of the round as it is. -/
theorem resume_outer {o : Outcome} {p : Point} (hp : p.isOuter = true)
    (h : c.sync.silent = s.silent) : Leaves s none (c.resume o p) := by
  cases p with
  | followUp kind =>
    simp only [resume, afterRefresh]
    split
    · exact .finish h
    · split <;> exact .finish h
  | reporting kind => exact afterAction_quiet h
  | loading =>
    simp only [resume, afterLoading]
    split
    · exact .await h rfl
    · split
      · exact .await h rfl
      · exact .finish h
  | _ => cases hp

/-- **A step from a point that waits for no readings**: it leaves the copy of the round as it is, or
draws a ticket. -/
theorem resume_cases (c : Client) (o : Outcome) {p : Point} (hp : ticketOf (some [p]) = none) :
    Leaves c.sync none (c.resume o p) ∨
      Leaves c.sync.issue.1 (some (c.sync.issued + 1)) (c.resume o p) := by
  cases p with
  | readings ticket => cases hp
  | listening ticket new l others =>
    left
    simp only [resume, afterTurn]
    split
    · exact .finish rfl
    · exact (notify_quiet ticket new others (hear_sync c l ticket new)).after
  | submission kind =>
    left
    simp only [resume]
    unfold afterSubmission
    split
    · exact .await rfl rfl
    · exact failAction_quiet rfl
    · exact failAction_quiet rfl
  | finality kind =>
    simp only [resume]
    unfold afterFinality
    split
    · split
      · exact .inl (failAction_quiet rfl)
      · exact .inr (((refresh_issues (by rfl)).into rfl nofun).after)
    · exact .inl (failAction_quiet rfl)
    · exact .inl (failAction_quiet rfl)
  | followUp kind => exact .inl (resume_outer rfl rfl)
  | reporting kind => exact .inl (resume_outer rfl rfl)
  | loading => exact .inl (resume_outer rfl rfl)
  | drawing =>
    left
    simp only [resume, afterChart]
    split <;> exact .finish rfl
  | chart generation =>
    left
    simp only [resume, afterFetch]
    split <;> exact .finish rfl

/-! ## Readings -/

/-- The snapshot that a refresh puts in place with what comes back, if it does. -/
def arrival? (c : Client) (ticket : Nat) (o : Outcome) : Option RoundSnapshot :=
  if o.isCancelled then none
  else
    match (c.sync.receive ticket (readingsOf o)).2.1 with
    | .applied new => some new
    | _ => none

/-- What the copy of the round is once the readings of a refresh have come, or not. -/
def arrived (c : Client) (ticket : Nat) (o : Outcome) : Synchronizer Listener :=
  match c.arrival? ticket o with
  | some new => c.sync.abandon.apply ticket new
  | none => c.sync.abandon

section Readings

variable {ticket : Nat} {o : Outcome} {f : Fault} {new : RoundSnapshot}

theorem afterReadings_of_cancelled (ho : o.isCancelled = true) :
    c.afterReadings ticket o = .finish { c with sync := c.sync.abandon } [] o := by
  simp only [afterReadings, ho, if_true]

/-- A refresh whose readings fail ends with the fault of the synchronizer. -/
theorem afterReadings_of_failed (ho : o.isCancelled = false)
    (hf : Synchronizer.snapshotOf (readingsOf o) = .error f) :
    c.afterReadings ticket o = .finish { c with sync := c.sync.abandon }
      [Synchronizer.failureNote f] (.error (.sync f)) := by
  simp only [afterReadings, ho, Synchronizer.receive, hf, Bool.false_eq_true, if_false]

/-- A refresh with a later one behind it ends with the snapshot that is in place by now. -/
theorem afterReadings_of_stale (ho : o.isCancelled = false)
    (hs : Synchronizer.snapshotOf (readingsOf o) = .ok new) (ht : ticket ≠ c.sync.issued) :
    c.afterReadings ticket o = .finish { c with sync := c.sync.abandon }
      [Synchronizer.staleNote ticket c.sync.issued] (.ok (.snapshot c.sync.snapshot)) := by
  have ht' : ticket ≠ c.sync.abandon.issued := ht
  simp only [afterReadings, ho, Synchronizer.receive, hs, if_pos ht', Bool.false_eq_true, if_false]
  rfl

/-- The latest refresh puts its snapshot in place and tells the listeners. -/
theorem afterReadings_of_latest (ho : o.isCancelled = false)
    (hs : Synchronizer.snapshotOf (readingsOf o) = .ok new) (ht : ticket = c.sync.issued) :
    c.afterReadings ticket o =
      (notify ticket new c.sync.listeners { c with sync := c.sync.abandon.apply ticket new }).after
        (c.sync.regressionNotes new ++ [c.sync.applyNote new]) [] := by
  have ht' : ¬ ticket ≠ c.sync.abandon.issued := not_not_intro ht
  simp only [afterReadings, ho, Synchronizer.receive, hs, if_neg ht', Bool.false_eq_true, if_false]
  rfl

/-- A snapshot is put in place only if the readings make one and no later refresh has begun. -/
theorem arrival?_eq_some_iff :
    c.arrival? ticket o = some new ↔ o.isCancelled = false ∧
      Synchronizer.snapshotOf (readingsOf o) = .ok new ∧ ticket = c.sync.issued := by
  have hissued : c.sync.abandon.issued = c.sync.issued := rfl
  unfold arrival?
  cases o.isCancelled with
  | true => simp
  | false =>
    simp only [Synchronizer.receive, hissued]
    cases Synchronizer.snapshotOf (readingsOf o) with
    | error f => simp
    | ok s => by_cases ht : ticket = c.sync.issued <;> simp [ht]

/-- **A step of a refresh that waits for its readings**: it puts its snapshot in place or leaves the
one that is there, and waits for readings no more. -/
theorem afterReadings_cases (c : Client) (ticket : Nat) (o : Outcome) :
    Leaves (c.arrived ticket o) none (c.afterReadings ticket o) := by
  unfold arrived
  cases ha : c.arrival? ticket o with
  | some new =>
    obtain ⟨ho, hs, ht⟩ := arrival?_eq_some_iff.1 ha
    rw [afterReadings_of_latest ho hs ht]
    exact (notify_quiet _ _ _ (by rfl)).after
  | none =>
    cases ho : o.isCancelled with
    | true =>
      rw [afterReadings_of_cancelled ho]
      exact .finish rfl
    | false =>
      cases hs : Synchronizer.snapshotOf (readingsOf o) with
      | error f =>
        rw [afterReadings_of_failed ho hs]
        exact .finish rfl
      | ok new =>
        have ht : ticket ≠ c.sync.issued := fun ht => by
          rw [arrival?_eq_some_iff.2 ⟨ho, hs, ht⟩] at ha
          cases ha
        rw [afterReadings_of_stale ho hs ht]
        exact .finish rfl

/-- Telling the listeners does not fail. -/
theorem notify_move (ticket : Nat) (new : RoundSnapshot) (ls : List Listener) (c : Client) :
    (notify ticket new ls c).move ≠ .done (.error f) := by
  induction ls generalizing c with
  | nil => simp [notify, Turn.finish]
  | cons l ls ih =>
    rw [notify]
    split
    · simp [Turn.await]
    · exact ih _

/-- A refresh that is not cancelled ends with no other fault. -/
theorem failed_of_afterReadings (ho : o.isCancelled = false)
    (h : (c.afterReadings ticket o).move = .done (.error f)) :
    ∃ g, f = .sync g ∧ Synchronizer.snapshotOf (readingsOf o) = .error g := by
  cases hs : Synchronizer.snapshotOf (readingsOf o) with
  | error g =>
    rw [afterReadings_of_failed ho hs] at h
    cases h
    exact ⟨g, rfl, rfl⟩
  | ok new =>
    by_cases ht : ticket = c.sync.issued
    · rw [afterReadings_of_latest ho hs ht] at h
      exact (notify_move _ _ _ _ h).elim
    · rw [afterReadings_of_stale ho hs ht] at h
      cases h

end Readings

/-! ## Flows that called others -/

section Callers

variable {o : Outcome} {p : Point} {ps : List Point}

/-- A flow goes on, and those that called it wait beneath it or go on with what it ended with. -/
private theorem proceed_cons {ticket : Option Nat} (h : Leaves s ticket (c.resume o p))
    (houter : ∀ q ∈ ps, q.isOuter = true)
    (rest : ∀ (c : Client) o, c.sync.silent = s.silent → Leaves s none (c.proceed o ps)) :
    Leaves s ticket (c.proceed o (p :: ps)) := by
  simp only [proceed]
  cases hm : (c.resume o p).move with
  | wait need qs => exact h.beneath hm houter
  | done o' =>
    obtain rfl := h.eq_none hm
    exact (rest _ o' h.sync_eq).after

/-- Flows that called others leave the copy of the round as it is, one after the other. -/
theorem proceed_outer (houter : ∀ q ∈ ps, q.isOuter = true) (h : c.sync.silent = s.silent) :
    Leaves s none (c.proceed o ps) := by
  induction ps generalizing c o with
  | nil => exact .finish h
  | cons p ps ih =>
    have hps : ∀ q ∈ ps, q.isOuter = true := fun q hq => houter q (List.mem_cons_of_mem _ hq)
    apply proceed_cons (resume_outer (houter p List.mem_cons_self) h) hps
    intro c o h
    exact ih hps h

/-- **What a flow leaves behind, it leaves behind for those that called it.** -/
theorem proceed_leaves {ticket : Option Nat} (h : Leaves s ticket (c.resume o p))
    (houter : ∀ q ∈ ps, q.isOuter = true) : Leaves s ticket (c.proceed o (p :: ps)) := by
  apply proceed_cons h houter
  intro c o hc
  exact proceed_outer houter hc

end Callers
end Client
end Plunder
