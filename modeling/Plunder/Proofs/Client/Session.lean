import Plunder.Proofs.Client.Flow

/-!
# Sessions of a client

A session is a client with its flows. Flows begin at any time, go on in any order and with anything
that may come back, be it the readings, a fault or their cancellation; in between the user selects
participants. The tickets that the refreshes draw keep them in order.

Main statements:
- `step_moves`: what an event does to the copy of the round and to the refreshes that wait
- `Orderly.moves`: the counts and the selection hold after every event
- `inOrder_run`: refreshes resolve in the order of their tickets
-/

namespace Plunder

/-! ## Definitions -/

/-- Whether the right participant is selected: nobody if nobody is outstanding, and otherwise one of
those who are. -/
structure Synchronizer.Chosen {L : Type} (s : Synchronizer L) : Prop where
  nobody : s.snapshot = none ∨ s.outstanding = [] → s.selected = none
  member : ∀ new, s.snapshot = some new → new.outstanding ≠ [] →
    ∃ p ∈ new.outstanding, s.selected = some p

/-- What holds of a copy of the round when refreshes with some tickets wait for their readings. -/
structure Synchronizer.Orderly {L : Type} (s : Synchronizer L) (tickets : List Nat) : Prop where
  waiting_eq : s.waiting = tickets.length
  nodup : tickets.Nodup
  le_issued : ∀ t ∈ tickets, t ≤ s.issued
  applied_le : s.applied ≤ s.issued
  applied_notMem : s.applied ∉ tickets
  chosen : s.Chosen

/-- A client and its flows, each with the points at which it waits. -/
structure Session where
  client : Client
  flows : List (Option (List Point))

namespace Session

/-- What happens in a session. -/
inductive Event where
  /-- A flow begins. -/
  | begin (r : Routine)
  /-- Something comes back to a flow. -/
  | resume (flow : Nat) (o : Outcome)
  /-- The user selects a participant. -/
  | select (address : String)
  /-- Somebody wants to be told of snapshots. -/
  | listen (l : Listener)
  /-- The screen is dismissed. -/
  | dismiss

/-- A client that has not done anything yet. -/
def start (settings : Settings) (signer : Option Signer) (desk : Desk) (nonce : Nat)
    (now : Moment) : Session :=
  ⟨.fresh settings signer desk nonce now, []⟩

/-- The session after an event. Nothing comes back to a flow that has ended. -/
def step (s : Session) : Event → Session
  | .begin r =>
    let t := s.client.begin r
    ⟨t.client, s.flows ++ [t.move.stack?]⟩
  | .resume flow o =>
    match s.flows[flow]? with
    | some (some ps) =>
      let t := s.client.proceed o ps
      ⟨t.client, s.flows.set flow t.move.stack?⟩
    | _ => s
  | .select address =>
    match s.client.sync.select address with
    | .ok (sync, _) => { s with client := { s.client with sync } }
    | .error _ => s
  | .listen l => { s with client := { s.client with sync := s.client.sync.addListener l } }
  | .dismiss => { s with client := s.client.teardown.1 }

/-- The session after several events. -/
def after (s : Session) (es : List Event) : Session := es.foldl step s

/-- Whether a flow waits for the readings of a refresh. -/
def Awaits (s : Session) (flow ticket : Nat) : Prop := s.flows[flow]?.bind ticketOf = some ticket

/-- The tickets of the refreshes that wait for their readings. -/
def tickets (s : Session) : List Nat := s.flows.flatMap fun f => (ticketOf f).toList

/-- The snapshot that an event puts in place, if it does, with the ticket of its refresh. -/
def application? (s : Session) : Event → Option (Nat × RoundSnapshot)
  | .resume flow o =>
    (s.flows[flow]?.bind ticketOf).bind fun ticket =>
      (s.client.arrival? ticket o).map fun new => (ticket, new)
  | _ => none

/-- The snapshots that are put in place in the course of some events. -/
def applications : Session → List Event → List (Nat × RoundSnapshot)
  | _, [] => []
  | s, e :: es => (s.application? e).toList ++ (s.step e).applications es

/-- Whether no flow that called another touches the copy of the round. -/
def Stacked (s : Session) : Prop := ∀ f ∈ s.flows, ∀ q ∈ callersOf f, q.isOuter = true

/-- What an event can do to the copy of the round and to the refreshes that wait. -/
inductive Moves (s : Session) : Event → Session → Prop where
  /-- Nothing. -/
  | idle {e : Event} {s' : Session} (sync : s'.client.sync.silent = s.client.sync.silent)
      (tickets : s'.tickets.Perm s.tickets) (application : s.application? e = none) : Moves s e s'
  /-- A refresh begins. -/
  | issue {e : Event} {s' : Session} (sync : s'.client.sync.silent = s.client.sync.issue.1.silent)
      (tickets : s'.tickets.Perm ((s.client.sync.issued + 1) :: s.tickets))
      (application : s.application? e = none) : Moves s e s'
  /-- The readings of a refresh come, or something in their place. -/
  | arrive {flow ticket : Nat} {o : Outcome} {s' : Session} (awaits : s.Awaits flow ticket)
      (sync : s'.client.sync.silent = (s.client.arrived ticket o).silent)
      (tickets : s.tickets.Perm (ticket :: s'.tickets))
      (application : s.application? (.resume flow o) =
        (s.client.arrival? ticket o).map fun new => (ticket, new)) : Moves s (.resume flow o) s'
  /-- A participant is selected. -/
  | choose {address : String} {p : Participant} {sync : Synchronizer Listener} {s' : Session}
      (selected : s.client.sync.select address = .ok (sync, p)) (sync_eq : s'.client.sync = sync)
      (tickets : s'.tickets = s.tickets) : Moves s (.select address) s'

/-- Whether the refreshes of a session have put their snapshots in place in the order of their
tickets, and go on like that whatever happens next. -/
structure InOrder (s : Session) (applied : List (Nat × RoundSnapshot)) : Prop where
  /-- The tickets of the snapshots that were put in place increase. -/
  increasing : (applied.map Prod.fst).Pairwise (· < ·)
  /-- A refresh draws the ticket behind all that were drawn. -/
  drawn : (s.step (.begin .refresh)).Awaits s.flows.length (s.client.sync.issued + 1) ∧
    (s.step (.begin .refresh)).client.sync.issued = s.client.sync.issued + 1
  /-- The snapshot changes only when the readings of the latest refresh come. -/
  changed : ∀ e, (s.step e).client.sync.snapshot ≠ s.client.sync.snapshot →
    ∃ flow o new, e = .resume flow o ∧ s.Awaits flow s.client.sync.issued ∧
      s.application? e = some (s.client.sync.issued, new) ∧
        (s.step e).client.sync.snapshot = some new
  /-- A refresh that is cancelled, fails or has a later one behind it changes nothing. -/
  kept : ∀ flow ticket o, s.Awaits flow ticket →
    (o.isCancelled = true ∨ (∃ f, Synchronizer.snapshotOf (Client.readingsOf o) = .error f) ∨
      ticket ≠ s.client.sync.issued) →
    (s.step (.resume flow o)).client.sync.snapshot = s.client.sync.snapshot ∧
      (s.step (.resume flow o)).client.sync.selected = s.client.sync.selected
  /-- Every other refresh puts its snapshot in place. -/
  placed : ∀ flow ticket o new, s.Awaits flow ticket → o.isCancelled = false →
    Synchronizer.snapshotOf (Client.readingsOf o) = .ok new → ticket = s.client.sync.issued →
    s.application? (.resume flow o) = some (ticket, new) ∧
      (s.step (.resume flow o)).client.sync.snapshot = some new ∧
        (s.step (.resume flow o)).client.sync.selected = new.outstanding.head?
  /-- A refresh that is not cancelled fails exactly if its readings do, and with the fault of the
  synchronizer. -/
  failing : ∀ ticket o f, o.isCancelled = false →
    ((s.client.resume o (.readings ticket)).move = .done (.error f) ↔
      ∃ g, f = .sync g ∧ Synchronizer.snapshotOf (Client.readingsOf o) = .error g)
  /-- The client is loading as long as some refresh waits for its readings. -/
  loading_iff : s.client.sync.loading = true ↔ ∃ flow ticket, s.Awaits flow ticket
  /-- The right participant is selected. -/
  chosen : s.client.sync.Chosen

end Session

/-! ## The copy of the round -/

namespace Synchronizer

variable {L : Type} {s s' : Synchronizer L}

theorem Chosen.congr (h : s.Chosen) (snapshot : s'.snapshot = s.snapshot)
    (selected : s'.selected = s.selected) : s'.Chosen where
  nobody hn := by
    rw [selected]
    rw [outstanding, snapshot] at hn
    exact h.nobody hn
  member new hnew hne := by
    rw [selected]
    exact h.member new (snapshot ▸ hnew) hne

theorem Chosen.apply (s : Synchronizer L) (ticket : Nat) (new : RoundSnapshot) :
    (s.apply ticket new).Chosen where
  nobody := by
    rintro (hn | hn)
    · cases hn
    · replace hn : new.outstanding = [] := hn
      simp [Synchronizer.apply, hn]
  member := by
    rintro new' hnew hne
    obtain rfl : new = new' := Option.some.inj hnew
    exact ⟨new.outstanding.head hne, List.head_mem hne, List.head?_eq_some_head hne⟩

theorem Chosen.select {address : String} {p : Participant}
    (h : s.select address = .ok (s', p)) : s'.Chosen := by
  unfold Synchronizer.select at h
  cases hfind : s.snapshot.bind (·.find address) with
  | none =>
    rw [hfind] at h
    cases h
  | some q =>
    rw [hfind] at h
    cases h
    obtain ⟨old, hold, hq⟩ := Option.bind_eq_some_iff.1 hfind
    have hmem : p ∈ old.outstanding := List.mem_of_find?_eq_some hq
    refine ⟨?_, fun new hnew _ => ?_⟩
    · rintro (hn | hn)
      · rw [hold] at hn
        cases hn
      · rw [outstanding, hold] at hn
        replace hn : old.outstanding = [] := hn
        rw [hn] at hmem
        cases hmem
    · obtain rfl : old = new := Option.some.inj (hold.symm.trans hnew)
      exact ⟨p, hmem, rfl⟩

end Synchronizer

/-! ## Tickets -/

namespace Session

open Client

variable {s s' : Session} {e : Event}

theorem mem_tickets_iff {ticket : Nat} : ticket ∈ s.tickets ↔ ∃ flow, s.Awaits flow ticket := by
  simp only [tickets, List.mem_flatMap, Option.mem_toList, Awaits, Option.bind_eq_some_iff]
  constructor
  · rintro ⟨f, hf, ht⟩
    obtain ⟨flow, hflow⟩ := List.mem_iff_getElem?.1 hf
    exact ⟨flow, f, hflow, ht⟩
  · rintro ⟨flow, f, hflow, ht⟩
    exact ⟨f, List.mem_of_getElem? hflow, ht⟩

/-- One flow goes on, and waits for other readings or for none. -/
theorem tickets_set {flows : List (Option (List Point))} {flow : Nat} {f : Option (List Point)}
    (h : flows[flow]? = some f) (g : Option (List Point)) :
    ((ticketOf f).toList ++ (flows.set flow g).flatMap fun f => (ticketOf f).toList).Perm
      ((ticketOf g).toList ++ flows.flatMap fun f => (ticketOf f).toList) := by
  induction flows generalizing flow with
  | nil => simp at h
  | cons a as ih =>
    cases flow with
    | zero =>
      obtain rfl : a = f := by simpa using h
      simp only [List.set_cons_zero, List.flatMap_cons]
      exact List.perm_append_comm_assoc _ _ _
    | succ flow =>
      simp only [List.set_cons_succ, List.flatMap_cons]
      -- The first flow stands aside while the induction goes on behind it.
      exact (List.perm_append_comm_assoc _ _ _).trans
        (((ih (by simpa using h)).append_left _).trans (List.perm_append_comm_assoc _ _ _))

/-! ## What an event does -/

theorem Stacked.of_flows (h : s.Stacked) {f : Option (List Point)}
    (hflows : ∀ g ∈ s'.flows, g ∈ s.flows ∨ g = f) (hf : ∀ q ∈ callersOf f, q.isOuter = true) :
    s'.Stacked := by
  intro g hg
  rcases hflows g hg with hold | rfl
  · exact h g hold
  · exact hf

theorem begin_moves (h : s.Stacked) (r : Routine) :
    s.Moves (.begin r) (s.step (.begin r)) ∧ (s.step (.begin r)).Stacked := by
  have hflows : ∀ g ∈ (s.step (.begin r)).flows,
      g ∈ s.flows ∨ g = (s.client.begin r).move.stack? := by simp [step]
  have htickets : (s.step (.begin r)).tickets =
      s.tickets ++ (ticketOf (s.client.begin r).move.stack?).toList := by simp [tickets, step]
  rcases begin_cases s.client r with hl | hl
  · refine ⟨.idle hl.sync_eq ?_ rfl, h.of_flows hflows hl.outer⟩
    rw [htickets, hl.ticket_eq, Option.toList_none, List.append_nil]
  · refine ⟨.issue hl.sync_eq ?_ rfl, h.of_flows hflows hl.outer⟩
    rw [htickets, hl.ticket_eq]
    exact List.perm_append_singleton _ _

/-- A flow goes on: it waits for no readings, before or after; or it draws a ticket; or its readings
have come. -/
theorem resume_moves (h : s.Stacked) {flow : Nat} {ps : List Point} (o : Outcome)
    (hps : s.flows[flow]? = some (some ps)) :
    s.Moves (.resume flow o) (s.step (.resume flow o)) ∧ (s.step (.resume flow o)).Stacked := by
  have hstep : s.step (.resume flow o) = ⟨(s.client.proceed o ps).client,
      s.flows.set flow (s.client.proceed o ps).move.stack?⟩ := by
    simp only [step, hps]
  have hflows : ∀ g ∈ (s.step (.resume flow o)).flows,
      g ∈ s.flows ∨ g = (s.client.proceed o ps).move.stack? := by
    rw [hstep]
    exact fun g hg => List.mem_or_eq_of_mem_set hg
  -- The ticket that the flow waited with goes, and the one that it waits with now comes.
  have hperm : ((ticketOf (some ps)).toList ++ (s.step (.resume flow o)).tickets).Perm
      ((ticketOf (s.client.proceed o ps).move.stack?).toList ++ s.tickets) := by
    rw [hstep]
    exact tickets_set hps _
  have happ : s.application? (.resume flow o) = (ticketOf (some ps)).bind fun ticket =>
      (s.client.arrival? ticket o).map fun new => (ticket, new) := by
    simp only [application?, hps, Option.bind_some]
  have idle (hticket : ticketOf (some ps) = none)
      (hl : (s.client.proceed o ps).Leaves s.client.sync none) :
      s.Moves (.resume flow o) (s.step (.resume flow o)) ∧ (s.step (.resume flow o)).Stacked := by
    rw [hticket, hl.ticket_eq] at hperm
    rw [hticket] at happ
    exact ⟨.idle (hstep ▸ hl.sync_eq) hperm happ, h.of_flows hflows hl.outer⟩
  cases ps with
  | nil => exact idle rfl (.finish rfl)
  | cons p ps =>
    have houter : ∀ q ∈ ps, q.isOuter = true := h _ (List.mem_of_getElem? hps)
    cases hp : ticketOf (some [p]) with
    | none =>
      have hticket : ticketOf (some (p :: ps)) = none := by cases p <;> first | rfl | cases hp
      rcases resume_cases s.client o hp with hl | hl
      · exact idle hticket (proceed_leaves hl houter)
      · have hl := proceed_leaves hl houter
        rw [hticket, hl.ticket_eq] at hperm
        rw [hticket] at happ
        exact ⟨.issue (hstep ▸ hl.sync_eq) hperm happ, h.of_flows hflows hl.outer⟩
    | some ticket =>
      obtain rfl : p = .readings ticket := by
        cases p <;> cases hp
        rfl
      have hl : (s.client.proceed o (.readings ticket :: ps)).Leaves
          (s.client.arrived ticket o) none :=
        proceed_leaves (afterReadings_cases s.client ticket o) houter
      have hawaits : s.Awaits flow ticket := by
        rw [Awaits, hps]
        rfl
      rw [hl.ticket_eq] at hperm
      exact ⟨.arrive hawaits (hstep ▸ hl.sync_eq) hperm.symm happ, h.of_flows hflows hl.outer⟩

/-- **What an event does** to the copy of the round and to the refreshes that wait. -/
theorem step_moves (h : s.Stacked) (e : Event) : s.Moves e (s.step e) ∧ (s.step e).Stacked := by
  cases e with
  | begin r => exact begin_moves h r
  | resume flow o =>
    -- Nothing happens to a flow that has ended or never began.
    have idle (hflow : s.flows[flow]? = none ∨ s.flows[flow]? = some none) :
        s.Moves (.resume flow o) (s.step (.resume flow o)) ∧
          (s.step (.resume flow o)).Stacked := by
      have hstep : s.step (.resume flow o) = s := by
        rcases hflow with hflow | hflow <;> simp only [step, hflow]
      have happ : s.application? (.resume flow o) = none := by
        rcases hflow with hflow | hflow <;> simp [application?, hflow, ticketOf]
      rw [hstep]
      exact ⟨.idle rfl (.refl _) happ, h⟩
    cases hflow : s.flows[flow]? with
    | none => exact idle (.inl hflow)
    | some f =>
      cases f with
      | none => exact idle (.inr hflow)
      | some ps => exact resume_moves h o hflow
  | select address =>
    cases hs : s.client.sync.select address with
    | error f =>
      have hstep : s.step (.select address) = s := by simp only [step, hs]
      rw [hstep]
      exact ⟨.idle rfl (.refl _) rfl, h⟩
    | ok r =>
      have hstep : s.step (.select address) =
          { s with client := { s.client with sync := r.1 } } := by simp only [step, hs]
      rw [hstep]
      exact ⟨.choose hs rfl rfl, h⟩
  | listen l => exact ⟨.idle rfl (.refl _) rfl, h⟩
  | dismiss => exact ⟨.idle rfl (.refl _) rfl, h⟩

end Session

/-! ## The counts -/

namespace Synchronizer.Orderly

variable {L : Type} {s s' : Synchronizer L} {ts ts' : List Nat}

theorem idle : (Synchronizer.idle : Synchronizer L).Orderly [] where
  waiting_eq := rfl
  nodup := List.nodup_nil
  le_issued := nofun
  applied_le := Nat.le_refl _
  applied_notMem := nofun
  chosen := ⟨fun _ => rfl, nofun⟩

/-- The order in which the tickets are listed does not matter, nor who is told of snapshots. -/
theorem congr (h : s.Orderly ts) (sync : s'.silent = s.silent) (tickets : ts'.Perm ts) :
    s'.Orderly ts' := by
  obtain ⟨hsnapshot, happlied, hselected, hissued, hwaiting⟩ := silent_eq_iff.1 sync
  constructor
  case waiting_eq => rw [hwaiting, tickets.length_eq, h.waiting_eq]
  case nodup => exact tickets.nodup_iff.2 h.nodup
  case le_issued =>
    intro t ht
    rw [hissued]
    exact h.le_issued t (tickets.mem_iff.1 ht)
  case applied_le =>
    rw [hissued, happlied]
    exact h.applied_le
  case applied_notMem =>
    rw [happlied, tickets.mem_iff]
    exact h.applied_notMem
  case chosen => exact h.chosen.congr hsnapshot hselected

/-- A refresh begins. -/
theorem issue (h : s.Orderly ts) : s.issue.1.Orderly ((s.issued + 1) :: ts) where
  waiting_eq := by
    rw [List.length_cons, ← h.waiting_eq]
    rfl
  nodup := by
    rw [List.nodup_cons]
    refine ⟨fun hmem => ?_, h.nodup⟩
    have := h.le_issued _ hmem
    omega
  le_issued t ht := by
    show t ≤ s.issued + 1
    rcases List.mem_cons.1 ht with rfl | ht
    · exact Nat.le_refl _
    · exact Nat.le_succ_of_le (h.le_issued t ht)
  applied_le := Nat.le_succ_of_le h.applied_le
  applied_notMem := by
    show s.applied ∉ (s.issued + 1) :: ts
    intro hmem
    rcases List.mem_cons.1 hmem with heq | hmem
    · have := h.applied_le
      omega
    · exact h.applied_notMem hmem
  chosen := h.chosen.congr rfl rfl

/-- A refresh waits no more, and the snapshot stays. -/
theorem abandon {ticket : Nat} (h : s.Orderly (ticket :: ts)) : s.abandon.Orderly ts where
  waiting_eq := by
    show s.waiting - 1 = ts.length
    rw [h.waiting_eq]
    rfl
  nodup := (List.nodup_cons.1 h.nodup).2
  le_issued t ht := h.le_issued t (List.mem_cons_of_mem _ ht)
  applied_le := h.applied_le
  applied_notMem hmem := h.applied_notMem (List.mem_cons_of_mem _ hmem)
  chosen := h.chosen.congr rfl rfl

/-- The latest refresh puts its snapshot in place. -/
theorem apply {ticket : Nat} (h : s.Orderly (ticket :: ts)) (latest : ticket = s.issued)
    (new : RoundSnapshot) : (s.abandon.apply ticket new).Orderly ts where
  waiting_eq := h.abandon.waiting_eq
  nodup := h.abandon.nodup
  le_issued := h.abandon.le_issued
  applied_le := Nat.le_of_eq latest
  applied_notMem := (List.nodup_cons.1 h.nodup).1
  chosen := .apply s.abandon ticket new

/-- A participant is selected. -/
theorem select {address : String} {p : Participant} (h : s.Orderly ts)
    (selected : s.select address = .ok (s', p)) : s'.Orderly ts := by
  obtain ⟨q, rfl⟩ : ∃ q, s' = { s with selected := some q } := by
    unfold Synchronizer.select at selected
    split at selected
    · next q _ =>
      cases selected
      exact ⟨p, rfl⟩
    · cases selected
  exact ⟨h.waiting_eq, h.nodup, h.le_issued, h.applied_le, h.applied_notMem, .select selected⟩

end Synchronizer.Orderly

namespace Session

open Client

variable {s s' : Session} {e : Event}

/-- What holds of a session at any time. -/
structure Sound (s : Session) : Prop where
  orderly : s.client.sync.Orderly s.tickets
  stacked : s.Stacked

/-- The latest ticket is that of the refresh whose snapshot is put in place. -/
theorem arrived_cases (c : Client) (ticket : Nat) (o : Outcome) :
    (c.arrival? ticket o = none ∧ c.arrived ticket o = c.sync.abandon) ∨
      ∃ new, c.arrival? ticket o = some new ∧ ticket = c.sync.issued ∧
        c.arrived ticket o = c.sync.abandon.apply ticket new := by
  unfold arrived
  cases ha : c.arrival? ticket o with
  | none => exact .inl ⟨rfl, rfl⟩
  | some new => exact .inr ⟨new, rfl, (arrival?_eq_some_iff.1 ha).2.2, rfl⟩

/-- Every event keeps the counts and the selection. -/
theorem Moves.orderly (m : s.Moves e s') (h : s.client.sync.Orderly s.tickets) :
    s'.client.sync.Orderly s'.tickets := by
  cases m with
  | idle sync tickets application => exact h.congr sync tickets
  | issue sync tickets application => exact h.issue.congr sync tickets
  | @arrive flow ticket o _ awaits sync tickets application =>
    have hticket := h.congr rfl tickets.symm
    rcases arrived_cases s.client ticket o with ⟨-, heq⟩ | ⟨new, -, hlatest, heq⟩
    · rw [heq] at sync
      exact hticket.abandon.congr sync (.refl _)
    · rw [heq] at sync
      exact (hticket.apply hlatest new).congr sync (.refl _)
  | choose selected sync_eq tickets =>
    rw [sync_eq, tickets]
    exact h.select selected

theorem Sound.step (h : s.Sound) (e : Event) : (s.step e).Sound :=
  have m := step_moves h.stacked e
  ⟨m.1.orderly h.orderly, m.2⟩

theorem Sound.after (h : s.Sound) (es : List Event) : (s.after es).Sound := by
  induction es generalizing s with
  | nil => exact h
  | cons e es ih => exact ih (h.step e)

theorem sound_start (settings : Settings) (signer : Option Signer) (desk : Desk) (nonce : Nat)
    (now : Moment) : (start settings signer desk nonce now).Sound where
  orderly := by
    have hsilent : (start settings signer desk nonce now).client.sync.silent =
        (Synchronizer.idle : Synchronizer Listener).silent := by
      simp only [start, fresh]
      split <;> rfl
    exact Synchronizer.Orderly.idle.congr hsilent (.refl _)
  stacked := nofun

/-! ## The order of the refreshes -/

theorem application?_eq_some_iff {ticket : Nat} {new : RoundSnapshot} :
    s.application? e = some (ticket, new) ↔
      ∃ flow o, e = .resume flow o ∧ s.Awaits flow ticket ∧
        s.client.arrival? ticket o = some new := by
  cases e with
  | resume flow o =>
    simp only [application?, Option.bind_eq_some_iff, Option.map_eq_some_iff, Prod.mk.injEq]
    constructor
    · rintro ⟨t, ht, snap, hsnap, rfl, rfl⟩
      exact ⟨flow, o, rfl, Option.bind_eq_some_iff.2 ht, hsnap⟩
    · rintro ⟨_, _, ⟨⟩, ht, hsnap⟩
      exact ⟨ticket, Option.bind_eq_some_iff.1 ht, new, hsnap, rfl, rfl⟩
  | _ => simp [application?]

/-- **What becomes of the snapshot**: it stays, and only the user selects another participant; or
the latest refresh, which is later than the one that made the snapshot before, puts its own in
place. -/
theorem Sound.step_cases (h : s.Sound) (e : Event) :
    (s.application? e = none ∧ (s.step e).client.sync.snapshot = s.client.sync.snapshot ∧
      (s.step e).client.sync.applied = s.client.sync.applied ∧
        ((s.step e).client.sync.selected = s.client.sync.selected ∨ ∃ a, e = .select a)) ∨
    ∃ flow o new, e = .resume flow o ∧ s.Awaits flow s.client.sync.issued ∧
      s.client.arrival? s.client.sync.issued o = some new ∧
        (s.step e).client.sync.snapshot = some new ∧
          (s.step e).client.sync.applied = s.client.sync.issued ∧
            (s.step e).client.sync.issued = s.client.sync.issued ∧
              s.client.sync.applied < s.client.sync.issued ∧
                (s.step e).client.sync.selected = new.outstanding.head? := by
  have m := (step_moves h.stacked e).1
  generalize s.step e = s' at m
  cases m with
  | idle sync tickets application =>
    obtain ⟨hsnapshot, happlied, hselected, -⟩ := Synchronizer.silent_eq_iff.1 sync
    exact .inl ⟨application, hsnapshot, happlied, .inl hselected⟩
  | issue sync tickets application =>
    obtain ⟨hsnapshot, happlied, hselected, -⟩ := Synchronizer.silent_eq_iff.1 sync
    exact .inl ⟨application, hsnapshot, happlied, .inl hselected⟩
  | @arrive flow ticket o _ awaits sync tickets application =>
    obtain ⟨hsnapshot, happlied, hselected, hissued, -⟩ := Synchronizer.silent_eq_iff.1 sync
    rcases arrived_cases s.client ticket o with ⟨hnone, heq⟩ | ⟨new, hsome, rfl, heq⟩
    · rw [heq] at hsnapshot happlied hselected
      rw [hnone] at application
      exact .inl ⟨application, hsnapshot, happlied, .inl hselected⟩
    · rw [heq] at hsnapshot happlied hselected hissued
      -- The refresh waits, and the one that made the snapshot before does not.
      have hne : s.client.sync.applied ≠ s.client.sync.issued := fun heq =>
        h.orderly.applied_notMem (heq ▸ mem_tickets_iff.2 ⟨flow, awaits⟩)
      have hlt := Nat.lt_of_le_of_ne h.orderly.applied_le hne
      exact .inr ⟨flow, o, new, rfl, awaits, hsome, hsnapshot, happlied, hissued, hlt, hselected⟩
  | @choose address p sync _ selected sync_eq tickets =>
    obtain ⟨hsnapshot, happlied⟩ :
        sync.snapshot = s.client.sync.snapshot ∧ sync.applied = s.client.sync.applied := by
      unfold Synchronizer.select at selected
      split at selected <;> cases selected
      exact ⟨rfl, rfl⟩
    rw [sync_eq]
    exact .inl ⟨rfl, hsnapshot, happlied, .inr ⟨address, rfl⟩⟩

/-- The snapshots that are put in place are later than the one before, and follow each other in the
order of their tickets. -/
theorem Sound.applications_sorted (h : s.Sound) (es : List Event) :
    (∀ a ∈ s.applications es, s.client.sync.applied < a.1) ∧
      ((s.applications es).map Prod.fst).Pairwise (· < ·) := by
  induction es generalizing s with
  | nil => exact ⟨nofun, .nil⟩
  | cons e es ih =>
    obtain ⟨hlater, hsorted⟩ := ih (h.step e)
    rcases h.step_cases e with ⟨hnone, -, happlied, -⟩ |
      ⟨flow, o, new, rfl, hawaits, harrival, -, happlied, -, hlt, -⟩
    · rw [happlied] at hlater
      rw [applications, hnone]
      exact ⟨hlater, hsorted⟩
    · rw [happlied] at hlater
      rw [applications, application?_eq_some_iff.2 ⟨flow, o, rfl, hawaits, harrival⟩]
      constructor
      · intro a ha
        rcases List.mem_cons.1 ha with rfl | ha
        · exact hlt
        · exact Nat.lt_trans hlt (hlater a ha)
      · refine List.pairwise_cons.2 ⟨fun t ht => ?_, hsorted⟩
        obtain ⟨a, ha, rfl⟩ := List.mem_map.1 ht
        exact hlater a ha

/-- **Refreshes resolve in the order of their tickets**, whatever flows a client begins, in whatever
order they go on, and whatever comes back to them. -/
theorem inOrder_run (settings : Settings) (signer : Option Signer) (desk : Desk) (nonce : Nat)
    (now : Moment) (es : List Event) :
    ((start settings signer desk nonce now).after es).InOrder
      ((start settings signer desk nonce now).applications es) := by
  have h₀ := sound_start settings signer desk nonce now
  have h := h₀.after es
  generalize (start settings signer desk nonce now).after es = s at h
  constructor
  case increasing => exact (h₀.applications_sorted es).2
  case drawn =>
    refine ⟨?_, rfl⟩
    show (s.flows ++ [_])[s.flows.length]?.bind ticketOf = _
    rw [List.getElem?_concat_length]
    rfl
  case changed =>
    intro e hne
    rcases h.step_cases e with ⟨-, heq, -⟩ | ⟨flow, o, new, rfl, hawaits, harrival, heq, -⟩
    · exact (hne heq).elim
    · exact ⟨flow, o, new, rfl, hawaits,
        application?_eq_some_iff.2 ⟨flow, o, rfl, hawaits, harrival⟩, heq⟩
  case kept =>
    intro flow ticket o hawaits hcause
    rcases h.step_cases (.resume flow o) with ⟨-, hsnapshot, -, hselected⟩ |
      ⟨_, _, new, ⟨⟩, hawaits', harrival, -⟩
    · exact ⟨hsnapshot, hselected.resolve_right nofun⟩
    · -- The readings of this refresh would have made a snapshot in time.
      obtain rfl : ticket = s.client.sync.issued := Option.some.inj (hawaits.symm.trans hawaits')
      obtain ⟨ho, hs, -⟩ := arrival?_eq_some_iff.1 harrival
      rcases hcause with hcancelled | ⟨f, hf⟩ | hlate
      · rw [ho] at hcancelled
        cases hcancelled
      · rw [hs] at hf
        cases hf
      · exact (hlate rfl).elim
  case placed =>
    intro flow ticket o new hawaits ho hs hlatest
    have happ : s.application? (.resume flow o) = some (ticket, new) :=
      application?_eq_some_iff.2 ⟨flow, o, rfl, hawaits, arrival?_eq_some_iff.2 ⟨ho, hs, hlatest⟩⟩
    refine ⟨happ, ?_⟩
    rcases h.step_cases (.resume flow o) with ⟨hnone, -⟩ |
      ⟨_, _, new', ⟨⟩, hawaits', harrival, hsnapshot, -, -, -, hselected⟩
    · rw [hnone] at happ
      cases happ
    · obtain ⟨-, hs', -⟩ := arrival?_eq_some_iff.1 harrival
      obtain rfl : new = new' := Except.ok.inj (hs.symm.trans hs')
      exact ⟨hsnapshot, hselected⟩
  case failing =>
    intro ticket o f ho
    constructor
    · exact failed_of_afterReadings ho
    · rintro ⟨g, rfl, hg⟩
      exact congrArg Turn.move (afterReadings_of_failed ho hg)
  case loading_iff =>
    simp only [Synchronizer.loading, decide_eq_true_eq, h.orderly.waiting_eq,
      List.length_pos_iff_exists_mem, mem_tickets_iff]
    exact exists_comm
  case chosen => exact h.orderly.chosen

end Session
end Plunder
