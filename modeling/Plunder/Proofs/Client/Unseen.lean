import Plunder.Proofs.Client.Voyage

/-!
# A client without its screen

The core of a client is what is left once nobody looks at it: the screen does not listen, and there
is no chart. Whatever does not wait for a chart takes the same steps from the core, and what is done
to the screen leaves the core as it is.

Main statements:
- `begin_alike`, `proceed_alike`: the steps of a flow are the same without a screen
- `core_touch`: so is what is done at once
- `core_teardown`, `core_afterFetch`: what is done to the screen leaves the core as it is
-/

namespace Plunder

/-! ## Definitions -/

/-- The listeners other than the screen. -/
def Listener.unseen (ls : List Listener) : List Listener := ls.filter (· != .screen)

/-- A client without anything on its screen. -/
def Client.core (c : Client) : Client :=
  { c with
    sync := { c.sync with listeners := Listener.unseen c.sync.listeners }
    screen := .blank c.screen.settings
    desk := .empty false }

def Point.core : Point → Point
  | .listening ticket new current others => .listening ticket new current (Listener.unseen others)
  | p => p

/-- Whether a point has nothing to do with the chart. -/
def Point.lasts : Point → Bool
  | .drawing | .chart _ => false
  | _ => true

def Move.core : Move → Move
  | .done o => .done o
  | .wait need ps => .wait need (ps.map Point.core)

/-- Two steps that differ at most in what is on the screen. -/
structure Turn.Alike (t t' : Turn) : Prop where
  client : t.client.core = t'.client.core
  move : t.move.core = t'.move.core

namespace Turn.Alike

variable {t t' t'' : Turn}

theorem symm (h : t.Alike t') : t'.Alike t := ⟨h.client.symm, h.move.symm⟩

theorem trans (h : t.Alike t') (h' : t'.Alike t'') : t.Alike t'' :=
  ⟨h.client.trans h'.client, h.move.trans h'.move⟩

/-- Either both end, with the same, or both wait, for the same. -/
theorem move_cases (h : t.Alike t') :
    (∃ o, t.move = .done o ∧ t'.move = .done o) ∨
      ∃ need ps ps', t.move = .wait need ps ∧ t'.move = .wait need ps' ∧
        ps.map Point.core = ps'.map Point.core := by
  have hmove := h.move
  cases hm : t.move with
  | done o =>
    cases hm' : t'.move with
    | done o' =>
      rw [hm, hm'] at hmove
      obtain rfl := Move.done.inj hmove
      exact .inl ⟨o, rfl, rfl⟩
    | wait need' ps' =>
      rw [hm, hm'] at hmove
      cases hmove
  | wait need ps =>
    cases hm' : t'.move with
    | done o' =>
      rw [hm, hm'] at hmove
      cases hmove
    | wait need' ps' =>
      rw [hm, hm'] at hmove
      obtain ⟨rfl, hps⟩ := Move.wait.inj hmove
      exact .inr ⟨need, ps, ps', rfl, rfl, hps⟩

end Turn.Alike

/-! ## The screen and the other listeners -/

theorem Listener.unseen_unseen (ls : List Listener) : unseen (unseen ls) = unseen ls := by
  simp only [unseen, List.filter_filter, Bool.and_self]

namespace Point

@[simp] theorem core_core (p : Point) : p.core.core = p.core := by
  cases p <;> simp [core, Listener.unseen_unseen]

@[simp] theorem core_comp_core : core ∘ core = core := funext core_core

@[simp] theorem lasts_core (p : Point) : p.core.lasts = p.lasts := by
  cases p <;> rfl

end Point

namespace Client

open Turn Listener

variable {c d : Client} {o : Outcome}

@[simp] theorem core_core (c : Client) : c.core.core = c.core := by
  simp only [core, unseen_unseen, Screen.blank]

theorem release_settings (s : Screen) (d : Desk) : (s.release d).1.settings = s.settings := by
  unfold Screen.release
  split <;> rfl

theorem core_hearOnScreen (c : Client) (new : RoundSnapshot) :
    (c.hearOnScreen new).1.core = c.core := by
  unfold hearOnScreen
  split
  · rfl
  · simp only [core, release_settings]

theorem unseen_erase (ls : List Listener) (name : String) (kind : ListenerKind) :
    Listener.unseen (ls.erase (.named name kind)) =
      (Listener.unseen ls).erase (.named name kind) := by
  simp [Listener.unseen, List.erase_filter]

theorem unseen_erase_screen (ls : List Listener) :
    Listener.unseen (ls.erase .screen) = Listener.unseen ls := by
  induction ls with
  | nil => rfl
  | cons l ls ih =>
    rw [List.erase_cons]
    split
    · next h =>
      obtain rfl : l = .screen := eq_of_beq h
      rfl
    · simp only [Listener.unseen, List.filter_cons] at ih ⊢
      rw [ih]

theorem core_hearByName (c : Client) (name : String) (kind : ListenerKind) (ticket : Nat)
    (new : RoundSnapshot) :
    (c.hearByName name kind ticket new).core = c.core.hearByName name kind ticket new := by
  cases kind with
  | unlistenSelf => simp only [hearByName, core, Synchronizer.removeListener, unseen_erase]
  | _ => rfl

/-! ## Steps with and without a screen -/

/-- A step is like one that does the same to the core. -/
theorem alike_core {t t' : Turn} (client : t'.client = t.client.core)
    (move : t.move.core = t'.move.core) : t.Alike t' :=
  ⟨by rw [client, core_core], move⟩

/-- Nobody else hears anything different without the screen. -/
theorem notify_alike (ticket : Nat) (new : RoundSnapshot) (ls : List Listener) (c : Client) :
    (notify ticket new ls c).Alike (notify ticket new (Listener.unseen ls) c.core) := by
  induction ls generalizing c with
  | nil => exact alike_core rfl rfl
  | cons l ls ih =>
    cases l with
    | screen =>
      -- The screen lets nobody go first, and what it hears is not in the core.
      obtain ⟨hclient, hmove⟩ := ih (c.hearOnScreen new).1
      rw [core_hearOnScreen] at hclient hmove
      exact ⟨hclient, hmove⟩
    | named name kind =>
      have hunseen : unseen (.named name kind :: ls) = .named name kind :: unseen ls := rfl
      rw [hunseen, notify, notify]
      split
      · refine alike_core rfl ?_
        simp [Turn.await, Move.core, Point.core, unseen_unseen]
      · obtain ⟨hclient, hmove⟩ := ih (c.hearByName name kind ticket new)
        rw [core_hearByName] at hclient hmove
        exact ⟨hclient, hmove⟩

theorem afterReadings_alike (c : Client) (ticket : Nat) (o : Outcome) :
    (c.afterReadings ticket o).Alike (c.core.afterReadings ticket o) := by
  cases ho : o.isCancelled with
  | true =>
    rw [afterReadings_of_cancelled ho, afterReadings_of_cancelled ho]
    exact alike_core rfl rfl
  | false =>
    cases hs : Synchronizer.snapshotOf (readingsOf o) with
    | error f =>
      rw [afterReadings_of_failed ho hs, afterReadings_of_failed ho hs]
      exact alike_core rfl rfl
    | ok new =>
      by_cases ht : ticket = c.sync.issued
      · rw [afterReadings_of_latest ho hs ht, afterReadings_of_latest (c := c.core) ho hs ht]
        obtain ⟨hclient, hmove⟩ := notify_alike ticket new c.sync.listeners
          { c with sync := c.sync.abandon.apply ticket new }
        exact ⟨hclient, hmove⟩
      · rw [afterReadings_of_stale ho hs ht, afterReadings_of_stale (c := c.core) ho hs ht]
        exact alike_core rfl rfl

theorem core_hear (c : Client) (l : Listener) (ticket : Nat) (new : RoundSnapshot) :
    (c.core.hear l ticket new).1.core = (c.hear l ticket new).1.core := by
  cases l with
  | screen =>
    simp only [hear]
    rw [core_hearOnScreen, core_hearOnScreen, core_core]
  | named name kind =>
    simp only [hear]
    rw [← core_hearByName, core_core]

theorem afterTurn_alike (c : Client) (ticket : Nat) (new : RoundSnapshot) (l : Listener)
    (others : List Listener) (o : Outcome) :
    (c.afterTurn ticket new l others o).Alike
      (c.core.afterTurn ticket new l (Listener.unseen others) o) := by
  cases o with
  | error f => exact alike_core rfl rfl
  | ok r =>
    -- The listener that was waited for may leave, so both sides are compared with one core.
    have h := notify_alike ticket new others (c.hear l ticket new).1
    have h' := notify_alike ticket new (Listener.unseen others) (c.core.hear l ticket new).1
    rw [core_hear, unseen_unseen] at h'
    obtain ⟨hclient, hmove⟩ := h.trans h'.symm
    exact ⟨hclient, hmove⟩

theorem failAction_alike (c : Client) (kind : ActionKind) (notes : List Note) (f : Fault) :
    (c.failAction kind notes f).Alike (c.core.failAction kind notes f) := by
  unfold failAction
  split <;> exact alike_core rfl rfl

theorem action_alike (c : Client) (kind : ActionKind) (participant : String) (amount : Value) :
    (c.action kind participant amount).Alike (c.core.action kind participant amount) := by
  have hsigned : c.core.signed kind participant amount = c.signed kind participant amount := by
    cases kind <;> rfl
  simp only [action, hsigned]
  split
  · exact failAction_alike { c with nonce := _ } kind _ _
  · exact alike_core rfl rfl

theorem afterSubmission_alike (c : Client) (kind : ActionKind) (o : Outcome) :
    (c.afterSubmission kind o).Alike (c.core.afterSubmission kind o) := by
  unfold afterSubmission
  split
  · exact alike_core rfl rfl
  · exact failAction_alike c kind _ _
  · exact failAction_alike c kind _ _

theorem afterFinality_alike (c : Client) (kind : ActionKind) (o : Outcome) :
    (c.afterFinality kind o).Alike (c.core.afterFinality kind o) := by
  unfold afterFinality
  split
  · split
    · exact failAction_alike c kind _ _
    · exact alike_core rfl rfl
  · exact failAction_alike c kind _ _
  · exact failAction_alike c kind _ _

theorem afterRefresh_alike (c : Client) (kind : ActionKind) (o : Outcome) :
    (c.afterRefresh kind o).Alike (c.core.afterRefresh kind o) := by
  unfold afterRefresh
  split
  · exact alike_core rfl rfl
  · split <;> exact alike_core rfl rfl

theorem afterAction_alike (c : Client) (kind : ActionKind) (o : Outcome) :
    (c.afterAction kind o).Alike (c.core.afterAction kind o) := by
  unfold afterAction
  split
  · exact alike_core rfl rfl
  · split <;> exact alike_core rfl rfl

theorem afterLoading_alike (c : Client) (o : Outcome) :
    (c.afterLoading o).Alike (c.core.afterLoading o) := by
  unfold afterLoading
  split
  · exact alike_core rfl rfl
  · split <;> exact alike_core rfl rfl

/-- A step from a point that has nothing to do with the chart is the same without a screen. -/
theorem resume_alike (c : Client) (o : Outcome) {p : Point} (lasts : p.lasts = true) :
    (c.resume o p).Alike (c.core.resume o p.core) := by
  cases p with
  | readings ticket => exact afterReadings_alike c ticket o
  | listening ticket new l others => exact afterTurn_alike c ticket new l others o
  | submission kind => exact afterSubmission_alike c kind o
  | finality kind => exact afterFinality_alike c kind o
  | followUp kind => exact afterRefresh_alike c kind o
  | reporting kind => exact afterAction_alike c kind o
  | loading => exact afterLoading_alike c o
  | drawing => cases lasts
  | chart generation => cases lasts

/-- So is one from a stack of such points. -/
theorem proceed_alike {ps : List Point} (lasts : ∀ p ∈ ps, p.lasts = true) (o : Outcome)
    (same : c.core = d.core) : (c.proceed o ps).Alike (d.proceed o (ps.map Point.core)) := by
  induction ps generalizing c d o with
  | nil => exact ⟨same, rfl⟩
  | cons p ps ih =>
    obtain ⟨hp, hps⟩ := List.forall_mem_cons.1 lasts
    have h : (c.resume o p).Alike (d.resume o p.core) := by
      have hd := resume_alike d o (p := p.core) ((Point.lasts_core p).trans hp)
      rw [Point.core_core, ← same] at hd
      exact (resume_alike c o hp).trans hd.symm
    rcases h.move_cases with ⟨o', hc, hd⟩ | ⟨need, qs, qs', hc, hd, hqs⟩
    · -- What the upper flow ends with goes to the points beneath, in both.
      obtain ⟨hclient, hmove⟩ := proceed_of_done hc ps
      obtain ⟨hclient', hmove'⟩ := proceed_of_done hd (ps.map Point.core)
      obtain ⟨hcl, hmv⟩ := ih hps o' h.client
      rw [← hclient, ← hclient'] at hcl
      rw [← hmove, ← hmove'] at hmv
      exact ⟨hcl, hmv⟩
    · obtain ⟨hclient, hmove⟩ := proceed_of_wait hc ps
      obtain ⟨hclient', hmove'⟩ := proceed_of_wait hd (ps.map Point.core)
      rw [List.map_cons]
      constructor
      case client => rw [hclient, hclient', h.client]
      case move =>
        rw [hmove, hmove']
        simp [Move.core, hqs]

theorem core_invoked? (c : Client) (r : Routine) : c.core.invoked? r = c.invoked? r := by
  cases r <;> rfl

theorem core_typing (c : Client) (r : Routine) : c.core.typing r = (c.typing r).core := by
  unfold typing
  split <;> rfl

theorem core_told (c : Client) (r : Routine) (o : Outcome) : c.core.told r o = c.told r o := by
  unfold told
  split <;> rfl

/-- The first step of anything but a chart load is the same without a screen. -/
theorem begin_alike (c : Client) {r : Routine} (h : r ≠ .chart) :
    (c.begin r).Alike (c.core.begin r) := by
  cases hinvoked : c.invoked? r with
  | some invoked =>
    -- What is launched, or refused, does not depend on the screen.
    obtain ⟨kind, participant, amount⟩ := invoked
    have hcore := (core_invoked? c r).trans hinvoked
    cases hpending : c.actions.isPending kind with
    | true =>
      rw [begin_of_pending hinvoked hpending, begin_of_pending hcore hpending, core_typing,
        core_told]
      exact alike_core rfl rfl
    | false =>
      obtain ⟨note, hbegin⟩ := begin_of_idle hinvoked hpending
      obtain ⟨note', hbegin'⟩ := begin_of_idle hcore hpending
      rw [hbegin, hbegin', core_typing]
      exact alike_core rfl rfl
  | none =>
    -- All that is left to the screen is whether the ledger is open, which is a setting.
    cases r with
    | refresh => exact alike_core rfl rfl
    | action kind p a => exact action_alike c kind p a
    | load =>
      cases hclosed : c.screen.closed with
      | true =>
        have hclosed' : c.core.screen.closed = true := hclosed
        simp only [begin, load, hclosed, hclosed', if_true]
        refine alike_core rfl ?_
        simp only [Turn.finish, Move.core, view, hclosed, hclosed', if_true]
      | false =>
        have hclosed' : c.core.screen.closed = false := hclosed
        simp only [begin, load, hclosed, hclosed', Bool.false_eq_true, if_false]
        exact alike_core rfl rfl
    | report a p =>
      have hclosed : c.screen.closed = true := by simpa [invoked?] using hinvoked
      have hclosed' : c.core.screen.closed = true := hclosed
      simp only [begin, report, hclosed, hclosed', if_true]
      exact alike_core rfl rfl
    | setSail =>
      have hclosed : c.screen.closed = true := by simpa [invoked?] using hinvoked
      have hclosed' : c.core.screen.closed = true := hclosed
      simp only [begin, setSail, hclosed, hclosed', if_true]
      exact alike_core rfl rfl
    | submitHaul p a => cases hinvoked
    | advanceRound => cases hinvoked
    | chart => exact (h rfl).elim

/-! ## What is done at once, and what is done to the screen -/

theorem core_touch (c : Client) (t : Voyage.Touch) : (c.touch t).core = c.core.touch t := by
  cases t with
  | select address =>
    have hsnapshot : c.core.sync.snapshot = c.sync.snapshot := rfl
    simp only [touch, Synchronizer.select, hsnapshot]
    cases c.sync.snapshot.bind (·.find address) <;> rfl
  | setAmount amount => rfl
  | setSigner signer => rfl
  | listen name kind => simp [touch, core, Synchronizer.addListener, unseen]
  | unlisten name kind => simp only [touch, core, Synchronizer.removeListener, unseen_erase]

theorem core_teardown (c : Client) : c.teardown.1.core = c.core := by
  simp only [teardown, core, Screen.dismiss, release_settings, Synchronizer.removeListener,
    unseen_erase_screen]

theorem present_settings (s : Screen) (d : Desk) (a : ChartArtifact) :
    (s.present d a).screen.settings = s.settings := by
  unfold Screen.present
  split <;> exact release_settings ..

theorem receive_settings (s : Screen) (d : Desk) (generation : Nat) (payload : Value) :
    (s.receive d generation payload).screen.settings = s.settings := by
  unfold Screen.receive
  split
  · rfl
  · split
    · rfl
    · exact release_settings s d
    · exact present_settings s d _

theorem arrivalOf_settings (c : Client) (generation : Nat) (o : Outcome) :
    (c.arrivalOf generation o).screen.settings = c.screen.settings := by
  unfold arrivalOf
  split
  · exact receive_settings ..
  · exact receive_settings ..
  · exact release_settings ..

theorem core_afterFetch (c : Client) (generation : Nat) (o : Outcome) :
    (c.afterFetch generation o).client.core = c.core := by
  unfold afterFetch
  split
  · rfl
  · simp only [Turn.finish, core, arrivalOf_settings]

end Client

end Plunder
