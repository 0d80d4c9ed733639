import Plunder.Proofs.Client.Unseen
import Plunder.Proofs.Console.Standing

/-!
# The files of a command

The screen of a command holds the file of its chart and no other, and lets go of it when the command
ends, however it ends. Chart loads that are still under way then bring nothing: those that have not
begun never do, and those that wait began before the screen was dismissed.

Main statements:
- `begin_shows`, `proceed_shows`: what a step of a flow does to the screen
- `loadTurn?_cases`: what a step of a chart load can do
- `Kept.turn`, `Kept.reply`, `Kept.draw`: what an event leaves of the files before the end
- `Gone.after`: there is none after it
-/

namespace Plunder

/-! ## Definitions -/

/-- What a step can do to the screen and its files, and the orders that it gives. -/
inductive Turn.Shows (c : Client) (t : Turn) : Prop where
  /-- Nothing. -/
  | rest (screen : t.client.screen = c.screen) (desk : t.client.desk = c.desk)
      (orders : t.orders = [])
  /-- A chart is to be drawn. -/
  | drawing (screen : t.client.screen = c.screen) (desk : t.client.desk = c.desk)
      (orders : t.orders = [.callOff, .begin])
  /-- The screen lets go of its chart. -/
  | clearing (screen : t.client.screen = (c.screen.release c.desk).1)
      (desk : t.client.desk = (c.screen.release c.desk).2) (orders : t.orders = [.callOff])

namespace Console.Stint

/-- Whether only the load that was started last can still bring a chart, and none has begun but in
the first generation of the screen. -/
structure Ordered (loads : List ChartLoad) : Prop where
  last : ∀ (i : Nat) l, loads[i]? = some l → l.isLive = true → i + 1 = loads.length
  waiting : ∀ l ∈ loads, ∀ need ps, l.stage = .waiting need ps → ps = [.chart 0]

/-- How many steps a chart load may still take. -/
def pauses (l : ChartLoad) : Nat :=
  match l.stage with
  | .due => 2
  | .waiting _ _ => 1
  | .finished _ => 0

/-- How many steps the chart loads may still take. -/
def loadsLeft (loads : List ChartLoad) : Nat := (loads.map pauses).sum

/-- What holds of the files until the command ends, besides the files of others. -/
structure Kept (others : List (String × Bytes)) (s : Stint) : Prop where
  under : ∀ report, s.post ≠ .ended report
  generation_eq : s.client.screen.generation = 0
  owns : ∃ shown, s.client.screen.Owns s.client.desk others shown
  fresh : s.client.desk.Fresh
  ordered : Ordered s.loads

/-- What holds of the files once the command has ended. -/
structure Gone (others : List (String × Bytes)) (s : Stint) : Prop where
  flows_eq : s.flows = []
  generation_ne : s.client.screen.generation ≠ 0
  handle_eq : s.client.screen.handle = none
  files_eq : s.client.desk.files = others
  dead : ∀ l ∈ s.loads, l.isLive = false
  waiting : ∀ l ∈ s.loads, ∀ need ps, l.stage = .waiting need ps → ps = [.chart 0]

end Console.Stint

/-! ## What a flow does to the screen -/

namespace Turn.Shows

variable {c : Client} {t : Turn}

theorem of_aside (h : Aside c [] t) : t.Shows c :=
  .rest h.same.screen_eq h.same.desk_eq h.orders_eq

/-- The screen hears of a snapshot, and the client is otherwise as it was as far as the screen
goes. -/
theorem of_heard {c' : Client} {new : RoundSnapshot}
    (h : Aside (c'.hearOnScreen new).1 (c'.hearOnScreen new).2 t) (screen : c'.screen = c.screen)
    (desk : c'.desk = c.desk) : t.Shows c := by
  have hscreen := h.same.screen_eq
  have hdesk := h.same.desk_eq
  have horders := h.orders_eq
  unfold Client.hearOnScreen at hscreen hdesk horders
  split at hscreen
  · next hwants =>
    rw [if_pos hwants] at hdesk horders
    exact .drawing (hscreen.trans screen) (hdesk.trans desk) horders
  · next hwants =>
    rw [if_neg hwants] at hdesk horders
    simp only [screen, desk] at hscreen hdesk
    exact .clearing hscreen hdesk horders

end Turn.Shows

namespace Client

open Turn

variable {c : Client} {ps : List Point}

theorem begin_shows (c : Client) {r : Routine} (hr : r ≠ .chart) : (c.begin r).Shows c :=
  .of_aside (begin_aside c hr)

theorem isAside_of_isSteady {p : Point} (h : p.isSteady = true) : p.IsAside := by
  cases p with
  | listening => cases h
  | chart => cases h
  | _ => trivial

/-- **What a step does to the screen.** -/
theorem proceed_shows (h : c.Attended) (hps : ∀ p ∈ ps, p.isSteady = true)
    (houter : ∀ p ∈ ps.tail, p.isOuter = true) (o : Outcome) : (c.proceed o ps).Shows c := by
  cases ps with
  | nil => exact .rest rfl rfl rfl
  | cons p ps =>
    rw [List.forall_mem_cons] at hps
    have haside : p.IsAside := isAside_of_isSteady hps.1
    cases p with
    | readings ticket =>
      have hfirst : Listener.ScreenFirst c.sync.listeners := by
        rw [h.listeners_eq]
        exact List.not_mem_nil
      have hproceed := proceed_aside (p := .readings ticket)
        (afterReadings_shown hfirst ticket o) houter
      unfold onArrival at hproceed
      split at hproceed
      · next new _ =>
        have hlistens : .screen ∈ (c.sync.abandon.apply ticket new).listeners := by
          show .screen ∈ c.sync.listeners
          rw [h.listeners_eq]
          exact List.mem_singleton_self _
        rw [shown, if_pos hlistens] at hproceed
        exact .of_heard hproceed rfl rfl
      · exact .of_aside hproceed
    | _ => exact .of_aside (proceed_aside (resume_aside c o haside rfl) houter)

end Client

namespace Console.Stint

open ChartLoad

variable {others : List (String × Bytes)} {s : Stint} {c : Client} {t : Turn} {o : Outcome}
  {l l' : ChartLoad} {loads : List ChartLoad}

/-! ## Chart loads -/

theorem loadsLeft_callOff (loads : List ChartLoad) (k : Nat) :
    loadsLeft (loads.modify k callOff) = loadsLeft loads :=
  congrArg List.sum (map_callOff pauses (fun _ => rfl) loads k)

theorem loadsLeft_set {i : Nat} (here : loads[i]? = some l) :
    loadsLeft (loads.set i l') + pauses l = loadsLeft loads + pauses l' := by
  unfold loadsLeft
  induction loads generalizing i with
  | nil => simp at here
  | cons k ks ih =>
    cases i with
    | zero =>
      cases here
      simp only [List.set_cons_zero, List.map_cons, List.sum_cons]
      omega
    | succ i =>
      have := ih here
      simp only [List.set_cons_succ, List.map_cons, List.sum_cons]
      omega

namespace Ordered

theorem nil : Ordered [] where
  last i l hi := by simp at hi
  waiting _ hl := (List.not_mem_nil hl).elim

theorem callOff (h : Ordered loads) :
    Ordered (loads.modify (loads.length - 1) ChartLoad.callOff) where
  last i l hi hlive := by
    rw [notLive_callOff h.last l (List.mem_of_getElem? hi)] at hlive
    cases hlive
  waiting := waiting_callOff (P := (· = [.chart 0])) h.waiting

/-- A load is started, and the one before is called off. -/
theorem start (h : Ordered loads) (ticket : Nat) :
    Ordered (loads.modify (loads.length - 1) ChartLoad.callOff ++ [.ofTicket ticket]) where
  last i l hi hlive := by
    rw [List.getElem?_append] at hi
    split at hi
    · -- None of the loads that were there before is live any longer.
      rw [notLive_callOff h.last l (List.mem_of_getElem? hi)] at hlive
      cases hlive
    · obtain ⟨hlt, -⟩ := List.getElem?_eq_some_iff.1 hi
      rw [List.length_singleton] at hlt
      rw [List.length_append, List.length_singleton]
      omega
  waiting l hl need ps hstage := by
    rcases List.mem_append.1 hl with hl | hl
    · exact h.callOff.waiting l hl need ps hstage
    · rw [List.mem_singleton.1 hl] at hstage
      cases hstage

/-- A load goes on. -/
theorem set {i : Nat} (h : Ordered loads) (here : loads[i]? = some l)
    (live : l'.isLive = true → l.isLive = true)
    (waiting : ∀ need ps, l'.stage = .waiting need ps → ps = [.chart 0]) :
    Ordered (loads.set i l') where
  last j k hj hlive := by
    rw [List.length_set]
    rw [List.getElem?_set] at hj
    split at hj
    · next heq =>
      subst heq
      split at hj
      · -- The load that goes on is live only if it was live before.
        cases hj
        exact h.last i l here (live hlive)
      · cases hj
    · exact h.last j k hj hlive
  waiting k hk need ps hstage := by
    rcases List.mem_or_eq_of_mem_set hk with hk | rfl
    · exact h.waiting k hk need ps hstage
    · exact waiting need ps hstage

/-- A step of a flow starts at most one load, and calls off the one before. -/
theorem orders (h : Ordered loads) (shows : t.Shows c) (ticket : Nat) :
    Ordered (t.orders.foldl (Gallery.order ticket) loads) := by
  cases shows with
  | rest _ _ orders => exact orders ▸ h
  | drawing _ _ orders => exact orders ▸ h.start ticket
  | clearing _ _ orders => exact orders ▸ h.callOff

end Ordered

/-- What a step of a flow leaves to the loads: no more than what a new one has to do. -/
theorem loadsLeft_orders (shows : t.Shows c) (ticket : Nat) (loads : List ChartLoad) :
    loadsLeft (t.orders.foldl (Gallery.order ticket) loads) ≤ loadsLeft loads + 2 := by
  have hcallOff := loadsLeft_callOff loads (loads.length - 1)
  cases shows with
  | rest _ _ orders =>
    rw [orders]
    exact Nat.le_add_right _ _
  | drawing _ _ orders =>
    rw [orders]
    simp only [loadsLeft, List.foldl_cons, List.foldl_nil, Gallery.order, List.map_append,
      List.sum_append] at hcallOff ⊢
    rw [hcallOff]
    exact Nat.le_refl _
  | clearing _ _ orders =>
    rw [orders]
    exact hcallOff.trans_le (Nat.le_add_right _ _)

/-- What a step of a chart load can do: it ends, and the client is as it was or shows what has come;
or it asks for the payload, unless it was called off. -/
theorem loadTurn?_cases (waiting : ∀ need ps, l.stage = .waiting need ps → ps = [.chart 0])
    (h : loadTurn? c l o = some t) :
    (∃ o', t.move = .done o' ∧ (t.client = c ∨ t.client =
        { c with screen := (c.arrivalOf 0 o).screen, desk := (c.arrivalOf 0 o).desk })) ∨
      (l.isLive = true ∧ l.stage = .due ∧ t.client = c ∧
        t.move = .wait (.answer .chart) [.chart c.screen.generation]) := by
  cases hstage : l.stage with
  | due =>
    simp only [loadTurn?, hstage, Option.some.injEq] at h
    cases hoff : l.calledOff with
    | true =>
      rw [hoff] at h
      subst h
      exact .inl ⟨_, rfl, .inl rfl⟩
    | false =>
      rw [hoff] at h
      subst h
      exact .inr ⟨by simp [isLive, hstage, hoff, Stage.isOver], rfl, rfl, rfl⟩
  | waiting need ps =>
    obtain rfl := waiting need ps hstage
    simp only [loadTurn?, hstage, Option.ite_none_left_eq_some, Option.some.injEq] at h
    obtain ⟨-, rfl⟩ := h
    obtain ⟨hclient, hmove⟩ := Client.proceed_singleton c o (.chart 0)
    cases ho : o.isCancelled with
    | true =>
      -- A load that hears of its cancellation leaves the client alone.
      have hfetch : c.resume o (.chart 0) = .finish c [] o := if_pos ho
      rw [hfetch] at hclient hmove
      exact .inl ⟨o, hmove, .inl hclient⟩
    | false =>
      obtain ⟨hfetch, o', hdone⟩ := Client.afterFetch_of_answered c 0 ho
      exact .inl ⟨o', hmove.trans hdone, .inr (hclient.trans hfetch)⟩
  | finished o' => simp only [loadTurn?, hstage, reduceCtorEq] at h

/-- A chart load that has not ended goes on with whatever comes, unless that is a cancellation. -/
theorem exists_loadTurn? (c : Client) (under : l.stage.isOver = false) (ho : o.isCancelled = false) :
    ∃ t, loadTurn? c l o = some t := by
  cases hstage : l.stage with
  | due => simp only [loadTurn?, hstage, Option.some.injEq, exists_eq']
  | waiting need ps =>
    refine ⟨c.proceed o ps, ?_⟩
    simp only [loadTurn?, hstage, ho, Bool.false_and, Bool.false_eq_true, if_false]
  | finished o' =>
    rw [hstage] at under
    cases under

theorem draw_of_turn {number : Nat} (here : s.loads[number]? = some l)
    (turn : loadTurn? s.client l o = some t) :
    s.draw number o =
      { s with
        client := t.client, loads := s.loads.set number { l with stage := t.move.stage } } := by
  simp only [draw, here, turn]

/-- Something comes to a chart load that takes a step, or nothing happens. -/
theorem draw_cases (s : Stint) (number : Nat) (o : Outcome) :
    s.draw number o = s ∨ ∃ l t, s.loads[number]? = some l ∧ loadTurn? s.client l o = some t := by
  unfold draw
  split
  · next l here =>
    split
    · next t turn => exact .inr ⟨l, t, here, turn⟩
    · exact .inl rfl
  · exact .inl rfl

/-- A step of a chart load leaves it fewer. -/
theorem pauses_lt (waiting : ∀ need ps, l.stage = .waiting need ps → ps = [.chart 0])
    (turn : loadTurn? c l o = some t) :
    pauses { l with stage := t.move.stage } < pauses l := by
  rcases loadTurn?_cases waiting turn with ⟨o', hmove, -⟩ | ⟨-, hdue, -, hmove⟩
  · rw [hmove]
    cases hstage : l.stage with
    | due => simp only [pauses, Move.stage, hstage, Nat.zero_lt_succ]
    | waiting => simp only [pauses, Move.stage, hstage, Nat.zero_lt_succ]
    | finished => simp only [loadTurn?, hstage, reduceCtorEq] at turn
  · rw [hmove]
    simp only [pauses, Move.stage, hdue, Nat.lt_succ_self]

/-! ## Payloads -/

/-- **The files after a payload has arrived** since the screen was last dismissed, whatever it is:
they are in order, or as they were if it cannot be read at all. -/
theorem arrivalOf_tidies {shown : Option Bytes} (owns : c.screen.Owns c.desk others shown)
    (fresh : c.desk.Fresh) (o : Outcome) :
    (∃ shown', (c.arrivalOf c.screen.generation o).Brings c.screen others shown') ∨
      (c.arrivalOf c.screen.generation o).screen = c.screen ∧
        (c.arrivalOf c.screen.generation o).desk = c.desk := by
  have receive (v : Value) :
      (∃ shown', (c.screen.receive c.desk c.screen.generation v).Brings c.screen others shown') ∨
        (c.screen.receive c.desk c.screen.generation v).screen = c.screen ∧
          (c.screen.receive c.desk c.screen.generation v).desk = c.desk := by
    unfold Screen.receive
    rw [if_neg (not_not_intro rfl)]
    split
    · exact .inr ⟨rfl, rfl⟩
    · exact .inl ⟨none, Screen.release_brings owns fresh _⟩
    · next a notes _ => exact .inl ⟨_, (Screen.present_brings owns fresh a).noting _⟩
  unfold Client.arrivalOf
  split
  · exact receive _
  · exact receive .null
  · exact .inl ⟨none, Screen.fetchFailed_brings owns fresh _⟩

/-- A screen that was dismissed in the meantime shows nothing of what arrives. -/
theorem arrivalOf_of_gone (gone : c.screen.generation ≠ 0) (handle : c.screen.handle = none)
    (o : Outcome) :
    (c.arrivalOf 0 o).screen = c.screen ∧ (c.arrivalOf 0 o).desk = c.desk := by
  have receive (v : Value) : (c.screen.receive c.desk 0 v).screen = c.screen ∧
      (c.screen.receive c.desk 0 v).desk = c.desk := by
    unfold Screen.receive
    rw [if_pos (Ne.symm gone)]
    exact ⟨rfl, rfl⟩
  unfold Client.arrivalOf
  split
  · exact receive _
  · exact receive .null
  · simp only [Screen.fetchFailed, Screen.release, handle, and_self]

/-! ## Before the end -/

/-- Whether a flow that is due loads no chart, and one that waits has nothing to do with the screen
but where it waits for readings. -/
structure Plain (f : Routine × Stage) : Prop where
  routine_ne : f.2 = .due → f.1 ≠ .chart
  steady : ∀ need ps, f.2 = .waiting need ps → ∀ p ∈ ps, p.isSteady = true
  outer : ∀ need ps, f.2 = .waiting need ps → ∀ p ∈ ps.tail, p.isOuter = true

theorem plain_due {r : Routine} (hr : r ≠ .chart) : Plain (r, .due) :=
  ⟨fun _ => hr, nofun, nofun⟩

theorem plain_finished (r : Routine) (o : Outcome) : Plain (r, .finished o) :=
  ⟨nofun, nofun, nofun⟩

theorem plain_waiting {r : Routine} {need : Need} {ps : List Point}
    (steady : ∀ p ∈ ps, p.isSteady = true) (outer : ∀ p ∈ ps.tail, p.isOuter = true) :
    Plain (r, .waiting need ps) := by
  refine ⟨nofun, ?_, ?_⟩
  · rintro _ _ ⟨⟩
    exact steady
  · rintro _ _ ⟨⟩
    exact outer

theorem Acting.plain {kind : ActionKind} {participant : String} {amount : Value} {first : Outcome}
    {stage : Stage} {asked : List Need} {answers : List Outcome}
    (h : Acting kind participant amount first c stage asked answers) :
    Plain (.action kind participant amount, stage) := by
  have hcourse := h.course
  have hpoints := h.points
  generalize c.actions.result kind = result at hcourse
  cases hcourse with
  | due => exact plain_due nofun
  | failed => exact plain_finished _ _
  | done => exact plain_finished _ _
  | _ => exact plain_waiting (hpoints _ _ rfl) (by simp [Point.isOuter])

/-- A command that is not over shows its screen, and its flows have little to do with it. -/
theorem Stands.plain {q : Request} (h : Stands q s) (busy : s.flows ≠ []) :
    s.client.Attended ∧ ∀ f ∈ s.flows, Plain f := by
  obtain ⟨c, post, flows, loads, asked, answers⟩ := s
  change Phase q c post flows asked answers at h
  cases h with
  | due shown _ => exact ⟨shown, List.forall_mem_singleton.2 (plain_due nofun)⟩
  | reading shown _ _ =>
    refine ⟨shown, List.forall_mem_singleton.2 (plain_waiting ?_ ?_)⟩
    · simp [Point.isSteady]
    · simp [Point.isOuter]
  | drawing shown _ _ =>
    refine ⟨shown, List.forall_mem_singleton.2 (plain_waiting ?_ ?_)⟩
    · simp [Point.isSteady]
    · simp
  | loaded shown _ _ _ _ => exact ⟨shown, List.forall_mem_singleton.2 (plain_finished _ _)⟩
  | setOut shown _ _ _ _ onScreen =>
    refine ⟨shown, List.forall_mem_singleton.2 (plain_due ?_)⟩
    rintro rfl
    cases onScreen
  | acting _ _ _ onScreen acting =>
    refine ⟨acting.shown, List.forall_mem_cons.2 ⟨acting.plain, List.forall_mem_singleton.2 ?_⟩⟩
    rw [onScreen]
    refine plain_waiting ?_ ?_
    · simp [Point.isSteady]
    · simp
  | acted shown _ _ => exact ⟨shown, List.forall_mem_singleton.2 (plain_finished _ _)⟩
  | ended _ _ => exact (busy rfl).elim

section Turns

variable {unwritable : String → Option Fault} {q : Request}

variable (unwritable) in
/-- What can be due: a flow takes a step, or the command goes on with the end of its flow. -/
theorem turn_cases (h : Stands q s) :
    s.turn unwritable q = s ∨
      (∃ r beneath t, s.turn unwritable q = s.carry r beneath t ∧ t.Shows s.client) ∨
      ∃ o, s.turn unwritable q = s.onward unwritable q o := by
  cases hflows : s.flows with
  | nil => exact .inl (by simp only [turn, hflows])
  | cons f beneath =>
    obtain ⟨shown, plain⟩ := h.plain (by rw [hflows]; exact List.cons_ne_nil _ _)
    rw [hflows, List.forall_mem_cons] at plain
    obtain ⟨⟨hr, hsteady, houter⟩, hbeneath⟩ := plain
    obtain ⟨r, stage⟩ := f
    cases stage with
    | due =>
      refine .inr (.inl ⟨r, beneath, s.client.begin r, ?_, Client.begin_shows s.client (hr rfl)⟩)
      simp only [turn, hflows]
    | waiting need ps =>
      simp only [turn, hflows]
      split
      · next o _ =>
        exact .inr (.inl ⟨r, beneath, _, rfl,
          Client.proceed_shows shown (hsteady _ _ rfl) (houter _ _ rfl) o⟩)
      · exact .inl rfl
    | finished o =>
      cases beneath with
      | nil => exact .inr (.inr ⟨o, by simp only [turn, hflows]⟩)
      | cons g beneath =>
        -- The flow beneath goes on with the end of the one in front.
        obtain ⟨⟨-, hsteady', houter'⟩, -⟩ := List.forall_mem_cons.1 hbeneath
        obtain ⟨r', stage'⟩ := g
        cases stage' with
        | waiting need ps =>
          refine .inr (.inl ⟨r', beneath, s.client.proceed o ps, ?_,
            Client.proceed_shows shown (hsteady' _ _ rfl) (houter' _ _ rfl) o⟩)
          simp only [turn, hflows]
        | _ => exact .inl (by simp only [turn, hflows])

/-- The gateway answers the flow in front, if it is asked. -/
theorem reply_cases (h : Stands q s) (o : Outcome) :
    s.reply o = s ∨ ∃ r beneath t, t.Shows s.client ∧
      s.reply o = { s.carry r beneath t with answers := s.answers ++ [o] } := by
  unfold reply
  split
  · next r need ps beneath hflows =>
    obtain ⟨shown, plain⟩ := h.plain (by rw [hflows]; exact List.cons_ne_nil _ _)
    rw [hflows, List.forall_mem_cons] at plain
    obtain ⟨⟨-, hsteady, houter⟩, -⟩ := plain
    split
    · exact .inr ⟨r, beneath, _,
        Client.proceed_shows shown (hsteady _ _ rfl) (houter _ _ rfl) o, rfl⟩
    · exact .inl rfl
  · exact .inl rfl

/-- Setting an action out leaves the screen and its files alone. -/
theorem afterLoad_act {c' : Client} {o : Option Outcome} {r : Routine}
    (h : afterLoad c unwritable q o = .act c' r) :
    c'.screen = c.screen ∧ c'.desk = c.desk := by
  unfold afterLoad at h
  split at h
  · split at h
    · cases h
    · split at h
      · next participant _ =>
        split at h
        · cases h
        · next c₁ hselect =>
          cases h
          unfold select at hselect
          split at hselect
          · cases hselect
            exact ⟨rfl, rfl⟩
          · obtain ⟨x, -, rfl⟩ := Except.map_eq_ok_iff.1 hselect
            exact ⟨rfl, rfl⟩
      · cases h
        exact ⟨rfl, rfl⟩
      · cases h
  · cases h
  · cases h

/-! ## Events before the end -/

namespace Kept

theorem start (settings : Settings) (signer : Option Signer) {desk : Desk} (nonce : Nat)
    (now : Moment) (fresh : desk.Fresh) : Kept desk.files (start settings signer desk nonce now) where
  under := nofun
  generation_eq := rfl
  owns := ⟨none, .nothing rfl rfl⟩
  fresh := fresh
  ordered := .nil

/-- Where the screen and its files are as they were, only the loads matter. -/
theorem congr (h : Kept others s) {s' : Stint} (under : ∀ report, s'.post ≠ .ended report)
    (screen : s'.client.screen = s.client.screen) (desk : s'.client.desk = s.client.desk)
    (ordered : Ordered s'.loads) : Kept others s' where
  under := under
  generation_eq := by rw [screen, h.generation_eq]
  owns := by
    rw [screen, desk]
    exact h.owns
  fresh := desk ▸ h.fresh
  ordered := ordered

/-- **A step of a flow** leaves the files in order. -/
theorem carry (h : Kept others s) (shows : t.Shows s.client) (r : Routine)
    (beneath : List (Routine × Stage)) : Kept others (s.carry r beneath t) := by
  have hordered := h.ordered.orders shows t.client.sync.applied
  cases shows with
  | rest screen desk orders => exact h.congr h.under screen desk hordered
  | drawing screen desk orders => exact h.congr h.under screen desk hordered
  | clearing screen desk orders =>
    obtain ⟨shown, owns⟩ := h.owns
    refine ⟨h.under, ?_, ⟨none, ?_⟩, ?_, hordered⟩
    · show t.client.screen.generation = 0
      rw [screen, Screen.release_screen]
      exact h.generation_eq
    · exact owns.release.congr (congrArg Screen.handle screen) (congrArg Desk.files desk)
    · exact desk ▸ Screen.release_fresh _ h.fresh

/-- **The end of a command** leaves no file behind. -/
theorem leave (h : Kept others s) (report : Report) : Gone others (s.leave report) := by
  obtain ⟨shown, owns⟩ := h.owns
  -- The screen enters a new generation before it lets go of its chart.
  have howns : Screen.Owns { s.client.screen with generation := s.client.screen.generation + 1 }
      s.client.desk others shown := owns.congr rfl rfl
  have hreleased : (s.leave report).client.screen.Owns (s.leave report).client.desk others none :=
    howns.release
  have hgeneration : (s.leave report).client.screen.generation ≠ 0 := by
    show (s.client.screen.dismiss s.client.desk).1.generation ≠ 0
    rw [Screen.dismiss, Screen.release_screen]
    exact Nat.succ_ne_zero _
  cases hreleased with
  | nothing handle files =>
    exact ⟨rfl, hgeneration, handle, files, notLive_callOff h.ordered.last,
      h.ordered.callOff.waiting⟩

/-- What is due is done, which may end the command. -/
theorem turn (h : Kept others s) (stands : Stands q s) :
    Kept others (s.turn unwritable q) ∨ Gone others (s.turn unwritable q) := by
  rcases turn_cases unwritable stands with heq | ⟨r, beneath, t, heq, shows⟩ | ⟨o, heq⟩
  · rw [heq]
    exact .inl h
  · rw [heq]
    exact .inl (h.carry shows r beneath)
  · rw [heq]
    unfold onward
    split
    · split
      · next c' r hact =>
        obtain ⟨hscreen, hdesk⟩ := afterLoad_act hact
        exact .inl (h.congr nofun hscreen hdesk h.ordered)
      · next report _ => exact .inr (h.leave report)
    · exact .inr (h.leave _)
    · next report hover => exact (h.under report hover).elim

theorem reply (h : Kept others s) (stands : Stands q s) (o : Outcome) :
    Kept others (s.reply o) := by
  rcases reply_cases stands o with heq | ⟨r, beneath, t, shows, heq⟩
  · rw [heq]
    exact h
  · rw [heq]
    have hcarry := h.carry shows r beneath
    exact hcarry.congr hcarry.under rfl rfl hcarry.ordered

/-- **A step of a chart load** leaves the files in order. -/
theorem draw (h : Kept others s) (number : Nat) (o : Outcome) :
    Kept others (s.draw number o) := by
  rcases draw_cases s number o with heq | ⟨l, t, here, turn⟩
  · rw [heq]
    exact h
  · have hwaiting := h.ordered.waiting l (List.mem_of_getElem? here)
    rw [draw_of_turn here turn]
    rcases loadTurn?_cases hwaiting turn with ⟨o', hmove, hclient⟩ | ⟨hlive, -, hclient, hmove⟩
    · have hordered : Ordered (s.loads.set number { l with stage := t.move.stage }) := by
        rw [hmove]
        exact h.ordered.set here (by simp [isLive, Move.stage, Stage.isOver]) nofun
      rcases hclient with hclient | hclient
      · simp only [hclient]
        exact h.congr h.under rfl rfl hordered
      · -- What arrives is of the generation in which the screen still is.
        obtain ⟨shown, owns⟩ := h.owns
        simp only [hclient]
        have harrival := arrivalOf_tidies owns h.fresh o
        rw [h.generation_eq] at harrival
        rcases harrival with ⟨shown', brings⟩ | ⟨hscreen, hdesk⟩
        · exact ⟨h.under, brings.generation_eq.trans h.generation_eq, ⟨shown', brings.owns⟩,
            brings.fresh, hordered⟩
        · exact h.congr h.under hscreen hdesk hordered
    · have hordered : Ordered (s.loads.set number { l with stage := t.move.stage }) := by
        refine h.ordered.set here (fun _ => hlive) ?_
        rw [hmove, h.generation_eq]
        rintro _ _ ⟨⟩
        rfl
      simp only [hclient]
      exact h.congr h.under rfl rfl hordered

theorem directory (h : Kept others s) (present : Bool) :
    Kept others { s with client.desk := { s.client.desk with present } } where
  under := h.under
  generation_eq := h.generation_eq
  owns := h.owns.imp fun _ owns => owns.congr rfl rfl
  fresh := h.fresh
  ordered := h.ordered

end Kept

/-! ## Events after the end -/

namespace Gone

theorem draw (h : Gone others s) (number : Nat) (o : Outcome) : Gone others (s.draw number o) := by
  rcases draw_cases s number o with heq | ⟨l, t, here, turn⟩
  · rw [heq]
    exact h
  · have hmem := List.mem_of_getElem? here
    rw [draw_of_turn here turn]
    rcases loadTurn?_cases (h.waiting l hmem) turn with ⟨o', hmove, hclient⟩ | ⟨hlive, -, -, -⟩
    · have hscreen : t.client.screen = s.client.screen ∧ t.client.desk = s.client.desk := by
        rcases hclient with hclient | hclient
        · rw [hclient]
          exact ⟨rfl, rfl⟩
        · rw [hclient]
          exact arrivalOf_of_gone h.generation_ne h.handle_eq o
      refine ⟨h.flows_eq, ?_, ?_, ?_, fun k hk => ?_, fun k hk need ps hstage => ?_⟩
      · exact hscreen.1 ▸ h.generation_ne
      · exact hscreen.1 ▸ h.handle_eq
      · exact hscreen.2 ▸ h.files_eq
      · rcases List.mem_or_eq_of_mem_set hk with hk | rfl
        · exact h.dead k hk
        · rw [hmove]
          rfl
      · rcases List.mem_or_eq_of_mem_set hk with hk | rfl
        · exact h.waiting k hk need ps hstage
        · rw [hmove] at hstage
          cases hstage
    · -- A load that was called off before it began never begins.
      rw [h.dead l hmem] at hlive
      cases hlive

/-- **Whatever happens once a command has ended**, there is no file of its screen. -/
theorem step (h : Gone others s) (e : Event) :
    Gone others (s.step unwritable q e) ∧ (s.step unwritable q e).post = s.post := by
  cases e with
  | turn =>
    have hturn : s.step unwritable q .turn = s := by simp only [Stint.step, turn, h.flows_eq]
    rw [hturn]
    exact ⟨h, rfl⟩
  | reply o =>
    have hreply : s.step unwritable q (.reply o) = s := by
      simp only [Stint.step, reply, h.flows_eq]
    rw [hreply]
    exact ⟨h, rfl⟩
  | load number o =>
    refine ⟨h.draw number o, ?_⟩
    simp only [Stint.step]
    rcases draw_cases s number o with heq | ⟨l, t, here, turn⟩
    · rw [heq]
    · rw [draw_of_turn here turn]
  | directory present =>
    exact ⟨⟨h.flows_eq, h.generation_ne, h.handle_eq, h.files_eq, h.dead, h.waiting⟩, rfl⟩

theorem after (h : Gone others s) (es : List Event) : Gone others (s.after unwritable q es) := by
  induction es generalizing s with
  | nil => exact h
  | cons e es ih => exact ih (h.step e).1

end Gone

end Turns

end Console.Stint
end Plunder
