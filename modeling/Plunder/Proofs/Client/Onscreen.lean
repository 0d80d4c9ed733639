import Plunder.Proofs.Client.Session

/-!
# What a flow does to the screen

The screen listens in front of everybody else and lets nobody go first, so that it hears of a
snapshot in the very step that puts it in place. No other step of a flow touches the screen, the
files of its charts or its chart loads, unless the flow is a chart load itself.

Main statements:
- `notify_aside`, `notify_shown`: listeners other than the screen leave it alone
- `begin_aside`, `resume_aside`: a step that puts no snapshot in place leaves the screen alone
- `afterReadings_shown`: what the screen hears of a refresh
- `step_shows`: what an event does to the screen, and the orders that it gives
-/

namespace Plunder

/-! ## Definitions -/

/-- Whether the screen listens in front of everybody else, if it listens. -/
def Listener.ScreenFirst (ls : List Listener) : Prop := .screen ∉ ls.tail

/-- Whether a flow at the point has nothing to do with the screen: it loads no chart, and the screen
is not among those who are yet to be told of a snapshot. -/
def Point.IsAside : Point → Prop
  | .listening _ _ current others => .screen ∉ current :: others
  | .chart _ => False
  | _ => True

namespace Client

/-- Whether a client has the same screen as before, with the same files, and the screen listens as
it did. -/
structure SameScreen (c c' : Client) : Prop where
  screen_eq : c'.screen = c.screen
  desk_eq : c'.desk = c.desk
  first : Listener.ScreenFirst c.sync.listeners → Listener.ScreenFirst c'.sync.listeners
  listens : .screen ∈ c'.sync.listeners ↔ .screen ∈ c.sync.listeners

/-- A client that has put a snapshot in place, once its screen has heard of it, and what becomes of
the chart load. -/
def shown (c : Client) (new : RoundSnapshot) : Client × List Order :=
  if .screen ∈ c.sync.listeners then c.hearOnScreen new else (c, [])

/-- What a client has become, as far as its screen goes, when something comes back to a refresh. -/
def onArrival (c : Client) (ticket : Nat) (o : Outcome) : Client × List Order :=
  match c.arrival? ticket o with
  | some new => shown { c with sync := c.sync.abandon.apply ticket new } new
  | none => (c, [])

end Client

/-- A step that leaves a client with the screen of another one, gives some orders, and after which
the flow has nothing to do with the screen. -/
structure Turn.Aside (c : Client) (orders : List Order) (t : Turn) : Prop where
  same : c.SameScreen t.client
  orders_eq : t.orders = orders
  points : ∀ ps, t.move.stack? = some ps → ∀ p ∈ ps, p.IsAside

namespace Session

/-- Whether no flow has anything to do with the screen. -/
def Aside (s : Session) : Prop := ∀ ps, some ps ∈ s.flows → ∀ p ∈ ps, p.IsAside

/-- Whether an event is none of a chart load, and the screen does not begin to listen again. -/
def Event.isPlain : Event → Bool
  | .begin .chart | .listen .screen => false
  | _ => true

/-- What an event orders to become of the chart load. -/
def orders (s : Session) : Event → List Order
  | .begin r => (s.client.begin r).orders
  | .resume flow o =>
    match s.flows[flow]? with
    | some (some ps) => (s.client.proceed o ps).orders
    | _ => []
  | .dismiss => s.client.teardown.2
  | _ => []

/-- What a client has become, as far as its screen goes, after an event, and the orders. -/
def onScreen (s : Session) : Event → Client × List Order
  | .resume flow o =>
    match s.flows[flow]?.bind ticketOf with
    | some ticket => s.client.onArrival ticket o
    | none => (s.client, [])
  | .dismiss => s.client.teardown
  | _ => (s.client, [])

/-- Whether an event has put a snapshot in place, later than the one before, and the screen listens
as it did. -/
structure Places (s : Session) (new : RoundSnapshot) (s' : Session) : Prop where
  snapshot_eq : s'.client.sync.snapshot = some new
  applied_lt : s.client.sync.applied < s'.client.sync.applied
  listens : .screen ∈ s'.client.sync.listeners ↔ .screen ∈ s.client.sync.listeners

/-- What an event can do to the screen and its files, and the orders that it gives. -/
inductive Shows (s : Session) : List Order → Session → Prop where
  /-- Nothing. -/
  | rest {s' : Session} (same : s.client.SameScreen s'.client)
      (snapshot : s'.client.sync.snapshot = s.client.sync.snapshot)
      (applied : s'.client.sync.applied = s.client.sync.applied) : Shows s [] s'
  /-- A snapshot is put in place that a chart is drawn of. -/
  | drawing {new : RoundSnapshot} {s' : Session} (places : s.Places new s')
      (listening : .screen ∈ s.client.sync.listeners)
      (wants : s.client.screen.wantsChart new = true)
      (screen : s'.client.screen = s.client.screen) (desk : s'.client.desk = s.client.desk) :
      Shows s [.callOff, .begin] s'
  /-- A snapshot is put in place that no chart is drawn of. -/
  | clearing {new : RoundSnapshot} {s' : Session} (places : s.Places new s')
      (screen : s'.client.screen = (s.client.screen.release s.client.desk).1)
      (desk : s'.client.desk = (s.client.screen.release s.client.desk).2) :
      Shows s [.callOff] s'
  /-- A snapshot is put in place, and the screen does not hear of it. -/
  | unheard {new : RoundSnapshot} {s' : Session} (places : s.Places new s')
      (deaf : .screen ∉ s.client.sync.listeners)
      (screen : s'.client.screen = s.client.screen) (desk : s'.client.desk = s.client.desk) :
      Shows s [] s'
  /-- The screen is dismissed. -/
  | dismissal {s' : Session} (deaf : .screen ∉ s'.client.sync.listeners)
      (snapshot : s'.client.sync.snapshot = s.client.sync.snapshot)
      (applied : s'.client.sync.applied = s.client.sync.applied)
      (screen : s'.client.screen = (s.client.screen.dismiss s.client.desk).1)
      (desk : s'.client.desk = (s.client.screen.dismiss s.client.desk).2) :
      Shows s [.callOff] s'

end Session

/-! ## Listeners -/

namespace Listener

variable {ls : List Listener} {name : String} {kind : ListenerKind}

theorem ScreenFirst.erase (h : ScreenFirst ls) (l : Listener) : ScreenFirst (ls.erase l) := by
  cases ls with
  | nil => exact h
  | cons k ls =>
    rw [List.erase_cons]
    split
    · exact fun hmem => h (List.mem_of_mem_tail hmem)
    · exact fun hmem => h (List.mem_of_mem_erase hmem)

theorem ScreenFirst.append_named (h : ScreenFirst ls) : ScreenFirst (ls ++ [.named name kind]) := by
  cases ls with
  | nil => exact nofun
  | cons k ls =>
    intro hmem
    rcases List.mem_append.1 hmem with hmem | hmem
    · exact h hmem
    · cases List.mem_singleton.1 hmem

/-- Once the screen has left, it does not listen any more. -/
theorem ScreenFirst.notMem_erase (h : ScreenFirst ls) : .screen ∉ ls.erase .screen := by
  cases ls with
  | nil => exact nofun
  | cons k ls =>
    rw [List.erase_cons]
    split
    · exact h
    · next hk =>
      intro hmem
      rcases List.mem_cons.1 hmem with rfl | hmem
      · exact hk (beq_self_eq_true _)
      · exact h (List.mem_of_mem_erase hmem)

end Listener

namespace Client

open Turn

variable {c c' c'' : Client}

/-! ## The same screen -/

namespace SameScreen

theorem refl (c : Client) : c.SameScreen c := ⟨rfl, rfl, id, Iff.rfl⟩

theorem trans (h : c.SameScreen c') (h' : c'.SameScreen c'') : c.SameScreen c'' where
  screen_eq := h'.screen_eq.trans h.screen_eq
  desk_eq := h'.desk_eq.trans h.desk_eq
  first := h'.first ∘ h.first
  listens := h'.listens.trans h.listens

/-- Only the screen, the files and the listeners matter. -/
theorem of_eq (screen : c'.screen = c.screen) (desk : c'.desk = c.desk)
    (listeners : c'.sync.listeners = c.sync.listeners) : c.SameScreen c' where
  screen_eq := screen
  desk_eq := desk
  first := by rw [listeners]; exact id
  listens := by rw [listeners]

end SameScreen

/-- A named listener leaves the screen alone, also when it leaves itself. -/
theorem hearByName_sameScreen (c : Client) (name : String) (kind : ListenerKind) (ticket : Nat)
    (new : RoundSnapshot) : c.SameScreen (c.hearByName name kind ticket new) := by
  cases kind with
  | unlistenSelf =>
    exact ⟨rfl, rfl, fun h => h.erase _, List.mem_erase_of_ne nofun⟩
  | _ => exact .of_eq rfl rfl rfl

end Client

/-! ## Parts of steps -/

namespace Turn.Aside

open Client

variable {c c₀ : Client} {orders : List Order} {t : Turn}

theorem finish {notes : List Note} {o : Outcome} (h : c₀.SameScreen c) :
    Aside c₀ [] (.finish c notes o) :=
  ⟨h, rfl, nofun⟩

theorem await {notes : List Note} {need : Need} {p : Point} (h : c₀.SameScreen c)
    (hp : p.IsAside) : Aside c₀ [] (.await c notes need p) := by
  refine ⟨h, rfl, ?_⟩
  rintro _ ⟨⟩ q hq
  rw [List.mem_singleton.1 hq]
  exact hp

/-- The orders of a step come behind those that were given before. -/
theorem after (h : Aside c orders t) (notes : List Note) (before : List Order) :
    Aside c (before ++ orders) (t.after notes before) :=
  ⟨h.same, congrArg _ h.orders_eq, h.points⟩

/-- Flows that called others wait beneath them. -/
theorem beneath {need : Need} {qs ps : List Point} (h : Aside c orders t)
    (hm : t.move = .wait need qs) (hps : ∀ p ∈ ps, p.IsAside) :
    Aside c orders { t with move := .wait need (qs ++ ps) } := by
  refine ⟨h.same, h.orders_eq, ?_⟩
  rintro _ ⟨⟩ q hq
  rcases List.mem_append.1 hq with hq | hq
  · exact h.points qs (by rw [hm]; rfl) q hq
  · exact hps q hq

/-- A flow that called another waits beneath it, or goes on with what it ended with. -/
theorem into {p : Point} {resume : Client → Outcome → Turn} (h : Aside c orders t)
    (hp : p.IsAside) (hresume : ∀ c o, Aside c [] (resume c o)) :
    Aside c orders (t.into p resume) := by
  unfold Turn.into
  cases hm : t.move with
  | wait need qs => exact h.beneath hm (by simpa using hp)
  | done o =>
    have hnext := hresume t.client o
    refine ⟨h.same.trans hnext.same, ?_, hnext.points⟩
    show t.orders ++ (resume t.client o).orders = orders
    rw [hnext.orders_eq, List.append_nil, h.orders_eq]

end Turn.Aside

namespace Client

open Turn

variable {c c₀ : Client} {o : Outcome} {ticket : Nat} {new : RoundSnapshot}

/-! ## Telling the listeners -/

/-- Listeners other than the screen leave it alone. -/
theorem notify_aside {ls : List Listener} (hls : .screen ∉ ls) (h : c₀.SameScreen c) :
    Aside c₀ [] (notify ticket new ls c) := by
  induction ls generalizing c with
  | nil => exact .finish h
  | cons l ls ih =>
    rw [notify]
    split
    · exact .await h hls
    · cases l with
      | screen => exact (hls List.mem_cons_self).elim
      | named name kind =>
        have hrest : .screen ∉ ls := fun hmem => hls (List.mem_cons_of_mem _ hmem)
        exact (ih hrest (h.trans (hearByName_sameScreen c name kind ticket new))).after _ []

/-- The screen hears of a snapshot before everybody else, who then leave it alone. -/
theorem notify_shown (first : Listener.ScreenFirst c.sync.listeners) :
    Aside (c.shown new).1 (c.shown new).2 (notify ticket new c.sync.listeners c) := by
  generalize hls : c.sync.listeners = ls at first
  unfold shown
  rw [hls]
  cases ls with
  | nil => exact notify_aside List.not_mem_nil (.refl c)
  | cons l ls =>
    cases l with
    | screen =>
      rw [if_pos List.mem_cons_self, notify]
      have hrest : Aside (c.hearOnScreen new).1 [] (notify ticket new ls (c.hearOnScreen new).1) :=
        notify_aside first (.refl _)
      simpa [Listener.waits, hear] using hrest.after [] (c.hearOnScreen new).2
    | named name kind =>
      have hnot : .screen ∉ Listener.named name kind :: ls := by
        intro hmem
        apply first
        rcases List.mem_cons.1 hmem with heq | hmem
        · cases heq
        · exact hmem
      rw [if_neg hnot]
      exact notify_aside hnot (.refl c)

/-! ## Steps that put no snapshot in place -/

theorem launch_aside {kind : ActionKind} {participant : String} {amount : Value}
    (h : c₀.SameScreen c) : Aside c₀ [] (c.launch kind participant amount) := by
  unfold launch
  split
  · exact .finish h
  · refine ⟨h.trans (.of_eq rfl rfl rfl), rfl, ?_⟩
    rintro _ ⟨⟩
    exact nofun

theorem failAction_aside {kind : ActionKind} {notes : List Note} {f : Fault}
    (h : c₀.SameScreen c) : Aside c₀ [] (c.failAction kind notes f) := by
  unfold failAction
  split
  · exact .finish (h.trans (.of_eq rfl rfl rfl))
  · exact .finish (h.trans (.of_eq rfl rfl rfl))

theorem afterAction_aside {kind : ActionKind} : Aside c [] (c.afterAction kind o) := by
  unfold afterAction
  split
  · exact .finish (.refl c)
  · split
    · exact .finish (.refl c)
    · exact .finish (.refl c)

theorem launch_into_aside {kind : ActionKind} {participant : String} {amount : Value}
    (h : c₀.SameScreen c) :
    Aside c₀ []
      ((c.launch kind participant amount).into (.reporting kind) (afterAction · kind)) :=
  (launch_aside h).into (p := .reporting kind) trivial fun _ _ => afterAction_aside

theorem refresh_aside (h : c₀.SameScreen c) : Aside c₀ [] c.refresh :=
  .await (h.trans (.of_eq rfl rfl rfl)) trivial

theorem afterRefresh_aside {kind : ActionKind} : Aside c [] (c.afterRefresh kind o) := by
  unfold afterRefresh
  split
  · exact .finish (.of_eq rfl rfl rfl)
  · split
    · exact .finish (.of_eq rfl rfl rfl)
    · exact .finish (.of_eq rfl rfl rfl)

theorem refresh_into_aside {kind : ActionKind} (h : c₀.SameScreen c) :
    Aside c₀ [] (c.refresh.into (.followUp kind) (afterRefresh · kind)) :=
  (refresh_aside h).into (p := .followUp kind) trivial fun _ _ => afterRefresh_aside

theorem afterLoading_aside : Aside c [] (c.afterLoading o) := by
  unfold afterLoading
  split
  · exact .await (.refl c) trivial
  · split
    · exact .await (.of_eq rfl rfl rfl) trivial
    · exact .finish (.refl c)

/-- **The first step of a flow** leaves the screen alone, if the flow loads no chart. -/
theorem begin_aside (c : Client) {r : Routine} (hr : r ≠ .chart) : Aside c [] (c.begin r) := by
  cases r with
  | refresh => exact refresh_aside (.refl c)
  | submitHaul participant amount => exact launch_aside (.refl c)
  | advanceRound => exact launch_aside (.refl c)
  | action kind participant amount =>
    simp only [begin, action]
    split
    · exact failAction_aside (.of_eq rfl rfl rfl)
    · exact .await (.of_eq rfl rfl rfl) trivial
  | load =>
    simp only [begin, load]
    split
    · exact .finish (.refl c)
    · have h : c.SameScreen { c with actions := c.actions.setError none } := .of_eq rfl rfl rfl
      exact (refresh_aside h).into (p := .loading) trivial fun _ _ => afterLoading_aside
  | report amount participant =>
    simp only [begin, report]
    split
    · exact .finish (.refl c)
    · cases amount with
      | none => exact launch_into_aside (.refl c)
      | some a => exact launch_into_aside (.of_eq rfl rfl rfl)
  | setSail =>
    simp only [begin, setSail]
    split
    · exact .finish (.refl c)
    · exact launch_into_aside (.refl c)
  | chart => exact (hr rfl).elim

/-- **A step from a point** leaves the screen alone, if the flow neither waits for readings nor has
anything to do with the screen. -/
theorem resume_aside (c : Client) (o : Outcome) {p : Point} (hp : p.IsAside)
    (hticket : ticketOf (some [p]) = none) : Aside c [] (c.resume o p) := by
  cases p with
  | readings ticket => cases hticket
  | listening ticket new l others =>
    simp only [resume, afterTurn]
    split
    · exact .finish (.refl c)
    · cases l with
      | screen => exact (hp List.mem_cons_self).elim
      | named name kind =>
        have hrest : .screen ∉ others := fun hmem => hp (List.mem_cons_of_mem _ hmem)
        exact (notify_aside hrest (hearByName_sameScreen c name kind ticket new)).after _ []
  | submission kind =>
    simp only [resume]
    unfold afterSubmission
    split
    · exact .await (.refl c) trivial
    · exact failAction_aside (.refl c)
    · exact failAction_aside (.refl c)
  | finality kind =>
    simp only [resume]
    unfold afterFinality
    split
    · split
      · exact failAction_aside (.refl c)
      · next hash _ =>
        have h : c.SameScreen { c with actions := (c.actions.succeed kind hash).1 } :=
          .of_eq rfl rfl rfl
        exact (refresh_into_aside h).after _ []
    · exact failAction_aside (.refl c)
    · exact failAction_aside (.refl c)
  | followUp kind => exact afterRefresh_aside
  | reporting kind => exact afterAction_aside
  | loading => exact afterLoading_aside
  | drawing =>
    simp only [resume, afterChart]
    split
    · exact .finish (.refl c)
    · exact .finish (.refl c)
  | chart generation => exact hp.elim

/-! ## Readings -/

/-- **What the screen hears of a refresh**: of its snapshot, if it puts one in place, and nothing
otherwise. -/
theorem afterReadings_shown (first : Listener.ScreenFirst c.sync.listeners) (ticket : Nat)
    (o : Outcome) :
    Aside (c.onArrival ticket o).1 (c.onArrival ticket o).2 (c.afterReadings ticket o) := by
  unfold onArrival
  cases ha : c.arrival? ticket o with
  | some new =>
    obtain ⟨ho, hs, ht⟩ := arrival?_eq_some_iff.1 ha
    rw [afterReadings_of_latest ho hs ht]
    exact (notify_shown (c := { c with sync := c.sync.abandon.apply ticket new }) first).after _ []
  | none =>
    cases ho : o.isCancelled with
    | true =>
      rw [afterReadings_of_cancelled ho]
      exact .finish (.of_eq rfl rfl rfl)
    | false =>
      cases hs : Synchronizer.snapshotOf (readingsOf o) with
      | error f =>
        rw [afterReadings_of_failed ho hs]
        exact .finish (.of_eq rfl rfl rfl)
      | ok new =>
        have ht : ticket ≠ c.sync.issued := fun ht => by
          rw [arrival?_eq_some_iff.2 ⟨ho, hs, ht⟩] at ha
          cases ha
        rw [afterReadings_of_stale ho hs ht]
        exact .finish (.of_eq rfl rfl rfl)

/-! ## Flows that called others -/

section Callers

variable {p : Point} {ps : List Point} {orders : List Order}

theorem isAside_of_outer (hp : p.isOuter = true) : p.IsAside := by
  cases p <;> trivial

theorem ticketOf_of_outer (hp : p.isOuter = true) : ticketOf (some [p]) = none := by
  cases p <;> first | rfl | cases hp

/-- A flow goes on, and those that called it wait beneath it or go on with what it ended with. -/
private theorem proceed_cons_aside (h : Aside c₀ orders (c.resume o p))
    (houter : ∀ q ∈ ps, q.isOuter = true)
    (rest : ∀ (c : Client) o, Aside c [] (c.proceed o ps)) :
    Aside c₀ orders (c.proceed o (p :: ps)) := by
  simp only [proceed]
  cases hm : (c.resume o p).move with
  | wait need qs => exact h.beneath hm fun q hq => isAside_of_outer (houter q hq)
  | done o' =>
    have hrest := rest (c.resume o p).client o'
    refine ⟨h.same.trans hrest.same, ?_, hrest.points⟩
    show (c.resume o p).orders ++ _ = orders
    rw [hrest.orders_eq, List.append_nil, h.orders_eq]

/-- Flows that called others leave the screen alone, one after the other. -/
theorem proceed_outer_aside (houter : ∀ q ∈ ps, q.isOuter = true) :
    Aside c [] (c.proceed o ps) := by
  induction ps generalizing c o with
  | nil => exact .finish (.refl c)
  | cons p ps ih =>
    have hp := houter p List.mem_cons_self
    have hps : ∀ q ∈ ps, q.isOuter = true := fun q hq => houter q (List.mem_cons_of_mem _ hq)
    exact proceed_cons_aside (resume_aside c o (isAside_of_outer hp) (ticketOf_of_outer hp)) hps
      fun c o => ih hps

/-- What a flow does to the screen, it does for those that called it. -/
theorem proceed_aside (h : Aside c₀ orders (c.resume o p)) (houter : ∀ q ∈ ps, q.isOuter = true) :
    Aside c₀ orders (c.proceed o (p :: ps)) :=
  proceed_cons_aside h houter fun _ _ => proceed_outer_aside houter

end Callers

end Client

/-! ## Events -/

namespace Session

open Client

variable {s : Session} {e : Event}

/-- The screen hears of a snapshot that is put in place, or is dismissed; nothing else happens to
it. -/
theorem step_shown (stacked : s.Stacked) (aside : s.Aside)
    (first : Listener.ScreenFirst s.client.sync.listeners) (plain : e.isPlain = true) :
    (s.onScreen e).1.SameScreen (s.step e).client ∧ s.orders e = (s.onScreen e).2 ∧
      (s.step e).Aside := by
  -- All flows have nothing to do with the screen if the one that has taken a step has not.
  have flows {s' : Session} {f : Option (List Point)}
      (hflows : ∀ g ∈ s'.flows, g ∈ s.flows ∨ g = f)
      (hf : ∀ ps, f = some ps → ∀ p ∈ ps, p.IsAside) : s'.Aside := by
    intro ps hps
    rcases hflows _ hps with hold | rfl
    · exact aside ps hold
    · exact hf ps rfl
  cases e with
  | begin r =>
    have hr : r ≠ .chart := by
      rintro rfl
      cases plain
    have h := begin_aside s.client hr
    exact ⟨h.same, h.orders_eq, flows (by simp [step]) h.points⟩
  | resume flow o =>
    cases hflow : s.flows[flow]? with
    | none =>
      simp only [step, onScreen, orders, hflow, Option.bind_none]
      exact ⟨.refl _, trivial, aside⟩
    | some f =>
      cases f with
      | none =>
        simp only [step, onScreen, orders, hflow, Option.bind_some, ticketOf]
        exact ⟨.refl _, trivial, aside⟩
      | some ps =>
        have hmem := List.mem_of_getElem? hflow
        have hproceed : Turn.Aside (s.onScreen (.resume flow o)).1 (s.onScreen (.resume flow o)).2
            (s.client.proceed o ps) := by
          simp only [onScreen, hflow, Option.bind_some]
          cases ps with
          | nil => exact .finish (.refl _)
          | cons p ps =>
            have houter : ∀ q ∈ ps, q.isOuter = true := stacked _ hmem
            have hp := aside _ hmem p List.mem_cons_self
            cases p with
            | readings ticket => exact proceed_aside (afterReadings_shown first ticket o) houter
            | _ => exact proceed_aside (resume_aside s.client o hp rfl) houter
        simp only [step, orders, hflow]
        exact ⟨hproceed.same, hproceed.orders_eq,
          flows (fun g hg => List.mem_or_eq_of_mem_set hg) hproceed.points⟩
  | select address =>
    simp only [step]
    split
    · next sync p hselect =>
      refine ⟨.of_eq rfl rfl ?_, rfl, aside⟩
      unfold Synchronizer.select at hselect
      split at hselect <;> cases hselect
      rfl
    · exact ⟨.refl _, rfl, aside⟩
  | listen l =>
    cases l with
    | screen => cases plain
    | named name kind =>
      refine ⟨⟨rfl, rfl, fun h => h.append_named, ?_⟩, rfl, aside⟩
      simp [step, onScreen, Synchronizer.addListener]
  | dismiss => exact ⟨.refl _, rfl, aside⟩

/-- **What an event does to the screen.** -/
theorem step_shows (h : s.Sound) (aside : s.Aside)
    (first : Listener.ScreenFirst s.client.sync.listeners) (plain : e.isPlain = true) :
    s.Shows (s.orders e) (s.step e) ∧ (s.step e).Aside ∧
      Listener.ScreenFirst (s.step e).client.sync.listeners := by
  obtain ⟨same, horders, haside⟩ := step_shown h.stacked aside first plain
  rw [horders]
  rcases h.step_cases e with ⟨hnone, hsnapshot, happlied, -⟩ |
    ⟨flow, o, new, rfl, hawaits, harrival, hsnapshot, happlied, -, hlt, -⟩
  · -- No snapshot is put in place: only a dismissal is seen.
    by_cases hdismiss : e = .dismiss
    · subst hdismiss
      exact ⟨.dismissal first.notMem_erase hsnapshot happlied rfl rfl, haside, first.erase _⟩
    · have hon : s.onScreen e = (s.client, []) := by
        cases e with
        | resume flow o =>
          simp only [onScreen]
          split
          · next ticket hticket =>
            rw [application?, hticket] at hnone
            simp only [Option.bind_some, Option.map_eq_none_iff] at hnone
            simp only [onArrival, hnone]
          · rfl
        | dismiss => exact (hdismiss rfl).elim
        | _ => rfl
      rw [hon] at same ⊢
      exact ⟨.rest same hsnapshot happlied, haside, same.first first⟩
  · have hon : s.onScreen (.resume flow o) = shown
        { s.client with sync := s.client.sync.abandon.apply s.client.sync.issued new } new := by
      rw [Awaits] at hawaits
      simp only [onScreen, hawaits, onArrival, harrival]
    have places (hlistens : .screen ∈ (s.step (.resume flow o)).client.sync.listeners ↔
        .screen ∈ s.client.sync.listeners) : s.Places new (s.step (.resume flow o)) :=
      ⟨hsnapshot, happlied ▸ hlt, hlistens⟩
    rw [hon] at same ⊢
    simp only [shown] at same ⊢
    split at same
    · next hlistening =>
      rw [if_pos hlistening]
      simp only [hearOnScreen] at same ⊢
      split at same
      · next hwants =>
        rw [if_pos hwants]
        exact ⟨.drawing (places same.listens) hlistening hwants same.screen_eq same.desk_eq, haside,
          same.first first⟩
      · next hwants =>
        rw [if_neg hwants]
        exact ⟨.clearing (places same.listens) same.screen_eq same.desk_eq, haside,
          same.first first⟩
    · next hdeaf =>
      rw [if_neg hdeaf]
      exact ⟨.unheard (places same.listens) hdeaf same.screen_eq same.desk_eq, haside,
        same.first first⟩

end Session
end Plunder
