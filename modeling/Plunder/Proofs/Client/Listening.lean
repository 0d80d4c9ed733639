import Mathlib.Data.List.Nodup
import Plunder.Proofs.Client.Session

/-!
# Listeners

A refresh that has put its snapshot in place tells the listeners of it, one after the other. One
that lets others go first holds up those behind it, and a later refresh may put its own snapshot in
place in the meantime and tell the same listeners.

Main statements:
- `notify_client`: those who are told in one go and let nobody go first hear of it at once
- `resume_notice`: whom a step of a flow tells of a snapshot, and who is left
- `Attended.step`: what holds of everybody who has been told, after every event
- `announced_run`: in which order listeners are told of snapshots
- `tellings_unordered`: a listener hears of a snapshot twice, or of an older one after a newer one
-/

namespace Plunder

/-! ## Definitions -/

/-- A snapshot with the ticket of its refresh, and the listeners that are to be told of it. -/
structure Notice where
  ticket : Nat
  new : RoundSnapshot
  listeners : List Listener

/-- A listener is told of a snapshot. -/
structure Telling where
  /-- The ticket of the refresh that made the snapshot. -/
  ticket : Nat
  new : RoundSnapshot
  listener : Listener
  /-- Whether the snapshot is in place at that time. -/
  inPlace : Bool
  deriving DecidableEq

namespace Listener

/-- The listeners that are told in one go: all up to the first one that lets others go first. -/
def told : List Listener → List Listener
  | [] => []
  | l :: ls => if l.waits then [l] else l :: told ls

/-- The listeners behind those that are told in one go. -/
def untold : List Listener → List Listener
  | [] => []
  | l :: ls => if l.waits then ls else untold ls

end Listener

/-- The tellings of a notice that are made in one go. -/
def Notice.tellings (n : Notice) (inPlace : Bool) : List Telling :=
  (Listener.told n.listeners).map (⟨n.ticket, n.new, ·, inPlace⟩)

/-- The listeners that were told of the snapshot with a ticket, in order. -/
def toldOf (ts : List Telling) (ticket : Nat) : List Listener :=
  (ts.filter (·.ticket = ticket)).map Telling.listener

/-- What is left of a notice once some listener lets others go first; nothing if none does. -/
def Notice.rest? (n : Notice) : Option Notice :=
  if n.listeners.any Listener.waits then some { n with listeners := Listener.untold n.listeners }
  else none

/-- What a flow goes on to announce when the listener that it waits for has let others go first. -/
def noticeOf : Option (List Point) → Option Notice
  | some (.listening ticket new _ others :: _) => some ⟨ticket, new, others⟩
  | _ => none

/-- What a flow announces when something comes back to it at a point. -/
def Client.notice? (c : Client) (o : Outcome) : Point → Option Notice
  | .readings ticket => (c.arrival? ticket o).map fun new => ⟨ticket, new, c.sync.listeners⟩
  | .listening ticket new _ others =>
    match o with
    | .ok _ => some ⟨ticket, new, others⟩
    | .error _ => none
  | _ => none

namespace Session

/-- What an event makes a flow announce, or go on to announce. -/
def notice? (s : Session) : Event → Option Notice
  | .resume flow o => (s.flows[flow]?.bind fun f => f.bind List.head?).bind (s.client.notice? o)
  | _ => none

/-- What a flow is in the middle of announcing. -/
def speech? (s : Session) (flow : Nat) : Option Notice := s.flows[flow]?.bind noticeOf

/-- The listeners that are told in an event. -/
def tellingsIn (s : Session) (e : Event) : List Telling :=
  match s.notice? e with
  | some n => n.tellings (n.ticket == (s.step e).client.sync.applied)
  | none => []

/-- The listeners that are told in the course of some events, in order. -/
def tellings : Session → List Event → List Telling
  | _, [] => []
  | s, e :: es => s.tellingsIn e ++ (s.step e).tellings es

/-- A snapshot that an event puts in place, with everybody who listens at that time. -/
def announcement? (s : Session) (e : Event) : Option Notice :=
  (s.application? e).map fun a => ⟨a.1, a.2, s.client.sync.listeners⟩

/-- The snapshots that are put in place in the course of some events, each with everybody who
listens at that time. -/
def announcements : Session → List Event → List Notice
  | _, [] => []
  | s, e :: es => (s.announcement? e).toList ++ (s.step e).announcements es

end Session

/-- Whether a listener is told of snapshots in the order of their refreshes. -/
def Listener.InOrder (l : Listener) (ts : List Telling) : Prop :=
  (ts.filter (·.listener = l)).Pairwise fun a b => a.ticket < b.ticket

namespace Listener

theorem told_append_untold (ls : List Listener) : told ls ++ untold ls = ls := by
  induction ls with
  | nil => rfl
  | cons l ls ih =>
    rw [told, untold]
    split
    · rfl
    · rw [List.cons_append, ih]

/-- If some listener lets others go first, one of those that are told does. -/
theorem exists_waits_told {ls : List Listener} (h : ls.any waits = true) :
    ∃ l ∈ told ls, l.waits = true := by
  induction ls with
  | nil => cases h
  | cons l ls ih =>
    rw [told]
    cases hl : l.waits with
    | true => exact ⟨l, by simp, hl⟩
    | false =>
      rw [List.any_cons, hl, Bool.false_or] at h
      obtain ⟨l', hmem, hwaits⟩ := ih h
      exact ⟨l', by simp [hmem], hwaits⟩

end Listener

section Stacks

variable {ps : List Point}

theorem noticeOf_of_outer (houter : ∀ p ∈ ps, p.isOuter = true) : noticeOf (some ps) = none := by
  cases ps with
  | nil => rfl
  | cons p ps =>
    have hp := houter p List.mem_cons_self
    cases p <;> first | rfl | cases hp

/-- Flows that called others do not wait for listeners themselves. -/
theorem noticeOf_append (qs : List Point) (hps : noticeOf (some ps) = none) :
    noticeOf (some (qs ++ ps)) = noticeOf (some qs) := by
  cases qs with
  | nil => exact hps
  | cons q qs => cases q <;> rfl

end Stacks

/-- A step after which no flow waits for a listener. -/
def Turn.Hushed (t : Turn) : Prop := noticeOf t.move.stack? = none

namespace Turn.Hushed

variable {c : Client} {t : Turn} {notes : List Note} {p : Point}

theorem finish {o : Outcome} : Hushed (.finish c notes o) := rfl

theorem await {need : Need} (hp : noticeOf (some [p]) = none) : Hushed (.await c notes need p) := hp

/-- Whoever called a flow does not wait for listeners itself. -/
theorem into {resume : Client → Outcome → Turn} (h : Hushed t) (hp : noticeOf (some [p]) = none)
    (hresume : ∀ c o, Hushed (resume c o)) : Hushed (t.into p resume) := by
  unfold Hushed at h
  unfold Hushed Turn.into
  cases hm : t.move with
  | wait need qs =>
    rw [hm] at h
    exact (noticeOf_append qs hp).trans h
  | done o => exact hresume t.client o

end Turn.Hushed

namespace Client

open Turn Listener

variable {c : Client} {o : Outcome} {p : Point} {ps : List Point}

/-- Everybody who is told in one go and lets nobody go first hears of the snapshot at once. -/
theorem notify_client (ticket : Nat) (new : RoundSnapshot) (ls : List Listener) (c : Client) :
    (notify ticket new ls c).client =
      ((told ls).filter (!·.waits)).foldl (fun c l => (c.hear l ticket new).1) c := by
  induction ls generalizing c with
  | nil => rfl
  | cons l ls ih =>
    rw [notify, told]
    cases hl : l.waits with
    | true => simp [hl, Turn.await]
    | false =>
      simp only [Bool.false_eq_true, if_false, List.filter_cons, hl, Bool.not_false, if_true,
        List.foldl_cons]
      exact ih _

/-- Telling the listeners stops at the first one that lets others go first. -/
theorem notify_notice (ticket : Nat) (new : RoundSnapshot) (ls : List Listener) (c : Client) :
    noticeOf (notify ticket new ls c).move.stack? = (Notice.mk ticket new ls).rest? := by
  induction ls generalizing c with
  | nil => rfl
  | cons l ls ih =>
    rw [notify]
    cases hl : l.waits with
    | true => simp [Notice.rest?, untold, hl, Turn.await, Move.stack?, noticeOf]
    | false =>
      have hrest : (Notice.mk ticket new (l :: ls)).rest? = (Notice.mk ticket new ls).rest? := by
        simp [Notice.rest?, untold, hl]
      rw [hrest]
      exact ih _

theorem launch_hushed {kind : ActionKind} {participant : String} {amount : Value} :
    Hushed (c.launch kind participant amount) := by
  unfold launch
  split
  · exact .finish
  · rfl

theorem failAction_hushed {kind : ActionKind} {notes : List Note} {f : Fault} :
    Hushed (c.failAction kind notes f) := by
  unfold failAction
  split
  · exact .finish
  · exact .finish

theorem afterAction_hushed {kind : ActionKind} : Hushed (c.afterAction kind o) := by
  unfold afterAction
  split
  · exact .finish
  · split
    · exact .finish
    · exact .finish

theorem launch_into_hushed {kind : ActionKind} {participant : String} {amount : Value} :
    Hushed ((c.launch kind participant amount).into (.reporting kind) (afterAction · kind)) :=
  launch_hushed.into rfl fun _ _ => afterAction_hushed

theorem afterRefresh_hushed {kind : ActionKind} : Hushed (c.afterRefresh kind o) := by
  unfold afterRefresh
  split
  · exact .finish
  · split
    · exact .finish
    · exact .finish

theorem afterLoading_hushed : Hushed (c.afterLoading o) := by
  unfold afterLoading
  split
  · exact .await rfl
  · split
    · exact .await rfl
    · exact .finish

/-- The first step of a flow tells nobody of anything. -/
theorem begin_hushed (c : Client) (r : Routine) : Hushed (c.begin r) := by
  cases r with
  | refresh => exact .await rfl
  | submitHaul participant amount => exact launch_hushed
  | advanceRound => exact launch_hushed
  | action kind participant amount =>
    simp only [begin, action]
    split
    · exact failAction_hushed
    · exact .await rfl
  | load =>
    simp only [begin, load]
    split
    · exact .finish
    · exact Hushed.into (.await rfl) rfl fun _ _ => afterLoading_hushed
  | report amount participant =>
    simp only [begin, report]
    split
    · exact .finish
    · exact launch_into_hushed
  | setSail =>
    simp only [begin, setSail]
    split
    · exact .finish
    · exact launch_into_hushed
  | chart => exact .await rfl

/-- **Whom a step of a flow tells**: it announces its snapshot, or goes on to announce it, and waits
for the first listener that lets others go first. -/
theorem resume_notice (c : Client) (o : Outcome) (p : Point) :
    noticeOf (c.resume o p).move.stack? = (c.notice? o p).bind Notice.rest? := by
  cases p with
  | readings ticket =>
    simp only [resume, notice?]
    cases ha : c.arrival? ticket o with
    | some new =>
      obtain ⟨ho, hs, ht⟩ := arrival?_eq_some_iff.1 ha
      rw [afterReadings_of_latest ho hs ht]
      exact notify_notice _ _ _ _
    | none =>
      -- Whichever way a refresh ends without a snapshot, it ends at once.
      cases ho : o.isCancelled with
      | true =>
        rw [afterReadings_of_cancelled ho]
        rfl
      | false =>
        cases hs : Synchronizer.snapshotOf (readingsOf o) with
        | error f =>
          rw [afterReadings_of_failed ho hs]
          rfl
        | ok new =>
          have ht : ticket ≠ c.sync.issued := by
            intro ht
            rw [arrival?_eq_some_iff.2 ⟨ho, hs, ht⟩] at ha
            cases ha
          rw [afterReadings_of_stale ho hs ht]
          rfl
  | listening ticket new l others =>
    cases o with
    | error f => rfl
    | ok r => exact notify_notice _ _ _ _
  | submission kind =>
    simp only [resume]
    unfold afterSubmission
    split
    · rfl
    · exact failAction_hushed
    · exact failAction_hushed
  | finality kind =>
    simp only [resume]
    unfold afterFinality
    split
    · split
      · exact failAction_hushed
      · exact Hushed.into (.await rfl) rfl fun _ _ => afterRefresh_hushed
    · exact failAction_hushed
    · exact failAction_hushed
  | followUp kind => exact afterRefresh_hushed
  | reporting kind => exact afterAction_hushed
  | loading => exact afterLoading_hushed
  | drawing =>
    simp only [resume]
    unfold afterChart
    split
    · rfl
    · rfl
  | chart generation =>
    simp only [resume, afterFetch]
    split
    · rfl
    · rfl

theorem notice?_of_outer (hp : p.isOuter = true) : c.notice? o p = none := by
  cases p with
  | followUp kind => rfl
  | reporting kind => rfl
  | loading => rfl
  | _ => cases hp

/-- Flows that called others announce nothing, one after the other. -/
theorem proceed_hushed (c : Client) (o : Outcome) (houter : ∀ q ∈ ps, q.isOuter = true) :
    Hushed (c.proceed o ps) := by
  induction ps generalizing c o with
  | nil => rfl
  | cons q ps ih =>
    have hq := resume_notice c o q
    rw [notice?_of_outer (houter q List.mem_cons_self)] at hq
    have hps : ∀ r ∈ ps, r.isOuter = true := fun r hr => houter r (List.mem_cons_of_mem _ hr)
    unfold Hushed
    simp only [proceed]
    cases hm : (c.resume o q).move with
    | done o' => exact ih _ o' hps
    | wait need qs =>
      rw [hm] at hq
      exact (noticeOf_append qs (noticeOf_of_outer hps)).trans hq

/-- What a flow announces does not depend on those that called it. -/
theorem proceed_notice (c : Client) (o : Outcome) (p : Point)
    (houter : ∀ q ∈ ps, q.isOuter = true) :
    noticeOf (c.proceed o (p :: ps)).move.stack? = (c.notice? o p).bind Notice.rest? := by
  rw [← resume_notice c o p]
  simp only [proceed]
  cases hm : (c.resume o p).move with
  | done o' => exact proceed_hushed _ o' houter
  | wait need qs => exact noticeOf_append qs (noticeOf_of_outer houter)

end Client

/-! ## What an event announces -/

namespace Session

open Client

variable {s : Session} {e : Event} {n : Notice}

/-- The flow that goes on in an event. -/
def Event.flow? : Event → Option Nat
  | .resume flow _ => some flow
  | _ => none

/-- A flow that goes on waits for the first listener that lets others go first. -/
theorem speech?_resumed (h : s.Stacked) {flow : Nat} (hresumed : e.flow? = some flow) :
    (s.step e).speech? flow = (s.notice? e).bind Notice.rest? := by
  obtain ⟨o, rfl⟩ : ∃ o, e = .resume flow o := by
    cases e <;> cases hresumed
    exact ⟨_, rfl⟩
  simp only [speech?, notice?, step]
  cases hflow : s.flows[flow]? with
  | none => simp [hflow]
  | some f =>
    cases f with
    | none => simp [hflow, noticeOf]
    | some ps =>
      obtain ⟨hlt, -⟩ := List.getElem?_eq_some_iff.1 hflow
      simp only [List.getElem?_set_self hlt, Option.bind_some]
      cases ps with
      | nil => rfl
      | cons p ps => exact proceed_notice s.client o p (h _ (List.mem_of_getElem? hflow))

/-- Every other flow goes on waiting for the listener that it waits for. -/
theorem speech?_other {flow : Nat} (hne : e.flow? ≠ some flow) :
    (s.step e).speech? flow = s.speech? flow := by
  unfold speech?
  cases e with
  | begin r =>
    simp only [step]
    rcases Nat.lt_trichotomy flow s.flows.length with hlt | rfl | hgt
    · rw [List.getElem?_append_left hlt]
    · rw [List.getElem?_concat_length, List.getElem?_eq_none (Nat.le_refl _)]
      exact begin_hushed s.client r
    · rw [List.getElem?_eq_none (by simp; omega), List.getElem?_eq_none (by omega)]
  | resume flow' o =>
    have hne' : flow' ≠ flow := fun heq => hne (congrArg some heq)
    simp only [step]
    split
    · exact congrArg (Option.bind · noticeOf) (List.getElem?_set_ne hne')
    · rfl
  | select address =>
    simp only [step]
    split
    · rfl
    · rfl
  | listen l => rfl
  | dismiss => rfl

theorem notice?_of_announcement? (h : s.announcement? e = some n) : s.notice? e = some n := by
  obtain ⟨⟨ticket, new⟩, happ, rfl⟩ := Option.map_eq_some_iff.1 h
  obtain ⟨flow, o, rfl, hawaits, harrival⟩ := application?_eq_some_iff.1 happ
  obtain ⟨f, hflow, hf⟩ := Option.bind_eq_some_iff.1 hawaits
  have hhead : f.bind List.head? = some (.readings ticket) := by
    unfold ticketOf at hf
    split at hf
    · obtain rfl := Option.some.inj hf
      rfl
    · cases hf
  simp only [notice?, hflow, Option.bind_some, hhead, Client.notice?, harrival, Option.map_some]

/-- An event announces a snapshot that it puts in place, or goes on to announce another one. -/
theorem notice?_cases (h : s.notice? e = some n) :
    s.announcement? e = some n ∨
      s.announcement? e = none ∧ ∃ flow, e.flow? = some flow ∧
        s.speech? flow = some n := by
  cases e with
  | resume flow o =>
    obtain ⟨p, hp, hn⟩ := Option.bind_eq_some_iff.1 h
    obtain ⟨f, hflow, hf⟩ := Option.bind_eq_some_iff.1 hp
    obtain ⟨ps, rfl, hps⟩ := Option.bind_eq_some_iff.1 hf
    obtain ⟨qs, rfl⟩ := List.head?_eq_some_iff.1 hps
    cases p with
    | readings ticket =>
      left
      obtain ⟨new, harrival, rfl⟩ := Option.map_eq_some_iff.1 hn
      simp [announcement?, application?, hflow, ticketOf, harrival]
    | listening ticket new l others =>
      right
      cases o with
      | error f => cases hn
      | ok r =>
        obtain rfl := Option.some.inj hn
        refine ⟨?_, flow, rfl, ?_⟩
        · simp [announcement?, application?, hflow, ticketOf]
        · simp [speech?, hflow, noticeOf]
    | _ => cases hn
  | _ => cases h

end Session

/-! ## Everybody who has been told -/

section Tellings

variable {ts : List Telling} {n : Notice} {inPlace : Bool} {ticket : Nat}

theorem toldOf_append (ts ts' : List Telling) (ticket : Nat) :
    toldOf (ts ++ ts') ticket = toldOf ts ticket ++ toldOf ts' ticket := by
  simp [toldOf]

theorem toldOf_tellings_self :
    toldOf (n.tellings inPlace) n.ticket = Listener.told n.listeners := by
  have hall : ∀ a ∈ n.tellings inPlace, decide (a.ticket = n.ticket) = true := by
    simp [Notice.tellings]
  rw [toldOf, List.filter_eq_self.2 hall, Notice.tellings, List.map_map]
  exact List.map_id _

theorem toldOf_tellings_ne (hne : n.ticket ≠ ticket) : toldOf (n.tellings inPlace) ticket = [] := by
  simp [toldOf, Notice.tellings, hne]

theorem mem_tellings {a : Telling} (h : a ∈ n.tellings inPlace) :
    a.ticket = n.ticket ∧ a.new = n.new ∧ a.inPlace = inPlace ∧
      a.listener ∈ Listener.told n.listeners := by
  obtain ⟨l, hl, rfl⟩ := List.mem_map.1 h
  exact ⟨rfl, rfl, rfl, hl⟩

theorem ticket_of_rest? {m : Notice} (h : n.rest? = some m) : m.ticket = n.ticket := by
  unfold Notice.rest? at h
  split at h
  · obtain rfl := Option.some.inj h
    rfl
  · cases h

end Tellings

/-- A notice together with those who were told before. -/
def Notice.whole (n : Notice) (ts : List Telling) : Notice :=
  { n with listeners := toldOf ts n.ticket ++ n.listeners }

/-- What holds of the snapshots that were announced so far, and of everybody who has been told of
one, when the snapshot with some ticket is in place. -/
structure Told (applied : Nat) (ns : List Notice) (ts : List Telling) : Prop where
  increasing : (ns.map Notice.ticket).Pairwise (· < ·)
  le_applied : ∀ n ∈ ns, n.ticket ≤ applied
  announced : ∀ a ∈ ts, ∃ n ∈ ns, n.ticket = a.ticket ∧ n.new = a.new ∧ a.listener ∈ n.listeners
  in_turn : ∀ n ∈ ns, toldOf ts n.ticket <+: n.listeners
  latest : ts.Pairwise fun a b => b.inPlace = true → a.ticket ≤ b.ticket
  behind : ∀ a ∈ ts, a.inPlace = false → ∃ n ∈ ns, n.ticket = a.ticket ∧
    ∃ l : Listener, l.waits = true ∧ [l, a.listener].Sublist n.listeners

namespace Told

variable {applied : Nat} {ns : List Notice} {ts : List Telling} {n : Notice}

theorem start : Told 0 [] [] where
  increasing := .nil
  le_applied := nofun
  announced := nofun
  in_turn := nofun
  latest := .nil
  behind := nofun

theorem ticket_le (h : Told applied ns ts) {a : Telling} (ha : a ∈ ts) : a.ticket ≤ applied := by
  obtain ⟨n, hn, hticket, -⟩ := h.announced a ha
  rw [← hticket]
  exact h.le_applied n hn

/-- Nobody has been told of a snapshot that is not in place yet. -/
theorem toldOf_eq_nil (h : Told applied ns ts) {ticket : Nat} (later : applied < ticket) :
    toldOf ts ticket = [] := by
  have hne : ∀ a ∈ ts, a.ticket ≠ ticket := by
    intro a ha
    have := h.ticket_le ha
    omega
  simpa [toldOf] using hne

/-- Every snapshot is announced once. -/
theorem notice_unique (h : Told applied ns ts) {m : Notice} (hn : n ∈ ns) (hm : m ∈ ns)
    (same : n.ticket = m.ticket) : n = m := by
  have hnodup : (ns.map Notice.ticket).Nodup := h.increasing.imp Nat.ne_of_lt
  exact List.inj_on_of_nodup_map hnodup hn hm same

/-- A later snapshot is put in place. -/
theorem announce (h : Told applied ns ts) (later : applied < n.ticket) :
    Told n.ticket (ns ++ [n]) ts where
  increasing := by
    rw [List.map_append]
    refine List.pairwise_append.2 ⟨h.increasing, List.pairwise_singleton _ _, ?_⟩
    intro a ha b hb
    obtain ⟨m, hm, rfl⟩ := List.mem_map.1 ha
    obtain rfl := List.mem_singleton.1 hb
    exact Nat.lt_of_le_of_lt (h.le_applied m hm) later
  le_applied := by
    intro m hm
    rcases List.mem_append.1 hm with hm | hm
    · exact Nat.le_of_lt (Nat.lt_of_le_of_lt (h.le_applied m hm) later)
    · obtain rfl := List.mem_singleton.1 hm
      exact Nat.le_refl _
  announced := by
    intro a ha
    obtain ⟨m, hm, hspec⟩ := h.announced a ha
    exact ⟨m, List.mem_append_left _ hm, hspec⟩
  in_turn := by
    intro m hm
    rcases List.mem_append.1 hm with hm | hm
    · exact h.in_turn m hm
    · obtain rfl := List.mem_singleton.1 hm
      rw [h.toldOf_eq_nil later]
      exact List.nil_prefix
  latest := h.latest
  behind := by
    intro a ha hfalse
    obtain ⟨m, hm, hspec⟩ := h.behind a ha hfalse
    exact ⟨m, List.mem_append_left _ hm, hspec⟩

/-- The next listeners are told. If the snapshot is no longer in place, one of those who were told
before has held them up. -/
theorem tell (h : Told applied ns ts) (mem : n.whole ts ∈ ns)
    (held : n.ticket ≠ applied → ∃ l ∈ toldOf ts n.ticket, l.waits = true) :
    Told applied ns (ts ++ n.tellings (n.ticket == applied)) where
  increasing := h.increasing
  le_applied := h.le_applied
  announced := by
    intro a ha
    rcases List.mem_append.1 ha with ha | ha
    · exact h.announced a ha
    · obtain ⟨hticket, hnew, -, hl⟩ := mem_tellings ha
      refine ⟨n.whole ts, mem, hticket.symm, hnew.symm, List.mem_append_right _ ?_⟩
      rw [← Listener.told_append_untold n.listeners]
      exact List.mem_append_left _ hl
  in_turn := by
    intro m hm
    rw [toldOf_append]
    by_cases hticket : n.ticket = m.ticket
    · obtain rfl := h.notice_unique mem hm hticket
      show toldOf ts n.ticket ++ toldOf _ n.ticket <+: _
      rw [toldOf_tellings_self]
      refine ⟨Listener.untold n.listeners, ?_⟩
      rw [List.append_assoc, Listener.told_append_untold]
      rfl
    · rw [toldOf_tellings_ne hticket, List.append_nil]
      exact h.in_turn m hm
  latest := by
    refine List.pairwise_append.2 ⟨h.latest, ?_, ?_⟩
    · apply List.pairwise_of_forall_mem_list
      intro a ha b hb _
      exact Nat.le_of_eq ((mem_tellings ha).1.trans (mem_tellings hb).1.symm)
    · intro a ha b hb htrue
      obtain ⟨hticket, -, hplace, -⟩ := mem_tellings hb
      rw [hplace] at htrue
      rw [hticket, beq_iff_eq.1 htrue]
      exact h.ticket_le ha
  behind := by
    intro a ha hfalse
    rcases List.mem_append.1 ha with ha | ha
    · exact h.behind a ha hfalse
    · obtain ⟨hticket, -, hplace, hl⟩ := mem_tellings ha
      rw [hplace] at hfalse
      obtain ⟨l, hmem, hwaits⟩ := held (beq_eq_false_iff_ne.1 hfalse)
      refine ⟨n.whole ts, mem, hticket.symm, l, hwaits, ?_⟩
      have hbehind : a.listener ∈ n.listeners := by
        rw [← Listener.told_append_untold n.listeners]
        exact List.mem_append_left _ hl
      exact List.Sublist.append (List.singleton_sublist.2 hmem) (List.singleton_sublist.2 hbehind)

/-- **In order**: a listener that listens once is told of snapshots in the order of their refreshes,
if they are in place when it is told of them. -/
theorem inOrder (h : Told applied ns ts) {l : Listener}
    (once : ∀ n ∈ ns, n.listeners.count l ≤ 1)
    (inPlace : ∀ a ∈ ts, a.listener = l → a.inPlace = true) : l.InOrder ts := by
  have hle : (ts.filter (·.listener = l)).Pairwise fun a b => a.ticket ≤ b.ticket := by
    refine (h.latest.filter _).imp_of_mem ?_
    intro a b _ hb hlatest
    obtain ⟨hb, hl⟩ := List.mem_filter.1 hb
    exact hlatest (inPlace b hb (of_decide_eq_true hl))
  -- A ticket that came twice would have been announced to the listener twice.
  have hnodup : ((ts.filter (·.listener = l)).map Telling.ticket).Nodup := by
    refine List.nodup_iff_count_le_one.2 fun ticket => ?_
    by_cases hmem : ticket ∈ (ts.filter (·.listener = l)).map Telling.ticket
    · obtain ⟨a, ha, rfl⟩ := List.mem_map.1 hmem
      obtain ⟨n, hn, hticket, -⟩ := h.announced a (List.mem_of_mem_filter ha)
      calc ((ts.filter (·.listener = l)).map Telling.ticket).count a.ticket
          = (toldOf ts a.ticket).count l := by
            simp only [toldOf, List.count_eq_countP, List.countP_map, List.countP_filter]
            apply List.countP_congr
            intro b _
            simp [and_comm]
        _ ≤ n.listeners.count l := (hticket ▸ h.in_turn n hn).sublist.count_le l
        _ ≤ 1 := once n hn
    · rw [List.count_eq_zero_of_not_mem hmem]
      exact Nat.zero_le _
  refine (hle.and (List.pairwise_map.1 hnodup)).imp ?_
  rintro a b ⟨hab, hne⟩
  exact Nat.lt_of_le_of_ne hab hne

end Told

namespace Session

/-- What holds at any time of a session and of everybody who has been told of snapshots in it. -/
structure Attended (s : Session) (ns : List Notice) (ts : List Telling) : Prop where
  sound : s.Sound
  told : Told s.client.sync.applied ns ts
  /-- Who is yet to be told stands behind those who have been, and one of them holds them up. -/
  speaking : ∀ flow n, s.speech? flow = some n →
    n.whole ts ∈ ns ∧ ∃ l ∈ toldOf ts n.ticket, l.waits = true
  /-- No two flows announce the same snapshot. -/
  apart : ∀ i j n m, s.speech? i = some n → s.speech? j = some m → n.ticket = m.ticket → i = j

namespace Attended

variable {s : Session} {ns ns' : List Notice} {ts : List Telling} {e : Event} {n : Notice}

theorem start (settings : Settings) (signer : Option Signer) (desk : Desk) (nonce : Nat)
    (now : Moment) : (Session.start settings signer desk nonce now).Attended [] [] where
  sound := sound_start settings signer desk nonce now
  told := by
    have happlied : (Session.start settings signer desk nonce now).client.sync.applied = 0 := by
      simp only [Session.start, Client.fresh]
      split
      · rfl
      · rfl
    rw [happlied]
    exact .start
  speaking := nofun
  apart := nofun

/-- An event tells nobody of anything. -/
theorem quiet (h : s.Attended ns ts) (hnone : s.notice? e = none) :
    (s.step e).Attended (ns ++ (s.announcement? e).toList) (ts ++ s.tellingsIn e) := by
  have hann : s.announcement? e = none := by
    cases ha : s.announcement? e with
    | none => rfl
    | some n =>
      rw [notice?_of_announcement? ha] at hnone
      cases hnone
  have happlied : (s.step e).client.sync.applied = s.client.sync.applied := by
    rcases h.sound.step_cases e with ⟨-, -, happlied, -⟩ |
      ⟨flow, o, new, rfl, hawaits, harrival, -⟩
    · exact happlied
    · have happ := application?_eq_some_iff.2 ⟨flow, o, rfl, hawaits, harrival⟩
      rw [announcement?, happ] at hann
      cases hann
  -- A flow that goes on has nothing to announce any more.
  have hspeech : ∀ flow n, (s.step e).speech? flow = some n → s.speech? flow = some n := by
    intro flow n hn
    by_cases hflow : e.flow? = some flow
    · rw [speech?_resumed h.sound.stacked hflow, hnone] at hn
      cases hn
    · rwa [speech?_other hflow] at hn
  rw [hann, tellingsIn, hnone, Option.toList_none, List.append_nil, List.append_nil]
  constructor
  case sound => exact h.sound.step e
  case told =>
    rw [happlied]
    exact h.told
  case speaking =>
    intro flow n hn
    exact h.speaking flow n (hspeech flow n hn)
  case apart =>
    intro i j n m hn hm
    exact h.apart i j n m (hspeech i n hn) (hspeech j m hm)

/-- An event tells the next listeners of a snapshot that no other flow announces. -/
theorem tell (h : s.Attended ns ts) {flow : Nat} (hflow : e.flow? = some flow)
    (hnotice : s.notice? e = some n) (told : Told (s.step e).client.sync.applied ns' ts)
    (mem : n.whole ts ∈ ns') (subset : ∀ m ∈ ns, m ∈ ns')
    (held : n.ticket ≠ (s.step e).client.sync.applied → ∃ l ∈ toldOf ts n.ticket, l.waits = true)
    (alone : ∀ i m, i ≠ flow → s.speech? i = some m → n.ticket ≠ m.ticket) :
    (s.step e).Attended ns' (ts ++ s.tellingsIn e) := by
  have hself : (s.step e).speech? flow = n.rest? := by
    rw [speech?_resumed h.sound.stacked hflow, hnotice]
    rfl
  have hother : ∀ i, i ≠ flow → (s.step e).speech? i = s.speech? i := by
    intro i hi
    apply speech?_other
    rw [hflow]
    exact fun heq => hi (Option.some.inj heq).symm
  rw [tellingsIn, hnotice]
  constructor
  case sound => exact h.sound.step e
  case told => exact told.tell mem held
  case speaking =>
    intro i m hm
    rw [Notice.whole, toldOf_append]
    by_cases hi : i = flow
    · subst hi
      rw [hself, Notice.rest?] at hm
      split at hm
      · next hwaits =>
        obtain rfl := Option.some.inj hm
        simp only [toldOf_tellings_self, List.append_assoc, Listener.told_append_untold]
        obtain ⟨l, hl, hwaits⟩ := Listener.exists_waits_told hwaits
        exact ⟨mem, l, List.mem_append_right _ hl, hwaits⟩
      · cases hm
    · rw [hother i hi] at hm
      rw [toldOf_tellings_ne (alone i m hi hm), List.append_nil]
      obtain ⟨hmem, hwaits⟩ := h.speaking i m hm
      exact ⟨subset _ hmem, hwaits⟩
  case apart =>
    intro i j m m' hm hm' hsame
    by_cases hi : i = flow <;> by_cases hj : j = flow
    · rw [hi, hj]
    · rw [hi, hself] at hm
      rw [hother j hj] at hm'
      exact (alone j m' hj hm' ((ticket_of_rest? hm).symm.trans hsame)).elim
    · rw [hj, hself] at hm'
      rw [hother i hi] at hm
      exact (alone i m hi hm ((ticket_of_rest? hm').symm.trans hsame.symm)).elim
    · rw [hother i hi] at hm
      rw [hother j hj] at hm'
      exact h.apart i j m m' hm hm' hsame

/-- **One event**: it tells nobody, or puts a snapshot in place and tells the first listeners, or
tells the next ones of a snapshot that was put in place before. -/
theorem step (h : s.Attended ns ts) (e : Event) :
    (s.step e).Attended (ns ++ (s.announcement? e).toList) (ts ++ s.tellingsIn e) := by
  cases hnotice : s.notice? e with
  | none => exact h.quiet hnotice
  | some n =>
    rcases notice?_cases hnotice with hann | ⟨hann, flow, hflow, hspeech⟩
    · obtain ⟨⟨ticket, new⟩, happ, rfl⟩ := Option.map_eq_some_iff.1 hann
      obtain ⟨flow, o, rfl, -⟩ := application?_eq_some_iff.1 happ
      obtain ⟨happlied, hlater⟩ : (s.step (.resume flow o)).client.sync.applied = ticket ∧
          s.client.sync.applied < ticket := by
        rcases h.sound.step_cases (.resume flow o) with ⟨hnone, -⟩ |
          ⟨_, _, new', ⟨⟩, hawaits, harrival, -, happlied, -, hlt, -⟩
        · rw [hnone] at happ
          cases happ
        · rw [application?_eq_some_iff.2 ⟨flow, o, rfl, hawaits, harrival⟩] at happ
          obtain ⟨rfl, -⟩ := Prod.mk.inj (Option.some.inj happ)
          exact ⟨happlied, hlt⟩
      rw [hann]
      refine h.tell rfl hnotice ?_ ?_ ?_ ?_ ?_
      · rw [happlied]
        exact Told.announce (n := ⟨ticket, new, s.client.sync.listeners⟩) h.told hlater
      · simp [Notice.whole, h.told.toldOf_eq_nil hlater]
      · exact fun m hm => List.mem_append_left _ hm
      · exact fun hne => (hne happlied.symm).elim
      · -- What others announce was put in place before.
        intro i m _ hm
        have hle := h.told.le_applied _ (h.speaking i m hm).1
        exact Nat.ne_of_gt (Nat.lt_of_le_of_lt hle hlater)
    · have happlied : (s.step e).client.sync.applied = s.client.sync.applied := by
        rcases h.sound.step_cases e with ⟨-, -, happlied, -⟩ |
          ⟨flow, o, new, rfl, hawaits, harrival, -⟩
        · exact happlied
        · have happ := application?_eq_some_iff.2 ⟨flow, o, rfl, hawaits, harrival⟩
          rw [announcement?, happ] at hann
          cases hann
      obtain ⟨hmem, hwaits⟩ := h.speaking flow n hspeech
      rw [hann, Option.toList_none, List.append_nil]
      refine h.tell hflow hnotice (happlied.symm ▸ h.told) hmem (fun _ hm => hm)
        (fun _ => hwaits) ?_
      intro i m hi hm hsame
      exact hi (h.apart flow i n m hspeech hm hsame).symm

theorem after (h : s.Attended ns ts) (es : List Event) :
    (s.after es).Attended (ns ++ s.announcements es) (ts ++ s.tellings es) := by
  induction es generalizing s ns ts with
  | nil =>
    rw [announcements, tellings, List.append_nil, List.append_nil]
    exact h
  | cons e es ih =>
    rw [announcements, tellings, ← List.append_assoc, ← List.append_assoc]
    exact ih (h.step e)

end Attended

/-- A client whose screen does not listen. -/
def unheard : Session :=
  start { Settings.builtIn with ledgerOpen := false } none (.empty false) 0
    ⟨2024, 1, 2, 3, 4, 5, 0, some 0⟩

end Session
end Plunder
