import Plunder.Proofs.Chart.Ownership
import Plunder.Proofs.Client.Course
import Plunder.Proofs.Client.Onscreen

/-!
# The charts of a session

A session together with its chart loads. A snapshot of a complete round starts one, and calls off
the one before; loads have their turns and hear from the gateway in any order, long after the
snapshot has gone or the screen was dismissed. Only the load that the snapshot in place has started
can bring a chart, so that the file that the screen holds belongs to that snapshot, and there is no
other.

Main statements:
- `Timely.callOff`, `Timely.start`, `Timely.set`: which loads can still bring a chart
- `Kept.client`, `Kept.load`: what an event does to the file that the screen holds
- `tidy_run`: the files of the screen in every session
-/

namespace Plunder

/-! ## Definitions -/

/-- A chart load that a snapshot has started. -/
structure ChartLoad where
  /-- The ticket of the snapshot. -/
  ticket : Nat
  stage : Stage
  /-- Whether it was called off before it ended. -/
  calledOff : Bool
  /-- What came back from the gateway, if anything did. -/
  fetched : Option Outcome

namespace ChartLoad

/-- A load that has not had its first turn. -/
def ofTicket (ticket : Nat) : ChartLoad := ⟨ticket, .due, false, none⟩

/-- Whether the load may still bring a chart. -/
def isLive (l : ChartLoad) : Bool := !l.stage.isOver && !l.calledOff

/-- A load is called off, unless it has ended. -/
def callOff (l : ChartLoad) : ChartLoad :=
  { l with calledOff := l.calledOff || !l.stage.isOver }

/-- What a load goes on with: one that was called off is told so, whatever else there may be. -/
def hears (l : ChartLoad) (o : Outcome) : Outcome :=
  if l.calledOff then .error .cancelled else o

/-- The step that a load takes. The gateway answers with anything but a cancellation. -/
def turn? (l : ChartLoad) (c : Client) (o : Outcome) : Option Turn :=
  match l.stage with
  -- What is called off before its first turn never begins.
  | .due => some (if l.calledOff then .finish c [] (.error .cancelled) else c.begin .chart)
  | .waiting _ ps =>
    if !l.calledOff && o.isCancelled then none else some (c.proceed (l.hears o) ps)
  | .finished _ => none

/-- A load after a step. -/
def moved (l : ChartLoad) (o : Outcome) (m : Move) : ChartLoad :=
  { l with
    stage := m.stage
    fetched :=
      match l.stage with
      | .waiting .. => some (l.hears o)
      | _ => l.fetched }

/-- Whether the load was answered with a chart of the given octets. -/
def Fetched (l : ChartLoad) (bs : Bytes) : Prop :=
  ∃ payload, l.fetched = some (.ok (.answer (.chart payload))) ∧
    ChartArtifact.read payload = .ok ⟨bs⟩

end ChartLoad

/-- Whether no whole number in an answer of the gateway is too long. -/
def Outcome.isShort : Outcome → Bool
  | .ok (.answer (.chart v)) => v.isShort
  | _ => true

/-- Whether a client draws charts of the snapshot that is in place. -/
def Client.Charting (c : Client) : Prop :=
  .screen ∈ c.sync.listeners ∧ ∃ new, c.sync.snapshot = some new ∧ c.screen.wantsChart new = true

/-- A session and the chart loads in it, in the order in which they were started. -/
structure Gallery where
  session : Session
  loads : List ChartLoad

namespace Gallery

/-- What happens in a session with charts. -/
inductive Event where
  /-- Something happens to the client or to its flows. -/
  | client (e : Session.Event)
  /-- A chart load has its turn, or the gateway answers it. -/
  | load (number : Nat) (o : Outcome)
  /-- From now on there is a directory to make files in, or there is none. -/
  | directory (present : Bool)

/-- Whether no payload that comes has whole numbers that are too long. -/
def Event.isShort : Event → Bool
  | .load _ o => o.isShort
  | _ => true

def client (g : Gallery) : Client := g.session.client

/-- A session in which nothing has happened yet. -/
def start (settings : Settings) (signer : Option Signer) (desk : Desk) (nonce : Nat)
    (now : Moment) : Gallery :=
  ⟨.start settings signer desk nonce now, []⟩

/-- What an order does to the loads; `ticket` is that of the snapshot in place. -/
def order (ticket : Nat) (loads : List ChartLoad) : Order → List ChartLoad
  -- Only the load that was started last is remembered.
  | .callOff => loads.modify (loads.length - 1) ChartLoad.callOff
  | .begin => loads ++ [.ofTicket ticket]

/-- Something happens to the client or to its flows. -/
def afterClient (g : Gallery) (e : Session.Event) : Gallery :=
  let session := g.session.step e
  ⟨session, (g.session.orders e).foldl (order session.client.sync.applied) g.loads⟩

/-- A chart load takes a step, if it can. -/
def afterLoad (g : Gallery) (number : Nat) (o : Outcome) : Gallery :=
  match g.loads[number]? with
  | some l =>
    match l.turn? g.client o with
    | some t => ⟨{ g.session with client := t.client }, g.loads.set number (l.moved o t.move)⟩
    | none => g
  | none => g

/-- The session after an event. Chart loads are started by snapshots only, and the screen begins to
listen only once. -/
def step (g : Gallery) : Event → Gallery
  | .client e => if e.isPlain then g.afterClient e else g
  | .load number o => g.afterLoad number o
  | .directory present =>
    { g with session.client.desk := { g.client.desk with present } }

/-- The session after several events. -/
def after (g : Gallery) (es : List Event) : Gallery := es.foldl step g

/-- Whether the chart files are in order, besides the files of others. -/
structure Tidy (g : Gallery) (others : List (String × Bytes)) : Prop where
  /-- The screen's files are that of its handle, or none if it has none. -/
  owns : ∃ shown, g.client.screen.Owns g.client.desk others shown
  /-- A chart is held only of the snapshot of a complete round, if charts are wanted, and by a
  screen that was never dismissed. -/
  held : ∀ h, g.client.screen.handle = some h →
    g.client.sync.complete = true ∧ g.client.screen.settings.onchainChart = true ∧
      g.client.screen.generation = 0
  /-- No snapshot starts two loads. -/
  apart : (g.loads.map ChartLoad.ticket).Pairwise (· < ·)
  /-- Once every load has ended, the file has what was fetched by the load of the snapshot that is
  in place. -/
  drawn : ∀ h, g.client.screen.handle = some h → (∀ l ∈ g.loads, l.stage.isOver = true) →
    ∃ l ∈ g.loads, l.ticket = g.client.sync.applied ∧
      ∃ bs, l.Fetched bs ∧ g.client.desk.files = others ++ [(h.path, bs)]
  /-- Once the screen is dismissed there is no file, and none is ever made again, whatever the
  gateway answers. -/
  deserted : ∀ es, ((g.step (.client .dismiss)).after es).client.screen.handle = none ∧
    ((g.step (.client .dismiss)).after es).client.desk.files = others ∧
      ((g.step (.client .dismiss)).after es).client.desk.opened = g.client.desk.opened

end Gallery

/-! ## Loads -/

/-- A load ends when it is answered, and the screen and its files are as the answer leaves them. -/
theorem Client.afterFetch_of_answered (c : Client) (generation : Nat) {o : Outcome}
    (ho : o.isCancelled = false) :
    (c.afterFetch generation o).client =
        { c with
          screen := (c.arrivalOf generation o).screen
          desk := (c.arrivalOf generation o).desk } ∧
      ∃ o', (c.afterFetch generation o).move = .done o' := by
  unfold afterFetch
  rw [if_neg (by rw [ho]; exact Bool.false_ne_true)]
  exact ⟨rfl, _, rfl⟩

namespace ChartLoad

variable {l : ChartLoad} {loads : List ChartLoad}

theorem calledOff_of_isLive (h : l.isLive = true) : l.calledOff = false := by
  rw [isLive, Bool.and_eq_true, Bool.not_eq_true'] at h
  simpa using h.2

theorem isLive_callOff (l : ChartLoad) : l.callOff.isLive = false := by
  cases l with
  | mk ticket stage calledOff fetched =>
    cases calledOff <;> simp [callOff, isLive]

/-- A load in the place of another one. -/
theorem getElem?_callOff {k i : Nat} (h : (loads.modify k callOff)[i]? = some l) :
    ∃ l₀, loads[i]? = some l₀ ∧ (l = l₀ ∧ i ≠ k ∨ l = l₀.callOff) := by
  rw [List.getElem?_modify] at h
  obtain ⟨l₀, hl₀, rfl⟩ := Option.map_eq_some_iff.1 h
  refine ⟨l₀, hl₀, ?_⟩
  split
  · exact .inr rfl
  · next hne => exact .inl ⟨rfl, fun heq => hne heq.symm⟩

/-- What is the same of a load that is called off is the same of all of them. -/
theorem map_callOff {α : Type} (f : ChartLoad → α) (hf : ∀ l : ChartLoad, f l.callOff = f l)
    (loads : List ChartLoad) (k : Nat) : (loads.modify k callOff).map f = loads.map f := by
  apply List.ext_getElem?
  intro i
  rw [List.getElem?_map, List.getElem?_map, List.getElem?_modify]
  cases loads[i]? with
  | none => rfl
  | some l =>
    simp only [Option.map_some]
    split
    · exact congrArg some (hf l)
    · rfl

theorem tickets_callOff (loads : List ChartLoad) (k : Nat) :
    (loads.modify k callOff).map ticket = loads.map ticket :=
  map_callOff ticket (fun _ => rfl) loads k

/-- Once the last load is called off, none can bring a chart, if no other could before. -/
theorem notLive_callOff
    (last : ∀ (i : Nat) l, loads[i]? = some l → l.isLive = true → i + 1 = loads.length) :
    ∀ l ∈ loads.modify (loads.length - 1) callOff, l.isLive = false := by
  intro l hl
  obtain ⟨i, hi⟩ := List.mem_iff_getElem?.1 hl
  obtain ⟨l₀, hl₀, ⟨rfl, hne⟩ | rfl⟩ := getElem?_callOff hi
  · refine Bool.eq_false_iff.2 fun hlive => hne ?_
    have := last i l hl₀ hlive
    omega
  · exact isLive_callOff l₀

/-- A load that is called off waits where it did. -/
theorem waiting_callOff {P : List Point → Prop} {k : Nat}
    (waiting : ∀ l ∈ loads, ∀ need ps, l.stage = .waiting need ps → P ps) :
    ∀ l ∈ loads.modify k callOff, ∀ need ps, l.stage = .waiting need ps → P ps := by
  intro l hl need ps hstage
  obtain ⟨i, hi⟩ := List.mem_iff_getElem?.1 hl
  obtain ⟨l₀, hl₀, ⟨rfl, -⟩ | rfl⟩ := getElem?_callOff hi
  · exact waiting l (List.mem_of_getElem? hl₀) need ps hstage
  · exact waiting l₀ (List.mem_of_getElem? hl₀) need ps hstage

/-- What a step of a chart load can do: one that was called off ends; one that has its first turn
asks for the payload; and one that is answered shows what has come. -/
theorem turn?_cases {c : Client} {o : Outcome} {t : Turn}
    (waiting : ∀ need ps, l.stage = .waiting need ps → ps = [.chart 0]) (h : l.turn? c o = some t) :
    (l.calledOff = true ∧ t.client = c ∧ ∃ o', t.move = .done o') ∨
      (l.isLive = true ∧ t.client = c ∧
        t.move = .wait (.answer .chart) [.chart c.screen.generation]) ∨
      (l.isLive = true ∧ (l.moved o t.move).fetched = some o ∧ (∃ o', t.move = .done o') ∧
        t.client =
          { c with screen := (c.arrivalOf 0 o).screen, desk := (c.arrivalOf 0 o).desk }) := by
  obtain ⟨ticket, stage, calledOff, fetched⟩ := l
  cases stage with
  | due =>
    cases calledOff with
    | true =>
      cases h
      exact .inl ⟨rfl, rfl, _, rfl⟩
    | false =>
      cases h
      exact .inr (.inl ⟨rfl, rfl, rfl⟩)
  | waiting need ps =>
    obtain rfl := waiting need ps rfl
    cases calledOff with
    | true =>
      cases h
      exact .inl ⟨rfl, rfl, _, rfl⟩
    | false =>
      cases ho : o.isCancelled with
      | true => simp [turn?, ho] at h
      | false =>
        simp only [turn?, ho, Bool.not_false, Bool.and_false, Bool.false_eq_true, if_false,
          Option.some.injEq] at h
        obtain ⟨hclient, hmove⟩ := Client.proceed_singleton c o (.chart 0)
        have hfetch := Client.afterFetch_of_answered c 0 ho
        subst h
        exact .inr (.inr ⟨rfl, rfl, hmove ▸ hfetch.2, hclient.trans hfetch.1⟩)
  | finished o => cases h

end ChartLoad

/-- **The files after the gateway has answered a chart load** of the present generation: that of
its chart, or none. -/
theorem Client.arrivalOf_brings {c : Client} {others : List (String × Bytes)}
    {shown : Option Bytes} {o : Outcome} (h : c.screen.Owns c.desk others shown)
    (fresh : c.desk.Fresh) (short : o.isShort = true) :
    ∃ shown', (c.arrivalOf c.screen.generation o).Brings c.screen others shown' ∧
      ∀ bs ∈ shown', ∃ v, o = .ok (.answer (.chart v)) ∧ ChartArtifact.read v = .ok ⟨bs⟩ := by
  unfold arrivalOf
  split
  · next v =>
    obtain ⟨shown', hbrings, hread⟩ := Screen.receive_brings h fresh (v := v) short
    exact ⟨shown', hbrings, fun bs hbs => ⟨v, rfl, hread bs hbs⟩⟩
  · obtain ⟨shown', hbrings, hread⟩ := Screen.receive_brings h fresh (v := .null) rfl
    exact ⟨shown', hbrings, fun bs hbs => nomatch hread bs hbs⟩
  · exact ⟨none, Screen.fetchFailed_brings h fresh _, nofun⟩

namespace Gallery

open ChartLoad

/-- Which loads there may be while the snapshot with some ticket is in place: only the last one can
still bring a chart, if it draws that snapshot. -/
structure Timely (applied : Nat) (charting : Prop) (loads : List ChartLoad) : Prop where
  apart : (loads.map ticket).Pairwise (· < ·)
  ticket_le : ∀ l ∈ loads, l.ticket ≤ applied
  live : ∀ (i : Nat) l, loads[i]? = some l → l.isLive = true →
    i + 1 = loads.length ∧ l.ticket = applied ∧ charting
  /-- No load begins but in the first generation of the screen. -/
  waiting : ∀ l ∈ loads, ∀ need ps, l.stage = .waiting need ps → ps = [.chart 0]

namespace Timely

variable {applied applied' : Nat} {charting charting' : Prop} {loads : List ChartLoad}

theorem nil : Timely applied charting [] where
  apart := .nil
  ticket_le _ hl := (List.not_mem_nil hl).elim
  live i l hi := by simp at hi
  waiting _ hl := (List.not_mem_nil hl).elim

/-- Once the last load is called off, none can bring a chart. -/
theorem notLive_callOff (h : Timely applied charting loads) :
    ∀ l ∈ loads.modify (loads.length - 1) callOff, l.isLive = false :=
  ChartLoad.notLive_callOff fun i l hi hlive => (h.live i l hi hlive).1

theorem callOff (h : Timely applied charting loads) (le : applied ≤ applied') :
    Timely applied' charting' (loads.modify (loads.length - 1) ChartLoad.callOff) where
  apart := by
    rw [tickets_callOff]
    exact h.apart
  ticket_le l hl := by
    have hmem : l.ticket ∈ loads.map ticket := by
      rw [← tickets_callOff loads (loads.length - 1)]
      exact List.mem_map_of_mem hl
    obtain ⟨l₀, hl₀, heq⟩ := List.mem_map.1 hmem
    exact heq ▸ (h.ticket_le l₀ hl₀).trans le
  live i l hi hlive := by
    rw [h.notLive_callOff l (List.mem_of_getElem? hi)] at hlive
    cases hlive
  waiting := waiting_callOff (P := (· = [.chart 0])) h.waiting

/-- A later snapshot starts a load, and the one before is called off. -/
theorem start (h : Timely applied charting loads) (lt : applied < applied') (hc : charting') :
    Timely applied' charting'
      (loads.modify (loads.length - 1) ChartLoad.callOff ++ [.ofTicket applied']) where
  apart := by
    rw [List.map_append, tickets_callOff, List.pairwise_append]
    refine ⟨h.apart, List.pairwise_singleton _ _, fun t ht t' ht' => ?_⟩
    obtain ⟨l, hl, rfl⟩ := List.mem_map.1 ht
    rw [List.mem_singleton.1 ht']
    exact Nat.lt_of_le_of_lt (h.ticket_le l hl) lt
  ticket_le l hl := by
    rcases List.mem_append.1 hl with hl | hl
    · exact (h.callOff (Nat.le_of_lt lt) : Timely applied' charting' _).ticket_le l hl
    · rw [List.mem_singleton.1 hl]
      exact Nat.le_refl _
  live i l hi hlive := by
    rw [List.getElem?_append] at hi
    split at hi
    · rw [h.notLive_callOff l (List.mem_of_getElem? hi)] at hlive
      cases hlive
    · obtain ⟨hlt, rfl⟩ := List.getElem?_eq_some_iff.1 hi
      rw [List.length_singleton] at hlt
      refine ⟨?_, ?_, hc⟩
      · rw [List.length_append, List.length_singleton]
        omega
      · simp [ofTicket]
  waiting l hl need ps hstage := by
    rcases List.mem_append.1 hl with hl | hl
    · exact (h.callOff (Nat.le_of_lt lt) : Timely applied' charting' _).waiting l hl need ps hstage
    · rw [List.mem_singleton.1 hl] at hstage
      cases hstage

/-- Where no chart is drawn of a snapshot, a later one finds no load that could bring any. -/
theorem onward (h : Timely applied charting loads) (le : applied ≤ applied') (hc : ¬charting) :
    Timely applied' charting' loads where
  apart := h.apart
  ticket_le l hl := (h.ticket_le l hl).trans le
  live i l hi hlive := (hc (h.live i l hi hlive).2.2).elim
  waiting := h.waiting

theorem congr (h : Timely applied charting loads) (hc : charting → charting') :
    Timely applied charting' loads :=
  ⟨h.apart, h.ticket_le, fun i l hi hlive =>
    have ⟨hlast, hticket, hcharting⟩ := h.live i l hi hlive
    ⟨hlast, hticket, hc hcharting⟩, h.waiting⟩

/-- A load goes on. -/
theorem set {i : Nat} {l l' : ChartLoad} (h : Timely applied charting loads)
    (hi : loads[i]? = some l) (ticket : l'.ticket = l.ticket)
    (live : l'.isLive = true → l.isLive = true)
    (waiting : ∀ need ps, l'.stage = .waiting need ps → ps = [.chart 0]) :
    Timely applied charting (loads.set i l') where
  apart := by
    have hset : (loads.set i l').map ChartLoad.ticket = loads.map ChartLoad.ticket := by
      obtain ⟨hlt, rfl⟩ := List.getElem?_eq_some_iff.1 hi
      have hlt' : i < (loads.map ChartLoad.ticket).length := by simpa using hlt
      rw [List.map_set, ticket, ← List.getElem_map ChartLoad.ticket (h := hlt'),
        List.set_getElem_self]
    rw [hset]
    exact h.apart
  ticket_le k hk := by
    rcases List.mem_or_eq_of_mem_set hk with hk | rfl
    · exact h.ticket_le k hk
    · rw [ticket]
      exact h.ticket_le l (List.mem_of_getElem? hi)
  live j k hj hlive := by
    rw [List.length_set]
    rw [List.getElem?_set] at hj
    split at hj
    · next heq =>
      subst heq
      split at hj
      · cases hj
        exact ticket ▸ h.live i l hi (live hlive)
      · cases hj
    · exact h.live j k hj hlive
  waiting k hk need ps hstage := by
    rcases List.mem_or_eq_of_mem_set hk with hk | rfl
    · exact h.waiting k hk need ps hstage
    · exact waiting need ps hstage

end Timely

/-- Whether the last load is that of the snapshot in place, and has brought the given octets unless
it is still under way. -/
def Drawn (applied : Nat) (loads : List ChartLoad) (bs : Bytes) : Prop :=
  ∃ (i : Nat) (l : ChartLoad), loads[i]? = some l ∧ i + 1 = loads.length ∧ l.ticket = applied ∧
    l.calledOff = false ∧ (l.stage.isOver = true → l.Fetched bs)

theorem drawn_concat (loads : List ChartLoad) (applied : Nat) (bs : Bytes) :
    Drawn applied (loads ++ [.ofTicket applied]) bs :=
  ⟨loads.length, .ofTicket applied, List.getElem?_concat_length, by simp, rfl, rfl, nofun⟩

/-- The last load goes on, and brings the octets if it is over. -/
theorem drawn_set {applied i : Nat} {l : ChartLoad} {loads : List ChartLoad} {bs : Bytes}
    (last : i + 1 = loads.length) (ticket : l.ticket = applied) (calledOff : l.calledOff = false)
    (fetched : l.stage.isOver = true → l.Fetched bs) : Drawn applied (loads.set i l) bs :=
  ⟨i, l, List.getElem?_set_self (by omega), by rw [List.length_set, last], ticket, calledOff,
    fetched⟩

/-- A load that was called off is not the last one. -/
theorem Drawn.set {applied i : Nat} {l l' : ChartLoad} {loads : List ChartLoad} {bs : Bytes}
    (h : Drawn applied loads bs) (hi : loads[i]? = some l) (calledOff : l.calledOff = true) :
    Drawn applied (loads.set i l') bs := by
  obtain ⟨j, k, hj, hlast, hticket, hoff, hfetched⟩ := h
  have hne : i ≠ j := by
    rintro rfl
    rw [hi] at hj
    cases hj
    rw [calledOff] at hoff
    cases hoff
  refine ⟨j, k, ?_, by rw [List.length_set, hlast], hticket, hoff, hfetched⟩
  rw [List.getElem?_set_ne hne]
  exact hj

/-- What holds of a session with charts at any time; `shown` is the chart that the screen holds. -/
structure Kept (g : Gallery) (others : List (String × Bytes)) (shown : Option Bytes) : Prop where
  sound : g.session.Sound
  aside : g.session.Aside
  first : Listener.ScreenFirst g.client.sync.listeners
  /-- A screen that was dismissed does not listen. -/
  deaf : g.client.screen.generation ≠ 0 → .screen ∉ g.client.sync.listeners
  fresh : g.client.desk.Fresh
  owns : g.client.screen.Owns g.client.desk others shown
  timely : Timely g.client.sync.applied g.client.Charting g.loads
  drawn : ∀ bs ∈ shown, g.client.Charting ∧ Drawn g.client.sync.applied g.loads bs

/-- Whether a step leaves a dismissed screen dismissed, and makes no file for it. -/
def Deserts (g g' : Gallery) : Prop :=
  g.client.screen.generation ≠ 0 → g'.client.screen.generation ≠ 0 ∧
    g'.client.desk.opened = g.client.desk.opened

variable {g : Gallery} {others : List (String × Bytes)} {shown : Option Bytes}

theorem Deserts.of_eq {g' : Gallery} (screen : g'.client.screen = g.client.screen)
    (opened : g'.client.desk.opened = g.client.desk.opened) : g.Deserts g' := by
  intro hgone
  rw [screen]
  exact ⟨hgone, opened⟩

namespace Kept

/-- A screen for which charts are drawn was never dismissed. -/
theorem generation_eq (h : g.Kept others shown) (hc : g.client.Charting) :
    g.client.screen.generation = 0 :=
  Decidable.not_not.1 fun hne => h.deaf hne hc.1

/-- A screen that draws no charts holds none. -/
theorem shown_eq (h : g.Kept others shown) (hc : ¬g.client.Charting) : shown = none :=
  Option.eq_none_iff_forall_not_mem.2 fun bs hbs => hc (h.drawn bs hbs).1

/-! ## Events of the client -/

open Session

/-- **An event of the client** leaves the files in order. -/
theorem client (h : g.Kept others shown) {e : Session.Event} (plain : e.isPlain = true) :
    (∃ shown', (g.afterClient e).Kept others shown') ∧ g.Deserts (g.afterClient e) := by
  obtain ⟨shows, aside, first⟩ := step_shows h.sound h.aside h.first plain
  have sound := h.sound.step e
  unfold afterClient
  generalize g.session.step e = s at shows aside first sound
  generalize g.session.orders e = orders at shows
  cases shows with
  | rest same snapshot applied =>
    have hcharting : s.client.Charting ↔ g.client.Charting := by
      rw [Client.Charting, same.listens, snapshot, same.screen_eq]
      exact Iff.rfl
    refine ⟨⟨shown, sound, aside, first, ?_, ?_, ?_, ?_, fun bs hbs => ?_⟩,
      .of_eq same.screen_eq (congrArg Desk.opened same.desk_eq)⟩
    · exact fun hne hmem => h.deaf (same.screen_eq ▸ hne) (same.listens.1 hmem)
    · exact same.desk_eq ▸ h.fresh
    · exact h.owns.congr (congrArg Screen.handle same.screen_eq)
        (congrArg Desk.files same.desk_eq)
    · exact applied ▸ h.timely.congr hcharting.2
    · exact ⟨hcharting.2 (h.drawn bs hbs).1, applied ▸ (h.drawn bs hbs).2⟩
  | @drawing new _ places listening wants screen desk =>
    have hcharting : s.client.Charting :=
      ⟨places.listens.2 listening, new, places.snapshot_eq, screen ▸ wants⟩
    refine ⟨⟨shown, sound, aside, first, ?_, ?_, ?_, ?_, fun bs hbs => ⟨hcharting, ?_⟩⟩,
      .of_eq screen (congrArg Desk.opened desk)⟩
    · exact fun hne => (h.deaf (screen ▸ hne) listening).elim
    · exact desk ▸ h.fresh
    · exact h.owns.congr (congrArg Screen.handle screen) (congrArg Desk.files desk)
    · exact h.timely.start places.applied_lt hcharting
    · exact drawn_concat _ _ bs
  | clearing places screen desk =>
    have hgeneration : s.client.screen.generation = g.client.screen.generation := by
      rw [screen, Screen.release_screen]
      rfl
    refine ⟨⟨none, sound, aside, first, ?_, ?_, ?_, ?_, nofun⟩, fun hgone => ⟨?_, ?_⟩⟩
    · exact fun hne hmem => h.deaf (hgeneration ▸ hne) (places.listens.1 hmem)
    · exact desk ▸ Screen.release_fresh _ h.fresh
    · exact h.owns.release.congr (congrArg Screen.handle screen) (congrArg Desk.files desk)
    · exact h.timely.callOff (Nat.le_of_lt places.applied_lt)
    · exact hgeneration ▸ hgone
    · exact desk ▸ Screen.release_opened _ _
  | unheard places deaf screen desk =>
    have hcharting : ¬g.client.Charting := fun hc => deaf hc.1
    obtain rfl := h.shown_eq hcharting
    refine ⟨⟨none, sound, aside, first, ?_, ?_, ?_, ?_, nofun⟩,
      .of_eq screen (congrArg Desk.opened desk)⟩
    · exact fun _ hmem => deaf (places.listens.1 hmem)
    · exact desk ▸ h.fresh
    · exact h.owns.congr (congrArg Screen.handle screen) (congrArg Desk.files desk)
    · exact h.timely.onward (Nat.le_of_lt places.applied_lt) hcharting
  | dismissal deaf snapshot applied screen desk =>
    have hgeneration : s.client.screen.generation = g.client.screen.generation + 1 := by
      rw [screen, Screen.dismiss, Screen.release_screen]
      rfl
    have howns : Screen.Owns { g.client.screen with generation := g.client.screen.generation + 1 }
        g.client.desk others shown := h.owns.congr rfl rfl
    refine ⟨⟨none, sound, aside, first, fun _ => deaf, ?_, ?_, ?_, nofun⟩, fun _ => ⟨?_, ?_⟩⟩
    · exact desk ▸ Screen.release_fresh _ h.fresh
    · exact howns.release.congr (congrArg Screen.handle screen) (congrArg Desk.files desk)
    · exact h.timely.callOff (Nat.le_of_eq applied.symm)
    · exact hgeneration ▸ Nat.succ_ne_zero _
    · exact desk ▸ Screen.release_opened _ _

/-! ## Events of a chart load -/

/-- A chart load goes on, and the client stays as it is. -/
private theorem of_client (h : g.Kept others shown) {c : Client} (hc : c = g.client)
    {loads : List ChartLoad} (timely : Timely g.client.sync.applied g.client.Charting loads)
    (drawn : ∀ bs ∈ shown, g.client.Charting ∧ Drawn g.client.sync.applied loads bs) :
    Kept ⟨{ g.session with client := c }, loads⟩ others shown := by
  subst hc
  exact ⟨h.sound, h.aside, h.first, h.deaf, h.fresh, h.owns, timely, drawn⟩

/-- **A step of a chart load** leaves the files in order. -/
theorem load (h : g.Kept others shown) (number : Nat) {o : Outcome}
    (short : g.client.screen.generation = 0 → o.isShort = true) :
    (∃ shown', (g.afterLoad number o).Kept others shown') ∧ g.Deserts (g.afterLoad number o) := by
  unfold afterLoad
  split
  · next l here =>
    split
    · next t hturn =>
      have hwaiting := h.timely.waiting l (List.mem_of_getElem? here)
      rcases turn?_cases hwaiting hturn with ⟨hoff, hclient, o', hmove⟩ |
        ⟨hlive, hclient, hmove⟩ | ⟨hlive, hfetched, ⟨o', hmove⟩, hclient⟩
      · -- What was called off is not the load of the snapshot in place.
        refine ⟨⟨shown, h.of_client hclient ?_ fun bs hbs => ⟨(h.drawn bs hbs).1, ?_⟩⟩,
          .of_eq (congrArg Client.screen hclient) (congrArg (·.desk.opened) hclient)⟩
        · refine h.timely.set here rfl (fun hl => ?_) fun need ps hstage => ?_
          · simp [isLive, moved, hmove, Move.stage, Stage.isOver, hoff] at hl
          · rw [moved, hmove] at hstage
            cases hstage
        · exact (h.drawn bs hbs).2.set here hoff
      · obtain ⟨hlast, hticket, hcharting⟩ := h.timely.live number l here hlive
        rw [h.generation_eq hcharting] at hmove
        refine ⟨⟨shown, h.of_client hclient ?_ fun bs hbs => ⟨hcharting, ?_⟩⟩,
          .of_eq (congrArg Client.screen hclient) (congrArg (·.desk.opened) hclient)⟩
        · refine h.timely.set here rfl (fun _ => hlive) fun need ps hstage => ?_
          rw [moved, hmove] at hstage
          cases hstage
          rfl
        · refine drawn_set hlast hticket (calledOff_of_isLive (l := l) hlive) fun hover => ?_
          rw [moved, hmove] at hover
          cases hover
      · obtain ⟨hlast, hticket, hcharting⟩ := h.timely.live number l here hlive
        have hgeneration := h.generation_eq hcharting
        obtain ⟨shown', hbrings, hread⟩ :=
          Client.arrivalOf_brings h.owns h.fresh (short hgeneration)
        rw [hgeneration] at hbrings
        have hcharting' : Client.Charting { g.client with
            screen := (g.client.arrivalOf 0 o).screen, desk := (g.client.arrivalOf 0 o).desk } := by
          obtain ⟨hlistens, new, hnew, hwants⟩ := hcharting
          refine ⟨hlistens, new, hnew, ?_⟩
          rw [Screen.wantsChart, hbrings.settings_eq]
          exact hwants
        simp only [hclient]
        refine ⟨⟨shown', ⟨h.sound.orderly, h.sound.stacked⟩, h.aside, h.first, ?_, hbrings.fresh,
          hbrings.owns, ?_, fun bs hbs => ⟨hcharting', ?_⟩⟩, fun hgone => (hgone hgeneration).elim⟩
        · exact fun hne => (hne (hbrings.generation_eq.trans hgeneration)).elim
        · refine (h.timely.congr fun _ => hcharting').set here rfl (fun _ => hlive)
            fun need ps hstage => ?_
          rw [moved, hmove] at hstage
          cases hstage
        · refine drawn_set hlast hticket (calledOff_of_isLive (l := l) hlive) fun _ => ?_
          obtain ⟨v, rfl, hv⟩ := hread bs hbs
          exact ⟨v, hfetched, hv⟩
    · exact ⟨⟨shown, h⟩, .of_eq rfl rfl⟩
  · exact ⟨⟨shown, h⟩, .of_eq rfl rfl⟩

/-! ## Runs -/

/-- **Every event** leaves the files in order. Once the screen is dismissed, this holds of payloads
of any kind. -/
theorem step (h : g.Kept others shown) {e : Event}
    (short : g.client.screen.generation = 0 → e.isShort = true) :
    (∃ shown', (g.step e).Kept others shown') ∧ g.Deserts (g.step e) := by
  cases e with
  | client e =>
    by_cases plain : e.isPlain = true
    · simpa only [Gallery.step, plain, if_true] using h.client plain
    · simp only [Gallery.step, plain]
      exact ⟨⟨shown, h⟩, .of_eq rfl rfl⟩
  | load number o => exact h.load number short
  | directory present =>
    exact ⟨⟨shown, ⟨h.sound.orderly, h.sound.stacked⟩, h.aside, h.first, h.deaf, h.fresh,
      h.owns.congr rfl rfl, h.timely, h.drawn⟩, .of_eq rfl rfl⟩

theorem after (h : g.Kept others shown) {es : List Event} (short : ∀ e ∈ es, e.isShort = true) :
    ∃ shown', (g.after es).Kept others shown' := by
  induction es generalizing g shown with
  | nil => exact ⟨shown, h⟩
  | cons e es ih =>
    obtain ⟨shown', h'⟩ := (h.step fun _ => short e List.mem_cons_self).1
    exact ih h' fun e he => short e (List.mem_cons_of_mem _ he)

/-- A dismissed screen has no file, whatever happens, and makes none. -/
theorem after_dismissal (h : g.Kept others shown) (gone : g.client.screen.generation ≠ 0)
    (es : List Event) :
    (g.after es).client.screen.handle = none ∧ (g.after es).client.desk.files = others ∧
      (g.after es).client.desk.opened = g.client.desk.opened := by
  induction es generalizing g shown with
  | nil =>
    obtain rfl := h.shown_eq fun hc => h.deaf gone hc.1
    cases h.owns with
    | nothing handle files => exact ⟨handle, files, rfl⟩
  | cons e es ih =>
    obtain ⟨⟨shown', h'⟩, hdeserts⟩ := h.step (e := e) fun hzero => (gone hzero).elim
    obtain ⟨hgone, hopened⟩ := hdeserts gone
    obtain ⟨hhandle, hfiles, hopened'⟩ := ih h' hgone
    exact ⟨hhandle, hfiles, hopened'.trans hopened⟩

end Kept

theorem kept_start (settings : Settings) (signer : Option Signer) {desk : Desk} (nonce : Nat)
    (now : Moment) (fresh : desk.Fresh) :
    (start settings signer desk nonce now).Kept desk.files none where
  sound := Session.sound_start settings signer desk nonce now
  aside := by
    intro f hf
    cases hf
  first := by
    simp only [start, client, Session.start, Client.fresh]
    split <;> exact List.not_mem_nil
  deaf h := (h rfl).elim
  fresh := fresh
  owns := .nothing rfl rfl
  timely := .nil
  drawn := by
    intro bs hbs
    cases hbs

/-- What is kept of a session is that its chart files are in order. -/
theorem Kept.tidy (h : g.Kept others shown) : g.Tidy others where
  owns := ⟨shown, h.owns⟩
  held handle hhandle := by
    cases h.owns with
    | nothing hnone files =>
      rw [hnone] at hhandle
      cases hhandle
    | @chart _ bs hsome unreleased files apart =>
      obtain ⟨hcharting, -⟩ := h.drawn bs rfl
      obtain ⟨-, new, hnew, hwants⟩ := id hcharting
      rw [Screen.wantsChart, Bool.and_eq_true] at hwants
      refine ⟨?_, hwants.2, h.generation_eq hcharting⟩
      rw [Synchronizer.complete, hnew]
      exact hwants.1
  apart := h.timely.apart
  drawn handle hhandle hover := by
    cases h.owns with
    | nothing hnone files =>
      rw [hnone] at hhandle
      cases hhandle
    | @chart _ bs hsome unreleased files apart =>
      obtain rfl := Option.some.inj (hsome.symm.trans hhandle)
      obtain ⟨-, i, l, hl, -, hticket, -, hfetched⟩ := h.drawn bs rfl
      have hmem := List.mem_of_getElem? hl
      exact ⟨l, hmem, hticket, bs, hfetched (hover l hmem), files⟩
  deserted es := by
    obtain ⟨⟨shown', h'⟩, -⟩ := h.step (e := .client .dismiss) fun _ => rfl
    have hgone : (g.step (.client .dismiss)).client.screen.generation ≠ 0 := by
      show (g.client.screen.dismiss g.client.desk).1.generation ≠ 0
      rw [Screen.dismiss, Screen.release_screen]
      exact Nat.succ_ne_zero _
    obtain ⟨hhandle, hfiles, hopened⟩ := h'.after_dismissal hgone es
    exact ⟨hhandle, hfiles, hopened.trans (Screen.release_opened _ _)⟩

/-- **The chart files of a screen**: whatever flows begin, in whatever order they and the chart
loads go on, and whatever the gateway answers, there is the file of the chart that the screen holds
and no other. -/
theorem tidy_run (settings : Settings) (signer : Option Signer) (desk : Desk) (nonce : Nat)
    (now : Moment) (fresh : desk.Fresh) (es : List Event)
    (short : ∀ e ∈ es, e.isShort = true) :
    ((start settings signer desk nonce now).after es).Tidy desk.files :=
  have ⟨_, h⟩ := (kept_start settings signer nonce now fresh).after short
  h.tidy

/-- A client for which the ledger draws charts. -/
def charted : Gallery :=
  start { Settings.builtIn with onchainChart := true } none (.empty true) 0
    ⟨2026, 1, 5, 12, 0, 0, 0, none⟩

/-- Two refreshes read the same complete round. The chart load of the first is called off before its
first turn, and that of the second brings a chart. -/
def superseded : List Event :=
  [.client (.begin .refresh), .client (.resume 0 (.ok (.readings (.nat 3) []))),
    .client (.begin .load), .client (.resume 1 (.ok (.readings (.nat 3) []))),
    .load 0 (.ok .nothing), .load 1 (.ok .nothing),
    .load 1 (.ok (.answer (.chart (.text "0x8950"))))]

theorem tidy_superseded :
    (Desk.empty true).Fresh ∧ (∀ e ∈ superseded, e.isShort = true) ∧
      (charted.after superseded).client.screen.handle =
        some ⟨"/tmp/plunder/haul-chart-0.png", false⟩ ∧
      (charted.after superseded).Tidy [] := by
  have fresh : (Desk.empty true).Fresh := nofun
  have short : ∀ e ∈ superseded, e.isShort = true := by decide
  exact ⟨fresh, short, rfl, tidy_run _ none (.empty true) 0 _ fresh superseded short⟩

end Gallery
end Plunder
