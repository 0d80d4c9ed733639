import Plunder.Proofs.Client.Session
import Plunder.Proofs.Form
import Plunder.Proofs.Ledger.Onward
import Plunder.Proofs.Ledger.Submission

/-!
# A client that watches a ledger

A client refreshes its copy of the round while others act on the ledger. Each of the two readings of
a refresh is answered from the ledger as it was at some moment of the wait; the two moments may
differ. Time is counted in what has happened to the ledger.

Main statements:
- `application?_spec`: which moments a snapshot is made of
- `Sound.replaces`: a snapshot is read after the one that it replaces
- `forward_run`: the client never sees the ledger go backwards
-/

namespace Plunder

/-! ## Definitions -/

/-- The flow to which an event brings readings, if it brings any. -/
def Session.Event.reader? : Session.Event → Option Nat
  | .resume flow (.ok (.readings _ _)) => some flow
  | _ => none

/-- A client and the ledger that it watches, with everything that has happened to the ledger. -/
structure Watch where
  session : Session
  /-- The ledger as it was founded. -/
  origin : Ledger
  /-- What has happened to the ledger since. -/
  past : List Ledger.Event
  /-- The moment at which a ticket was drawn. -/
  begun : Nat → Nat

namespace Watch

/-- What happens to a client and its ledger. -/
inductive Event where
  /-- Anybody acts on the ledger. -/
  | ledger (e : Ledger.Event)
  /-- Something happens to the client, other than readings. -/
  | client (e : Session.Event)
  /-- The readings of a refresh come: the round as it was at one moment, and who was outstanding at
  another. -/
  | answer (flow first second : Nat)

/-- Whether the two moments of the readings, if an event brings any, are related in some way. -/
def Event.Relates (related : Nat → Nat → Prop) : Event → Prop
  | .answer _ first second => related first second
  | _ => True

/-- Before anything has happened. -/
def start (session : Session) (origin : Ledger) : Watch := ⟨session, origin, [], fun _ => 0⟩

/-- The present moment: how much has happened to the ledger. -/
def now (w : Watch) : Nat := w.past.length

/-- The ledger as it was at a moment. -/
def moment (w : Watch) (k : Nat) : Ledger := w.origin.run (w.past.take k)

/-- The two readings, from the ledger at two moments. -/
def readings (first second : Ledger) : Outcome :=
  match first.reading? .round, second.reading? .outstanding with
  | some (.ok (.round round)), some (.ok (.outstanding ps)) => .ok (.readings round ps)
  | _, _ => .error (.badKind "no readings")

/-- The round at one moment with those who were outstanding at another. -/
def pair (w : Watch) (first second : Nat) : RoundSnapshot :=
  ⟨(w.moment first).round.toNat, (w.moment second).outstanding⟩

/-- Whether a moment lies in the wait of a refresh. -/
def Within (w : Watch) (ticket k : Nat) : Prop := w.begun ticket ≤ k ∧ k ≤ w.now

instance (w : Watch) (ticket k : Nat) : Decidable (w.Within ticket k) :=
  inferInstanceAs (Decidable (_ ∧ _))

/-- What an event brings to the client. Readings come to a refresh out of moments of its wait, and
from nowhere else. -/
def news? (w : Watch) : Event → Option Session.Event
  | .ledger _ => none
  | .client e =>
    match e.reader? with
    | some flow => if (w.session.flows[flow]?.bind ticketOf).isSome then none else some e
    | none => some e
  | .answer flow first second =>
    match w.session.flows[flow]?.bind ticketOf with
    | some ticket =>
      if w.Within ticket first ∧ w.Within ticket second then
        some (.resume flow (readings (w.moment first) (w.moment second)))
      else none
    | none => none

/-- What happens to the ledger in an event. -/
def Event.ledger? : Event → Option Ledger.Event
  | .ledger e => some e
  | _ => none

/-- The client and its ledger after an event. A ticket that the client draws begins at the present
moment. -/
def step (w : Watch) (e : Event) : Watch :=
  let w := match w.news? e with
    | some e =>
      { w with
        session := w.session.step e
        begun := fun ticket => if ticket ≤ w.session.client.sync.issued then w.begun ticket
          else w.now }
    | none => w
  { w with past := w.past ++ e.ledger?.toList }

/-- The client and its ledger after several events. -/
def after (w : Watch) (es : List Event) : Watch := es.foldl step w

/-- The snapshot that an event puts in place, if it does, with the ticket of its refresh. -/
def application? (w : Watch) (e : Event) : Option (Nat × RoundSnapshot) :=
  (w.news? e).bind w.session.application?

/-- The snapshots that are put in place in the course of some events. -/
def snapshots : Watch → List Event → List RoundSnapshot
  | _, [] => []
  | w, e :: es => ((w.application? e).map Prod.snd).toList ++ (w.step e).snapshots es

/-- Whether a client that watches a ledger has only seen it move forward. -/
structure Forward (w : Watch) (es : List Event) : Prop where
  /-- The rounds of the snapshots never decrease. -/
  rounds : (w.snapshots es).Pairwise fun old new => old.round ≤ new.round
  /-- The client never warns of a round before the one that was known. -/
  unwarned : ∀ e ticket new, (w.after es).application? e = some (ticket, new) →
    (w.after es).session.client.sync.regressionNotes new = []
  /-- If both readings of every refresh are of one moment, nobody becomes outstanding again within
  a round. -/
  shrinking : (∀ e ∈ es, e.Relates Eq) → (w.snapshots es).Pairwise fun old new =>
    new.round = old.round → new.outstanding.Sublist old.outstanding

/-! ## Moments -/

variable {w : Watch}

theorem moment_onward (w : Watch) {i j : Nat} (h : i ≤ j) : (w.moment i).Onward (w.moment j) := by
  have hsplit : w.past.take j = w.past.take i ++ (w.past.drop i).take (j - i) := by
    rw [← List.take_add, Nat.add_sub_cancel' h]
  unfold moment
  rw [hsplit, Ledger.run_append]
  exact Ledger.Onward.run _ _

@[simp] theorem past_step (w : Watch) (e : Event) :
    (w.step e).past = w.past ++ e.ledger?.toList := by
  unfold step
  cases w.news? e <;> rfl

@[simp] theorem origin_step (w : Watch) (e : Event) : (w.step e).origin = w.origin := by
  unfold step
  cases w.news? e <;> rfl

theorem now_le_step (w : Watch) (e : Event) : w.now ≤ (w.step e).now := by
  simp [now]

/-- What was is not changed by what happens next. -/
theorem moment_step {k : Nat} (h : k ≤ w.now) (e : Event) : (w.step e).moment k = w.moment k := by
  rw [moment, past_step, origin_step, List.take_append_of_le_length h]
  rfl

theorem pair_step {i j : Nat} (hi : i ≤ w.now) (hj : j ≤ w.now) (e : Event) :
    (w.step e).pair i j = w.pair i j := by
  rw [pair, moment_step hi, moment_step hj]
  rfl

/-- Tickets are drawn at the present moment. -/
theorem begun_step (w : Watch) (e : Event) {t : Nat}
    (ht : t ≤ (w.step e).session.client.sync.issued) :
    (t ≤ w.session.client.sync.issued ∧ (w.step e).begun t = w.begun t) ∨
      (w.step e).begun t = w.now := by
  unfold Watch.step at ht ⊢
  cases hnews : w.news? e with
  | none =>
    rw [hnews] at ht
    exact .inl ⟨ht, rfl⟩
  | some e' =>
    by_cases hle : t ≤ w.session.client.sync.issued
    · exact .inl ⟨hle, if_pos hle⟩
    · exact .inr (if_neg hle)

/-- The readings of two moments make a snapshot, if rounds are not negative. -/
theorem snapshotOf_readings {first second : Ledger} (h : 0 ≤ first.round) :
    Synchronizer.snapshotOf (Client.readingsOf (readings first second)) =
      .ok ⟨first.round.toNat, second.outstanding⟩ := by
  have hround : Form.natural (.int first.round) = .ok first.round.toNat :=
    Form.natural_int_eq_ok_iff.2 (Int.toNat_of_nonneg h).symm
  have hsnapshot : RoundSnapshot.ofReadings (.int first.round) second.outstanding =
      .ok ⟨first.round.toNat, second.outstanding⟩ :=
    Form.finish_eq_ok_iff.2 (Form.Checked.map_eq_ok_iff.2
      ⟨_, Form.Checked.within_eq_ok_iff.2 hround, rfl⟩)
  show (RoundSnapshot.ofReadings (.int first.round) second.outstanding).mapError _ = _
  rw [hsnapshot]
  rfl

/-! ## What is put in place -/

/-- Readings that are not answers come to no refresh. -/
theorem of_news?_client {e e' : Session.Event} (h : w.news? (.client e) = some e') :
    e' = e ∧ ∀ flow ticket, e.reader? = some flow → ¬ w.session.Awaits flow ticket := by
  simp only [news?] at h
  cases hr : e.reader? with
  | none =>
    rw [hr] at h
    exact ⟨(Option.some.inj h).symm, nofun⟩
  | some flow =>
    simp only [hr] at h
    split at h
    · cases h
    · next hnone =>
      refine ⟨(Option.some.inj h).symm, ?_⟩
      rintro _ ticket ⟨⟩ hawaits
      apply hnone
      rw [show w.session.flows[flow]?.bind ticketOf = some ticket from hawaits]
      rfl

/-- Answers come to a refresh out of moments of its wait. -/
theorem of_news?_answer {flow i j : Nat} {e' : Session.Event}
    (h : w.news? (.answer flow i j) = some e') :
    ∃ ticket, w.session.Awaits flow ticket ∧ w.Within ticket i ∧ w.Within ticket j ∧
      e' = .resume flow (readings (w.moment i) (w.moment j)) := by
  simp only [news?] at h
  split at h
  · next ticket ht =>
    split at h
    · next hwithin => exact ⟨ticket, ht, hwithin.1, hwithin.2, (Option.some.inj h).symm⟩
    · cases h
  · cases h

/-- **Where a snapshot comes from**: the readings of the latest refresh, each out of a moment of its
wait. -/
theorem application?_spec {e : Event} {ticket : Nat} {new : RoundSnapshot}
    (h : w.application? e = some (ticket, new)) :
    ∃ flow i j, e = .answer flow i j ∧ w.session.Awaits flow ticket ∧ w.Within ticket i ∧
      w.Within ticket j ∧ ticket = w.session.client.sync.issued ∧
        (0 ≤ (w.moment i).round → new = w.pair i j) := by
  obtain ⟨e', hnews, happ⟩ := Option.bind_eq_some_iff.1 h
  obtain ⟨flow, o, rfl, hawaits, harrival⟩ := Session.application?_eq_some_iff.1 happ
  obtain ⟨-, hs, hlatest⟩ := Client.arrival?_eq_some_iff.1 harrival
  cases e with
  | ledger e => cases hnews
  | client e =>
    -- The readings would have come out of no moment of the wait.
    have hreader : (Session.Event.resume flow o).reader? = some flow := by
      cases o with
      | error f => cases hs
      | ok r =>
        cases r with
        | readings round ps => rfl
        | _ => cases hs
    obtain ⟨rfl, hnobody⟩ := of_news?_client hnews
    exact (hnobody flow ticket hreader hawaits).elim
  | answer flow' i j =>
    obtain ⟨ticket', hawaits', hi, hj, heq⟩ := of_news?_answer hnews
    cases heq
    obtain rfl : ticket' = ticket := Option.some.inj (hawaits'.symm.trans hawaits)
    refine ⟨flow, i, j, rfl, hawaits, hi, hj, hlatest, fun hround => ?_⟩
    rw [snapshotOf_readings hround] at hs
    exact (Except.ok.inj hs).symm

theorem relates_any (e : Event) : e.Relates fun _ _ => True := by
  cases e <;> exact trivial

/-- What holds at any time of a client that watches a ledger, where the two moments of the readings
of every refresh are related in some way. -/
structure Sound (related : Nat → Nat → Prop) (w : Watch) : Prop where
  session : w.session.Sound
  founded : ∃ s, w.origin = Ledger.fresh s
  begun_le : ∀ t ≤ w.session.client.sync.issued, w.begun t ≤ w.now
  /-- Every refresh later than the one that made the snapshot began after the moments that it is
  made of. -/
  source : ∀ old, w.session.client.sync.snapshot = some old →
    ∃ i j, related i j ∧ i ≤ w.now ∧ j ≤ w.now ∧ old = w.pair i j ∧
      ∀ t, w.session.client.sync.applied < t → t ≤ w.session.client.sync.issued →
        i ≤ w.begun t ∧ j ≤ w.begun t

namespace Sound

variable {related : Nat → Nat → Prop}

theorem round_nonneg (h : w.Sound related) (k : Nat) : 0 ≤ (w.moment k).round := by
  obtain ⟨s, hs⟩ := h.founded
  rw [moment, hs]
  exact (Ledger.round_le s _).1

/-- A client that has not done anything yet, and a ledger that has just been founded. -/
theorem fresh (settings : Settings) (signer : Option Signer) (desk : Desk) (nonce : Nat)
    (now : Moment) (setup : Ledger.Setup) :
    (start (.start settings signer desk nonce now) (.fresh setup)).Sound related where
  session := Session.sound_start settings signer desk nonce now
  founded := ⟨setup, rfl⟩
  begun_le _ _ := Nat.le_refl _
  source := by
    have hnone : (Session.start settings signer desk nonce now).client.sync.snapshot = none := by
      simp only [Session.start, Client.fresh]
      split <;> rfl
    intro old hold
    cases hnone.symm.trans hold

theorem session_step (h : w.Sound related) (e : Event) : (w.step e).session.Sound := by
  unfold Watch.step
  cases w.news? e with
  | none => exact h.session
  | some e' => exact h.session.step e'

/-- **What becomes of the snapshot**: it stays, or the latest refresh puts its own in place. -/
theorem step_cases (h : w.Sound related) (e : Event) :
    (w.application? e = none ∧
      (w.step e).session.client.sync.snapshot = w.session.client.sync.snapshot ∧
        (w.step e).session.client.sync.applied = w.session.client.sync.applied) ∨
    ∃ new, w.application? e = some (w.session.client.sync.issued, new) ∧
      (w.step e).session.client.sync.snapshot = some new ∧
        (w.step e).session.client.sync.applied = w.session.client.sync.issued ∧
          (w.step e).session.client.sync.issued = w.session.client.sync.issued ∧
            w.session.client.sync.applied < w.session.client.sync.issued := by
  unfold Watch.step application?
  cases w.news? e with
  | none => exact .inl ⟨rfl, rfl, rfl⟩
  | some e' =>
    rcases h.session.step_cases e' with ⟨hnone, hsnapshot, happlied, -⟩ |
      ⟨flow, o, new, rfl, hawaits, harrival, hsnapshot, happlied, hissued, hlt, -⟩
    · exact .inl ⟨hnone, hsnapshot, happlied⟩
    · exact .inr ⟨new, Session.application?_eq_some_iff.2 ⟨flow, o, rfl, hawaits, harrival⟩,
        hsnapshot, happlied, hissued, hlt⟩

/-- A snapshot that is put in place is made of two moments of the wait. -/
theorem moments (h : w.Sound related) {e : Event} (he : e.Relates related) {ticket : Nat}
    {new : RoundSnapshot} (happ : w.application? e = some (ticket, new)) :
    ∃ i j, related i j ∧ w.Within ticket i ∧ w.Within ticket j ∧ new = w.pair i j := by
  obtain ⟨flow, i, j, rfl, -, hi, hj, -, hnew⟩ := application?_spec happ
  exact ⟨i, j, he, hi, hj, hnew (h.round_nonneg i)⟩

/-- **One event** leaves everything as it should be. -/
theorem step (h : w.Sound related) {e : Event} (he : e.Relates related) :
    (w.step e).Sound related := by
  have hnow := now_le_step w e
  constructor
  case session => exact h.session_step e
  case founded =>
    obtain ⟨s, hs⟩ := h.founded
    exact ⟨s, (origin_step w e).trans hs⟩
  case begun_le =>
    intro t ht
    rcases begun_step w e ht with ⟨hle, hbegun⟩ | hbegun
    · rw [hbegun]
      exact Nat.le_trans (h.begun_le t hle) hnow
    · rw [hbegun]
      exact hnow
  case source =>
    intro old hold
    rcases h.step_cases e with ⟨-, hsnapshot, happlied⟩ |
      ⟨new, happ, hsnapshot, happlied, hissued, -⟩
    · rw [hsnapshot] at hold
      obtain ⟨i, j, hrel, hi, hj, hpair, hlater⟩ := h.source old hold
      refine ⟨i, j, hrel, Nat.le_trans hi hnow, Nat.le_trans hj hnow, ?_, fun t hlt ht => ?_⟩
      · rw [pair_step hi hj]
        exact hpair
      · rw [happlied] at hlt
        -- A ticket that is drawn now begins after both moments.
        rcases begun_step w e ht with ⟨hle, hbegun⟩ | hbegun
        · rw [hbegun]
          exact hlater t hlt hle
        · rw [hbegun]
          exact ⟨hi, hj⟩
    · obtain rfl : new = old := Option.some.inj (hsnapshot.symm.trans hold)
      obtain ⟨i, j, hrel, hi, hj, hpair⟩ := h.moments he happ
      refine ⟨i, j, hrel, Nat.le_trans hi.2 hnow, Nat.le_trans hj.2 hnow, ?_, fun t hlt ht => ?_⟩
      · rw [pair_step hi.2 hj.2]
        exact hpair
      · -- No ticket is later than that of this refresh.
        omega

theorem after (h : w.Sound related) {es : List Event} (hes : ∀ e ∈ es, e.Relates related) :
    (w.after es).Sound related := by
  induction es generalizing w with
  | nil => exact h
  | cons e es ih =>
    exact ih (h.step (hes e List.mem_cons_self)) fun e' he' => hes e' (List.mem_cons_of_mem _ he')

/-- A snapshot that is put in place is read after the one that it replaces. -/
theorem replaces (h : w.Sound related) {e : Event} (he : e.Relates related) {ticket : Nat}
    {old new : RoundSnapshot} (happ : w.application? e = some (ticket, new))
    (hold : w.session.client.sync.snapshot = some old) :
    ∃ i j i' j', related i j ∧ related i' j' ∧ i ≤ i' ∧ j ≤ j' ∧ old = w.pair i j ∧
      new = w.pair i' j' := by
  obtain ⟨i, j, hrel, -, -, hpair, hlater⟩ := h.source old hold
  obtain ⟨i', j', hrel', hi', hj', hpair'⟩ := h.moments he happ
  rcases h.step_cases e with ⟨hnone, -⟩ | ⟨new', happ', -, -, -, hlt⟩
  · rw [hnone] at happ
    cases happ
  · obtain ⟨rfl, rfl⟩ := Prod.mk.inj (Option.some.inj (happ'.symm.trans happ))
    obtain ⟨hi, hj⟩ := hlater _ hlt (Nat.le_refl _)
    exact ⟨i, j, i', j', hrel, hrel', Nat.le_trans hi hi'.1, Nat.le_trans hj hj'.1, hpair, hpair'⟩

/-- What holds between every snapshot and the one that replaces it holds along a whole run. -/
theorem snapshots_pairwise (follows : RoundSnapshot → RoundSnapshot → Prop)
    (trans : ∀ a b c, follows a b → follows b c → follows a c)
    (replaced : ∀ w e ticket old new, Sound related w → e.Relates related →
      w.application? e = some (ticket, new) → w.session.client.sync.snapshot = some old →
        follows old new)
    (h : w.Sound related) {es : List Event} (hes : ∀ e ∈ es, e.Relates related) :
    (∀ old, w.session.client.sync.snapshot = some old → ∀ new ∈ w.snapshots es, follows old new) ∧
      (w.snapshots es).Pairwise follows := by
  induction es generalizing w with
  | nil => exact ⟨fun _ _ => nofun, .nil⟩
  | cons e es ih =>
    have he := hes e List.mem_cons_self
    obtain ⟨hlater, hpairwise⟩ :=
      ih (h.step he) fun e' he' => hes e' (List.mem_cons_of_mem _ he')
    rcases h.step_cases e with ⟨hnone, hsnapshot, -⟩ | ⟨new, happ, hsnapshot, -⟩
    · rw [hsnapshot] at hlater
      rw [snapshots, hnone]
      exact ⟨hlater, hpairwise⟩
    · have hrest := hlater new hsnapshot
      rw [snapshots, happ]
      refine ⟨fun old hold a ha => ?_, List.pairwise_cons.2 ⟨hrest, hpairwise⟩⟩
      have hnew := replaced w e _ old new h he happ hold
      rcases List.mem_cons.1 ha with rfl | ha
      · exact hnew
      · exact trans _ _ _ hnew (hrest a ha)

end Sound

/-! ## Forward -/

/-- A later moment of the ledger has no smaller round. -/
theorem pair_round_le (w : Watch) {i i' : Nat} (h : i ≤ i') (j j' : Nat) :
    (w.pair i j).round ≤ (w.pair i' j').round :=
  Int.toNat_le_toNat (w.moment_onward h).round_le

/-- Within a round, nobody becomes outstanding again. -/
theorem pair_sublist (w : Watch) {i i' : Nat} (h : i ≤ i') (nonneg : 0 ≤ (w.moment i).round)
    (same : (w.pair i' i').round = (w.pair i i).round) :
    (w.pair i' i').outstanding.Sublist (w.pair i i).outstanding := by
  have honward := w.moment_onward h
  have hle := honward.round_le
  replace same : (w.moment i').round.toNat = (w.moment i).round.toNat := same
  apply honward.outstanding_sublist
  omega

/-- **A client never sees the ledger go backwards**, whatever refreshes it begins, however they
overlap with each other and with what anybody does to the ledger. -/
theorem forward_run (settings : Settings) (signer : Option Signer) (desk : Desk) (nonce : Nat)
    (now : Moment) (setup : Ledger.Setup) (es : List Event) :
    Forward (.start (.start settings signer desk nonce now) (.fresh setup)) es := by
  have start (related : Nat → Nat → Prop) : (Watch.start
      (.start settings signer desk nonce now) (.fresh setup)).Sound related :=
    .fresh settings signer desk nonce now setup
  generalize Watch.start (.start settings signer desk nonce now) (.fresh setup) = w at start
  -- For the rounds it does not matter whether the readings of a refresh are of one moment.
  have hany : ∀ e ∈ es, e.Relates fun _ _ => True := fun e _ => relates_any e
  have hround (w : Watch) (e : Event) (ticket : Nat) (old new : RoundSnapshot)
      (h : w.Sound fun _ _ => True) (he : e.Relates fun _ _ => True)
      (happ : w.application? e = some (ticket, new))
      (hold : w.session.client.sync.snapshot = some old) : old.round ≤ new.round := by
    obtain ⟨i, j, i', j', -, -, hi, -, rfl, rfl⟩ := h.replaces he happ hold
    exact pair_round_le w hi j j'
  constructor
  case rounds =>
    exact ((start _).snapshots_pairwise (fun old new => old.round ≤ new.round)
      (fun _ _ _ => Nat.le_trans) hround hany).2
  case unwarned =>
    intro e ticket new happ
    unfold Synchronizer.regressionNotes
    cases hold : (w.after es).session.client.sync.snapshot with
    | none => rfl
    | some old =>
      have hle := hround _ e ticket old new ((start _).after hany) (relates_any e) happ hold
      exact if_neg (Nat.not_lt.2 hle)
  case shrinking =>
    intro hsame
    -- Along a run, rounds have to be compared as well.
    have hpairwise := ((start _).snapshots_pairwise
      (fun old new => old.round ≤ new.round ∧
        (new.round = old.round → new.outstanding.Sublist old.outstanding)) ?_ ?_ hsame).2
    · exact hpairwise.imp fun h => h.2
    · rintro a b c ⟨hab, sab⟩ ⟨hbc, sbc⟩
      refine ⟨Nat.le_trans hab hbc, fun heq => ?_⟩
      exact (sbc (by omega)).trans (sab (by omega))
    · intro w e ticket old new h he happ hold
      obtain ⟨i, _, i', _, rfl, rfl, hi, -, rfl, rfl⟩ := h.replaces he happ hold
      exact ⟨pair_round_le w hi _ _, pair_sublist w hi (h.round_nonneg i)⟩

end Watch
end Plunder
