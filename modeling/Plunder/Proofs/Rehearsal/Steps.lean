import Plunder.Rehearsal.Script
import Plunder.Proofs.Ledger.Run
import Plunder.Proofs.Rehearsal.Upkeep
import Plunder.Proofs.Duration

/-!
# What a step of a rehearsal does

Clients ask the ledger, blocks are made, and time goes on, in any order. This is what each of the
frames that such tasks are made of can do when it has its turn, what happens to the ledger on the
way, and what happens to the other tasks.

Main statements:
- `move_of_plain`: what a frame can do
- `Move.ledger_eq`: what happens to the ledger on the way
-/

namespace Plunder

/-! ## Definitions -/

/-- Whether a frame belongs to the ledger, and not to a client or to the wire, and nothing is held
back. -/
def Frame.isPlain : Frame → Bool
  | .serve _ | .drawing | .finality _ | .probing .. | .overdue .. | .withdrawn | .heed _ | .heeded
  | .sleep _ | .produce => true
  | _ => false

/-- The task that a frame may call off. -/
def Frame.probe? : Frame → Option Nat
  | .probing _ probe => some probe
  | _ => none

/-- What happens to the ledger when a frame goes on. -/
def Frame.events (o : Outcome) : Frame → List Ledger.Event
  | .serve (.submit s) => if o.isOk then [.submit s] else []
  | .produce => if o.isOk then [.produce] else []
  | _ => []

namespace Rehearsal

/-- What can happen in a rehearsal from outside, and the two ways in which it goes on by itself. -/
inductive Act where
  /-- A client asks the ledger. -/
  | ask (c : GatewayCall)
  /-- A client rests. -/
  | rest (d : Duration)
  /-- A block is made. -/
  | produce
  /-- Blocks are made from now on. -/
  | startBlocks
  /-- What is due first is done. -/
  | tick
  /-- Time goes on to the next alarm. -/
  | elapse

/-- The rehearsal after an act. -/
def act (r : Rehearsal) : Act → Rehearsal
  | .ask c => (r.spawn [.serve c]).1
  | .rest d => (r.spawn [.sleep d]).1
  | .produce => r.produceBlock.1
  | .startBlocks => r.startBlocks
  | .tick => r.tick.getD r
  | .elapse =>
    match r.crew.elapse with
    | some crew => { r with crew }
    | none => r

/-- The rehearsal after several acts. -/
def after (r : Rehearsal) (as : List Act) : Rehearsal := as.foldl act r

/-- What happens to the ledger in an act. -/
def events (r : Rehearsal) : Act → List Ledger.Event
  | .produce => [.produce]
  | .tick =>
    match r.running with
    | some (_, f :: _, o) => f.events o
    | _ => []
  | _ => []

/-- What happens to the ledger in several acts. -/
def record : Rehearsal → List Act → List Ledger.Event
  | _, [] => []
  | r, a :: as => r.events a ++ record (r.act a) as

/-- Whether nothing is done to the answers of the ledger. -/
def Open (r : Rehearsal) : Prop := ∀ m, r.controls m = .none

/-- A task goes on, with the frames that lie below. -/
def proceed (r : Rehearsal) (t : Nat) (below : List Frame) : Next → Rehearsal
  | .go fs o => { r with running := some (t, fs ++ below, o) }
  | .block fs w => { r with crew := r.crew.block t (fs ++ below) w, running := none }
  | .again fs => { r with crew := r.crew.again t (fs ++ below), running := none }

/-- When a wait for a final transaction that begins now gives up; never if there is no such time. -/
def deadline? (r : Rehearsal) : Option Rat :=
  r.ledger.setup.finalityTimeout.length?.map (r.crew.now + ·)

/-- What a plain frame can do to a rehearsal when it goes on with an outcome, and how its task goes
on then. -/
inductive Move (r : Rehearsal) (o : Outcome) : Frame → Rehearsal → Next → Prop where
  /-- Nothing that matters. -/
  | quiet {f : Frame} {r' : Rehearsal} {fs : List Frame} {o' : Outcome}
      (still : f.events o = []) (ledger : r'.ledger = r.ledger) (crew : r'.crew = r.crew)
      (controls : r'.controls = r.controls)
      (plain : ∀ f ∈ fs, f.isPlain = true) (silent : ∀ f ∈ fs, f.probe? = none) :
      Move r o f r' (.go fs o')
  /-- Something happens to the ledger, and what becomes final is announced. -/
  | event {f : Frame} {r' : Rehearsal} {fs : List Frame} {o' : Outcome} {finals : List String}
      (e : Ledger.Event) (one : f.events o = [e]) (ledger : r'.ledger = r.ledger.step e)
      (finals_iff : ∀ x, (r'.ledger.receipt? x).isSome = true ↔
        (r.ledger.receipt? x).isSome = true ∨ x ∈ finals)
      (crew : r'.crew = finals.foldl (fun c x => c.raise (.final x)) r.crew)
      (controls : r'.controls = r.controls)
      (plain : ∀ f ∈ fs, f.isPlain = true) (silent : ∀ f ∈ fs, f.probe? = none) :
      Move r o f r' (.go fs o')
  /-- A probe is sent out, and its end is awaited until the deadline. -/
  | await (h : TransactionHandle) :
      Move r o (.finality h) (r.spawn [.heed (.final h.txHash)]).1
        (.block [.probing h r.crew.tasks.length] (.ending r.crew.tasks.length r.deadline?))
  /-- A probe that has not ended is called off, and its end is awaited. -/
  | callOff (h : TransactionHandle) (probe : Nat) (f : Frame)
      (frame : f = .overdue h probe ∨ f = .withdrawn) (out : r.crew.outcome? probe = none) :
      Move r o (.probing h probe) { r with crew := r.crew.cancel probe }
        (.block [f] (.ending probe none))
  /-- A probe waits for its signal. -/
  | listen (s : Signal) : Move r o (.heed s) r (.block [.heeded] (.signal s))
  /-- Some seconds pass, or the others have their turns. -/
  | rest (d : Duration) (lasts : d.isOver = false) :
      Move r o (.sleep d) r (.block [] (.alarm (d.length?.map (r.crew.now + ·))))
  | again (d : Duration) : Move r o (.sleep d) r (.again [])

/-! ## What a frame can do -/

section Move

variable {r : Rehearsal}

private theorem Move.leave (r : Rehearsal) {o : Outcome} {f : Frame} (h : f.events o = [])
    (o' : Outcome) : Move r o f r (.go [] o') :=
  .quiet h rfl rfl rfl (by simp) (by simp)

private theorem give_of_open (h : r.Open) (m : GatewayMethod) (o : Outcome) :
    r.give m o = (r, .go [] o) := by
  unfold give
  rw [h m]
  cases o <;> rfl

private theorem move_work (h : r.Open) (c : GatewayCall) (v : Reply) :
    Move r (.ok v) (.serve c) (r.work c).1 (r.work c).2 := by
  cases c with
  | round => simpa only [work, give_of_open h] using .leave r rfl _
  | outstanding => simpa only [work, give_of_open h] using .leave r rfl _
  | lootTotals => simpa only [work, give_of_open h] using .leave r rfl _
  | chart => exact .quiet rfl rfl rfl rfl (by simp [Frame.isPlain]) (by simp [Frame.probe?])
  | submit s =>
    have ho : (r.submit s).1.Open := h
    simp only [work, give_of_open ho]
    exact .event (.submit s) rfl rfl (Ledger.receipt?_submit r.ledger s) rfl rfl (by simp)
      (by simp)
  | finality t =>
    have hc := h .finality
    simp only [work, hc, Control.none]
    exact .quiet rfl rfl rfl rfl (by simp [Frame.isPlain]) (by simp [Frame.probe?])

/-- That a question is counted makes no difference to what is done about it. -/
private theorem move_serve (h : r.Open) (c : GatewayCall) (v : Reply) :
    Move r (.ok v) (.serve c) (r.serve c).1 (r.serve c).2 := by
  have hc := h c.method
  have hmove := move_work (r := { r with calls := r.calls ++ [c.method] }) h c v
  simp only [serve, hc, Control.none]
  revert hmove
  obtain ⟨r', n⟩ := work { r with calls := r.calls ++ [c.method] } c
  intro hmove
  cases hmove with
  | quiet still ledger crew controls plain silent =>
    exact .quiet still ledger crew controls plain silent
  | event e one ledger finals crew controls plain silent =>
    exact .event e one ledger finals crew controls plain silent

/-- **What a plain frame can do**, where nothing is held back and waits take time. -/
theorem move_of_plain (h : r.Open) (positive : r.ledger.setup.finalityTimeout.isOver = false)
    {f : Frame} (plain : f.isPlain = true) (o : Outcome) :
    Move r o f (r.resume o f).1 (r.resume o f).2 := by
  cases f with
  | serve c =>
    cases o with
    | error e => exact .leave r (by cases c <;> rfl) _
    | ok v => exact move_serve h c v
  | drawing =>
    simp only [resume, draw]
    split
    · rw [give_of_open h]
      exact .leave r rfl _
    · exact .leave r rfl _
    · exact .leave r rfl _
  | finality t =>
    cases o with
    | error e => exact .leave r rfl _
    | ok v =>
      simp only [resume, whenBegun, awaitFinality]
      -- An unknown transaction is refused, and for a known one a probe is sent out.
      split
      · exact .leave r rfl _
      · have hp : (r.spawn [.heed (.final t.txHash)]).1.ledger.setup.finalityTimeout.isOver =
            false := positive
        simp only [hp, Bool.false_eq_true, if_false]
        exact .await t
  | probing t probe =>
    simp only [resume, afterProbe]
    split
    · exact .leave r rfl _
    · exact .leave r rfl _
    · next hout =>
      refine .callOff t probe _ ?_ hout
      split
      · exact .inr rfl
      · exact .inl rfl
  | overdue t probe =>
    simp only [resume, afterDeadline]
    split
    · exact .leave r rfl _
    · split <;> exact .leave r rfl _
  | withdrawn => exact .leave r rfl _
  | heed s =>
    cases o with
    | error e => exact .leave r rfl _
    | ok v =>
      simp only [resume, whenBegun, heed]
      split
      · exact .leave r rfl _
      · exact .listen s
  | heeded => exact .leave r rfl _
  | sleep d =>
    cases o with
    | error e => exact .leave r rfl _
    | ok v =>
      simp only [resume, whenBegun, sleep]
      split
      · exact .again d
      · next hd => exact .rest d (by simpa using hd)
  | produce =>
    cases o with
    | error e => exact .leave r rfl _
    | ok v =>
      -- A block is made in any case; what comes of it only decides whether the task goes on.
      have hm : ∀ r', r.produceBlock.1 = r' → ∀ fs o', (∀ f ∈ fs, f.isPlain = true) →
          (∀ f ∈ fs, f.probe? = none) → Move r (.ok v) .produce r' (.go fs o') := by
        rintro _ rfl fs o' hfs hms
        exact .event .produce rfl rfl (Ledger.receipt?_produceBlock r.ledger) rfl rfl hfs hms
      simp only [resume, Rehearsal.produce]
      split
      · next r' e ht => exact hm r' (congrArg (·.1) ht) _ _ (by simp) (by simp)
      · next r' d ht _ =>
        exact hm r' (congrArg (·.1) ht) _ _ (by simp [Frame.isPlain]) (by simp [Frame.probe?])
      · next r' ht _ => exact hm r' (congrArg (·.1) ht) _ _ (by simp) (by simp)
  | _ => cases plain

/-- The turn of a task is that of its first frame. -/
theorem advance_cons (r : Rehearsal) (t : Nat) (f : Frame) (fs : List Frame) (o : Outcome) :
    r.advance t (f :: fs) o = (r.resume o f).1.proceed t fs (r.resume o f).2 := by
  simp only [advance]
  cases (r.resume o f).2 <;> rfl

@[simp] theorem proceed_ledger (r : Rehearsal) (t : Nat) (below : List Frame) (n : Next) :
    (r.proceed t below n).ledger = r.ledger := by
  cases n <;> rfl

/-- What happens to the ledger when a plain frame goes on. -/
theorem Move.ledger_eq {o : Outcome} {f : Frame} {r' : Rehearsal} {n : Next}
    (h : Move r o f r' n) : r'.ledger = r.ledger.run (f.events o) := by
  cases h with
  | quiet still ledger => rw [still, ledger, Ledger.run_nil]
  | event e one ledger => rw [one, ledger, Ledger.run_cons, Ledger.run_nil]
  | await h => rfl
  | callOff h probe f frame out => rfl
  | listen s => rfl
  | rest d lasts => rfl
  | again d => rfl

end Move
end Rehearsal
end Plunder
