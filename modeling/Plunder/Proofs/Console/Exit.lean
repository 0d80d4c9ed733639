import Plunder.Proofs.Client.Orchestration
import Plunder.Proofs.Console.Tidying

/-!
# The exit code of a command

A command that reports a haul or starts a new round tells by its exit code whether all has gone well:
the round was read, one transaction was submitted and confirmed, and the round was read again. It
submits no more than one, and none unless the round was read and whoever is named is outstanding. It
ends whatever the gateway answers, and when it has ended there is no chart file of its screen.

Main statements:
- `Going.step`: an event leaves a command as it should be, and never puts off its end
- `Going.advances`: while a command is not over, there is something that brings its end nearer
- `truthful_run`: the exit code of every run
-/

namespace Plunder.Console

/-! ## Definitions -/

namespace Stint

open ChartLoad

/-- How many steps a command may still take. A step of a flow counts for more than what a chart load
has to do that it may start. -/
def left (s : Stint) : Nat := 3 * rank s.flows + loadsLeft s.loads

/-- What holds of a command at any time, with the files of others beside those of its screen. -/
structure Truthful (unwritable : String → Option Fault) (q : Request)
    (others : List (String × Bytes)) (s : Stint) : Prop where
  /-- No more than one transaction is submitted. -/
  once : (s.asked.filter Need.isSubmission).length ≤ 1
  /-- It is for what was chosen from the round that was read first. -/
  chosen : ∀ call, .answer (.submit call) ∈ s.asked →
    ∃ o new kind participant amount, s.answers.head? = some o ∧ Reads o new ∧
      q.choice? new = some (kind, participant, amount) ∧ call.IsFor kind participant amount
  /-- None is submitted if the round could not be read at first. -/
  unread : ∀ o, s.answers.head? = some o → (∀ new, ¬Reads o new) →
    s.asked.filter Need.isSubmission = []
  /-- None is submitted if nobody of the given name is outstanding. -/
  stranger : ∀ o new amount participant name, s.answers.head? = some o → Reads o new →
    q.command = .report amount participant → some? participant = some name →
      new.isOutstanding name = false → s.asked.filter Need.isSubmission = []
  /-- The exit code is zero if all has gone well, and one otherwise. -/
  code : ∀ report, s.post = .ended report →
    report.outcome = .ok 0 ∧ Fulfilled s.asked s.answers ∨
      report.outcome = .ok 1 ∧ ¬Fulfilled s.asked s.answers
  /-- Once the command is over there is no chart file, whatever happens then. -/
  torn : ∀ report, s.post = .ended report → ∀ es,
    (s.after unwritable q es).client.screen.handle = none ∧
      (s.after unwritable q es).client.desk.files = others
  /-- Until then something brings the end nearer: it is due, or the gateway has to answer, in
  whatever way. -/
  advances : (∀ report, s.post ≠ .ended report) → ∀ o : Outcome, o.isCancelled = false →
    (s.step unwritable q .turn).left < s.left ∨ (s.step unwritable q (.reply o)).left < s.left ∨
      ∃ number, (s.step unwritable q (.load number o)).left < s.left
  /-- Nothing puts the end off. -/
  bounded : ∀ e, (s.step unwritable q e).left ≤ s.left

/-- A command that stands as it should, with its files in order. -/
structure Going (q : Request) (others : List (String × Bytes)) (s : Stint) : Prop where
  stands : Stands q s
  files : Kept others s ∨ Gone others s

end Stint

/-! ## What is asked of the gateway -/

/-- The call that an action submits is that of the action. -/
theorem isFor_of_mem {kind : ActionKind} {participant : String} {amount : Value} {stage : Stage}
    {asked : List Need} {answers : List Outcome} {result : TransactionResult} {call : SignedCall}
    (course : Course kind participant amount stage asked answers result)
    (hmem : .answer (.submit call) ∈ asked) : call.IsFor kind participant amount := by
  cases course with
  | failed failing _ _ => cases failing <;> simp_all
  | _ => simp_all

namespace Trail

variable {q : Request} {asked : List Need} {answers : List Outcome}

theorem submissions_le (h : Trail q asked answers) :
    (asked.filter Need.isSubmission).length ≤ 1 := by
  cases h with
  | acting _ _ course => exact course.submissions_le
  | _ => exact Nat.zero_le 1

/-- A call is submitted for what was chosen, once the round was read. -/
theorem chosen {call : SignedCall} (h : Trail q asked answers)
    (hmem : .answer (.submit call) ∈ asked) :
    ∃ o new kind participant amount, answers.head? = some o ∧ Reads o new ∧
      q.choice? new = some (kind, participant, amount) ∧ call.IsFor kind participant amount := by
  cases h with
  | acting reads chosen course =>
    rcases List.mem_cons.1 hmem with heq | hmem
    · cases heq
    · exact ⟨_, _, _, _, _, rfl, reads, chosen, isFor_of_mem course hmem⟩
  | _ => simp at hmem

/-- Where nothing can be chosen, nothing is submitted. -/
theorem submissions_eq_nil {o : Outcome} (h : Trail q asked answers)
    (first : answers.head? = some o) (nothing : ∀ new, Reads o new → q.choice? new = none) :
    asked.filter Need.isSubmission = [] := by
  refine List.filter_eq_nil_iff.2 fun need hmem hsubmits => ?_
  unfold Need.isSubmission at hsubmits
  split at hsubmits
  · next call =>
    obtain ⟨o', new, kind, participant, amount, hfirst, hreads, hchosen, -⟩ := h.chosen hmem
    obtain rfl := Option.some.inj (first.symm.trans hfirst)
    rw [nothing new hreads] at hchosen
    cases hchosen
  · cases hsubmits

end Trail

namespace Stint

open ChartLoad

variable {unwritable : String → Option Fault} {q : Request} {others : List (String × Bytes)}
  {s s' : Stint} {o : Outcome}

/-! ## How many steps are left -/

/-- A step of a flow brings the end nearer, even where it starts a chart load. -/
theorem Nears.left_lt (h : Nears q s s') (loads : loadsLeft s'.loads ≤ loadsLeft s.loads + 2) :
    s'.left < s.left := by
  have hrank := h.rank_lt
  unfold left
  omega

theorem loadsLeft_leave (s : Stint) (report : Report) :
    loadsLeft (s.leave report).loads = loadsLeft s.loads :=
  loadsLeft_callOff s.loads _

theorem loadsLeft_turn (h : Stands q s) :
    loadsLeft (s.turn unwritable q).loads ≤ loadsLeft s.loads + 2 := by
  rcases turn_cases unwritable h with heq | ⟨r, beneath, t, heq, shows⟩ | ⟨o, heq⟩
  · rw [heq]
    exact Nat.le_add_right _ _
  · rw [heq]
    exact loadsLeft_orders shows _ _
  · rw [heq]
    unfold onward
    split
    · split
      · exact Nat.le_add_right _ _
      · exact (loadsLeft_leave s _).trans_le (Nat.le_add_right _ _)
    · exact (loadsLeft_leave s _).trans_le (Nat.le_add_right _ _)
    · exact Nat.le_add_right _ _

theorem loadsLeft_reply (h : Stands q s) (o : Outcome) :
    loadsLeft (s.reply o).loads ≤ loadsLeft s.loads + 2 := by
  rcases reply_cases h o with heq | ⟨r, beneath, t, shows, heq⟩
  · rw [heq]
    exact Nat.le_add_right _ _
  · rw [heq]
    exact loadsLeft_orders shows _ _

/-- A chart load that takes a step has one less to take. -/
theorem left_draw_lt {number : Nat} {l : ChartLoad} {t : Turn}
    (waiting : ∀ need ps, l.stage = .waiting need ps → ps = [.chart 0])
    (here : s.loads[number]? = some l) (turn : loadTurn? s.client l o = some t) :
    (s.draw number o).left < s.left := by
  have hset : loadsLeft (s.loads.set number { l with stage := t.move.stage }) + pauses l = _ :=
    loadsLeft_set here
  have hpauses := pauses_lt waiting turn
  rw [draw_of_turn here turn]
  refine Nat.add_lt_add_left ?_ (3 * rank s.flows)
  show loadsLeft (s.loads.set number _) < loadsLeft s.loads
  omega

/-! ## Events -/

namespace Going

theorem start (settings : Settings) (signer : Option Signer) {desk : Desk} (nonce : Nat)
    (now : Moment) (opened : settings.ledgerOpen = true) (fresh : desk.Fresh) :
    Going q desk.files (start settings signer desk nonce now) where
  stands := by
    refine .due ⟨?_, ?_⟩ fun _ => rfl
    · simp [Stint.start, Client.fresh, Screen.blank, Screen.closed, opened]
    · simp [Stint.start, Client.fresh, opened, Synchronizer.addListener, Synchronizer.idle]
  files := .inl (.start settings signer nonce now fresh)

/-- Every chart load waits where it began. -/
theorem waiting (h : Going q others s) :
    ∀ l ∈ s.loads, ∀ need ps, l.stage = .waiting need ps → ps = [.chart 0] := by
  rcases h.files with hkept | hgone
  · exact hkept.ordered.waiting
  · exact hgone.waiting

variable (unwritable) in
/-- **What is due is done**, and the end is nearer, unless something has to be waited for. -/
theorem turn (h : Going q others s) (acts : q.acts = true) (copyless : some? q.chartOut = none) :
    Going q others (s.turn unwritable q) ∧
      (s.turn unwritable q = s ∧ s.Waits ∨ (s.turn unwritable q).left < s.left) := by
  rcases h.stands.turn unwritable acts copyless with ⟨heq, hwaits⟩ | hnears
  · rw [heq]
    exact ⟨h, .inl ⟨rfl, hwaits⟩⟩
  · refine ⟨⟨hnears.stands, ?_⟩, .inr (hnears.left_lt (loadsLeft_turn h.stands))⟩
    rcases h.files with hkept | hgone
    · exact hkept.turn h.stands
    · exact .inr (hgone.step .turn).1

/-- **The gateway answers**, and the end is nearer, if it was asked. -/
theorem reply (h : Going q others s) (o : Outcome) :
    Going q others (s.reply o) ∧ (s.reply o).left ≤ s.left ∧
      (s.IsAsking → o.isCancelled = false → (s.reply o).left < s.left) := by
  by_cases hasked : s.IsAsking ∧ o.isCancelled = false
  · have hnears := h.stands.reply hasked.1 hasked.2
    have hlt := hnears.left_lt (loadsLeft_reply h.stands o)
    refine ⟨⟨hnears.stands, ?_⟩, Nat.le_of_lt hlt, fun _ _ => hlt⟩
    rcases h.files with hkept | hgone
    · exact .inl (hkept.reply h.stands o)
    · -- Once the command is over there is no flow that could ask.
      obtain ⟨r, need, ps, beneath, hflows, -⟩ := hasked.1
      rw [hgone.flows_eq] at hflows
      cases hflows
  · have heq : s.reply o = s := by
      refine reply_eq_self fun hasking => ?_
      simpa using fun ho => hasked ⟨hasking, ho⟩
    rw [heq]
    exact ⟨h, Nat.le_refl _, fun hasking ho => (hasked ⟨hasking, ho⟩).elim⟩

/-- **A chart load** takes a step, or nothing happens. -/
theorem draw (h : Going q others s) (number : Nat) (o : Outcome) :
    Going q others (s.draw number o) ∧ (s.draw number o).left ≤ s.left := by
  have files : Kept others (s.draw number o) ∨ Gone others (s.draw number o) :=
    h.files.imp (·.draw number o) (·.draw number o)
  rcases draw_cases s number o with heq | ⟨l, t, here, turn⟩
  · rw [heq]
    exact ⟨h, Nat.le_refl _⟩
  · have hwaiting := h.waiting l (List.mem_of_getElem? here)
    refine ⟨⟨?_, files⟩, Nat.le_of_lt (left_draw_lt hwaiting here turn)⟩
    rw [draw_of_turn here turn]
    -- A load changes nothing but the screen and its files.
    show Phase q t.client s.post s.flows s.asked s.answers
    rcases loadTurn?_cases hwaiting turn with ⟨o', -, hclient | hclient⟩ | ⟨-, -, hclient, -⟩
    · rw [hclient]
      exact h.stands
    · rw [hclient]
      exact h.stands.congr rfl rfl (Client.arrivalOf_settings s.client 0 o)
    · rw [hclient]
      exact h.stands

/-- **Every event** leaves a command as it should be, and does not put off its end. -/
theorem step (h : Going q others s) (acts : q.acts = true) (copyless : some? q.chartOut = none)
    (e : Event) :
    Going q others (s.step unwritable q e) ∧ (s.step unwritable q e).left ≤ s.left := by
  cases e with
  | turn =>
    obtain ⟨hgoing, ⟨heq, -⟩ | hlt⟩ := h.turn unwritable acts copyless
    · exact ⟨hgoing, Nat.le_of_eq (congrArg left heq)⟩
    · exact ⟨hgoing, Nat.le_of_lt hlt⟩
  | reply o =>
    obtain ⟨hgoing, hle, -⟩ := h.reply o
    exact ⟨hgoing, hle⟩
  | load number o => exact h.draw number o
  | directory present =>
    refine ⟨⟨h.stands.congr rfl rfl rfl, ?_⟩, Nat.le_refl _⟩
    rcases h.files with hkept | hgone
    · exact .inl (hkept.directory present)
    · exact .inr (hgone.step (.directory present)).1

theorem after (h : Going q others s) (acts : q.acts = true) (copyless : some? q.chartOut = none)
    (es : List Event) : Going q others (s.after unwritable q es) := by
  induction es generalizing s with
  | nil => exact h
  | cons e es ih => exact ih (h.step acts copyless e).1

/-- **Until a command is over** something brings its end nearer. -/
theorem advances (h : Going q others s) (acts : q.acts = true)
    (copyless : some? q.chartOut = none) (under : ∀ report, s.post ≠ .ended report)
    (ho : o.isCancelled = false) :
    (s.step unwritable q .turn).left < s.left ∨ (s.step unwritable q (.reply o)).left < s.left ∨
      ∃ number, (s.step unwritable q (.load number o)).left < s.left := by
  obtain ⟨-, ⟨-, hwaits⟩ | hlt⟩ := h.turn unwritable acts copyless
  · right
    cases hwaits with
    | answer asking => exact .inl ((h.reply o).2.2 asking ho)
    | @load l last under' =>
      -- The load that the screen waits for can take a step, whatever comes to it.
      have here : s.loads[s.loads.length - 1]? = some l := by
        rw [← List.getLast?_eq_getElem?]
        exact last
      obtain ⟨t, turn⟩ := exists_loadTurn? s.client under' ho
      exact .inr ⟨_, left_draw_lt (h.waiting l (List.mem_of_getElem? here)) here turn⟩
    | ended post => exact (under _ post).elim
  · exact .inl hlt

/-- A command that is over tells by its exit code whether all has gone well. -/
theorem code (h : Going q others s) {report : Report} (post : s.post = .ended report) :
    report.outcome = .ok 0 ∧ Fulfilled s.asked s.answers ∨
      report.outcome = .ok 1 ∧ ¬Fulfilled s.asked s.answers := by
  obtain ⟨c, post', flows, loads, asked, answers⟩ := s
  obtain rfl : post' = .ended report := post
  cases h.stands with
  | ended _ code => exact code

/-- **What holds of a command that goes as it should.** -/
theorem truthful (h : Going q others s) (acts : q.acts = true)
    (copyless : some? q.chartOut = none) : Truthful unwritable q others s where
  once := h.stands.trail.submissions_le
  chosen _ hmem := h.stands.trail.chosen hmem
  unread o first fails :=
    h.stands.trail.submissions_eq_nil first fun new reads => (fails new reads).elim
  stranger o new amount participant name first reads command named missing := by
    refine h.stands.trail.submissions_eq_nil first fun new' reads' => ?_
    obtain rfl := Except.ok.inj (reads.symm.trans reads')
    simp [Request.choice?, command, named, missing]
  code _ post := h.code post
  torn report post es := by
    rcases h.files with hkept | hgone
    · exact (hkept.under report post).elim
    · exact ⟨(hgone.after es).handle_eq, (hgone.after es).files_eq⟩
  advances under o ho := h.advances acts copyless under ho
  bounded e := (h.step acts copyless e).2

end Going

/-- **The exit code of a command** that reports a haul or starts a new round, whatever the gateway
answers and whatever becomes of the chart loads. -/
theorem truthful_run (settings : Settings) (signer : Option Signer) (desk : Desk) (nonce : Nat)
    (now : Moment) (unwritable : String → Option Fault) (q : Request)
    (opened : settings.ledgerOpen = true) (fresh : desk.Fresh) (acts : q.acts = true)
    (copyless : some? q.chartOut = none) (es : List Event) :
    ((start settings signer desk nonce now).after unwritable q es).Truthful unwritable q
      desk.files :=
  ((Going.start settings signer nonce now opened fresh).after acts copyless es).truthful acts
    copyless

/-- A new round is to be started, and nobody is outstanding. -/
def sailing : Request := ⟨[], [], none, .sail⟩

/-- The round is read, and the action of the command is launched. -/
def launching : List Event :=
  [.turn, .reply (.ok (.readings (.nat 3) [])), .turn, .turn, .turn]

/-- The new round has begun, and is read. -/
def confirming : List Event :=
  [.reply (.ok (.answer (.handle ⟨"0x1", "advanceRound"⟩))),
    .reply (.ok (.answer (.receipt ⟨"0x1", .confirmed, some 1, ""⟩))),
    .reply (.ok (.readings (.nat 4) [⟨"A", "Anne"⟩])), .turn, .turn]

/-- A command of somebody with a credential. -/
def moored : Stint :=
  start .builtIn (some ⟨⟨"seed:ops"⟩, ""⟩) (.empty false) 0 ⟨2024, 1, 2, 3, 4, 5, 0, some 0⟩

/-- The call for the new round can be signed. -/
private theorem exists_signed_sailing : ∃ call,
    ((moored.after (fun _ => none) sailing launching).client.signed .advance "" .null).call =
      .ok call := by
  obtain ⟨signature, hcall⟩ := Signer.exists_advanceRound ⟨⟨"seed:ops"⟩, ""⟩
    (moored.after (fun _ => none) sailing launching).client.now
    (moored.after (fun _ => none) sailing launching).client.nonce
  exact ⟨_, hcall⟩

theorem truthful_sailing :
    Settings.builtIn.ledgerOpen = true ∧ (Desk.empty false).Fresh ∧ sailing.acts = true ∧
      some? sailing.chartOut = none ∧
        (moored.after (fun _ => none) sailing (launching ++ .turn :: confirming)).Truthful
          (fun _ => none) sailing [] ∧
          ∃ report,
            (moored.after (fun _ => none) sailing (launching ++ .turn :: confirming)).post =
              .ended report ∧ report.outcome = .ok 0 := by
  have fresh : (Desk.empty false).Fresh := nofun
  refine ⟨rfl, fresh, rfl, rfl,
    truthful_run .builtIn _ (.empty false) 0 _ _ sailing rfl fresh rfl rfl _, ?_⟩
  -- The signature is not computed: whatever the call is, the action submits it.
  obtain ⟨call, hcall⟩ := exists_signed_sailing
  have hafter : moored.after (fun _ => none) sailing (launching ++ .turn :: confirming) =
      ((moored.after (fun _ => none) sailing launching).carry (.action .advance "" .null)
        [(.setSail, .waiting (.action .advance "" .null) [.reporting .advance])]
        ((moored.after (fun _ => none) sailing launching).client.action .advance "" .null)).after
          (fun _ => none) sailing confirming := rfl
  rw [hafter, Client.action, hcall]
  exact ⟨_, rfl, rfl⟩

end Stint
end Plunder.Console
