import Plunder.Ledger.Submission
import Plunder.Proofs.Ledger.Block

/-!
# Runs of the ledger

A run is any sequence of submissions and blocks, in any order and from any number of clients. What
happened in a run is told by its history: the transactions that were accepted, those that came to
their turns in a block, and those that were lost behind a transaction that disrupted the ledger.

Main statements:
- `History.run`: every run has a history, and loses nothing if no block ends early
- `History.filed`: the receipts are those of the applied transactions, in order, and every accepted
  transaction is applied, lost or waiting, under a hash of its own
-/

namespace Plunder.Ledger

/-! ## Definitions -/

/-- What happens to a ledger from outside. -/
inductive Event where
  /-- A signed call is submitted. -/
  | submit (s : SignedCall)
  /-- A block is made. -/
  | produce

/-- The ledger after an event. -/
def step (l : Ledger) : Event → Ledger
  | .submit s => (l.submit s).ledger
  | .produce => l.produceBlock.ledger

/-- The ledger after a sequence of events. -/
def run (l : Ledger) (es : List Event) : Ledger := es.foldl step l

/-- The transaction that an event brings, if it is accepted. -/
def admitted (l : Ledger) : Event → List Queued
  | .submit s =>
    match l.accept s with
    | .ok hash => [⟨hash, s⟩]
    | .error _ => []
  | .produce => []

/-- The transactions that are accepted in a run, in order of acceptance. -/
def accepted : Ledger → List Event → List Queued
  | _, [] => []
  | l, e :: es => l.admitted e ++ accepted (l.step e) es

/-- The fault that ends the block of an event early, if it makes one. -/
def stepFault (l : Ledger) : Event → Option Fault
  | .submit s =>
    match l.accept s, l.setup.blockTime with
    | .ok hash, none => (l.enqueue hash s).produceBlock.fault
    | _, _ => none
  | .produce => l.produceBlock.fault

/-- Whether no block of a run ends early: applying a transaction never fails with a fault. -/
def Calm : Ledger → List Event → Prop
  | _, [] => True
  | l, e :: es => l.stepFault e = none ∧ Calm (l.step e) es

/-- `History l₀ l acc ds lost`: on the way from `l₀` to `l` the transactions `acc` were accepted,
`ds` came to their turns, and `lost` were lost behind a transaction that disrupted the ledger. -/
inductive History (l₀ : Ledger) :
    Ledger → List Queued → List Applied → List Queued → Prop where
  | start : History l₀ l₀ [] [] []
  | enqueue {l : Ledger} {acc : List Queued} {ds : List Applied} {lost : List Queued}
      {s : SignedCall} {hash : String} (before : History l₀ l acc ds lost)
      (fits : l.accept s = .ok hash) :
      History l₀ (l.enqueue hash s) (acc ++ [⟨hash, s⟩]) ds lost
  | block {l l' : Ledger} {acc : List Queued} {ds ds' : List Applied} {lost lost' : List Queued}
      (before : History l₀ l acc ds lost) (taken : l.mempool = ds'.map Applied.tx ++ lost')
      (made : Batch l.opened ds' l') :
      History l₀ l' acc (ds ++ ds') (lost ++ lost')

/-! ## Founding -/

/-- The ledger as it is founded. -/
def fresh (s : Setup) : Ledger := ⟨s, 0, 0, [], s.addresses.map (·, 0), [], [], []⟩

theorem distinct_eq_true_iff {as : List String} : distinct as = true ↔ as.Nodup := by
  induction as with
  | nil => simp [distinct]
  | cons a as ih => simp [distinct, ih]

/-- A ledger is founded exactly on a roster of distinct addresses. -/
theorem found_eq_ok_iff {s : Setup} {l : Ledger} :
    found s = .ok l ↔ distinct s.addresses = true ∧ l = fresh s := by
  unfold found fresh
  by_cases h : distinct s.addresses = true <;> simp [h, eq_comm]

theorem found_of_repeated {s : Setup} (h : ¬s.addresses.Nodup) :
    found s = .error (.badValue "roster contains duplicate addresses") :=
  if_neg (mt distinct_eq_true_iff.1 h)

/-! ## Submissions -/

/-- A call that is not accepted leaves the ledger as it was, and the submitter is told why. -/
theorem submit_of_rejected {l : Ledger} {s : SignedCall} {f : Fault} (h : l.accept s = .error f) :
    (l.submit s).ledger = l ∧ (l.submit s).outcome = .error f := by
  simp [submit, h]

/-- Where blocks take time, an accepted call waits for the next one. -/
theorem submit_of_queued {l : Ledger} {s : SignedCall} {hash : String} {d : Duration}
    (h : l.accept s = .ok hash) (ht : l.setup.blockTime = some d) :
    (l.submit s).ledger = l.enqueue hash s ∧
      (l.submit s).outcome = .ok ⟨hash, s.call.method⟩ := by
  simp [submit, h, ht]

/-- Where blocks take no time, an accepted call gets one at once. -/
theorem submit_of_immediate {l : Ledger} {s : SignedCall} {hash : String}
    (h : l.accept s = .ok hash) (ht : l.setup.blockTime = none) :
    (l.submit s).ledger = (l.enqueue hash s).produceBlock.ledger := by
  simp [submit, h, ht]

/-- The last check on a call: its hash must not be known. -/
private theorem newHash_eq_ok_iff {l : Ledger} {s : SignedCall} {hash : String} :
    (do
      let h ← s.txHash
      if l.known.contains h then throw Rejection.replayed.fault
      return h) = Except.ok hash ↔ s.txHash = .ok hash ∧ hash ∉ l.known := by
  rcases s.txHash with f | h
  · simp [bind, Except.bind]
  · by_cases hk : h ∈ l.known
    · simp only [bind, Except.bind, List.contains_eq_mem, hk, decide_true, if_true, throw,
        throwThe, MonadExceptOf.throw, reduceCtorEq, Except.ok.injEq, false_iff, not_and]
      rintro rfl
      exact absurd hk
    · simp only [bind, Except.bind, List.contains_eq_mem, hk, decide_false, Bool.false_eq_true,
        if_false, pure, Except.pure, Except.ok.injEq, iff_self_and]
      rintro rfl
      exact hk

/-- **The checks on a call**, one after the other: its contract, its signature, and its hash. -/
theorem accept_eq_ok_iff {l : Ledger} {s : SignedCall} {hash : String} :
    l.accept s = .ok hash ↔
      l.isForeign s.call.contract = false ∧
        (l.setup.verifySignatures = true → s.verify = .ok true) ∧
          s.txHash = .ok hash ∧ hash ∉ l.known := by
  -- The last check stays folded up; the two before it are gone through one by one.
  rw [← newHash_eq_ok_iff]
  unfold accept
  cases hf : l.isForeign s.call.contract with
  | true => simp [bind, Except.bind, throw, throwThe, MonadExceptOf.throw]
  | false =>
    cases hv : l.setup.verifySignatures with
    | false => simp
    | true =>
      rcases hs : s.verify with f | b
      · simp [bind, Except.bind]
      · cases b with
        | false => simp [bind, Except.bind, throw, throwThe, MonadExceptOf.throw]
        | true => simp [bind, Except.bind, pure, Except.pure]

/-! ## Runs -/

@[simp] theorem run_nil (l : Ledger) : l.run [] = l := rfl

@[simp] theorem run_cons (l : Ledger) (e : Event) (es : List Event) :
    l.run (e :: es) = (l.step e).run es := rfl

theorem run_append (l : Ledger) (es fs : List Event) : l.run (es ++ fs) = (l.run es).run fs :=
  List.foldl_append

theorem accepted_append (l : Ledger) (es fs : List Event) :
    l.accepted (es ++ fs) = l.accepted es ++ (l.run es).accepted fs := by
  induction es generalizing l with
  | nil => rfl
  | cons e es ih => simp [accepted, ih]

theorem calm_append {l : Ledger} {es fs : List Event} :
    l.Calm (es ++ fs) ↔ l.Calm es ∧ (l.run es).Calm fs := by
  induction es generalizing l with
  | nil => simp [Calm]
  | cons e es ih => simp [Calm, ih, and_assoc]

@[simp] theorem enqueue_setup (l : Ledger) (hash : String) (s : SignedCall) :
    (l.enqueue hash s).setup = l.setup := rfl

@[simp] theorem enqueue_block (l : Ledger) (hash : String) (s : SignedCall) :
    (l.enqueue hash s).block = l.block := rfl

@[simp] theorem enqueue_mempool (l : Ledger) (hash : String) (s : SignedCall) :
    (l.enqueue hash s).mempool = l.mempool ++ [⟨hash, s⟩] := rfl

@[simp] theorem enqueue_known (l : Ledger) (hash : String) (s : SignedCall) :
    (l.enqueue hash s).known = l.known ++ [hash] := rfl

/-- **What an event does**: nothing, for a call that is not accepted; or it puts a transaction in
front of the next block, makes a block, or does the one and then the other. -/
theorem step_cases (l : Ledger) (e : Event) :
    (l.admitted e = [] ∧ l.step e = l ∧ l.stepFault e = none) ∨
    (∃ s hash, l.accept s = .ok hash ∧ l.admitted e = [⟨hash, s⟩] ∧
      l.step e = l.enqueue hash s ∧ l.stepFault e = none) ∨
    (l.admitted e = [] ∧ l.step e = l.produceBlock.ledger ∧
      l.stepFault e = l.produceBlock.fault) ∨
    (∃ s hash, l.accept s = .ok hash ∧ l.admitted e = [⟨hash, s⟩] ∧
      l.step e = (l.enqueue hash s).produceBlock.ledger ∧
        l.stepFault e = (l.enqueue hash s).produceBlock.fault) := by
  cases e with
  | produce => exact .inr (.inr (.inl ⟨rfl, rfl, rfl⟩))
  | submit s =>
    cases ha : l.accept s with
    | error f => exact .inl (by simp [admitted, step, stepFault, ha, submit_of_rejected ha])
    | ok hash =>
      cases ht : l.setup.blockTime with
      | some d =>
        refine .inr (.inl ⟨s, hash, ha, ?_⟩)
        simp [admitted, step, stepFault, ha, ht, submit_of_queued ha ht]
      | none =>
        refine .inr (.inr (.inr ⟨s, hash, ha, ?_⟩))
        simp [admitted, step, stepFault, ha, ht, submit_of_immediate ha ht]

/-- What accepting a transaction and making a block preserve, every event preserves. -/
theorem step_preserves {P : Ledger → Prop} {l : Ledger} (h : P l)
    (enqueue : ∀ l hash s, P l → P (l.enqueue hash s))
    (produce : ∀ l, P l → P l.produceBlock.ledger) (e : Event) : P (l.step e) := by
  rcases step_cases l e with ⟨-, hs, -⟩ | ⟨s, hash, -, -, hs, -⟩ | ⟨-, hs, -⟩ |
    ⟨s, hash, -, -, hs, -⟩
  · rw [hs]
    exact h
  · rw [hs]
    exact enqueue l hash s h
  · rw [hs]
    exact produce l h
  · rw [hs]
    exact produce _ (enqueue l hash s h)

/-- A block changes nothing that was fixed, and adds receipts behind those that were there. -/
theorem produceBlock_frame (l : Ledger) :
    l.produceBlock.ledger.setup = l.setup ∧ l.produceBlock.ledger.known = l.known ∧
      l.receipts <+: l.produceBlock.ledger.receipts ∧
        l.produceBlock.ledger.block = l.block + 1 := by
  obtain ⟨ds, lost, -, hb, -⟩ := produceBlock_spec l
  exact ⟨hb.setup_eq, hb.known_eq, ⟨ds.map Applied.entry, hb.receipts_eq.symm⟩, hb.block_eq⟩

/-- Nothing that happens changes what was fixed when the ledger was founded. -/
@[simp] theorem step_setup (l : Ledger) (e : Event) : (l.step e).setup = l.setup :=
  step_preserves (P := fun l' => l'.setup = l.setup) rfl (fun _ _ _ h => h)
    (fun l' h => (produceBlock_frame l').1.trans h) e

@[simp] theorem run_setup (l : Ledger) (es : List Event) : (l.run es).setup = l.setup := by
  induction es generalizing l with
  | nil => rfl
  | cons e es ih => rw [run_cons, ih, step_setup]

theorem known_prefix_step (l : Ledger) (e : Event) : l.known <+: (l.step e).known :=
  step_preserves (P := fun l' => l.known <+: l'.known) List.prefix_rfl
    (fun _ hash _ h => h.trans (List.prefix_append _ [hash]))
    (fun l' h => (produceBlock_frame l').2.1 ▸ h) e

theorem known_prefix_run (l : Ledger) (es : List Event) : l.known <+: (l.run es).known := by
  induction es generalizing l with
  | nil => exact List.prefix_rfl
  | cons e es ih => exact (known_prefix_step l e).trans (ih (l.step e))

theorem receipts_prefix_step (l : Ledger) (e : Event) : l.receipts <+: (l.step e).receipts :=
  step_preserves (P := fun l' => l.receipts <+: l'.receipts) List.prefix_rfl (fun _ _ _ h => h)
    (fun l' h => h.trans (produceBlock_frame l').2.2.1) e

theorem receipts_prefix_run (l : Ledger) (es : List Event) :
    l.receipts <+: (l.run es).receipts := by
  induction es generalizing l with
  | nil => exact List.prefix_rfl
  | cons e es ih => exact (receipts_prefix_step l e).trans (ih (l.step e))

theorem block_le_step (l : Ledger) (e : Event) : l.block ≤ (l.step e).block :=
  step_preserves (P := fun l' => l.block ≤ l'.block) (Nat.le_refl _) (fun _ _ _ h => h)
    (fun l' h => (produceBlock_frame l').2.2.2 ▸ Nat.le_succ_of_le h) e

theorem receipt?_isSome_iff {l : Ledger} {hash : String} :
    (l.receipt? hash).isSome = true ↔ hash ∈ l.receipts.map (·.1) := by
  simp [receipt?, List.find?_isSome]

/-- The transactions that a block makes final are those that have a receipt only afterwards. -/
theorem receipt?_produceBlock (l : Ledger) (hash : String) :
    (l.produceBlock.ledger.receipt? hash).isSome = true ↔
      (l.receipt? hash).isSome = true ∨ hash ∈ l.produceBlock.finals := by
  obtain ⟨ds, lost, -, hb, hf, -⟩ := produceBlock_spec l
  rw [receipt?_isSome_iff, receipt?_isSome_iff, hb.receipts_eq, hf, opened_receipts,
    List.map_append, List.mem_append, List.map_map]
  rfl

theorem receipt?_submit (l : Ledger) (s : SignedCall) (hash : String) :
    ((l.submit s).ledger.receipt? hash).isSome = true ↔
      (l.receipt? hash).isSome = true ∨ hash ∈ (l.submit s).finals := by
  cases ha : l.accept s with
  | error f => simp [submit, ha]
  | ok new =>
    cases ht : l.setup.blockTime with
    | some d => simp [submit, ha, ht, receipt?, enqueue]
    | none =>
      simp only [submit, ha, ht]
      exact receipt?_produceBlock (l.enqueue new s) hash

/-- What is found among receipts is still found when there are more. -/
theorem receipt?_of_prefix {l l' : Ledger} (h : l.receipts <+: l'.receipts) {hash : String}
    {r : TransactionReceipt} (hr : l.receipt? hash = some r) : l'.receipt? hash = some r := by
  obtain ⟨more, hmore⟩ := h
  obtain ⟨entry, he, rfl⟩ := Option.map_eq_some_iff.1 hr
  rw [receipt?, ← hmore, List.find?_append, he]
  rfl

/-! ## Histories -/

namespace History

variable {l₀ l : Ledger} {acc : List Queued} {ds : List Applied} {lost : List Queued}

/-- A block continues a history; what it loses is nothing if it comes to its end. -/
theorem produce (h : History l₀ l acc ds lost) :
    ∃ ds' lost', History l₀ l.produceBlock.ledger acc (ds ++ ds') (lost ++ lost') ∧
      (l.produceBlock.fault = none → lost' = []) := by
  obtain ⟨ds', lost', hm, hb, -, hn, -⟩ := produceBlock_spec l
  exact ⟨ds', lost', .block h hm hb, hn.1⟩

/-- An event continues a history; what it loses is nothing if its block comes to its end. -/
theorem event (h : History l₀ l acc ds lost) (e : Event) :
    ∃ ds' lost', History l₀ (l.step e) (acc ++ l.admitted e) (ds ++ ds') (lost ++ lost') ∧
      (l.stepFault e = none → lost' = []) := by
  rcases step_cases l e with ⟨ha, hs, -⟩ | ⟨s, hash, hacc, ha, hs, -⟩ | ⟨ha, hs, hf⟩ |
    ⟨s, hash, hacc, ha, hs, hf⟩
  · refine ⟨[], [], ?_, fun _ => rfl⟩
    rw [ha, hs]
    simpa using h
  · refine ⟨[], [], ?_, fun _ => rfl⟩
    rw [ha, hs]
    simpa using h.enqueue hacc
  · rw [ha, hs, hf]
    simpa using h.produce
  · rw [ha, hs, hf]
    exact (h.enqueue hacc).produce

/-- **A run continues a history**; what it loses is nothing if it is calm. -/
theorem run (h : History l₀ l acc ds lost) (es : List Event) :
    ∃ ds' lost', History l₀ (l.run es) (acc ++ l.accepted es) (ds ++ ds') (lost ++ lost') ∧
      (l.Calm es → lost' = []) := by
  induction es generalizing l acc ds lost with
  | nil =>
    refine ⟨[], [], ?_, fun _ => rfl⟩
    simpa [accepted] using h
  | cons e es ih =>
    obtain ⟨ds₁, lost₁, h₁, hc₁⟩ := h.event e
    obtain ⟨ds₂, lost₂, h₂, hc₂⟩ := ih h₁
    refine ⟨ds₁ ++ ds₂, lost₁ ++ lost₂, ?_, ?_⟩
    · simpa [accepted] using h₂
    · rintro ⟨he, hes⟩
      rw [hc₁ he, hc₂ hes, List.append_nil]

end History

/-- Every run has a history, and a calm run loses nothing. -/
theorem exists_history (l : Ledger) (es : List Event) :
    ∃ ds lost, History l (l.run es) (l.accepted es) ds lost ∧ (l.Calm es → lost = []) := by
  simpa using History.run .start es

/-! ## The books -/

/-- What the books of a ledger say of its history: the receipts of the applied transactions are
filed in order, and every accepted transaction is applied, lost or waiting, under its own hash. -/
structure Filed (l : Ledger) (acc : List Queued) (ds : List Applied) (lost : List Queued) :
    Prop where
  receipts_eq : l.receipts = ds.map Applied.entry
  known_eq : l.known = acc.map (·.txHash)
  nodup : l.known.Nodup
  perm : acc.Perm (ds.map Applied.tx ++ lost ++ l.mempool)
  in_order : lost = [] → acc = ds.map Applied.tx ++ l.mempool
  dated : ∀ d ∈ ds, d.block ≤ l.block

namespace History

variable {s : Setup} {l₀ l : Ledger} {acc : List Queued} {ds : List Applied} {lost : List Queued}

theorem setup_eq (h : History l₀ l acc ds lost) : l.setup = l₀.setup := by
  induction h with
  | start => rfl
  | enqueue _ _ ih => exact ih
  | block _ _ made ih => rw [made.setup_eq, opened_setup, ih]

/-- **The books of a ledger tell its history.** -/
theorem filed (h : History (fresh s) l acc ds lost) : Filed l acc ds lost := by
  induction h with
  | start => exact ⟨rfl, rfl, .nil, .nil, fun _ => rfl, by simp⟩
  | @enqueue l acc ds lost sc hash _ fits ih =>
    have hnew : hash ∉ l.known := (accept_eq_ok_iff.1 fits).2.2.2
    refine ⟨ih.receipts_eq, ?_, ?_, ?_, ?_, ih.dated⟩
    · simp [ih.known_eq]
    · -- A hash that is known is not accepted.
      exact List.nodup_append.2 ⟨ih.nodup, by simp, by
        rintro a ha _ (_ | ⟨_, ⟨⟩⟩) rfl
        exact hnew ha⟩
    · rw [enqueue_mempool, ← List.append_assoc]
      exact ih.perm.append_right _
    · intro hl
      rw [ih.in_order hl, enqueue_mempool, List.append_assoc]
  | @block l l' acc ds ds' lost lost' _ taken made ih =>
    have hp : l'.mempool = [] := made.mempool_eq
    refine ⟨?_, ?_, ?_, ?_, ?_, ?_⟩
    · rw [made.receipts_eq, opened_receipts, ih.receipts_eq, List.map_append]
    · rw [made.known_eq, opened_known, ih.known_eq]
    · rw [made.known_eq, opened_known]
      exact ih.nodup
    · -- What was waiting is now applied or lost.
      rw [hp, List.append_nil, List.map_append]
      refine ih.perm.trans ?_
      rw [taken, List.append_assoc, List.append_assoc]
      refine List.Perm.append_left _ ?_
      rw [← List.append_assoc, ← List.append_assoc]
      exact List.Perm.append_right _ List.perm_append_comm
    · intro hl
      obtain ⟨h₁, h₂⟩ := List.append_eq_nil_iff.1 hl
      rw [ih.in_order h₁, taken, h₂, hp]
      simp
    · intro d hd
      rw [made.block_eq, opened_block]
      rcases List.mem_append.1 hd with hd | hd
      · exact Nat.le_succ_of_le (ih.dated d hd)
      · exact Nat.le_of_eq (made.block_of_mem d hd)

end History

namespace Filed

variable {l : Ledger} {acc : List Queued} {ds : List Applied} {lost : List Queued}

/-- No two transactions that were applied, lost or left waiting have one hash. -/
theorem nodup_hashes (h : Filed l acc ds lost) :
    ((ds.map Applied.tx ++ lost ++ l.mempool).map (·.txHash)).Nodup := by
  rw [← (h.perm.map (·.txHash)).nodup_iff, ← h.known_eq]
  exact h.nodup

/-- A hash has a receipt only if its transaction has been applied. -/
theorem receipt?_eq_none_iff (h : Filed l acc ds lost) {hash : String} :
    l.receipt? hash = none ↔ ∀ d ∈ ds, d.tx.txHash ≠ hash := by
  simp [receipt?, h.receipts_eq, Applied.entry]

/-- An applied transaction has one receipt, which is its own. -/
theorem receipts_of_mem (h : Filed l acc ds lost) {d : Applied} (hd : d ∈ ds) :
    l.receipts.filter (·.1 == d.tx.txHash) = [d.entry] := by
  have hn : (ds.map fun d => d.tx.txHash).Nodup := by
    have := h.nodup_hashes
    simp only [List.map_append, List.append_assoc, List.map_map] at this
    exact (List.nodup_append.1 this).1
  rw [h.receipts_eq]
  -- The induction is on the applied transactions; the books are of no more use in it.
  clear h
  induction ds with
  | nil => cases hd
  | cons e ds ih =>
    rw [List.map_cons, List.nodup_cons] at hn
    obtain ⟨hne, hn⟩ := hn
    rcases List.mem_cons.1 hd with rfl | hd
    · have hrest : (ds.map Applied.entry).filter (·.1 == d.tx.txHash) = [] := by
        simp only [List.filter_eq_nil_iff, List.forall_mem_map, beq_iff_eq]
        exact fun e he heq => hne (List.mem_map.2 ⟨e, he, heq⟩)
      simp [Applied.entry, hrest]
    · have hde : e.tx.txHash ≠ d.tx.txHash := fun he =>
        hne (List.mem_map.2 ⟨d, hd, he.symm⟩)
      rw [List.map_cons, List.filter_cons_of_neg (by simpa [Applied.entry] using hde)]
      exact ih hd hn

theorem receipt?_of_mem (h : Filed l acc ds lost) {d : Applied} (hd : d ∈ ds) :
    l.receipt? d.tx.txHash = some d.receipt := by
  rw [receipt?, ← List.head?_filter, h.receipts_of_mem hd]
  rfl

/-- A transaction that was lost or still waits has no receipt. -/
theorem receipt?_of_unapplied (h : Filed l acc ds lost) {tx : Queued}
    (ht : tx ∈ lost ++ l.mempool) : l.receipt? tx.txHash = none := by
  rw [h.receipt?_eq_none_iff]
  intro d hd he
  -- Its hash would otherwise be that of an applied transaction.
  have hn := h.nodup_hashes
  rw [List.append_assoc, List.map_append, List.nodup_append] at hn
  exact hn.2.2 _ (List.mem_map.2 ⟨d.tx, List.mem_map.2 ⟨d, hd, rfl⟩, rfl⟩) _
    (List.mem_map.2 ⟨tx, ht, rfl⟩) he

theorem mem_accepted_iff (h : Filed l acc ds lost) {tx : Queued} :
    tx ∈ acc ↔ (∃ d ∈ ds, d.tx = tx) ∨ tx ∈ lost ∨ tx ∈ l.mempool := by
  rw [h.perm.mem_iff, List.append_assoc, List.mem_append, List.mem_append, List.mem_map]

end Filed
end Plunder.Ledger
