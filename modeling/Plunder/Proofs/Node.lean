import Plunder.Node
import Plunder.Proofs.Ledger.Run
import Plunder.Proofs.Roster

/-!
# What a node does about its roster

A node serves the participants that its roster file lists, or says in the journal why the file
cannot be loaded and ends with an exit code of one. Two things it is not prepared for: a value that
no roster can be read from, and a roster on which an address stands twice. A fault then ends it
without a word.

Main statements:
- `ends_serve`: the ways in which a node ends
- `musters_serve`: which of them it is, whatever the file says
- `unreported`: files that end a node without a word
-/

namespace Plunder.Node

/-! ## Definitions -/

/-- The addresses of a roster, in order. -/
def addressesOf (ps : List Participant) : List String := ps.map (·.address)

/-- The ways in which a node ends that has understood its arguments and knows its operators. -/
inductive Ends (q : Request) (text : Option String) : Report → Prop where
  /-- A ledger is served until the node is told to stop. -/
  | served {notes : List Note} {l : Ledger} (holds : Roster.Holds text l.setup.roster)
      (nodup : (addressesOf l.setup.roster).Nodup) :
      Ends q text ⟨.ok 0, notes, some (l, q.host, q.tcpPort)⟩
  /-- The journal says what is wrong with the file. -/
  | reported {f : Fault} (flawed : Roster.Flawed q.roster text f) :
      Ends q text ⟨.ok 1, q.notes ++ [rosterNote q.roster f], none⟩
  /-- No roster can be read from the file. -/
  | astray {f : Fault} (astray : Roster.Astray text) (kind : f.kind = .type) :
      Ends q text ⟨.error f, q.notes, none⟩
  /-- An address stands twice on the roster. -/
  | repeated {ps : List Participant} (holds : Roster.Holds text ps)
      (repeated : ¬(addressesOf ps).Nodup) :
      Ends q text ⟨.error (.badValue "roster contains duplicate addresses"), q.notes, none⟩

/-- Whether a report is what a node makes of the text of its roster file. -/
structure Musters (q : Request) (text : Option String) (r : Report) : Prop where
  /-- A ledger that is served has the roster that the file lists, in its order; nobody on it is
  without an address, and no address stands on it twice. -/
  served : ∀ l host tcpPort, r.served = some (l, host, tcpPort) →
    Roster.Holds text l.setup.roster ∧ (∀ p ∈ l.setup.roster, p.address ≠ "") ∧
      (addressesOf l.setup.roster).Nodup ∧ host = q.host ∧ tcpPort = q.tcpPort ∧ r.outcome = .ok 0
  /-- Every such roster is served. -/
  serves : ∀ ps, Roster.Holds text ps → (addressesOf ps).Nodup →
    ∃ l, r.served = some (l, q.host, q.tcpPort) ∧ l.setup.roster = ps
  /-- The node ends with an exit code of one if the file is flawed, and only then. -/
  exit_iff : r.outcome = .ok 1 ↔ ∃ f, Roster.Flawed q.roster text f
  /-- The journal then says what is wrong with it, and nothing is served. -/
  reported : ∀ f, Roster.Flawed q.roster text f →
    r.notes = q.notes ++ [rosterNote q.roster f] ∧ r.served = none
  /-- A fault ends the node if no roster can be read from the file, or an address stands twice on
  the roster, and only then. -/
  escapes_iff : (∃ f, r.outcome = .error f) ↔
    Roster.Astray text ∨ ∃ ps, Roster.Holds text ps ∧ ¬(addressesOf ps).Nodup
  /-- The fault is one of kinds in the first case, and in the second the one about the addresses.
  The journal does not tell of it, and nothing is served. -/
  escaped : ∀ f, r.outcome = .error f →
    (Roster.Astray text → f.kind = .type) ∧
      (∀ ps, Roster.Holds text ps → f = .badValue "roster contains duplicate addresses") ∧
        r.notes = q.notes ∧ r.served = none

/-! ## One node -/

variable {q : Request} {env : Environment} {files : String → Option String}
  {render : List LootRecord → Except Fault Bytes} {now : Moment} {args operators : List String}
  {text : Option String} {ps : List Participant} {f : Fault} {r : Report} {l : Ledger}

/-- A node whose blocks take time ends orderly, with the ledger that it began with. -/
theorem run_idle {d : Duration} (timed : l.setup.blockTime = some d) (now : Moment) :
    (run q l now).outcome = .ok 0 ∧ (run q l now).served = some (l, q.host, q.tcpPort) := by
  -- Nobody calls, so that the node is a computation once it is clear that blocks take time.
  obtain ⟨⟨roster, operators, contract, blockTime, timeout, verify, render⟩, round, block, reported,
    totals, mempool, known, receipts⟩ := l
  cases timed
  constructor <;> rfl

theorem found_of_nodup (env : Environment) (render : List LootRecord → Except Fault Bytes)
    (operators : List String) (nodup : (addressesOf ps).Nodup) :
    ∃ l, found q env render operators ps = .ok l ∧ l.setup.roster = ps ∧
      l.setup.blockTime = some (.real q.blockTime) :=
  ⟨_, Ledger.found_eq_ok_iff.2 ⟨Ledger.distinct_eq_true_iff.2 nodup, rfl⟩, rfl, rfl⟩

/-- A report with the notes that were made before. -/
theorem serve_eq (understood : readArgs args = .ok q) (known : operatorsOf q env = .ok operators) :
    serve env files render now args =
      let r := load q env render now operators (Roster.read q.roster (files q.roster))
      { r with notes := q.notes ++ r.notes } := by
  simp only [serve, understood, known]

/-- **The ways in which a node ends.** -/
theorem ends_serve (files : String → Option String) (render : List LootRecord → Except Fault Bytes)
    (now : Moment) (understood : readArgs args = .ok q)
    (known : operatorsOf q env = .ok operators) :
    Ends q (files q.roster) (serve env files render now args) := by
  rw [serve_eq understood known]
  rcases Roster.file_cases q.roster (files q.roster) with ⟨ps, holds⟩ | ⟨f, flawed⟩ | astray
  · rw [Roster.read_of_holds q.roster holds]
    by_cases nodup : (addressesOf ps).Nodup
    · obtain ⟨l, hl, rfl, timed⟩ := found_of_nodup (q := q) env render operators nodup
      obtain ⟨houtcome, hserved⟩ := run_idle (q := q) timed now
      simp only [load, hl, houtcome, hserved]
      exact .served holds nodup
    · -- The fault comes from founding the ledger, after the file has been loaded.
      have hfound : found q env render operators ps = .error _ := Ledger.found_of_repeated nodup
      simp only [load, hfound, List.append_nil]
      exact .repeated holds nodup
  · rw [Roster.read_of_flawed flawed]
    simp only [load, Roster.isValue_of_flawed flawed, if_true]
    exact .reported flawed
  · obtain ⟨f, hf, kind⟩ := Roster.read_of_astray q.roster astray
    -- The node is prepared for faults of the system and of values; this one is of another class.
    have hother : (f.kind.isSystem || f.kind.isValue) = false := by
      rw [kind]
      rfl
    simp only [hf, load, hother, Bool.false_eq_true, if_false, List.append_nil]
    exact .astray astray kind

/-! ## Every file -/

namespace Ends

/-! What the file is decides which of the ways it is, since no file is two things at once. -/

/-- What is served is what the file lists. -/
theorem of_served {host : String} {tcpPort : Int} (h : Ends q text r)
    (served : r.served = some (l, host, tcpPort)) :
    Roster.Holds text l.setup.roster ∧ (addressesOf l.setup.roster).Nodup ∧ host = q.host ∧
      tcpPort = q.tcpPort ∧ r.outcome = .ok 0 := by
  cases h with
  | served holds nodup =>
    cases served
    exact ⟨holds, nodup, rfl, rfl, rfl⟩
  | _ => cases served

/-- What the file lists is served, unless an address stands on it twice. -/
theorem served_eq (h : Ends q text r) (holds : Roster.Holds text ps)
    (nodup : (addressesOf ps).Nodup) :
    ∃ l, r.served = some (l, q.host, q.tcpPort) ∧ l.setup.roster = ps := by
  cases h with
  | served holds' nodup' => exact ⟨_, rfl, holds'.unique holds⟩
  | reported flawed => exact (holds.not_flawed flawed).elim
  | astray astray kind => exact (holds.not_astray astray).elim
  | repeated holds' repeated =>
    obtain rfl := holds.unique holds'
    exact (repeated nodup).elim

theorem exit_iff (h : Ends q text r) :
    r.outcome = .ok 1 ↔ ∃ f, Roster.Flawed q.roster text f := by
  cases h with
  | served holds nodup => exact ⟨nofun, fun ⟨f, flawed⟩ => (holds.not_flawed flawed).elim⟩
  | reported flawed => exact ⟨fun _ => ⟨_, flawed⟩, fun _ => rfl⟩
  | astray astray kind => exact ⟨nofun, fun ⟨f, flawed⟩ => (flawed.not_astray astray).elim⟩
  | repeated holds repeated => exact ⟨nofun, fun ⟨f, flawed⟩ => (holds.not_flawed flawed).elim⟩

theorem escapes_iff (h : Ends q text r) :
    (∃ f, r.outcome = .error f) ↔
      Roster.Astray text ∨ ∃ ps, Roster.Holds text ps ∧ ¬(addressesOf ps).Nodup := by
  cases h with
  | served holds nodup =>
    refine ⟨nofun, ?_⟩
    rintro (astray | ⟨ps, holds', repeated⟩)
    · exact (holds.not_astray astray).elim
    · obtain rfl := holds.unique holds'
      exact (repeated nodup).elim
  | reported flawed =>
    refine ⟨nofun, ?_⟩
    rintro (astray | ⟨ps, holds, repeated⟩)
    · exact (flawed.not_astray astray).elim
    · exact (holds.not_flawed flawed).elim
  | astray astray kind => exact ⟨fun _ => .inl astray, fun _ => ⟨_, rfl⟩⟩
  | repeated holds repeated => exact ⟨fun _ => .inr ⟨_, holds, repeated⟩, fun _ => ⟨_, rfl⟩⟩

theorem of_flawed (h : Ends q text r) (flawed : Roster.Flawed q.roster text f) :
    r.notes = q.notes ++ [rosterNote q.roster f] ∧ r.served = none := by
  cases h with
  | served holds nodup => exact (holds.not_flawed flawed).elim
  | reported flawed' =>
    obtain rfl := flawed.unique flawed'
    exact ⟨rfl, rfl⟩
  | astray astray kind => exact (flawed.not_astray astray).elim
  | repeated holds repeated => exact (holds.not_flawed flawed).elim

theorem of_error (h : Ends q text r) (error : r.outcome = .error f) :
    (Roster.Astray text → f.kind = .type) ∧
      (∀ ps, Roster.Holds text ps → f = .badValue "roster contains duplicate addresses") ∧
        r.notes = q.notes ∧ r.served = none := by
  cases h with
  | served holds nodup => cases error
  | reported flawed => cases error
  | astray astray kind =>
    cases error
    exact ⟨fun _ => kind, fun _ holds => (holds.not_astray astray).elim, rfl, rfl⟩
  | repeated holds repeated =>
    cases error
    exact ⟨fun astray => (holds.not_astray astray).elim, fun _ _ => rfl, rfl, rfl⟩

end Ends

/-- **A bad roster is reported**, save one of another shape or with an address that stands on it
twice: a node that has understood its arguments serves what its file lists, or says what is wrong
with the file, or is ended by a fault of one of these two kinds. -/
theorem musters_serve (env : Environment) (files : String → Option String)
    (render : List LootRecord → Except Fault Bytes) (now : Moment) (args : List String)
    (q : Request) (operators : List String) (understood : readArgs args = .ok q)
    (known : operatorsOf q env = .ok operators) :
    Musters q (files q.roster) (serve env files render now args) := by
  have hends := ends_serve files render now understood known
  -- From here on the node counts only by the way in which it ended.
  generalize files q.roster = text, serve env files render now args = r at hends
  constructor
  case served =>
    intro l host tcpPort hserved
    obtain ⟨holds, hrest⟩ := hends.of_served hserved
    exact ⟨holds, Roster.address_ne_of_holds holds, hrest⟩
  case serves => exact fun ps holds nodup => hends.served_eq holds nodup
  case exit_iff => exact hends.exit_iff
  case reported => exact fun f flawed => hends.of_flawed flawed
  case escapes_iff => exact hends.escapes_iff
  case escaped => exact fun f error => hends.of_error error

/-- A file that lists one participant. -/
theorem musters_serve_one :
    let files : String → Option String :=
      fun _ => some "[\x7b\"address\":\"a\",\"name\":\"n\"\x7d]"
    ∃ q, q.roster = "crew.json" ∧ readArgs ["--roster", "crew.json"] = .ok q ∧
      operatorsOf q [] = .ok [] ∧
      Musters q (files q.roster)
        (serve [] files (fun _ => .ok []) ⟨2026, 1, 1, 0, 0, 0, 0, some 0⟩
          ["--roster", "crew.json"]) := by
  intro files
  have hargs : (readArgs ["--roster", "crew.json"]).toOption.map
      (fun q => (q.roster, q.operators)) = some ("crew.json", []) := by
    decide +kernel
  cases hq : readArgs ["--roster", "crew.json"] with
  | error refusal =>
    rw [hq] at hargs
    cases hargs
  | ok q =>
    rw [hq] at hargs
    obtain ⟨hroster, hoperators⟩ := Prod.mk.inj (Option.some.inj hargs)
    have hknown : operatorsOf q [] = .ok [] := by
      simp [operatorsOf, Environment.get?, hoperators]
    exact ⟨q, hroster, rfl, hknown, musters_serve [] files _ _ _ q [] hq hknown⟩

/-- Neither a number in place of the list nor an address that stands twice on it is told of: a fault
ends the node, which has served nothing. -/
theorem unreported :
    let report : String → Report := fun text =>
      serve [] (fun _ => some text) (fun _ => .ok []) ⟨2026, 1, 1, 0, 0, 0, 0, some 0⟩
        ["--roster", "crew.json"]
    let number := report "5"
    let twice := report
      "[\x7b\"address\":\"a\",\"name\":\"n\"\x7d,\x7b\"address\":\"a\",\"name\":\"m\"\x7d]"
    (number.outcome.toOption = none ∧ number.notes.isEmpty = true ∧ number.served.isNone = true) ∧
      twice.outcome.toOption = none ∧ twice.notes.isEmpty = true ∧ twice.served.isNone = true := by
  decide +kernel

end Plunder.Node
