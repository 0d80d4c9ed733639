import Plunder.Proofs.Except
import Plunder.Proofs.Form
import Plunder.Proofs.Value.Reading
import Plunder.Roster

/-!
# What a roster file tells

A roster file lists participants: its text is a JSON list of objects, each with an address that is
not empty and a name. Where it does not, the first entry that names nobody decides what comes of it.
One that is an object is a refused record; anything else, like a value without entries, is a fault
of kinds.

Main statements:
- `file_cases`: a file lists participants, or is flawed, or no roster can be read from it
- `read_of_holds`, `read_of_flawed`, `read_of_astray`: what reading it comes to in each case
-/

namespace Plunder.Roster

/-! ## Definitions -/

/-- Whether an entry names a participant. -/
inductive Names : Value → Participant → Prop where
  | entry {fs : Fields} {p : Participant} (address : fs.get? "address" = some (.text p.address))
      (nonempty : p.address ≠ "") (name : fs.get? "name" = some (.text p.name)) :
      Names (.object fs) p

/-- Whether a value lists participants, in order. -/
inductive Lists : Value → List Participant → Prop where
  | list {vs : List Value} {ps : List Participant} (names : List.Forall₂ Names vs ps) :
      Lists (.list vs) ps
  /-- An object without fields counts as an empty list. -/
  | object : Lists (.object []) []
  /-- So does an empty text. -/
  | text : Lists (.text "") []

/-- Whether an entry is the first in a list to name nobody. -/
structure FirstUnnamed (vs : List Value) (v : Value) : Prop where
  split : ∃ before rest, vs = before ++ v :: rest ∧ ∀ w ∈ before, ∃ p, Names w p
  unnamed : ∀ p, ¬Names v p

/-- Whether a value is nothing that a roster can be read from: it has no entries, or the first of
them that names nobody is no object. -/
inductive Odd : Value → Prop where
  | null : Odd .null
  | bool (b : Bool) : Odd (.bool b)
  | int (n : Int) : Odd (.int n)
  | float (x : Binary64) : Odd (.float x)
  /-- The entries of an object are the names of its fields. -/
  | object {fs : Fields} (entries : fs ≠ []) : Odd (.object fs)
  /-- The entries of a text are its characters. -/
  | text {s : String} (entries : s ≠ "") : Odd (.text s)
  | list {vs : List Value} {v : Value} (first : FirstUnnamed vs v) (shape : v.object? = none) :
      Odd (.list vs)

/-- The value that the text of a file stands for. -/
def valueOf (text : String) : Except Json.ReadFault Value :=
  Json.read (String.ofList (unifyLines text.toList))

/-- Whether a file lists participants, in order. -/
def Holds (text : Option String) (ps : List Participant) : Prop :=
  ∃ s v, text = some s ∧ valueOf s = .ok v ∧ Lists v ps

/-- Whether the text of a file stands for a value that no roster can be read from. -/
def Astray (text : Option String) : Prop := ∃ s v, text = some s ∧ valueOf s = .ok v ∧ Odd v

/-- What is wrong with a file that is not there, has no JSON, or has a record that is refused. -/
inductive Flawed (path : String) : Option String → Fault → Prop where
  | missing : Flawed path none (.noFile path)
  | malformed {s : String} {f : Json.ReadFault} (read : valueOf s = .error f) :
      Flawed path (some s) (.json f)
  | refused {s : String} {vs : List Value} {fs : Fields} {i : Form.Invalid}
      (read : valueOf s = .ok (.list vs)) (first : FirstUnnamed vs (.object fs))
      (check : Participant.check fs = .error i) : Flawed path (some s) (.invalid i)

/-! ## Entries -/

variable {path : String} {text : Option String} {v : Value} {vs : List Value} {p : Participant}
  {ps : List Participant} {f : Fault}

theorem entry_eq_ok_iff (json : v.isJson = true) : entry v = .ok p ↔ Names v p := by
  cases v with
  | object fs =>
    rw [entry, Except.mapError_eq_ok_iff, Participant.check_eq_ok_iff json]
    constructor
    · exact fun ⟨address, nonempty, name⟩ => .entry address nonempty name
    · rintro ⟨address, nonempty, name⟩
      exact ⟨address, nonempty, name⟩
  | _ => exact ⟨nofun, nofun⟩

/-- An entry that is no object is not even checked. -/
theorem entry_of_shape (shape : v.object? = none) : ∃ f, entry v = .error f ∧ f.kind = .type := by
  cases v with
  | object fs => cases shape
  | _ => exact ⟨_, rfl, rfl⟩

theorem entries_eq_ok_iff (json : ∀ v ∈ vs, v.isJson = true) :
    vs.mapM entry = .ok ps ↔ List.Forall₂ Names vs ps := by
  rw [Except.mapM_eq_ok_iff]
  constructor
  · intro h
    refine ((List.forall₂_and_left vs ps).2 ⟨json, h⟩).imp ?_
    exact fun v p hvp => (entry_eq_ok_iff hvp.1).1 hvp.2
  · intro h
    refine ((List.forall₂_and_left vs ps).2 ⟨json, h⟩).imp ?_
    exact fun v p hvp => (entry_eq_ok_iff hvp.1).2 hvp.2

/-- The first entry that names nobody decides. -/
theorem entries_eq_error_iff (json : ∀ v ∈ vs, v.isJson = true) :
    vs.mapM entry = .error f ↔ ∃ v, FirstUnnamed vs v ∧ entry v = .error f := by
  rw [Except.mapM_eq_error_iff]
  constructor
  · rintro ⟨before, v, rest, rfl, hbefore, hv⟩
    have hnamed : ∀ w ∈ before, ∃ p, Names w p := by
      intro w hw
      obtain ⟨p, hp⟩ := hbefore w hw
      exact ⟨p, (entry_eq_ok_iff (json w (List.mem_append_left _ hw))).1 hp⟩
    have hjson := json v (List.mem_append_right _ List.mem_cons_self)
    refine ⟨v, ⟨⟨before, rest, rfl, hnamed⟩, fun p hp => ?_⟩, hv⟩
    rw [(entry_eq_ok_iff hjson).2 hp] at hv
    cases hv
  · rintro ⟨v, ⟨⟨before, rest, rfl, hnamed⟩, -⟩, hv⟩
    refine ⟨before, v, rest, rfl, fun w hw => ?_, hv⟩
    obtain ⟨p, hp⟩ := hnamed w hw
    exact ⟨p, (entry_eq_ok_iff (json w (List.mem_append_left _ hw))).2 hp⟩

/-- Where no entry is an object, already the first one is a fault. -/
private theorem entries_of_shapes (nonempty : vs ≠ []) (shapes : ∀ v ∈ vs, v.object? = none) :
    ∃ f, vs.mapM entry = .error f ∧ f.kind = .type := by
  obtain ⟨v, vs, rfl⟩ := List.exists_cons_of_ne_nil nonempty
  obtain ⟨f, hf, hkind⟩ := entry_of_shape (shapes v List.mem_cons_self)
  exact ⟨f, Except.mapM_eq_error_iff.2 ⟨[], v, vs, rfl, nofun, hf⟩, hkind⟩

/-! ## Values -/

/-- The roster that is read out of a value. -/
def ofValue (v : Value) : Except Fault (List Participant) := itemsOf v >>= (·.mapM entry)

theorem read_eq (path s : String) :
    read path (some s) = ((valueOf s).mapError Fault.json >>= ofValue) :=
  rfl

theorem ofValue_of_lists (json : v.isJson = true) (lists : Lists v ps) : ofValue v = .ok ps := by
  cases lists with
  | list names => exact (entries_eq_ok_iff (Value.areJson_iff.1 json)).2 names
  | object => rfl
  | text => rfl

theorem ofValue_of_refused {fs : Fields} {i : Form.Invalid} (json : (Value.list vs).isJson = true)
    (first : FirstUnnamed vs (.object fs)) (check : Participant.check fs = .error i) :
    ofValue (.list vs) = .error (.invalid i) := by
  refine (entries_eq_error_iff (Value.areJson_iff.1 json)).2 ⟨_, first, ?_⟩
  rw [entry, check, Except.mapError]

theorem ofValue_of_odd (json : v.isJson = true) (odd : Odd v) :
    ∃ f, ofValue v = .error f ∧ f.kind = .type := by
  cases odd with
  | object entries =>
    refine entries_of_shapes (by simpa using entries) fun w hw => ?_
    obtain ⟨f, -, rfl⟩ := List.mem_map.1 hw
    rfl
  | text entries =>
    refine entries_of_shapes (by simpa using entries) fun w hw => ?_
    obtain ⟨c, -, rfl⟩ := List.mem_map.1 hw
    rfl
  | list first shape =>
    obtain ⟨f, hf, hkind⟩ := entry_of_shape shape
    exact ⟨f, (entries_eq_error_iff (Value.areJson_iff.1 json)).2 ⟨_, first, hf⟩, hkind⟩
  | _ => exact ⟨_, rfl, rfl⟩

/-- A value lists participants, or has an entry that is refused, or is one that no roster can be
read from. -/
theorem value_cases (json : v.isJson = true) :
    (∃ ps, Lists v ps) ∨
      (∃ vs fs i, v = .list vs ∧ FirstUnnamed vs (.object fs) ∧
        Participant.check fs = .error i) ∨ Odd v := by
  cases v with
  | null => exact .inr (.inr .null)
  | bool b => exact .inr (.inr (.bool b))
  | int n => exact .inr (.inr (.int n))
  | float x => exact .inr (.inr (.float x))
  | octets kind bs => cases json
  | tuple vs => cases json
  | object fs =>
    by_cases h : fs = []
    · exact .inl ⟨[], h ▸ .object⟩
    · exact .inr (.inr (.object h))
  | text s =>
    by_cases h : s = ""
    · exact .inl ⟨[], h ▸ .text⟩
    · exact .inr (.inr (.text h))
  | list vs =>
    have hjson := Value.areJson_iff.1 json
    cases hread : vs.mapM entry with
    | ok ps => exact .inl ⟨ps, .list ((entries_eq_ok_iff hjson).1 hread)⟩
    | error f =>
      obtain ⟨w, first, hw⟩ := (entries_eq_error_iff hjson).1 hread
      cases hshape : w.object? with
      | none => exact .inr (.inr (.list first hshape))
      | some fs =>
        obtain rfl : w = .object fs := by
          cases w <;> cases hshape
          rfl
        obtain ⟨i, hi, -⟩ := Except.mapError_eq_error_iff.1 hw
        exact .inr (.inl ⟨vs, fs, i, rfl, first, hi⟩)

/-! ## Files -/

theorem isJson_of_valueOf {s : String} (h : valueOf s = .ok v) : v.isJson = true :=
  (Json.readable_of_read h).json

theorem read_of_holds (path : String) (h : Holds text ps) : read path text = .ok ps := by
  obtain ⟨s, v, rfl, hv, lists⟩ := h
  rw [read_eq, hv]
  exact ofValue_of_lists (isJson_of_valueOf hv) lists

theorem read_of_flawed (h : Flawed path text f) : read path text = .error f := by
  cases h with
  | missing => rfl
  | malformed malformed =>
    rw [read_eq, malformed]
    rfl
  | refused value first check =>
    rw [read_eq, value]
    exact ofValue_of_refused (isJson_of_valueOf value) first check

theorem read_of_astray (path : String) (h : Astray text) :
    ∃ f, read path text = .error f ∧ f.kind = .type := by
  obtain ⟨s, v, rfl, hv, odd⟩ := h
  rw [read_eq, hv]
  exact ofValue_of_odd (isJson_of_valueOf hv) odd

/-- **What a file can be**: a roster, flawed, or astray. -/
theorem file_cases (path : String) (text : Option String) :
    (∃ ps, Holds text ps) ∨ (∃ f, Flawed path text f) ∨ Astray text := by
  cases text with
  | none => exact .inr (.inl ⟨_, .missing⟩)
  | some s =>
    cases hv : valueOf s with
    | error f => exact .inr (.inl ⟨_, .malformed hv⟩)
    | ok v =>
      rcases value_cases (isJson_of_valueOf hv) with ⟨ps, lists⟩ | ⟨vs, fs, i, rfl, first, hi⟩ | odd
      · exact .inl ⟨ps, s, v, rfl, hv, lists⟩
      · exact .inr (.inl ⟨_, .refused hv first hi⟩)
      · exact .inr (.inr ⟨s, v, rfl, hv, odd⟩)

/-- Nobody without an address is listed. -/
theorem address_ne_of_holds (h : Holds text ps) : ∀ p ∈ ps, p.address ≠ "" := by
  obtain ⟨s, v, -, -, lists⟩ := h
  cases lists with
  | list names =>
    induction names with
    | nil => exact nofun
    | cons named _ ih =>
      obtain ⟨-, nonempty, -⟩ := named
      exact List.forall_mem_cons.2 ⟨nonempty, ih⟩
  | object => exact nofun
  | text => exact nofun

/-- A flaw is a fault of the system or of a value. -/
theorem isValue_of_flawed (h : Flawed path text f) :
    (f.kind.isSystem || f.kind.isValue) = true := by
  cases h with
  | missing => rfl
  | @malformed s f read => cases f <;> rfl
  | refused => rfl

/-! No file is two of these. -/

theorem Holds.unique {ps' : List Participant} (h : Holds text ps) (h' : Holds text ps') :
    ps = ps' :=
  Except.ok.inj ((read_of_holds "" h).symm.trans (read_of_holds "" h'))

theorem Flawed.unique {f' : Fault} (h : Flawed path text f) (h' : Flawed path text f') : f = f' :=
  Except.error.inj ((read_of_flawed h).symm.trans (read_of_flawed h'))

theorem Holds.not_flawed (h : Holds text ps) : ¬Flawed path text f := by
  intro flawed
  cases (read_of_holds path h).symm.trans (read_of_flawed flawed)

theorem Holds.not_astray (h : Holds text ps) : ¬Astray text := by
  intro astray
  obtain ⟨f, hf, -⟩ := read_of_astray "" astray
  cases (read_of_holds "" h).symm.trans hf

theorem Flawed.not_astray (h : Flawed path text f) : ¬Astray text := by
  intro astray
  obtain ⟨g, hg, kind⟩ := read_of_astray path astray
  obtain rfl := Except.error.inj ((read_of_flawed h).symm.trans hg)
  have hvalue := isValue_of_flawed h
  rw [kind] at hvalue
  cases hvalue

end Plunder.Roster
