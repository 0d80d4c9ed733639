import Plunder.Participant
import Plunder.Proofs.Value.Json

/-!
# Records that are accepted

A record is accepted when each of its fields is, and a field is accepted when the value that is
there is, or stands for one that is absent.

Main statements:
- `Checked.seq_eq_ok_iff`: a record with one field more
- `field_eq_ok_iff`, `fieldOr_eq_ok_iff`: a single field
- `nonemptyText_text_eq_ok_iff`, `natural_int_eq_ok_iff`: a text and a whole number
- `Participant.check_eq_ok_iff`: a participant
-/

namespace Plunder

namespace Form

variable {α β : Type}

namespace Checked

theorem map_eq_ok_iff {f : α → β} {x : Checked α} {b : β} :
    f <$> x = ok b ↔ ∃ a, x = ok a ∧ f a = b := by
  show ap (ok f) x = ok b ↔ _
  cases x with
  | error is => exact ⟨nofun, nofun⟩
  | ok a =>
    constructor
    · exact fun h => ⟨a, rfl, Except.ok.inj h⟩
    · rintro ⟨_, ⟨⟩, rfl⟩
      rfl

/-- A record with one field more is accepted when the others are and this one is. -/
theorem seq_eq_ok_iff {f : Checked (α → β)} {x : Checked α} {b : β} :
    f <*> x = ok b ↔ ∃ g a, f = ok g ∧ x = ok a ∧ g a = b := by
  show ap f x = ok b ↔ _
  cases f with
  | error is => cases x <;> exact ⟨nofun, nofun⟩
  | ok g =>
    cases x with
    | error is => exact ⟨nofun, nofun⟩
    | ok a =>
      constructor
      · intro h
        exact ⟨g, a, rfl, rfl, Except.ok.inj h⟩
      · rintro ⟨_, _, ⟨⟩, ⟨⟩, rfl⟩
        rfl

theorem within_eq_ok_iff {s : Step} {x : Checked α} {a : α} : x.within s = ok a ↔ x = ok a := by
  cases x with
  | error is => exact ⟨nofun, nofun⟩
  | ok b => exact Iff.rfl

theorem andThen_eq_ok_iff {x : Checked α} {f : α → Checked β} {b : β} :
    x.andThen f = ok b ↔ ∃ a, x = ok a ∧ f a = ok b := by
  cases x with
  | error is => exact ⟨nofun, nofun⟩
  | ok a => exact ⟨fun h => ⟨a, rfl, h⟩, fun ⟨_, ha, hb⟩ => by cases ha; exact hb⟩

end Checked

variable {fs : Fields} {name : String} {read : Value → Checked α} {absent a : α}

/-- A field that has to be there. -/
theorem field_eq_ok_iff :
    field fs name read = .ok a ↔ ∃ v, fs.get? name = some v ∧ read v = .ok a := by
  unfold field
  cases fs.get? name with
  | none => exact ⟨nofun, nofun⟩
  | some v => simp [Checked.within_eq_ok_iff]

/-- A field that may be absent. -/
theorem fieldOr_eq_ok_iff :
    fieldOr fs name absent read = .ok a ↔
      (∃ v, fs.get? name = some v ∧ read v = .ok a) ∨ (fs.get? name = none ∧ absent = a) := by
  unfold fieldOr
  cases fs.get? name with
  | none =>
    constructor
    · intro h
      exact .inr ⟨rfl, Except.ok.inj h⟩
    · rintro (⟨_, ⟨⟩, -⟩ | ⟨-, rfl⟩)
      rfl
  | some v => simp [Checked.within_eq_ok_iff]

theorem finish_eq_ok_iff {title : String} {x : Checked α} :
    finish title x = .ok a ↔ x = .ok a := by
  cases x with
  | error is => exact ⟨nofun, nofun⟩
  | ok b => exact ⟨fun h => by cases h; rfl, fun h => by cases h; rfl⟩

/-! ## Texts and whole numbers -/

theorem nonemptyText_text_eq_ok_iff {t s : String} :
    nonemptyText (.text t) = .ok s ↔ t = s ∧ s ≠ "" := by
  rw [nonemptyText, Checked.andThen_eq_ok_iff]
  constructor
  · rintro ⟨r, hr, hs⟩
    cases hr
    split at hs <;> cases hs
    next hne => exact ⟨rfl, fun h => hne (by rw [h]; rfl)⟩
  · rintro ⟨rfl, hne⟩
    exact ⟨t, rfl, if_neg (by simpa using hne)⟩

theorem natural_int_eq_ok_iff {n : Int} {m : Nat} : natural (.int n) = .ok m ↔ n = m := by
  rw [natural, Checked.andThen_eq_ok_iff]
  constructor
  · rintro ⟨k, hk, hm⟩
    cases hk
    split at hm <;> cases hm
    next hn => exact (Int.toNat_of_nonneg (Int.not_lt.1 hn)).symm
  · rintro rfl
    exact ⟨m, rfl, if_neg (Int.not_lt.2 (Int.natCast_nonneg m))⟩

/-! ## Texts of JSON -/

section Json

variable {v : Value} {s : String}

theorem text_eq_ok_iff (hv : v.isJson = true) : text v = .ok s ↔ v = .text s := by
  cases v with
  | text t => exact ⟨fun h => congrArg Value.text (Except.ok.inj h), fun h => by cases h; rfl⟩
  | octets kind bs => cases hv
  | _ => exact ⟨nofun, nofun⟩

theorem nonemptyText_eq_ok_iff (hv : v.isJson = true) :
    nonemptyText v = .ok s ↔ v = .text s ∧ s ≠ "" := by
  cases v with
  | text t => rw [nonemptyText_text_eq_ok_iff, Value.text.injEq]
  | octets kind bs => cases hv
  | _ => exact ⟨nofun, nofun⟩

/-- A text that has to be there. -/
theorem field_text_eq_ok_iff (hfs : Value.haveJson fs = true) :
    field fs name text = .ok s ↔ fs.get? name = some (.text s) := by
  rw [field_eq_ok_iff]
  constructor
  · rintro ⟨v, hv, hs⟩
    rw [hv, (text_eq_ok_iff (Value.isJson_of_get? hfs hv)).1 hs]
  · exact fun h => ⟨_, h, rfl⟩

end Json

end Form

/-! ## Participants -/

/-- The fields that make a participant. -/
theorem Participant.check_eq_ok_iff {fs : Fields} (hfs : Value.haveJson fs = true)
    {p : Participant} :
    Participant.check fs = .ok p ↔
      fs.get? "address" = some (.text p.address) ∧ p.address ≠ "" ∧
        fs.get? "name" = some (.text p.name) := by
  rw [check, Form.finish_eq_ok_iff, ofFields, Form.Checked.seq_eq_ok_iff]
  simp only [Form.Checked.map_eq_ok_iff, Form.field_text_eq_ok_iff hfs, Form.field_eq_ok_iff]
  constructor
  · rintro ⟨_, name, ⟨address, ⟨v, hv, hok⟩, rfl⟩, hname, rfl⟩
    obtain ⟨rfl, hne⟩ := (Form.nonemptyText_eq_ok_iff (Value.isJson_of_get? hfs hv)).1 hok
    exact ⟨hv, hne, hname⟩
  · rintro ⟨haddress, hne, hname⟩
    have hnonempty := Form.nonemptyText_text_eq_ok_iff.2 ⟨rfl, hne⟩
    exact ⟨_, p.name, ⟨p.address, ⟨_, haddress, hnonempty⟩, rfl⟩, hname, rfl⟩

end Plunder
