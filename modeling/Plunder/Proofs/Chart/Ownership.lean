import Plunder.Proofs.Chart.Desk
import Plunder.Proofs.Text.Digit
import Plunder.Proofs.Value.Short
import Plunder.Screen

/-!
# The file of the chart

The desk gives every chart file a path that no other file has. The screen opens the file of a new
chart before it lets go of the one before, and removes a file when it lets go of its handle, so that
the desk never has more of its files than the one that the screen holds.

Main statements:
- `Owns.release`: a screen that lets go of its chart leaves no file behind
- `present_brings`, `receive_brings`: the files after a chart has arrived
-/

namespace Plunder

/-! ## Definitions -/

/-- The path that the desk gives to the file with some number. -/
def Desk.pathAt (d : Desk) (n : Nat) : String :=
  d.directory ++ "/haul-chart-" ++ toString n ++ ".png"

/-- Whether no file is at a path that is still to be given away. -/
def Desk.Fresh (d : Desk) : Prop := ∀ f ∈ d.files, ∀ n, d.opened ≤ n → f.1 ≠ d.pathAt n

/-- Whether the desk has, behind the files of others, exactly the file that a screen holds, with the
given octets, or none if the screen holds none. -/
inductive Screen.Owns (s : Screen) (d : Desk) (others : List (String × Bytes)) :
    Option Bytes → Prop where
  | nothing (handle : s.handle = none) (files : d.files = others) : Owns s d others none
  | chart {h : DisplayHandle} {bs : Bytes} (handle : s.handle = some h)
      (unreleased : h.released = false) (files : d.files = others ++ [(h.path, bs)])
      (apart : ∀ f ∈ others, f.1 ≠ h.path) : Owns s d others (some bs)

/-- What a screen and its desk have become once something has arrived: the desk has the file of the
chart that is shown, the screen is otherwise the same, and there was no fault. -/
structure Screen.Arrival.Brings (s : Screen) (others : List (String × Bytes))
    (shown : Option Bytes) (a : Screen.Arrival) : Prop where
  owns : a.screen.Owns a.desk others shown
  fresh : a.desk.Fresh
  settings_eq : a.screen.settings = s.settings
  generation_eq : a.screen.generation = s.generation
  fault_eq : a.fault = none

/-! ## Paths -/

namespace Desk

variable {d : Desk}

theorem pathAt_injective (d : Desk) : Function.Injective d.pathAt := by
  intro m n h
  have hlist := congrArg String.toList h
  simp only [pathAt, String.toList_append, List.append_cancel_right_eq,
    List.append_cancel_left_eq] at hlist
  have hdigits : Text.natDigits m = Text.natDigits n := by
    simpa [toString, Nat.repr, Text.natDigits] using hlist
  -- The digits of a number tell which number it is.
  rw [← (Text.spells_natDigits m).filterMap_asciiDigit?.2, hdigits,
    (Text.spells_natDigits n).filterMap_asciiDigit?.2]

/-- Removing a file makes no path taken. -/
theorem Fresh.remove (h : d.Fresh) (path : String) : (d.remove path).Fresh :=
  fun f hf => h f (List.mem_filter.1 hf).1

/-- A path is given away. -/
theorem Fresh.giveAway (h : d.Fresh) : { d with opened := d.opened + 1 }.Fresh :=
  fun f hf n hn => h f hf n (Nat.le_of_succ_le hn)

/-- A file is written at the path that is given away. -/
theorem Fresh.write (h : d.Fresh) (bs : Bytes) :
    { d with opened := d.opened + 1, files := d.files ++ [(d.nextPath, bs)] }.Fresh := by
  intro f hf n hn
  rcases List.mem_append.1 hf with hf | hf
  · exact h.giveAway f hf n hn
  · rw [List.mem_singleton.1 hf]
    intro heq
    have : d.opened = n := d.pathAt_injective heq
    have hlt : d.opened + 1 ≤ n := hn
    omega

end Desk

/-! ## Letting go -/

namespace Screen

open Arrival

variable {s : Screen} {d : Desk} {others : List (String × Bytes)} {shown : Option Bytes}

/-- Only the handle and the files matter. -/
theorem Owns.congr {s' : Screen} {d' : Desk} (h : s.Owns d others shown)
    (handle : s'.handle = s.handle) (files : d'.files = d.files) : s'.Owns d' others shown := by
  cases h with
  | nothing hnone hfiles => exact .nothing (handle.trans hnone) (files.trans hfiles)
  | chart hsome unreleased hfiles apart =>
    exact .chart (handle.trans hsome) unreleased (files.trans hfiles) apart

/-- A screen that lets go keeps everything else. -/
theorem release_screen (s : Screen) (d : Desk) : (s.release d).1 = { s with handle := none } := by
  unfold release
  split
  · rfl
  · next hnone => rw [← hnone]

theorem release_opened (s : Screen) (d : Desk) : (s.release d).2.opened = d.opened := by
  simp only [release, Desk.release_eq]
  split
  · split <;> rfl
  · rfl

theorem release_fresh (s : Screen) (h : d.Fresh) : (s.release d).2.Fresh := by
  simp only [release, Desk.release_eq]
  split
  · split
    · exact h
    · exact h.remove _
  · exact h

/-- Of some files, that of a handle is removed. -/
private theorem release_files {h : DisplayHandle} {bs : Bytes}
    {before after : List (String × Bytes)} (handle : s.handle = some h)
    (unreleased : h.released = false)
    (files : d.files = before ++ (h.path, bs) :: after)
    (apart : ∀ f ∈ before ++ after, f.1 ≠ h.path) :
    (s.release d).2.files = before ++ after := by
  have hkeep {fs : List (String × Bytes)} (hfs : ∀ f ∈ fs, f.1 ≠ h.path) :
      fs.filter (·.1 != h.path) = fs :=
    List.filter_eq_self.2 fun f hf => bne_iff_ne.2 (hfs f hf)
  have hbefore := hkeep fun f hf => apart f (List.mem_append_left _ hf)
  have hafter := hkeep fun f hf => apart f (List.mem_append_right _ hf)
  simp [release, handle, Desk.release_eq, unreleased, Desk.remove, files, hbefore, hafter]

/-- **A screen that lets go of its chart leaves no file behind.** -/
theorem Owns.release (h : s.Owns d others shown) :
    (s.release d).1.Owns (s.release d).2 others none := by
  refine .nothing (by rw [release_screen]) ?_
  cases h with
  | nothing handle files => simp [Screen.release, handle, files]
  | chart handle unreleased files apart =>
    rw [release_files handle unreleased files (by simpa using apart), List.append_nil]

theorem release_brings (h : s.Owns d others shown) (fresh : d.Fresh) (notes : List Note) :
    Brings s others none ⟨(s.release d).1, (s.release d).2, notes, none⟩ where
  owns := h.release
  fresh := release_fresh s fresh
  settings_eq := by simp only [release_screen]
  generation_eq := by simp only [release_screen]
  fault_eq := rfl

/-! ## Arrivals -/

/-- The notes of an arrival tell nothing of the files. -/
theorem Arrival.Brings.noting {a : Arrival} (h : Brings s others shown a) (notes : List Note) :
    Brings s others shown { a with notes } :=
  ⟨h.owns, h.fresh, h.settings_eq, h.generation_eq, h.fault_eq⟩

theorem fetchFailed_brings (h : s.Owns d others shown) (fresh : d.Fresh) (f : Fault) :
    Brings s others none (s.fetchFailed d f) :=
  release_brings h fresh _

/-- A file is opened while the one before is still held, which is then let go of. -/
private theorem Owns.replace (h : s.Owns d others shown) (fresh : d.Fresh) (bs : Bytes)
    (d' : Desk) (files : d'.files = d.files ++ [(d.nextPath, bs)]) :
    Owns { (s.release d').1 with handle := some ⟨d.nextPath, false⟩ } (s.release d').2 others
      (some bs) := by
  have hnew (f : String × Bytes) (hf : f ∈ d.files) : f.1 ≠ d.nextPath :=
    fresh f hf d.opened (Nat.le_refl _)
  cases h with
  | nothing handle hfiles =>
    rw [hfiles] at files hnew
    refine .chart rfl rfl ?_ hnew
    simp [Screen.release, handle, files]
  | @chart old _ handle unreleased hfiles apart =>
    rw [hfiles] at files hnew
    rw [List.append_assoc, List.singleton_append] at files
    refine .chart rfl rfl (release_files handle unreleased files ?_)
      fun f hf => hnew f (List.mem_append_left _ hf)
    intro f hf
    rcases List.mem_append.1 hf with hf | hf
    · exact apart f hf
    · rw [List.mem_singleton.1 hf]
      exact (hnew _ List.mem_concat_self).symm

/-- **The files after an artifact has been shown**: its own, or none if no file can be made. -/
theorem present_brings (h : s.Owns d others shown) (fresh : d.Fresh) (a : ChartArtifact) :
    Brings s others (if d.present then some a.data else none) (s.present d a) := by
  have free : d.isFree d.nextPath = true :=
    Desk.isFree_iff.2 fun f hf => fresh f hf d.opened (Nat.le_refl _)
  rw [present, Desk.open?_eq free]
  split
  · next hp =>
    have howns := h.replace fresh a.data
      { d with opened := d.opened + 1, files := d.files ++ [(d.nextPath, a.data)] } rfl
    exact ⟨howns, release_fresh s (fresh.write a.data), by simp only [release_screen],
      by simp only [release_screen], rfl⟩
  · exact release_brings h fresh _

end Screen

/-! ## Payloads -/

namespace ChartArtifact

private theorem ofDigits_cases (ds : List Char) :
    (∃ bs, (ofDigits ds).mapError Fault.artifact = .ok bs) ∨
      ∃ f, (ofDigits ds).mapError Fault.artifact = .error (.artifact f) := by
  cases ofDigits ds with
  | ok bs => exact .inl ⟨bs, rfl⟩
  | error f => exact .inr ⟨f, rfl⟩

/-- Items without long numbers are octets, or they are at most not trusted. -/
theorem ofItems_cases (i : Nat) {vs : List Value} (h : Value.areShort vs = true) :
    (∃ bs, ofItems i vs = .ok bs) ∨ ∃ f, ofItems i vs = .error (.artifact f) := by
  induction vs generalizing i with
  | nil => exact .inl ⟨[], rfl⟩
  | cons v vs ih =>
    rw [Value.areShort, Bool.and_eq_true] at h
    obtain ⟨t, ht⟩ := Value.exists_show v h.1
    unfold ofItems
    cases octet? v with
    | none => simp [ht]
    | some b => rcases ih (i + 1) h.2 with ⟨bs, hbs⟩ | ⟨f, hf⟩ <;> simp_all [Except.map]

theorem convert_cases {v : Value} (h : v.isShort = true) :
    (∃ bs, convert v = .ok bs) ∨ ∃ f, convert v = .error (.artifact f) := by
  cases v with
  | text s =>
    simp only [convert]
    split
    · next x ds _ =>
      by_cases hx : x = 'x' ∨ x = 'X'
      · rw [if_pos hx]
        exact ofDigits_cases ds
      · rw [if_neg hx]
        exact .inr ⟨_, rfl⟩
    · exact .inr ⟨_, rfl⟩
  | octets kind bs => exact .inl ⟨bs, rfl⟩
  | list vs | tuple vs => exact ofItems_cases 0 h
  | _ => exact .inr ⟨_, rfl⟩

/-- A payload without long numbers is an artifact, or there is nothing in its place. -/
theorem decode_cases {v : Value} (h : v.isShort = true) :
    (∃ a, read v = .ok a ∧ decode v = .ok (some a, [])) ∨
      ∃ notes, decode v = .ok (none, notes) := by
  unfold decode read
  rcases convert_cases h with ⟨bs, hbs⟩ | ⟨f, hf⟩
  · rw [hbs]
    cases hv : validate bs with
    | ok a => exact .inl ⟨a, by simp [Except.bind, Except.mapError, hv]⟩
    | error f => exact .inr ⟨[faultNote f v], by simp [Except.bind, Except.mapError, hv]⟩
  · rw [hf]
    exact .inr ⟨_, rfl⟩

end ChartArtifact

namespace Screen

open Arrival

variable {s : Screen} {d : Desk} {others : List (String × Bytes)} {shown : Option Bytes}

/-- **The files after a payload has arrived** that was asked for since the screen was last
dismissed: that of its artifact, or none. -/
theorem receive_brings (h : s.Owns d others shown) (fresh : d.Fresh) {v : Value}
    (hv : v.isShort = true) :
    ∃ shown', Brings s others shown' (s.receive d s.generation v) ∧
      ∀ bs ∈ shown', ChartArtifact.read v = .ok ⟨bs⟩ := by
  unfold receive
  rw [if_neg (not_not_intro rfl)]
  rcases ChartArtifact.decode_cases hv with ⟨a, ha, hdecode⟩ | ⟨notes, hdecode⟩
  · rw [hdecode]
    refine ⟨_, (present_brings h fresh a).noting _, fun bs hbs => ?_⟩
    split at hbs
    · cases hbs
      exact ha
    · cases hbs
  · rw [hdecode]
    exact ⟨none, release_brings h fresh _, nofun⟩

end Screen
end Plunder
