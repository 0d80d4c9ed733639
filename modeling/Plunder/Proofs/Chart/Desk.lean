import Plunder.Chart.Display

/-!
# The files of a desk

What opening and releasing do to the files of a desk, case by case. A new file gets a path that no
other file has, so that writing to it and removing it again leaves all others alone.

Main statements:
- `opens_openBy`: everything that opening a file can come to
- `exists_openBy_iff`: when there is a handle in the end
- `open?_eq`, `release_eq`: the same where the system does what it is asked
-/

namespace Plunder.Desk

/-! ## Definitions -/

/-- The desk with one file more. -/
def adding (d : Desk) (path : String) (bs : Bytes) : Desk :=
  { d with files := d.files ++ [(path, bs)] }

/-- Everything that opening a file can come to: the desk afterwards, and the handle or the fault. -/
inductive Opens (d : Desk) (o : Opening) (a : ChartArtifact) :
    Desk → Except Fault DisplayHandle → Prop where
  /-- There is the file of the artifact. -/
  | opened {path : String} (present : d.present = true)
      (found : o.paths.find? d.isFree = some path) (whole : o.writing = .whole) :
      Opens d o a (d.adding path a.data) (.ok ⟨path, false⟩)
  /-- No file was begun: there is no directory, or no path that was tried is free. -/
  | unbegun {f : Fault} (nowhere : d.present = true → o.paths.find? d.isFree = none) :
      Opens d o a d (.error f)
  /-- The file could not be written, and was removed again. -/
  | undone {written : Nat} {f : Fault} (broken : o.writing = .broken written f) :
      Opens d o a d (.error f)
  /-- The file could not be written, and the system refused to remove it. -/
  | stranded {path : String} {written : Nat} {f : Fault}
      (found : o.paths.find? d.isFree = some path) (broken : o.writing = .broken written f)
      (refused : o.refusal.isSome = true) :
      Opens d o a (d.adding path (a.data.take written)) (.error f)

/-! ## Files -/

variable {d : Desk} {path : String} {bs : Bytes}

theorem isFree_iff : d.isFree path = true ↔ ∀ f ∈ d.files, f.1 ≠ path := by
  simp [isFree]

/-- Writing to the newest file leaves those alone that were there before it. -/
theorem write_adding (free : d.isFree path = true) (cs : Bytes) :
    (d.adding path cs).write path bs = d.adding path bs := by
  have hkeep : d.files.map (fun f => if f.1 == path then (path, bs) else f) = d.files := by
    refine (List.map_congr_left fun f hf => ?_).trans (List.map_id d.files)
    rw [if_neg (by simpa using isFree_iff.1 free f hf), id]
  simp only [write, adding, List.map_append, hkeep, List.map_cons, List.map_nil, beq_self_eq_true,
    if_true]

theorem remove_adding (free : d.isFree path = true) : (d.adding path bs).remove path = d := by
  have hkeep : d.files.filter (·.1 != path) = d.files :=
    List.filter_eq_self.2 fun f hf => bne_iff_ne.2 (isFree_iff.1 free f hf)
  simp [remove, adding, hkeep]

/-- What is found at the path of a file that shares it with no other. -/
theorem content?_of_mem (mem : (path, bs) ∈ d.files)
    (alone : ∀ f ∈ d.files, f.1 = path → f = (path, bs)) : d.content? path = some bs := by
  have hsome : (d.files.find? (·.1 == path)).isSome = true :=
    List.find?_isSome.2 ⟨_, mem, beq_self_eq_true path⟩
  obtain ⟨f, hf⟩ := Option.isSome_iff_exists.1 hsome
  have hpath : f.1 = path := by simpa using List.find?_some hf
  obtain rfl := alone f (List.mem_of_find?_eq_some hf) hpath
  rw [content?, hf, Option.map_some]

/-! ## Opening -/

theorem create_of_nowhere {paths : List String}
    (nowhere : d.present = true → paths.find? d.isFree = none) :
    ∃ f, d.create paths = .error f := by
  unfold create
  split
  · next hpresent =>
    rw [nowhere hpresent]
    exact ⟨_, rfl⟩
  · exact ⟨_, rfl⟩

theorem create_of_found {paths : List String} (present : d.present = true)
    (found : paths.find? d.isFree = some path) :
    d.create paths = .ok (d.adding path [], path) := by
  rw [create, if_pos present, found]
  rfl

theorem openBy_of_whole {o : Opening} (present : d.present = true)
    (found : o.paths.find? d.isFree = some path) (whole : o.writing = .whole) (a : ChartArtifact) :
    d.openBy o a = (d.adding path a.data, .ok ⟨path, false⟩) := by
  simp only [openBy, create_of_found present found, whole, write_adding (List.find?_some found)]

theorem openBy_of_broken {o : Opening} {written : Nat} {f : Fault} (present : d.present = true)
    (found : o.paths.find? d.isFree = some path) (broken : o.writing = .broken written f)
    (a : ChartArtifact) :
    d.openBy o a = ((d.adding path (a.data.take written)).unlink path o.refusal, .error f) := by
  simp only [openBy, create_of_found present found, broken, write_adding (List.find?_some found)]

/-- **Everything that opening a file can come to.** -/
theorem opens_openBy (d : Desk) (o : Opening) (a : ChartArtifact) :
    Opens d o a (d.openBy o a).1 (d.openBy o a).2 := by
  by_cases nowhere : d.present = true → o.paths.find? d.isFree = none
  · obtain ⟨f, hf⟩ := create_of_nowhere nowhere
    rw [openBy, hf]
    exact .unbegun nowhere
  · obtain ⟨present, hsome⟩ := Classical.not_imp.1 nowhere
    obtain ⟨path, found⟩ := Option.ne_none_iff_exists'.1 hsome
    cases hw : o.writing with
    | whole =>
      rw [openBy_of_whole present found hw]
      exact .opened present found hw
    | broken written f =>
      rw [openBy_of_broken present found hw]
      cases hr : o.refusal with
      | none =>
        rw [unlink, remove_adding (List.find?_some found)]
        exact .undone hw
      | some r => exact .stranded found hw (by rw [hr]; rfl)

/-- There is a handle in the end if there is a directory, one of the paths is free, and the file can
be written. -/
theorem exists_openBy_iff {o : Opening} {a : ChartArtifact} :
    (∃ h, (d.openBy o a).2 = .ok h) ↔
      d.present = true ∧ (∃ p ∈ o.paths, d.isFree p = true) ∧ o.writing = .whole := by
  have hfree : (∃ p ∈ o.paths, d.isFree p = true) ↔ o.paths.find? d.isFree ≠ none := by
    simp [List.find?_eq_none]
  have h := opens_openBy d o a
  generalize (d.openBy o a).1 = d', (d.openBy o a).2 = r at h
  rw [hfree]
  cases h with
  | opened present found whole => simp [present, found, whole]
  | unbegun nowhere => exact ⟨nofun, fun h => (h.2.1 (nowhere h.1)).elim⟩
  | undone broken => simp [broken]
  | stranded found broken refused => simp [broken]

/-- A desk that gives away its next path, on a system that writes what it is told to. -/
theorem open?_eq (free : d.isFree d.nextPath = true) (a : ChartArtifact) :
    d.open? a =
      if d.present then
        .ok ({ d with opened := d.opened + 1, files := d.files ++ [(d.nextPath, a.data)] },
          ⟨d.nextPath, false⟩)
      else .error (.noFile d.nextPath) := by
  have hfound : [d.nextPath].find? { d with opened := d.opened + 1 }.isFree = some d.nextPath :=
    List.find?_cons_of_pos free
  unfold open?
  by_cases present : d.present = true
  · have hopen := openBy_of_whole (d := { d with opened := d.opened + 1 })
      (o := ⟨[d.nextPath], .whole, none⟩) present hfound rfl a
    rw [if_pos present, hopen]
    rfl
  · simp [openBy, create, present, Except.map]

/-! ## Releasing -/

theorem release_eq (d : Desk) (h : DisplayHandle) :
    d.release h =
      if h.released then (d, h) else (d.remove h.path, { h with released := true }) := by
  unfold release releaseBy
  split <;> rfl

end Plunder.Desk
