import Mathlib.Data.List.Nodup
import Mathlib.Data.List.Perm.Basic
import Plunder.Proofs.Chart.Desk

/-!
# Handles and their files

Any number of artifacts are displayed, and their handles are released in any order and any number of
times, by themselves or as the blocks end that they guard. A path that has become free may be given
to another file; the handle that had it before does not touch that file, for it has been released.
So a file is there exactly as long as its handle has not been released.

Main statements:
- `Desk.Keeps.adding`, `Desk.Keeps.remove`: a file more, and a file less
- `keeps_step`: what an event leaves of the files
- `owned_run`: the files and their handles after any sequence of events
-/

namespace Plunder

/-! ## Definitions -/

/-- Whether the files of a desk are those of others and some more, each at a path of its own. -/
structure Desk.Keeps (d : Desk) (others files : List (String × Bytes)) : Prop where
  perm : d.files.Perm (others ++ files)
  nodup : (files.map Prod.fst).Nodup
  apart : ∀ f ∈ files, ∀ g ∈ others, g.1 ≠ f.1

/-- A desk, and the handles that were given out in order, each with the artifact that it shows. -/
structure Exhibition where
  desk : Desk
  shown : List (DisplayHandle × ChartArtifact)

namespace Exhibition

/-- What happens to the charts of a desk. -/
inductive Event where
  /-- An artifact is displayed. -/
  | display (o : Opening) (a : ChartArtifact)
  /-- A handle is released; the system may refuse to remove its file. -/
  | release (number : Nat) (refusal : Option Fault)
  /-- The block that a handle guards is left, with the fault that ended it if one did. -/
  | leave (number : Nat) (refusal ending : Option Fault)

/-- The handle that an event lets go of. -/
def Event.number? : Event → Option Nat
  | .display .. => none
  | .release number _ | .leave number .. => some number

/-- Why the system refuses to remove a file, if it does. -/
def Event.refusal : Event → Option Fault
  | .display o _ => o.refusal
  | .release _ refusal | .leave _ refusal _ => refusal

/-- How often the system refuses to remove a file. -/
def refusals (es : List Event) : Nat := es.countP (·.refusal.isSome)

/-- Nothing has been displayed yet. -/
def start (d : Desk) : Exhibition := ⟨d, []⟩

/-- One of the handles is let go of. -/
def letGo (x : Exhibition) (number : Nat)
    (how : DisplayHandle → Desk × DisplayHandle × Option Fault) : Exhibition :=
  match x.shown[number]? with
  | some (h, a) => ⟨(how h).1, x.shown.set number ((how h).2.1, a)⟩
  | none => x

def step (x : Exhibition) : Event → Exhibition
  | .display o a =>
    match x.desk.openBy o a with
    | (d, .ok h) => ⟨d, x.shown ++ [(h, a)]⟩
    | (d, .error _) => ⟨d, x.shown⟩
  | .release number refusal => x.letGo number (x.desk.releaseBy refusal)
  | .leave number refusal ending => x.letGo number (x.desk.leave refusal ending)

/-- The charts after several events. -/
def after (x : Exhibition) (es : List Event) : Exhibition := es.foldl step x

/-- The files of the handles that have not been released. -/
def held (shown : List (DisplayHandle × ChartArtifact)) : List (String × Bytes) :=
  (shown.filter (!·.1.released)).map fun s => (s.1.path, s.2.data)

/-- Whether every file has its handle, besides the files of others, when the system has refused to
remove a file so many times. -/
structure Owned (x : Exhibition) (others : List (String × Bytes)) (refused : Nat) : Prop where
  /-- The files are those of the handles that have not been released, if the system removes what it
  is told to. -/
  exact : refused = 0 → x.desk.files.Perm (others ++ held x.shown)
  /-- Otherwise there is at most one more for every time that it refuses. -/
  strays : ∃ strays, strays.length ≤ refused ∧
    x.desk.files.Perm (others ++ (strays ++ held x.shown))
  /-- No two handles that have not been released have the same path, and none has that of a file of
  others. -/
  apart : ((held x.shown).map Prod.fst).Nodup ∧
    ∀ f ∈ held x.shown, ∀ g ∈ others, g.1 ≠ f.1
  /-- A handle that has not been released has its file, with the octets of its artifact. -/
  content : ∀ s ∈ x.shown, s.1.released = false → x.desk.content? s.1.path = some s.2.data
  /-- Letting go of a handle leaves every other handle and its file alone, even if the handle was
  released before and its path belongs to another one by now. -/
  unmoved : ∀ (e : Event) (i j : Nat) s, e.number? = some i → j ≠ i → x.shown[j]? = some s →
    (x.step e).shown[j]? = some s ∧
      (s.1.released = false → (x.step e).desk.content? s.1.path = some s.2.data)
  /-- A handle that is let go of has been released, whatever the system does. -/
  released : ∀ (e : Event) (i : Nat) h a, e.number? = some i → x.shown[i]? = some (h, a) →
    (x.step e).shown[i]? = some ({ h with released := true }, a)
  /-- To let go of it again does nothing at all. -/
  again : ∀ (e : Event) (i : Nat) s, e.number? = some i → x.shown[i]? = some s →
    s.1.released = true → x.step e = x
  /-- A display succeeds if there is a directory, a path that was tried is free, and the file can be
  written. -/
  display : ∀ o a, (∃ h, (x.desk.openBy o a).2 = .ok h) ↔
    x.desk.present = true ∧ (∃ p ∈ o.paths, x.desk.isFree p = true) ∧ o.writing = .whole
  /-- A display that fails leaves the files as they were, unless the system refuses to remove what
  was begun. -/
  failed : ∀ o a f, (x.desk.openBy o a).2 = .error f → o.refusal = none →
    x.step (.display o a) = x

end Exhibition

/-! ## Files -/

namespace Desk.Keeps

variable {d : Desk} {others files files' : List (String × Bytes)} {path : String} {bs : Bytes}

theorem congr (h : d.Keeps others files) (p : files.Perm files') : d.Keeps others files' where
  perm := h.perm.trans (p.append_left others)
  nodup := (p.map Prod.fst).nodup_iff.1 h.nodup
  apart f hf := h.apart f (p.mem_iff.2 hf)

/-- A file more, at a path that was free. -/
theorem adding (h : d.Keeps others files) (free : d.isFree path = true) :
    (d.adding path bs).Keeps others ((path, bs) :: files) where
  perm := by
    refine (h.perm.append_right [(path, bs)]).trans ?_
    rw [List.append_assoc]
    exact List.perm_append_singleton _ _ |>.append_left others
  nodup := by
    rw [List.map_cons, List.nodup_cons]
    refine ⟨fun hmem => ?_, h.nodup⟩
    obtain ⟨f, hf, hpath⟩ := List.mem_map.1 hmem
    exact isFree_iff.1 free f (h.perm.mem_iff.2 (List.mem_append_right _ hf)) hpath
  apart := by
    intro f hf g hg
    rcases List.mem_cons.1 hf with rfl | hf
    · exact isFree_iff.1 free g (h.perm.mem_iff.2 (List.mem_append_left _ hg))
    · exact h.apart f hf g hg

/-- A file less. -/
theorem remove (h : d.Keeps others ((path, bs) :: files)) : (d.remove path).Keeps others files := by
  have hnodup := List.nodup_cons.1 (show (path :: files.map Prod.fst).Nodup from h.nodup)
  -- No other file is at the path, so that removing it takes away just the one.
  have hothers : others.filter (·.1 != path) = others :=
    List.filter_eq_self.2 fun g hg => bne_iff_ne.2 (h.apart _ List.mem_cons_self g hg)
  have hfiles : files.filter (·.1 != path) = files :=
    List.filter_eq_self.2 fun f hf =>
      bne_iff_ne.2 fun hpath => hnodup.1 (List.mem_map.2 ⟨f, hf, hpath⟩)
  constructor
  case perm =>
    have hperm := h.perm.filter (·.1 != path)
    rwa [List.filter_append, hothers, List.filter_cons_of_neg (by simp), hfiles] at hperm
  case nodup => exact hnodup.2
  case apart => exact fun f hf => h.apart f (List.mem_cons_of_mem _ hf)

/-- Each of the files is found at its path. -/
theorem content?_eq (h : d.Keeps others files) (mem : (path, bs) ∈ files) :
    d.content? path = some bs := by
  refine content?_of_mem (h.perm.mem_iff.2 (List.mem_append_right _ mem)) fun f hf hpath => ?_
  rcases List.mem_append.1 (h.perm.mem_iff.1 hf) with hother | hfile
  · exact (h.apart _ mem f hother hpath).elim
  · exact List.inj_on_of_nodup_map h.nodup hfile mem hpath

end Desk.Keeps

namespace Exhibition

/-! ## Handles -/

variable {x : Exhibition} {others strays : List (String × Bytes)}
  {shown : List (DisplayHandle × ChartArtifact)} {i : Nat} {h : DisplayHandle} {a : ChartArtifact}

theorem mem_held {s : DisplayHandle × ChartArtifact} (mem : s ∈ shown)
    (unreleased : s.1.released = false) : (s.1.path, s.2.data) ∈ held shown :=
  List.mem_map.2 ⟨s, List.mem_filter.2 ⟨mem, by rw [unreleased]; rfl⟩, rfl⟩

theorem held_append (ss ts : List (DisplayHandle × ChartArtifact)) :
    held (ss ++ ts) = held ss ++ held ts := by
  simp [held]

/-- Of the files that are held, a release gives up one. -/
theorem held_perm_of_release (hs : shown[i]? = some (h, a)) (unreleased : h.released = false) :
    (held shown).Perm
      ((h.path, a.data) :: held (shown.set i ({ h with released := true }, a))) := by
  obtain ⟨hlt, hget⟩ := List.getElem?_eq_some_iff.1 hs
  obtain ⟨before, rest, hshown, -, hset⟩ :=
    @List.exists_of_set _ i ({ h with released := true }, a) _ hlt
  rw [hset, hshown, hget, held_append, held_append]
  have hheld : held ((h, a) :: rest) = (h.path, a.data) :: held rest := by
    simp [held, unreleased]
  have hgone : held (({ h with released := true }, a) :: rest) = held rest := by
    simp [held]
  rw [hheld, hgone]
  exact List.perm_middle

/-! ## Events -/

variable {e : Event}

/-- However a handle is let go of, it is released. -/
theorem step_eq_letGo (number : e.number? = some i) :
    x.step e = x.letGo i (x.desk.releaseBy e.refusal) := by
  cases e with
  | display o a => cases number
  | release n refusal =>
    cases number
    rfl
  | leave n refusal ending =>
    cases number
    rfl

theorem step_of_none (number : e.number? = some i) (hs : x.shown[i]? = none) : x.step e = x := by
  rw [step_eq_letGo number, letGo, hs]

theorem step_of_released (number : e.number? = some i) (hs : x.shown[i]? = some (h, a))
    (released : h.released = true) : x.step e = x := by
  have hset : x.shown.set i (h, a) = x.shown := by
    rw [← (List.getElem?_eq_some_iff.1 hs).2]
    exact List.set_getElem_self _
  simp only [step_eq_letGo number, letGo, hs, Desk.releaseBy, released, if_true, hset]

theorem step_of_unreleased (number : e.number? = some i) (hs : x.shown[i]? = some (h, a))
    (unreleased : h.released = false) :
    x.step e = ⟨x.desk.unlink h.path e.refusal,
      x.shown.set i ({ h with released := true }, a)⟩ := by
  simp [step_eq_letGo number, letGo, hs, Desk.releaseBy, unreleased]

/-- What is left of the files when an artifact has been displayed, or has not. -/
private theorem keeps_display (kept : x.desk.Keeps others (strays ++ held x.shown)) (o : Opening)
    (a : ChartArtifact) :
    ∃ strays', strays'.length ≤ strays.length + (if o.refusal.isSome then 1 else 0) ∧
      (x.step (.display o a)).desk.Keeps others
        (strays' ++ held (x.step (.display o a)).shown) := by
  have hopens := Desk.opens_openBy x.desk o a
  rw [step]
  generalize x.desk.openBy o a = r at hopens ⊢
  obtain ⟨d, r⟩ := r
  dsimp only at hopens
  cases hopens with
  | @opened path present found whole =>
    refine ⟨strays, Nat.le_add_right _ _, ?_⟩
    have hheld : held (x.shown ++ [(⟨path, false⟩, a)]) = held x.shown ++ [(path, a.data)] := by
      simp [held]
    rw [hheld, ← List.append_assoc]
    exact (kept.adding (List.find?_some found)).congr (List.perm_append_singleton _ _).symm
  | unbegun nowhere => exact ⟨strays, Nat.le_add_right _ _, kept⟩
  | undone broken => exact ⟨strays, Nat.le_add_right _ _, kept⟩
  | stranded found broken refused =>
    rw [if_pos refused]
    exact ⟨_ :: strays, Nat.le_refl _, kept.adding (List.find?_some found)⟩

/-- What is left of the files when a handle has been let go of. -/
private theorem keeps_release (kept : x.desk.Keeps others (strays ++ held x.shown))
    (number : e.number? = some i) :
    ∃ strays', strays'.length ≤ strays.length + (if e.refusal.isSome then 1 else 0) ∧
      (x.step e).desk.Keeps others (strays' ++ held (x.step e).shown) := by
  rcases hs : x.shown[i]? with _ | ⟨h, a⟩
  · exact ⟨strays, Nat.le_add_right _ _, by rwa [step_of_none number hs]⟩
  · cases hr : h.released with
    | true => exact ⟨strays, Nat.le_add_right _ _, by rwa [step_of_released number hs hr]⟩
    | false =>
      rw [step_of_unreleased number hs hr]
      have hkept := kept.congr (((held_perm_of_release hs hr).append_left strays).trans
        List.perm_middle)
      cases hrefusal : e.refusal with
      | none => exact ⟨strays, Nat.le_add_right _ _, hkept.remove⟩
      -- The file stays where it is, though its handle has been released.
      | some f => exact ⟨(h.path, a.data) :: strays, Nat.le_refl _, hkept⟩

/-- **What an event leaves of the files.** -/
theorem keeps_step (kept : x.desk.Keeps others (strays ++ held x.shown)) (e : Event) :
    ∃ strays', strays'.length ≤ strays.length + (if e.refusal.isSome then 1 else 0) ∧
      (x.step e).desk.Keeps others (strays' ++ held (x.step e).shown) := by
  cases e with
  | display o a => exact keeps_display kept o a
  | release n refusal => exact keeps_release (e := .release n refusal) kept rfl
  | leave n refusal ending => exact keeps_release (e := .leave n refusal ending) kept rfl

theorem keeps_after (kept : x.desk.Keeps others (strays ++ held x.shown)) (es : List Event) :
    ∃ strays', strays'.length ≤ strays.length + refusals es ∧
      (x.after es).desk.Keeps others (strays' ++ held (x.after es).shown) := by
  induction es generalizing x strays with
  | nil => exact ⟨strays, Nat.le_refl _, kept⟩
  | cons e es ih =>
    -- The files that stay behind add up; the handles of the next event are those after this one.
    obtain ⟨strays₁, hlength₁, kept₁⟩ := keeps_step kept e
    obtain ⟨strays₂, hlength₂, kept₂⟩ := ih kept₁
    refine ⟨strays₂, ?_, kept₂⟩
    rw [refusals, List.countP_cons]
    rw [refusals] at hlength₂
    omega

/-! ## Runs -/

theorem keeps_start (d : Desk) : (start d).desk.Keeps d.files ([] ++ held (start d).shown) where
  perm := by rw [List.nil_append, held, start, List.filter_nil, List.map_nil, List.append_nil]
  nodup := List.nodup_nil
  apart := nofun

/-- Every handle that has not been released finds its file. -/
theorem content?_of_keeps (kept : x.desk.Keeps others (strays ++ held x.shown))
    {s : DisplayHandle × ChartArtifact} (mem : s ∈ x.shown) (unreleased : s.1.released = false) :
    x.desk.content? s.1.path = some s.2.data :=
  kept.content?_eq (List.mem_append_right _ (mem_held mem unreleased))

/-- A handle is as it was when another one has been let go of. -/
theorem shown_step_of_ne {j : Nat} (number : e.number? = some i) (ne : j ≠ i) :
    (x.step e).shown[j]? = x.shown[j]? := by
  rw [step_eq_letGo number, letGo]
  split
  · exact List.getElem?_set_ne ne.symm
  · rfl

/-- A display that fails leaves everything as it was, if what was begun may be removed. -/
theorem step_of_failed {o : Opening} {f : Fault} (failed : (x.desk.openBy o a).2 = .error f)
    (obeys : o.refusal = none) : x.step (.display o a) = x := by
  have hopens := Desk.opens_openBy x.desk o a
  rw [step]
  generalize x.desk.openBy o a = r at hopens failed ⊢
  obtain ⟨d, r⟩ := r
  dsimp only at hopens failed
  subst failed
  cases hopens with
  | unbegun nowhere => rfl
  | undone broken => rfl
  | stranded found broken refused =>
    rw [obeys] at refused
    cases refused

/-- **Handles own their files**, whatever is displayed and whichever handles are let go of, in any
order and any number of times. -/
theorem owned_run (d : Desk) (es : List Event) :
    ((start d).after es).Owned d.files (refusals es) := by
  obtain ⟨strays, hlength, kept⟩ := keeps_after (keeps_start d) es
  rw [List.length_nil, Nat.zero_add] at hlength
  -- Everything else is about one state, of which only the invariant is known.
  generalize (start d).after es = x at kept
  constructor
  case exact =>
    intro hzero
    rw [hzero, Nat.le_zero, List.length_eq_zero_iff] at hlength
    rw [hlength, List.nil_append] at kept
    exact kept.perm
  case strays => exact ⟨strays, hlength, kept.perm⟩
  case apart =>
    have hnodup := kept.nodup
    rw [List.map_append] at hnodup
    exact ⟨hnodup.of_append_right, fun f hf => kept.apart f (List.mem_append_right _ hf)⟩
  case content => exact fun s mem unreleased => content?_of_keeps kept mem unreleased
  case unmoved =>
    intro e i j s number ne hs
    obtain ⟨strays', -, kept'⟩ := keeps_step kept e
    have hs' : (x.step e).shown[j]? = some s := (shown_step_of_ne number ne).trans hs
    exact ⟨hs', content?_of_keeps kept' (List.mem_of_getElem? hs')⟩
  case released =>
    intro e i h a number hs
    cases hr : h.released with
    | true =>
      rw [step_of_released number hs hr, hs]
      simp [← hr]
    | false =>
      obtain ⟨hlt, -⟩ := List.getElem?_eq_some_iff.1 hs
      rw [step_of_unreleased number hs hr]
      exact List.getElem?_set_self hlt
  case again => exact fun e i s number hs released => step_of_released number hs released
  case display => exact fun o a => Desk.exists_openBy_iff
  case failed => exact fun o a f failed obeys => step_of_failed failed obeys

/-- The path of a released handle goes to another file, which a second release does not touch. -/
example :
    ((start (.empty true)).after
      [.display ⟨["/a"], .whole, none⟩ ⟨[0x89, 1]⟩, .release 0 none,
        .display ⟨["/a"], .whole, none⟩ ⟨[0x89, 2]⟩, .leave 0 none none]).desk.files =
      [("/a", [0x89, 2])] := by
  decide

end Exhibition
end Plunder
