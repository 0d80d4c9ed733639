import Mathlib.Data.List.Basic
import Plunder.Proofs.Ledger.Run

/-!
# The ledger only moves forward

Rounds are counted up, and within a round more and more participants have reported. So later
readings of the ledger are never behind earlier ones.

Main statements:
- `Onward.run`: whatever happens, the ledger moves forward
- `Onward.outstanding_sublist`: within a round, nobody becomes outstanding again
-/

namespace Plunder.Ledger

/-- `l.Onward l'`: the ledger `l'` is not behind `l`. -/
structure Onward (l l' : Ledger) : Prop where
  setup_eq : l'.setup = l.setup
  round_le : l.round ≤ l'.round
  reported_subset : l'.round = l.round → l.reported ⊆ l'.reported

namespace Onward

variable {l l' l'' : Ledger}

theorem refl (l : Ledger) : l.Onward l := ⟨rfl, Int.le_refl _, fun _ => List.Subset.refl _⟩

theorem trans (h : l.Onward l') (h' : l'.Onward l'') : l.Onward l'' where
  setup_eq := h'.setup_eq.trans h.setup_eq
  round_le := Int.le_trans h.round_le h'.round_le
  reported_subset := by
    intro heq
    -- The round in between is the same one.
    have hle := h.round_le
    have hle' := h'.round_le
    have h₁ : l'.round = l.round := by omega
    have h₂ : l''.round = l'.round := by omega
    exact List.Subset.trans (h.reported_subset h₁) (h'.reported_subset h₂)

/-- Within a round, nobody becomes outstanding again. -/
theorem outstanding_sublist (h : l.Onward l') (same : l'.round = l.round) :
    l'.outstanding.Sublist l.outstanding := by
  unfold outstanding
  rw [h.setup_eq]
  apply List.monotone_filter_right
  intro p hp
  simp only [Bool.not_eq_true', List.contains_eq_mem, decide_eq_false_iff_not] at hp ⊢
  exact fun hmem => hp (h.reported_subset same hmem)

/-- An effect counts the round up or adds to those who have reported in it. -/
theorem effect (l : Ledger) (e : Effect) : l.Onward (l.effect e) := by
  cases e with
  | credit address amount =>
    exact ⟨rfl, Int.le_refl _, fun _ => List.subset_append_left _ _⟩
  | advance =>
    refine ⟨rfl, ?_, ?_⟩
    · show l.round ≤ l.round + 1
      omega
    · intro heq
      replace heq : l.round + 1 = l.round := heq
      omega

theorem settle (l : Ledger) (d : Applied) : l.Onward (l.settle d) := by
  unfold Ledger.settle enact
  cases d.verdict with
  | ok e =>
    have h := effect l e
    exact ⟨h.setup_eq, h.round_le, h.reported_subset⟩
  | error r => exact ⟨rfl, Int.le_refl _, fun _ => List.Subset.refl _⟩

theorem batch {ds : List Applied} (h : Batch l ds l') : l.Onward l' := by
  induction h with
  | nil l => exact refl l
  | @cons l l' d ds _ _ _ ih => exact (settle l d).trans ih

theorem produceBlock (l : Ledger) : l.Onward l.produceBlock.ledger := by
  obtain ⟨ds, lost, -, hb, -⟩ := produceBlock_spec l
  have h := batch hb
  exact ⟨h.setup_eq, h.round_le, h.reported_subset⟩

theorem step (l : Ledger) (e : Event) : l.Onward (l.step e) :=
  step_preserves (P := fun l' => l.Onward l') (refl l)
    (fun _ _ _ h => ⟨h.setup_eq, h.round_le, h.reported_subset⟩)
    (fun l' h => h.trans (produceBlock l')) e

/-- **Whatever happens, the ledger moves forward.** -/
theorem run (l : Ledger) (es : List Event) : l.Onward (l.run es) := by
  induction es generalizing l with
  | nil => exact refl l
  | cons e es ih => exact (step l e).trans (ih (l.step e))

end Onward
end Plunder.Ledger
