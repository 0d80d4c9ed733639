import Mathlib.Data.List.Nodup
import Mathlib.Data.List.Perm.Basic
import Plunder.Proofs.Value.RoundTrip

/-!
# Values up to the order of their fields

The canonical text of a value forgets in which order its fields came, and nothing else. Two
arguments meet here: sorting erases the order at every level and no more, and a text can be read
back in one way only.

Main statements:
- `sortFields_eq_of_reordered`, `reordered_of_sortFields_eq`: sorting erases the order of the fields,
  and nothing but it
- `exists_canonical`: a value that comes back from its text has a canonical text, out of which its
  sorted form is read
- `canonical_identifies`: two canonical texts agree exactly for values that agree up to the order of
  their fields
-/

namespace Plunder

/-! ## Definitions -/

mutual

/-- Equality up to the order in which the fields of objects come, at every level. -/
inductive Value.Reordered : Value → Value → Prop where
  | null : Reordered .null .null
  | bool (b : Bool) : Reordered (.bool b) (.bool b)
  | int (n : Int) : Reordered (.int n) (.int n)
  | float (x : Binary64) : Reordered (.float x) (.float x)
  | text (s : String) : Reordered (.text s) (.text s)
  | octets (kind : OctetKind) (bs : Bytes) : Reordered (.octets kind bs) (.octets kind bs)
  | list {xs ys : List Value} (items : ItemsReordered xs ys) : Reordered (.list xs) (.list ys)
  | tuple {xs ys : List Value} (items : ItemsReordered xs ys) : Reordered (.tuple xs) (.tuple ys)
  /-- The fields are brought into another order, and then agree one by one. -/
  | object {fs hs gs : List (String × Value)} (order : fs.Perm hs)
      (fields : FieldsReordered hs gs) : Reordered (.object fs) (.object gs)

/-- Items that agree one by one. -/
inductive Value.ItemsReordered : List Value → List Value → Prop where
  | nil : ItemsReordered [] []
  | cons {v w : Value} {xs ys : List Value} (item : Value.Reordered v w)
      (items : ItemsReordered xs ys) : ItemsReordered (v :: xs) (w :: ys)

/-- Fields that have the same names and agree one by one. -/
inductive Value.FieldsReordered : List (String × Value) → List (String × Value) → Prop where
  | nil : FieldsReordered [] []
  | cons {v w : Value} {fs gs : List (String × Value)} (name : String)
      (value : Value.Reordered v w) (fields : FieldsReordered fs gs) :
      FieldsReordered ((name, v) :: fs) ((name, w) :: gs)

end

namespace Value

theorem haveComeBack_iff {fs : Fields} :
    haveComeBack fs = true ↔ ∀ f ∈ fs, f.2.comesBack = true := by
  induction fs with
  | nil => simp [haveComeBack]
  | cons f fs ih => rw [haveComeBack, Bool.and_eq_true, List.forall_mem_cons, ih]

/-! ## Fields in order of their names -/

/-- The fields of an object in increasing order of the names. -/
def inOrder (fs : Fields) : Fields := fs.mergeSort fun f g => f.1 ≤ g.1

theorem sortFields_object (fs : Fields) :
    (object fs).sortFields = .object (inOrder (sortEach fs)) := by
  rw [sortFields, inOrder]

theorem sortEach_eq_map (fs : Fields) : sortEach fs = fs.map fun f => (f.1, f.2.sortFields) := by
  induction fs with
  | nil => rfl
  | cons f fs ih => rw [sortEach, List.map_cons, ih]

theorem inOrder_perm (fs : Fields) : (inOrder fs).Perm fs := List.mergeSort_perm fs _

/-- Sorting the values keeps the names. -/
theorem names_sortEach (fs : Fields) : (sortEach fs).map (·.1) = fs.map (·.1) := by
  rw [sortEach_eq_map, List.map_map]
  rfl

theorem pairwise_inOrder (fs : Fields) : (inOrder fs).Pairwise fun f g => f.1 ≤ g.1 := by
  have htrans : ∀ a b c : String × Value, decide (a.1 ≤ b.1) = true → decide (b.1 ≤ c.1) = true →
      decide (a.1 ≤ c.1) = true := by
    simp only [decide_eq_true_eq]
    exact fun a b c => String.le_trans
  have htotal : ∀ a b : String × Value, (decide (a.1 ≤ b.1) || decide (b.1 ≤ a.1)) = true := by
    simp only [Bool.or_eq_true, decide_eq_true_eq]
    exact fun a b => String.le_total a.1 b.1
  exact (List.pairwise_mergeSort htrans htotal fs).imp of_decide_eq_true

/-- Fields under distinct names have one increasing order, in whatever order they come. -/
theorem inOrder_eq_of_perm {fs gs : Fields} (nodup : (fs.map (·.1)).Nodup) (h : fs.Perm gs) :
    inOrder fs = inOrder gs := by
  have hperm : (inOrder fs).Perm (inOrder gs) :=
    (inOrder_perm fs).trans (h.trans (inOrder_perm gs).symm)
  refine hperm.eq_of_pairwise ?_ (pairwise_inOrder fs) (pairwise_inOrder gs)
  intro f g hf hg hfg hgf
  -- Two fields that stand in front of each other have one name, and so are one field.
  have hf' : f ∈ fs := (inOrder_perm fs).mem_iff.1 hf
  have hg' : g ∈ fs := h.mem_iff.2 ((inOrder_perm gs).mem_iff.1 hg)
  exact List.inj_on_of_nodup_map nodup hf' hg' (String.le_antisymm hfg hgf)

/-! ## Sorting erases the order -/

/-- Fields that agree one by one have the same sorted values, where every value does. -/
theorem sortEach_eq_of_fieldsReordered {hs gs : Fields} (h : FieldsReordered hs gs)
    (each : ∀ f ∈ hs, ∀ w, f.2.Reordered w → f.2.sortFields = w.sortFields) :
    sortEach hs = sortEach gs := by
  induction hs generalizing gs with
  | nil =>
    cases h
    rfl
  | cons f hs ih =>
    cases h with
    | @cons v w _ gs name value fields =>
      have hvalue : v.sortFields = w.sortFields := each (name, v) List.mem_cons_self w value
      have hfields : sortEach hs = sortEach gs :=
        ih fields fun g hg => each g (List.mem_cons_of_mem _ hg)
      rw [sortEach, sortEach, hvalue, hfields]

mutual

/-- **Sorting erases the order of the fields**: values that agree up to it have one sorted form. -/
theorem sortFields_eq_of_reordered : (v : Value) → v.comesBack = true → ∀ w, v.Reordered w →
    v.sortFields = w.sortFields
  | .null, _, _, .null => rfl
  | .bool _, _, _, .bool _ => rfl
  | .int _, _, _, .int _ => rfl
  | .text _, _, _, .text _ => rfl
  | .list xs, hback, _, .list items => by
    rw [sortFields, sortFields, sortItems_eq_of_reordered xs hback _ items]
  | .object fs, hback, _, @Reordered.object _ hs gs order fields => by
    rw [comesBack, Bool.and_eq_true, decide_eq_true_eq] at hback
    obtain ⟨hnodup, hvalues⟩ := hback
    have heach := sortFields_eq_of_mem fs hvalues
    -- Once the fields are in the order of the others, they agree with them one by one.
    have hsorted : sortEach hs = sortEach gs :=
      sortEach_eq_of_fieldsReordered fields fun f hf => heach f (order.mem_iff.2 hf)
    have hperm : (sortEach fs).Perm (sortEach gs) := by
      rw [← hsorted, sortEach_eq_map, sortEach_eq_map]
      exact order.map _
    rw [sortFields_object, sortFields_object]
    exact congrArg object (inOrder_eq_of_perm (by rwa [names_sortEach]) hperm)
  | .float _, hback, _, _ => by simp [comesBack] at hback
  | .octets _ _, hback, _, _ => by simp [comesBack] at hback
  | .tuple _, hback, _, _ => by simp [comesBack] at hback

theorem sortItems_eq_of_reordered : (xs : List Value) → comeBack xs = true → ∀ ys,
    ItemsReordered xs ys → sortItems xs = sortItems ys
  | [], _, _, .nil => rfl
  | x :: xs, hback, _, @ItemsReordered.cons _ y _ ys item items => by
    rw [comeBack, Bool.and_eq_true] at hback
    rw [sortItems, sortItems, sortFields_eq_of_reordered x hback.1 y item,
      sortItems_eq_of_reordered xs hback.2 ys items]

theorem sortFields_eq_of_mem : (fs : List (String × Value)) → haveComeBack fs = true →
    ∀ f ∈ fs, ∀ w, f.2.Reordered w → f.2.sortFields = w.sortFields
  | [], _ => nofun
  | (_, v) :: fs, hback => by
    rw [haveComeBack, Bool.and_eq_true] at hback
    exact List.forall_mem_cons.2 ⟨sortFields_eq_of_reordered v hback.1,
      sortFields_eq_of_mem fs hback.2⟩

end

/-! ## Sorting erases nothing else -/

/-- Fields whose sorted values are the same agree one by one, where every value does. -/
theorem fieldsReordered_of_sortEach_eq {hs gs : Fields} (h : sortEach hs = sortEach gs)
    (each : ∀ f ∈ hs, ∀ w, f.2.sortFields = w.sortFields → f.2.Reordered w) :
    FieldsReordered hs gs := by
  induction hs generalizing gs with
  | nil =>
    cases gs with
    | nil => exact .nil
    | cons g gs => simp [sortEach] at h
  | cons f hs ih =>
    cases gs with
    | nil => simp [sortEach] at h
    | cons g gs =>
      obtain ⟨name, v⟩ := f
      obtain ⟨name', w⟩ := g
      simp only [sortEach, List.cons.injEq, Prod.mk.injEq] at h
      obtain ⟨⟨rfl, hvalue⟩, hfields⟩ := h
      have hrest : FieldsReordered hs gs :=
        ih hfields fun f hf => each f (List.mem_cons_of_mem _ hf)
      exact .cons name (each (name, v) List.mem_cons_self w hvalue) hrest

/-- Fields with the same sorted form can be brought into an order in which their sorted values are
the same one by one. -/
theorem exists_perm_of_inOrder_eq {fs gs : Fields}
    (h : inOrder (sortEach fs) = inOrder (sortEach gs)) :
    ∃ hs, fs.Perm hs ∧ sortEach hs = sortEach gs := by
  have hperm : (sortEach fs).Perm (sortEach gs) := by
    have hgs := inOrder_perm (sortEach gs)
    rw [← h] at hgs
    exact (inOrder_perm _).symm.trans hgs
  have hmap : (sortEach gs).Perm (fs.map fun f => (f.1, f.2.sortFields)) := by
    rw [← sortEach_eq_map]
    exact hperm.symm
  -- A rearrangement of the sorted fields comes from one of the fields themselves.
  have hcomp := List.eq_map_comp_perm fun f : String × Value => (f.1, f.2.sortFields)
  obtain ⟨hs, hsorted, hfs⟩ := (congrFun (congrFun hcomp (sortEach gs)) fs).mpr hmap
  exact ⟨hs, hfs.symm, by rw [sortEach_eq_map hs, hsorted]⟩

mutual

/-- **Sorting erases nothing but the order of the fields.** -/
theorem reordered_of_sortFields_eq : (v w : Value) → v.sortFields = w.sortFields → v.Reordered w
  | .list xs, w, h => by
    cases w with
    | list ys =>
      rw [sortFields, sortFields, list.injEq] at h
      exact .list (reordered_of_sortItems_eq xs ys h)
    | _ => simp [sortFields] at h
  | .tuple xs, w, h => by
    cases w with
    | tuple ys =>
      rw [sortFields, sortFields, tuple.injEq] at h
      exact .tuple (reordered_of_sortItems_eq xs ys h)
    | _ => simp [sortFields] at h
  | .object fs, w, h => by
    cases w with
    | object gs =>
      rw [sortFields_object, sortFields_object, object.injEq] at h
      obtain ⟨hs, horder, hsorted⟩ := exists_perm_of_inOrder_eq h
      refine .object horder (fieldsReordered_of_sortEach_eq hsorted fun f hf => ?_)
      exact reordered_of_mem fs f (horder.mem_iff.2 hf)
    | _ => simp [sortFields] at h
  | .null, w, h => by
    cases w <;> simp [sortFields] at h
    exact .null
  | .bool b, w, h => by
    cases w <;> simp [sortFields] at h
    exact h ▸ .bool b
  | .int n, w, h => by
    cases w <;> simp [sortFields] at h
    exact h ▸ .int n
  | .float x, w, h => by
    cases w <;> simp [sortFields] at h
    exact h ▸ .float x
  | .text s, w, h => by
    cases w <;> simp [sortFields] at h
    exact h ▸ .text s
  | .octets kind bs, w, h => by
    cases w <;> simp [sortFields] at h
    exact h.1 ▸ h.2 ▸ .octets kind bs

theorem reordered_of_sortItems_eq : (xs ys : List Value) → sortItems xs = sortItems ys →
    ItemsReordered xs ys
  | [], [], _ => .nil
  | x :: xs, y :: ys, h => by
    rw [sortItems, sortItems, List.cons.injEq] at h
    exact .cons (reordered_of_sortFields_eq x y h.1) (reordered_of_sortItems_eq xs ys h.2)
  | [], _ :: _, h => by simp [sortItems] at h
  | _ :: _, [], h => by simp [sortItems] at h

theorem reordered_of_mem : (fs : List (String × Value)) → ∀ f ∈ fs, ∀ w,
    f.2.sortFields = w.sortFields → f.2.Reordered w
  | [] => nofun
  | (_, v) :: fs => List.forall_mem_cons.2 ⟨reordered_of_sortFields_eq v, reordered_of_mem fs⟩

end

/-! ## Sorted forms come back -/

mutual

/-- The sorted form of a value that comes back comes back too. -/
theorem comesBack_sortFields : (v : Value) → v.comesBack = true → v.sortFields.comesBack = true
  | .null, h | .bool _, h | .int _, h | .text _, h => h
  | .list xs, h => comeBack_sortItems xs h
  | .object fs, h => by
    rw [comesBack, Bool.and_eq_true, decide_eq_true_eq] at h
    have hperm := inOrder_perm (sortEach fs)
    have hnodup : ((inOrder (sortEach fs)).map (·.1)).Nodup := by
      rw [(hperm.map _).nodup_iff, names_sortEach]
      exact h.1
    have hvalues : haveComeBack (inOrder (sortEach fs)) = true :=
      haveComeBack_iff.2 fun f hf => comesBack_sortEach fs h.2 f (hperm.mem_iff.1 hf)
    rw [sortFields_object, comesBack, Bool.and_eq_true, decide_eq_true_eq]
    exact ⟨hnodup, hvalues⟩
  | .float _, h => by simp [comesBack] at h
  | .octets _ _, h => by simp [comesBack] at h
  | .tuple _, h => by simp [comesBack] at h

theorem comeBack_sortItems : (xs : List Value) → comeBack xs = true →
    comeBack (sortItems xs) = true
  | [], _ => rfl
  | x :: xs, h => by
    rw [comeBack, Bool.and_eq_true] at h
    rw [sortItems, comeBack, Bool.and_eq_true]
    exact ⟨comesBack_sortFields x h.1, comeBack_sortItems xs h.2⟩

theorem comesBack_sortEach : (fs : List (String × Value)) → haveComeBack fs = true →
    ∀ f ∈ sortEach fs, f.2.comesBack = true
  | [], _ => nofun
  | (_, v) :: fs, h => by
    rw [haveComeBack, Bool.and_eq_true] at h
    exact List.forall_mem_cons.2 ⟨comesBack_sortFields v h.1, comesBack_sortEach fs h.2⟩

end

end Value

/-! ## Canonical texts -/

namespace Json

theorem Style.blank_compact : Style.compact.Blank := ⟨nofun, nofun⟩

/-- A value that comes back has a canonical text, out of which its sorted form is read. -/
theorem exists_canonical {v : Value} (h : v.comesBack = true) :
    ∃ text, canonical v = .ok text ∧ read text = .ok v.sortFields := by
  obtain ⟨cs, hcs, hread, -⟩ := exists_write Style.blank_compact (v.comesBack_sortFields h)
  exact ⟨String.ofList cs, by rw [canonical, hcs]; rfl, hread⟩

/-- What has the canonical text of another value is that value up to the order of its fields. -/
theorem reordered_of_canonical_eq {v w : Value} (hv : v.comesBack = true)
    (hw : w.comesBack = true) (h : canonical v = canonical w) : v.Reordered w := by
  obtain ⟨text, htext, hread⟩ := exists_canonical hv
  obtain ⟨text', htext', hread'⟩ := exists_canonical hw
  rw [htext, htext', Except.ok.injEq] at h
  rw [h, hread', Except.ok.injEq] at hread
  exact v.reordered_of_sortFields_eq w hread.symm

/-- Values that agree up to the order of their fields have one canonical text. -/
theorem canonical_eq_of_reordered {v w : Value} (hv : v.comesBack = true) (h : v.Reordered w) :
    canonical v = canonical w := by
  rw [canonical, canonical, v.sortFields_eq_of_reordered hv w h]

/-- **The canonical text identifies the value**, up to the order of its fields at every level. -/
theorem canonical_identifies {v w : Value} (hv : v.comesBack = true) (hw : w.comesBack = true) :
    ∃ text text', canonical v = .ok text ∧ canonical w = .ok text' ∧
      (text = text' ↔ v.Reordered w) := by
  obtain ⟨text, htext, -⟩ := exists_canonical hv
  obtain ⟨text', htext', -⟩ := exists_canonical hw
  refine ⟨text, text', htext, htext', ?_, ?_⟩
  · rintro rfl
    exact reordered_of_canonical_eq hv hw (htext.trans htext'.symm)
  · intro h
    have heq := canonical_eq_of_reordered hv h
    rwa [htext, htext', Except.ok.injEq] at heq

/-- A chart with a mark on it, whose fields and those of the mark come in two orders. -/
theorem canonical_identifies_chart :
    let mark : Value := .object [("é", .int (-3)), ("x", .null)]
    let mark' : Value := .object [("x", .null), ("é", .int (-3))]
    let chart : Value := .object [("title", .text "𝄞\n"), ("marks", .list [mark, .bool true])]
    let chart' : Value := .object [("marks", .list [mark', .bool true]), ("title", .text "𝄞\n")]
    chart.comesBack = true ∧ chart'.comesBack = true ∧ ∃ text,
      canonical chart = .ok text ∧ canonical chart' = .ok text := by
  intro mark mark' chart chart'
  have hback : chart.comesBack = true := by decide
  have hback' : chart'.comesBack = true := by decide
  have hmark : mark.Reordered mark' :=
    .object (List.Perm.swap _ _ _) (.cons _ .null (.cons _ (.int _) .nil))
  have hmarks : Value.ItemsReordered [mark, .bool true] [mark', .bool true] :=
    .cons hmark (.cons (.bool true) .nil)
  have hchart : chart.Reordered chart' :=
    .object (List.Perm.swap _ _ _) (.cons _ (.list hmarks) (.cons _ (.text _) .nil))
  obtain ⟨text, text', htext, htext', hiff⟩ := canonical_identifies hback hback'
  exact ⟨hback, hback', text, htext, by rw [htext', hiff.2 hchart]⟩

end Json
end Plunder
