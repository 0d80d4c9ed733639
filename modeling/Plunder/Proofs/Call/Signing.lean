import Plunder.Call.Signing

/-!
# Signatures as texts

A signature travels as a text, and only the octets that the text spells are checked. Texts differ
where their octets do not: in the case of the digits, in a mark in front, and in white space between
the pairs.

Main statements:
- `verify_eq_true_iff`: when a signature is that of the declared signer
- `verify_iff_of_verified`: of one call exactly the texts that spell the same octets are its
  signature
- `verify_of_sign`: what a signer signs is verified
-/

namespace Plunder

/-! ## Reading a signature -/

private theorem digitChar_ne_x {d : Nat} (h : d < 16) : Text.Hex.digitChar d ≠ 'x' := by
  have : ∀ k : Fin 16, Text.Hex.digitChar k.val ≠ 'x' := by decide
  exact this ⟨d, h⟩

/-- Octets written as digits are read back. -/
theorem signatureOctets?_encode (bs : Bytes) :
    signatureOctets? (Text.Hex.encode bs) = some bs := by
  have hd : Text.Hex.decode (Text.Hex.encodeChars bs) = .ok bs := Text.Hex.decode_encode bs
  rw [signatureOctets?, Text.Hex.encode, String.toList_ofList]
  cases bs with
  | nil => rfl
  | cons b bs =>
    rw [Text.Hex.encodeChars, List.flatMap_cons, Text.Hex.pair] at hd ⊢
    split
    · next rest h =>
      -- No pair of digits looks like the mark.
      simp only [List.cons_append, List.nil_append, List.cons.injEq] at h
      exact (digitChar_ne_x (Nat.mod_lt _ (by decide)) h.2.1).elim
    · rw [hd]
      rfl

/-- A mark in front of the digits does not change what they spell. -/
theorem signatureOctets?_marked (bs : Bytes) :
    signatureOctets? ("0x" ++ Text.Hex.encode bs) = some bs := by
  have hl : ("0x" ++ Text.Hex.encode bs).toList = '0' :: 'x' :: Text.Hex.encodeChars bs := by
    simp [Text.Hex.encode]
  rw [signatureOctets?, hl]
  simp only [Text.Hex.decode_encode, Except.toOption]

/-! ## Checking a signature -/

namespace SignedCall

variable {s s' : SignedCall}

/-- **When a signature is that of the declared signer**: its text is not empty, and the octets that
it spells are what the key pair of the signer makes of the call. -/
theorem verify_eq_true_iff :
    s.verify = .ok true ↔
      s.signature ≠ "" ∧ ∃ hash k, s.call.payloadHash = .ok hash ∧
        Keypair.ofAddress? s.call.signer = some k ∧
          signatureOctets? s.signature = some (k.sign (Text.utf8 hash)) := by
  unfold verify
  by_cases he : s.signature = ""
  · simp [he]
  · have he' : s.signature.isEmpty = false := by simpa using he
    rw [he']
    -- The check takes the hash, the octets and the key pair, and any of the three may be missing.
    rcases s.call.payloadHash with f | hash
    · simp [bind, Except.bind]
    · rcases signatureOctets? s.signature with - | octets
      · simp [bind, Except.bind, pure, Except.pure]
      · rcases Keypair.ofAddress? s.call.signer with - | k
        · simp [bind, Except.bind, pure, Except.pure]
        · simp only [bind, Except.bind, pure, Except.pure, Keypair.verify, Bool.false_eq_true,
            if_false, Except.ok.injEq, beq_iff_eq, Option.some.injEq]
          constructor
          · rintro rfl
            exact ⟨he, hash, k, rfl, rfl, rfl⟩
          · rintro ⟨-, -, -, rfl, rfl, rfl⟩
            rfl

/-- **The texts of one signature**: once a call is verified with one text, it is verified with
exactly those texts that spell the same octets. -/
theorem verify_iff_of_verified (h : s.verify = .ok true) (same : s'.call = s.call) :
    s'.verify = .ok true ↔
      s'.signature ≠ "" ∧ signatureOctets? s'.signature = signatureOctets? s.signature := by
  obtain ⟨-, hash, k, hp, hk, ho⟩ := verify_eq_true_iff.1 h
  rw [verify_eq_true_iff, same, ho]
  constructor
  · -- The hash and the key pair depend on the call alone, so they are the same for both texts.
    rintro ⟨he, hash', k', hp', hk', ho'⟩
    rw [hp] at hp'
    rw [hk] at hk'
    cases hp'
    cases hk'
    exact ⟨he, ho'⟩
  · rintro ⟨he, ho'⟩
    exact ⟨he, hash, k, hp, hk, ho'⟩

end SignedCall

/-! ## What a signer signs -/

/-- Whether what a signer signs is checked with the key pair that it signs with. -/
def Signer.Genuine (s : Signer) : Prop := Keypair.ofAddress? s.address = some s.keypair

namespace Keypair

/-- The text of a signature spells its octets, with a mark in front or without. -/
theorem signatureOctets?_signText (k : Keypair) (data : Bytes) :
    signatureOctets? (k.signText data) = some (k.sign data) := by
  simp only [signText]
  split
  · exact signatureOctets?_marked _
  · exact signatureOctets?_encode _

theorem signText_ne (k : Keypair) (data : Bytes) : k.signText data ≠ "" := by
  intro h
  have hoctets := k.signatureOctets?_signText data
  have hlength : (k.sign data).length = 32 := Sha256.length_digest _
  -- The empty text spells no octets at all.
  rw [h] at hoctets
  rw [← Option.some.inj hoctets] at hlength
  cases hlength

end Keypair

namespace Signer

variable {s : Signer}

/-- **What a genuine signer signs** is the call that it was given, and its signature is verified. -/
theorem verify_of_sign (genuine : s.Genuine) {c : LedgerCall} {signed : SignedCall}
    (h : s.sign c = .ok signed) : signed.call = c ∧ signed.verify = .ok true := by
  unfold sign at h
  split at h
  · cases h
  · next hsigner =>
    rw [ne_eq, Decidable.not_not] at hsigner
    cases hhash : c.payloadHash with
    | error f =>
      rw [hhash] at h
      cases h
    | ok hash =>
      rw [hhash] at h
      cases h
      refine ⟨rfl, SignedCall.verify_eq_true_iff.2
        ⟨s.keypair.signText_ne _, hash, s.keypair, hhash, ?_, ?_⟩⟩
      · rw [hsigner]
        exact genuine
      · exact s.keypair.signatureOctets?_signText _

end Signer

/-! ## Hashes, by way of the sorted form -/

/-- The hash of a value whose fields are in order, formed without a text in between. -/
def Value.hashInOrder? (v : Value) : Option String :=
  (Json.write .compact v).toOption.map fun cs =>
    Text.Hex.encode (Sha256.digest (cs.flatMap String.utf8EncodeChar))

/-- The hash of a value is that of its sorted form. -/
theorem Value.hash_of_sorted {v v' : Value} {hash : String} (sorted : v.sortFields = v')
    (formed : v'.hashInOrder? = some hash) : v.hash = .ok hash := by
  rw [Value.hash, Json.canonical, sorted]
  unfold Value.hashInOrder? at formed
  cases hw : Json.write .compact v' with
  | error f => simp [hw, Except.toOption] at formed
  | ok cs =>
    rw [hw] at formed
    simp only [Except.toOption, Option.map_some, Option.some.injEq] at formed
    simp only [Except.map, Sha256.hexOfText, Text.utf8, String.toList_ofList, formed]

/-- The sorted form of a call whose parameters have the sorted form `params`. -/
def LedgerCall.ordered (c : LedgerCall) (params : Value) : Value :=
  .object [("contract", .text c.contract), ("issued_at", .text c.issuedAt.text),
    ("method", .text c.method), ("nonce", .text c.nonce), ("params", params),
    ("signer", .text c.signer)]

section Ordered

variable {c : LedgerCall} {params : Fields} {params' : Value}

private theorem sorted_plain (plain : Value.plainFields c.params = .ok params)
    (sorted : (Value.object params).sortFields = params') :
    ∃ v, c.plain = .ok v ∧ v.sortFields = c.ordered params' := by
  refine ⟨_, by rw [LedgerCall.plain, plain]; rfl, ?_⟩
  simp only [Value.sortFields] at sorted
  simp [LedgerCall.ordered, Value.sortFields, Value.sortEach, List.mergeSort, sorted]

/-- What is signed of a call, by way of its sorted form. -/
theorem payloadHash_of_ordered (plain : Value.plainFields c.params = .ok params)
    (sorted : (Value.object params).sortFields = params') {hash : String}
    (formed : (c.ordered params').hashInOrder? = some hash) : c.payloadHash = .ok hash := by
  obtain ⟨v, hv, hs⟩ := sorted_plain plain sorted
  rw [LedgerCall.payloadHash, hv]
  exact Value.hash_of_sorted hs formed

/-- The hash of a signed call, by way of the sorted form of the call. -/
theorem txHash_of_ordered (plain : Value.plainFields c.params = .ok params)
    (sorted : (Value.object params).sortFields = params') {signature hash : String}
    (formed : (Value.object [("call", c.ordered params'),
      ("signature", .text signature)]).hashInOrder? = some hash) :
    SignedCall.txHash ⟨c, signature⟩ = .ok ("0x" ++ hash) := by
  obtain ⟨v, hv, hs⟩ := sorted_plain plain sorted
  have hform : (Value.object [("call", v), ("signature", .text signature)]).sortFields =
      .object [("call", c.ordered params'), ("signature", .text signature)] := by
    simp [Value.sortFields, Value.sortEach, List.mergeSort, hs]
  rw [SignedCall.txHash, SignedCall.plain, hv]
  exact congrArg (Except.map _) (Value.hash_of_sorted hform formed)

end Ordered
end Plunder
