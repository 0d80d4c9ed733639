import Plunder.Proofs.Form
import Plunder.Proofs.Value.Reading
import Plunder.Proofs.Value.RoundTrip
import Plunder.Wire.Client

/-!
# What a client makes of replies

A reply of any status and any text either brings a result, or refuses one, or is garbled in a way
that the client does not expect. A result stands for an answer of the method that was asked for; the
client is lenient about it, and takes a missing list of addresses or names for an empty one.

Main statements:
- `readReply_cases`: what a reply is, before its result is looked at
- `answerOf_eq_ok_iff`: which results stand for which answers
- `gateway_answerOf_iff`: which results the client blames on the gateway
- `received_reply`: what the client makes of any reply
-/

namespace Plunder

/-! ## Definitions -/

namespace Wire

/-- Whether a reply brings a result: its text is an object with a result, and an error in it counts
as nothing. -/
def HttpReply.Brings (r : HttpReply) (result : Value) : Prop :=
  r.status = okStatus ∧ ∃ fs, Json.readMarked r.text = .ok (.object fs) ∧
    (∀ e, Fields.get? fs "error" = some e → e.isVoid = true) ∧
      Fields.get? fs "result" = some result

/-- Whether a reply refuses a result in a way that the client expects. -/
inductive HttpReply.Refuses (r : HttpReply) : Prop where
  | status (other : r.status ≠ okStatus)
  | illegible {f : Json.ReadFault} (read : Json.readMarked r.text = .error f)
  | error {fs es : Fields} (read : Json.readMarked r.text = .ok (.object fs))
      (error : fs.get? "error" = some (.object es)) (some : es ≠ [])
  | nothing {fs : Fields} (read : Json.readMarked r.text = .ok (.object fs))
      (void : ∀ e, fs.get? "error" = some e → e.isVoid = true)
      (absent : fs.get? "result" = none)

/-- What a result lists under a name: the parts of what is there, or nothing if nothing is there. -/
def Lists (fs : Fields) (name : String) (vs : List Value) : Prop :=
  (fs.get? name = none ∧ vs = []) ∨ ∃ v, fs.get? name = some v ∧ partsOf? v = some vs

/-- The participants that addresses and names stand for, one by one. -/
structure Names (addresses names : List Value) (ps : List Participant) : Prop where
  addresses_eq : addresses = ps.map fun p => .text p.address
  names_eq : names = ps.map fun p => .text p.name
  named : ∀ p ∈ ps, p.address ≠ ""

/-- The loot of one participant in a result; anything that spells a whole number stands for it. -/
def IsLoot (v : Value) (r : LootRecord) : Prop :=
  ∃ (fs : Fields) (w : Value), v = .object fs ∧ fs.get? "name" = some (.text r.name) ∧
    fs.get? "participant" = some (.text r.participant) ∧ fs.get? "loot" = some w ∧
      w.toWhole = .ok (r.loot : Int)

/-- The fields of a receipt. The number of the block and the reason may be missing. -/
structure IsReceipt (fs : Fields) (r : TransactionReceipt) : Prop where
  txHash : fs.get? "tx_hash" = some (.text r.txHash)
  status : fs.get? "status" = some (.text r.status.text)
  block : (fs.get? "block" = none ∧ r.block = none) ∨
    ∃ v, fs.get? "block" = some v ∧
      ((v = .null ∧ r.block = none) ∨ ∃ n, v ≠ .null ∧ Form.whole v = .ok n ∧ r.block = some n)
  reason : (fs.get? "reason" = none ∧ r.reason = "") ∨ fs.get? "reason" = some (.text r.reason)

/-- What the results of each method stand for. -/
inductive Stands : GatewayCall → Value → Answer → Prop where
  | round {v : Value} {n : Int} (whole : v.toWhole = .ok n) : Stands .round v (.round (.int n))
  | outstanding {fs : Fields} {addresses names : List Value} {ps : List Participant}
      (addresses_in : Lists fs "addresses" addresses) (names_in : Lists fs "names" names)
      (participants : Names addresses names ps) :
      Stands .outstanding (.object fs) (.outstanding ps)
  | lootTotals {v : Value} {vs : List Value} {rs : List LootRecord} (parts : partsOf? v = some vs)
      (loot : List.Forall₂ IsLoot vs rs) : Stands .lootTotals v (.lootTotals rs)
  | chart (v : Value) : Stands .chart v (.chart v)
  | submit {s : SignedCall} {fs : Fields} {hash : String}
      (txHash : fs.get? "tx_hash" = some (.text hash)) :
      Stands (.submit s) (.object fs) (.handle ⟨hash, s.call.method⟩)
  | finality {h : TransactionHandle} {fs : Fields} {r : TransactionReceipt}
      (receipt : IsReceipt fs r) : Stands (.finality h) (.object fs) (.receipt r)

/-- Whether a result lists more addresses than names, or fewer. -/
def Uneven : GatewayCall → Value → Prop
  | .outstanding, .object fs => ∃ addresses names, Lists fs "addresses" addresses ∧
      Lists fs "names" names ∧ addresses.length ≠ names.length
  | _, _ => False

/-- Whether a computation never blames the gateway. -/
def Spares {α : Type} (x : Except Fault α) : Prop := ∀ f, x = .error f → f.kind ≠ .gateway

/-- What the results of the shape denote that is laid down for each method. -/
inductive Denotes : GatewayCall → Value → Answer → Prop where
  | round (n : Int) : Denotes .round (.int n) (.round (.int n))
  | outstanding {fs : Fields} {ps : List Participant}
      (addresses : fs.get? "addresses" = some (.list (ps.map fun p => .text p.address)))
      (names : fs.get? "names" = some (.list (ps.map fun p => .text p.name)))
      (named : ∀ p ∈ ps, p.address ≠ "") : Denotes .outstanding (.object fs) (.outstanding ps)
  | lootTotals {vs : List Value} {rs : List LootRecord}
      (loot : List.Forall₂ (fun v r => IsLoot v r ∧ ∃ (fs : Fields) (s : String),
        v = .object fs ∧ fs.get? "loot" = some (.text s)) vs rs) :
      Denotes .lootTotals (.list vs) (.lootTotals rs)
  | chart (v : Value) : Denotes .chart v (.chart v)
  | submit {s : SignedCall} {fs : Fields} {hash : String}
      (txHash : fs.get? "tx_hash" = some (.text hash)) :
      Denotes (.submit s) (.object fs) (.handle ⟨hash, s.call.method⟩)
  | finality {h : TransactionHandle} {fs : Fields} {r : TransactionReceipt}
      (receipt : IsReceipt fs r)
      (block : ∀ v, fs.get? "block" = some v → v = .null ∨ ∃ n, v = .int n) :
      Denotes (.finality h) (.object fs) (.receipt r)

/-- Whether a reply is garbled: its text is no object, or the error in it is none. -/
inductive HttpReply.Garbled (r : HttpReply) : Prop where
  | shapeless {v : Value} (status : r.status = okStatus) (read : Json.readMarked r.text = .ok v)
      (shape : v.object? = none) : Garbled r
  | error {fs : Fields} {e : Value} (status : r.status = okStatus)
      (read : Json.readMarked r.text = .ok (.object fs)) (error : fs.get? "error" = some e)
      (some : e.isVoid = false) (shape : e.object? = none) : Garbled r

/-- What a client makes of a reply to a question. -/
structure Received (c : GatewayCall) (r : HttpReply) : Prop where
  /-- There is an answer exactly if the reply brings a result that stands for it. -/
  answered : ∀ a, answerIn c r = .ok a ↔ ∃ v, r.Brings v ∧ Stands c v a
  /-- The result of the shape that is laid down is read as what it denotes. -/
  documented : ∀ v a, r.Brings v → Denotes c v a → answerIn c r = .ok a
  /-- The client tells of a failure of the gateway exactly if the reply refuses, or the lists of
  addresses and names in it differ in length. -/
  refused : (∃ f, answerIn c r = .error f ∧ f.kind = .gateway) ↔
    r.Refuses ∨ ∃ v, r.Brings v ∧ Uneven c v
  /-- There is another fault exactly if the reply is garbled, or its result stands for nothing. -/
  escaped : (∃ f, answerIn c r = .error f ∧ f.kind ≠ .gateway) ↔
    r.Garbled ∨ ∃ v, r.Brings v ∧ (∀ a, ¬Stands c v a) ∧ ¬Uneven c v
  /-- Everybody is taken to have reported exactly if there are neither addresses nor names, be it
  that they are missing. -/
  deserted : c = .outstanding → (answerIn c r = .ok (.outstanding []) ↔
    ∃ fs, r.Brings (.object fs) ∧ Lists fs "addresses" [] ∧ Lists fs "names" [])

/-! ## Replies -/

section Replies

variable {m : GatewayMethod} {r : HttpReply} {v : Value}

/-- **A reply brings a result, refuses one, or is garbled**, and the client tells which. -/
theorem readReply_cases (m : GatewayMethod) (r : HttpReply) :
    (∃ v, readReply m r = .ok v ∧ r.Brings v) ∨
      (∃ f, readReply m r = .error f ∧ f.kind = .gateway ∧ r.Refuses) ∨
        ∃ f, readReply m r = .error f ∧ f.kind ≠ .gateway ∧ r.Garbled := by
  unfold readReply
  split
  · next hstatus => exact .inr (.inl ⟨_, rfl, rfl, .status hstatus⟩)
  · next hstatus =>
    rw [Decidable.not_not] at hstatus
    split
    · next f hread => exact .inr (.inl ⟨_, rfl, rfl, .illegible hread⟩)
    · next fs hread =>
      -- A missing error is as good as one that counts as nothing.
      have hvoid (h : (((Fields.get? fs "error").getD .null).isVoid) = true) :
          ∀ e, Fields.get? fs "error" = some e → e.isVoid = true := by
        intro e he
        rwa [he] at h
      dsimp only
      split
      · next herror =>
        obtain ⟨e, he, hnonvoid⟩ : ∃ e, Fields.get? fs "error" = some e ∧ e.isVoid = false := by
          cases he : Fields.get? fs "error" with
          | none =>
            rw [he] at herror
            cases herror
          | some e =>
            rw [he] at herror
            exact ⟨e, rfl, by simpa using herror⟩
        rw [he, Option.getD_some]
        cases e with
        | object es =>
          refine .inr (.inl ⟨_, rfl, rfl, .error hread he ?_⟩)
          rintro rfl
          cases hnonvoid
        | _ => exact .inr (.inr ⟨_, rfl, nofun, .error hstatus hread he hnonvoid rfl⟩)
      · next herror =>
        have hvoid := hvoid (by simpa using herror)
        split
        · next v hv => exact .inl ⟨v, rfl, hstatus, fs, hread, hvoid, hv⟩
        · next hnone => exact .inr (.inl ⟨_, rfl, rfl, .nothing hread hvoid hnone⟩)
    · next v hshape hread =>
      refine .inr (.inr ⟨_, rfl, nofun, .shapeless hstatus hread ?_⟩)
      cases v with
      | object fs => exact (hshape fs rfl).elim
      | _ => rfl

theorem readReply_of_brings (h : r.Brings v) : readReply m r = .ok v := by
  obtain ⟨hstatus, fs, hread, hvoid, hresult⟩ := h
  have herror : ((Fields.get? fs "error").getD .null).isVoid = true := by
    cases he : Fields.get? fs "error" with
    | none => rfl
    | some e => exact hvoid e he
  simp [readReply, hstatus, hread, herror, hresult]

theorem not_brings_of_refuses (h : r.Refuses) : ¬r.Brings v := by
  rintro ⟨hstatus, fs, hread, hvoid, hresult⟩
  cases h with
  | status other => exact other hstatus
  | illegible read =>
    rw [hread] at read
    cases read
  | error read error some =>
    rw [hread] at read
    cases read
    exact some (List.isEmpty_iff.1 (hvoid _ error))
  | nothing read void absent =>
    rw [hread] at read
    cases read
    rw [absent] at hresult
    cases hresult

theorem not_brings_of_garbled (h : r.Garbled) : ¬r.Brings v := by
  rintro ⟨hstatus, fs, hread, hvoid, hresult⟩
  cases h with
  | shapeless status read shape =>
    rw [hread] at read
    cases read
    cases shape
  | error status read error some shape =>
    rw [hread] at read
    cases read
    rw [hvoid _ error] at some
    cases some

theorem not_refuses_of_garbled (h : r.Garbled) : ¬r.Refuses := by
  intro h'
  cases h with
  | shapeless status read shape =>
    cases h' with
    | status other => exact other status
    | illegible read' =>
      rw [read] at read'
      cases read'
    | error read' error some =>
      rw [read] at read'
      cases read'
      cases shape
    | nothing read' void absent =>
      rw [read] at read'
      cases read'
      cases shape
  | error status read error some shape =>
    cases h' with
    | status other => exact other status
    | illegible read' =>
      rw [read] at read'
      cases read'
    | error read' error' _ =>
      rw [read] at read'
      cases read'
      rw [error] at error'
      cases error'
      cases shape
    | nothing read' void absent =>
      rw [read] at read'
      cases read'
      rw [void _ error] at some
      cases some

end Replies
end Wire

/-! ## Fields of JSON -/

namespace Form

variable {v : Value} {fs : Fields} {name : String}

/-- A member of an enumeration that has to be there, by its text. -/
theorem field_status_eq_ok_iff {st : ReceiptStatus} :
    field fs name (memberOf ReceiptStatus.ofText?) = .ok st ↔
      fs.get? name = some (.text st.text) := by
  rw [field_eq_ok_iff]
  constructor
  · rintro ⟨v, hv, hst⟩
    unfold memberOf at hst
    split at hst
    · next st' hmember =>
      cases hst
      obtain ⟨t, ht, hst⟩ := Option.bind_eq_some_iff.1 hmember
      have htext : st.text = t := by simpa using List.find?_some hst
      cases v <;> cases ht
      rw [hv, htext]
    · cases hst
  · exact fun h => ⟨_, h, by cases st <;> rfl⟩

/-- A whole number that may be null. -/
theorem optionalWhole_eq_ok_iff {n : Option Int} :
    optionalWhole v = .ok n ↔
      (v = .null ∧ n = none) ∨ ∃ m, v ≠ .null ∧ whole v = .ok m ∧ n = some m := by
  cases v with
  | null =>
    constructor
    · exact fun h => .inl ⟨rfl, (Except.ok.inj h).symm⟩
    · rintro (⟨-, rfl⟩ | ⟨m, hne, -⟩)
      · rfl
      · exact (hne rfl).elim
  | _ => simp [optionalWhole, Checked.map_eq_ok_iff, eq_comm]

end Form

namespace Wire

/-! ## Results -/

section Results

variable {c : GatewayCall} {v : Value} {fs : Fields}

theorem check_participant_eq_ok_iff {a n : Value} {p : Participant} (ha : a.isJson = true)
    (hn : n.isJson = true) :
    Participant.check [("address", a), ("name", n)] = .ok p ↔
      a = .text p.address ∧ n = .text p.name ∧ p.address ≠ "" := by
  have hfs : Value.haveJson [("address", a), ("name", n)] = true := by
    simp [Value.haveJson, ha, hn]
  have haddress : Fields.get? [("address", a), ("name", n)] "address" = some a := rfl
  have hname : Fields.get? [("address", a), ("name", n)] "name" = some n := rfl
  rw [Participant.check_eq_ok_iff hfs, haddress, hname, Option.some.injEq, Option.some.injEq]
  exact and_congr_right' and_comm

theorem check_loot_eq_ok_iff {name participant : Value} {n : Int} {r : LootRecord}
    (hname : name.isJson = true) (hparticipant : participant.isJson = true) :
    LootRecord.check [("name", name), ("participant", participant), ("loot", .int n)] = .ok r ↔
      name = .text r.name ∧ participant = .text r.participant ∧ n = r.loot := by
  rw [LootRecord.check, Form.finish_eq_ok_iff, LootRecord.ofFields, Form.Checked.seq_eq_ok_iff]
  simp only [Form.Checked.seq_eq_ok_iff, Form.Checked.map_eq_ok_iff, Form.field_eq_ok_iff]
  have hget (fs : Fields) (k : String) (w : Value) : Fields.get? ((k, w) :: fs) k = some w := by
    simp [Fields.get?]
  have hparticipant' : Fields.get? [("name", name), ("participant", participant),
      ("loot", .int n)] "participant" = some participant := rfl
  have hloot : Fields.get? [("name", name), ("participant", participant),
      ("loot", .int n)] "loot" = some (.int n) := rfl
  simp only [hget, hparticipant', hloot, Option.some.injEq, exists_eq_left',
    Form.natural_int_eq_ok_iff]
  constructor
  · rintro ⟨_, m, ⟨_, p, ⟨k, hk, rfl⟩, hp, rfl⟩, rfl, rfl⟩
    obtain rfl := (Form.text_eq_ok_iff hname).1 hk
    obtain rfl := (Form.text_eq_ok_iff hparticipant).1 hp
    exact ⟨rfl, rfl, rfl⟩
  · rintro ⟨rfl, rfl, rfl⟩
    exact ⟨_, r.loot, ⟨_, r.participant, ⟨r.name, rfl, rfl⟩, rfl, rfl⟩, rfl, rfl⟩

theorem check_handle_eq_ok_iff {hash : Value} {method : String} {h : TransactionHandle}
    (hjson : hash.isJson = true) :
    TransactionHandle.check [("tx_hash", hash), ("method", .text method)] = .ok h ↔
      hash = .text h.txHash ∧ h.method = method := by
  rw [TransactionHandle.check, Form.finish_eq_ok_iff, TransactionHandle.ofFields,
    Form.Checked.seq_eq_ok_iff]
  simp only [Form.Checked.map_eq_ok_iff, Form.field_eq_ok_iff]
  have hhash : Fields.get? [("tx_hash", hash), ("method", .text method)] "tx_hash" = some hash :=
    rfl
  have hmethod : Fields.get? [("tx_hash", hash), ("method", .text method)] "method" =
    some (.text method) := rfl
  simp only [hhash, hmethod, Option.some.injEq, exists_eq_left']
  constructor
  · rintro ⟨_, m, ⟨k, hk, rfl⟩, hm, rfl⟩
    cases hm
    exact ⟨(Form.text_eq_ok_iff hjson).1 hk, rfl⟩
  · rintro ⟨rfl, rfl⟩
    exact ⟨_, h.method, ⟨h.txHash, rfl, rfl⟩, rfl, rfl⟩

theorem check_receipt_eq_ok_iff {r : TransactionReceipt} (hfs : Value.haveJson fs = true) :
    TransactionReceipt.check fs = .ok r ↔ IsReceipt fs r := by
  rw [TransactionReceipt.check, Form.finish_eq_ok_iff, TransactionReceipt.ofFields]
  simp only [Form.Checked.seq_eq_ok_iff, Form.Checked.map_eq_ok_iff,
    Form.field_text_eq_ok_iff hfs, Form.field_status_eq_ok_iff, Form.fieldOr_eq_ok_iff,
    Form.optionalWhole_eq_ok_iff]
  constructor
  · rintro ⟨_, reason, ⟨_, block, ⟨_, st, ⟨hash, hhash, rfl⟩, hst, rfl⟩, hblock, rfl⟩, hreason, rfl⟩
    refine ⟨hhash, hst, hblock.symm.imp (And.imp_right Eq.symm) id, ?_⟩
    rcases hreason with ⟨v, hv, hok⟩ | ⟨hnone, rfl⟩
    · rw [(Form.text_eq_ok_iff (Value.isJson_of_get? hfs hv)).1 hok] at hv
      exact .inr hv
    · exact .inl ⟨hnone, rfl⟩
  · rintro ⟨hhash, hst, hblock, hreason⟩
    refine ⟨_, r.reason, ⟨_, r.block, ⟨_, r.status, ⟨r.txHash, hhash, rfl⟩, hst, rfl⟩,
      hblock.symm.imp id (And.imp_right Eq.symm), rfl⟩, ?_, rfl⟩
    exact hreason.symm.imp (fun hv => ⟨_, hv, rfl⟩) (And.imp_right Eq.symm)

/-- What is counted is what is iterated over, if anything. -/
theorem counted_eq_ok_iff {vs : List Value} : counted v = .ok vs ↔ partsOf? v = some vs := by
  unfold counted
  split <;> simp_all

theorem iterated_eq_ok_iff {vs : List Value} : iterated v = .ok vs ↔ partsOf? v = some vs := by
  unfold iterated
  split <;> simp_all

/-- The parts of a value of JSON are of JSON. -/
theorem isJson_of_partsOf? {vs : List Value} (hv : v.isJson = true) (h : partsOf? v = some vs) :
    ∀ w ∈ vs, w.isJson = true := by
  cases v with
  | list xs =>
    cases h
    exact Value.areJson_iff.1 hv
  | tuple xs => cases hv
  | object fs =>
    cases h
    intro w hw
    obtain ⟨f, -, rfl⟩ := List.mem_map.1 hw
    rfl
  | text s =>
    cases h
    intro w hw
    obtain ⟨c, -, rfl⟩ := List.mem_map.1 hw
    rfl
  | _ => cases h

theorem lists_iff {name : String} {vs : List Value} :
    counted ((Fields.get? fs name).getD (.list [])) = .ok vs ↔ Lists fs name vs := by
  rw [counted_eq_ok_iff, Lists]
  cases Fields.get? fs name with
  | none => simp [partsOf?, eq_comm]
  | some w => simp

theorem isJson_of_lists {name : String} {vs : List Value} (hfs : Value.haveJson fs = true)
    (h : Lists fs name vs) : ∀ w ∈ vs, w.isJson = true := by
  rcases h with ⟨-, rfl⟩ | ⟨v, hv, hparts⟩
  · exact nofun
  · exact isJson_of_partsOf? (Value.isJson_of_get? hfs hv) hparts

theorem fieldOf_eq_ok_iff {name : String} {w : Value} :
    fieldOf name v = .ok w ↔ ∃ fs, v = .object fs ∧ Fields.get? fs name = some w := by
  cases v with
  | object fs =>
    simp only [fieldOf, required, Value.object.injEq, exists_eq_left']
    split <;> simp_all
  | _ => exact ⟨nofun, nofun⟩

theorem lootOf_eq_ok_iff {r : LootRecord} (hv : v.isJson = true) :
    lootOf v = .ok r ↔ IsLoot v r := by
  simp only [lootOf, Except.bind_eq_ok_iff, fieldOf_eq_ok_iff, Except.mapError_eq_ok_iff]
  constructor
  · rintro ⟨name, ⟨fs, rfl, hname⟩, participant, ⟨_, ⟨⟩, hparticipant⟩, w, ⟨_, ⟨⟩, hw⟩, n, hn, hok⟩
    obtain ⟨rfl, rfl, rfl⟩ := (check_loot_eq_ok_iff (Value.isJson_of_get? hv hname)
      (Value.isJson_of_get? hv hparticipant)).1 hok
    exact ⟨fs, w, rfl, hname, hparticipant, hw, hn⟩
  · rintro ⟨fs, w, rfl, hname, hparticipant, hw, hn⟩
    exact ⟨_, ⟨fs, rfl, hname⟩, _, ⟨fs, rfl, hparticipant⟩, w, ⟨fs, rfl, hw⟩, r.loot, hn,
      (check_loot_eq_ok_iff rfl rfl).2 ⟨rfl, rfl, rfl⟩⟩

/-- Addresses and names, as many of the one as of the other, are read one by one. -/
private theorem mapM_check_eq_ok_iff {addresses names : List Value} {ps : List Participant}
    (length : addresses.length = names.length) (haddresses : ∀ w ∈ addresses, w.isJson = true)
    (hnames : ∀ w ∈ names, w.isJson = true) :
    (addresses.zip names).mapM (fun p =>
        (Participant.check [("address", p.1), ("name", p.2)]).mapError Fault.invalid) = .ok ps ↔
      Names addresses names ps := by
  rw [Except.mapM_eq_ok_iff]
  simp only [Except.mapError_eq_ok_iff]
  induction addresses generalizing names ps with
  | nil =>
    obtain rfl : names = [] := List.length_eq_zero_iff.1 length.symm
    rw [List.zip_nil_left, List.forall₂_nil_left_iff]
    constructor
    · rintro rfl
      exact ⟨rfl, rfl, nofun⟩
    · exact fun h => List.map_eq_nil_iff.1 h.addresses_eq.symm
  | cons a addresses ih =>
    obtain ⟨n, names, rfl⟩ := List.exists_cons_of_length_pos
      (show 0 < names.length by rw [← length]; exact Nat.succ_pos _)
    have hrest (ps : List Participant) := @ih names ps (Nat.succ.inj length)
      (fun w hw => haddresses w (List.mem_cons_of_mem _ hw))
      (fun w hw => hnames w (List.mem_cons_of_mem _ hw))
    have hcheck (p : Participant) := check_participant_eq_ok_iff (p := p)
      (haddresses a List.mem_cons_self) (hnames n List.mem_cons_self)
    rw [List.zip_cons_cons, List.forall₂_cons_left_iff]
    constructor
    · rintro ⟨p, ps, hp, hps, rfl⟩
      obtain ⟨rfl, rfl, hne⟩ := (hcheck p).1 hp
      obtain ⟨rfl, rfl, hnamed⟩ := (hrest ps).1 hps
      exact ⟨rfl, rfl, List.forall_mem_cons.2 ⟨hne, hnamed⟩⟩
    · rintro ⟨haddress, hname, hnamed⟩
      cases ps with
      | nil => cases haddress
      | cons p ps =>
        obtain ⟨rfl, haddress'⟩ := List.cons.inj haddress
        obtain ⟨rfl, hname'⟩ := List.cons.inj hname
        obtain ⟨hne, hnamed'⟩ := List.forall_mem_cons.1 hnamed
        exact ⟨p, ps, (hcheck p).2 ⟨rfl, rfl, hne⟩, (hrest ps).2 ⟨haddress', hname', hnamed'⟩, rfl⟩

theorem participantsOf_eq_ok_iff {ps : List Participant} (hfs : Value.haveJson fs = true) :
    participantsOf (.object fs) = .ok ps ↔ ∃ addresses names,
      Lists fs "addresses" addresses ∧ Lists fs "names" names ∧ Names addresses names ps := by
  simp only [participantsOf, Except.bind_eq_ok_iff, lists_iff]
  constructor
  · rintro ⟨addresses, haddresses, names, hnames, h⟩
    split at h
    · obtain ⟨_, ⟨⟩, -⟩ := Except.bind_eq_ok_iff.1 h
    · next hlength =>
      exact ⟨addresses, names, haddresses, hnames, (mapM_check_eq_ok_iff
        (Decidable.not_not.1 hlength) (isJson_of_lists hfs haddresses)
        (isJson_of_lists hfs hnames)).1 h⟩
  · rintro ⟨addresses, names, haddresses, hnames, h⟩
    have hlength : addresses.length = names.length := by
      rw [h.addresses_eq, h.names_eq, List.length_map, List.length_map]
    refine ⟨addresses, haddresses, names, hnames, ?_⟩
    rw [if_neg (not_not_intro hlength)]
    exact (mapM_check_eq_ok_iff hlength (isJson_of_lists hfs haddresses)
      (isJson_of_lists hfs hnames)).2 h

private theorem forall₂_lootOf_iff {vs : List Value} {rs : List LootRecord}
    (hvs : ∀ w ∈ vs, w.isJson = true) :
    List.Forall₂ (fun w r => lootOf w = .ok r) vs rs ↔ List.Forall₂ IsLoot vs rs := by
  induction vs generalizing rs with
  | nil => rw [List.forall₂_nil_left_iff, List.forall₂_nil_left_iff]
  | cons w vs ih =>
    simp only [List.forall₂_cons_left_iff, lootOf_eq_ok_iff (hvs w List.mem_cons_self),
      ih fun u hu => hvs u (List.mem_cons_of_mem _ hu)]

/-- **Which results stand for which answers.** -/
theorem answerOf_eq_ok_iff {a : Answer} (hv : v.isJson = true) :
    answerOf c v = .ok a ↔ Stands c v a := by
  cases c with
  | round =>
    simp only [answerOf, Except.bind_eq_ok_iff]
    constructor
    · rintro ⟨n, hn, h⟩
      cases h
      exact .round hn
    · intro h
      cases h with
      | round whole => exact ⟨_, whole, rfl⟩
  | outstanding =>
    simp only [answerOf, Except.bind_eq_ok_iff]
    constructor
    · rintro ⟨ps, hps, h⟩
      cases h
      cases v with
      | object fs =>
        have hfs : Value.haveJson fs = true := hv
        obtain ⟨addresses, names, haddresses, hnames, hall⟩ := (participantsOf_eq_ok_iff hfs).1 hps
        exact .outstanding haddresses hnames hall
      | _ => cases hps
    · intro h
      cases h with
      | @outstanding fs addresses names ps haddresses hnames hall =>
        exact ⟨ps, (participantsOf_eq_ok_iff hv).2 ⟨addresses, names, haddresses, hnames, hall⟩,
          rfl⟩
  | lootTotals =>
    simp only [answerOf, Except.bind_eq_ok_iff, iterated_eq_ok_iff, Except.mapM_eq_ok_iff]
    constructor
    · rintro ⟨vs, hvs, rs, hloot, h⟩
      obtain rfl := Except.ok.inj h
      exact .lootTotals hvs ((forall₂_lootOf_iff (isJson_of_partsOf? hv hvs)).1 hloot)
    · intro h
      cases h with
      | @lootTotals _ vs rs hvs hloot =>
        exact ⟨vs, hvs, rs, (forall₂_lootOf_iff (isJson_of_partsOf? hv hvs)).2 hloot, rfl⟩
  | chart =>
    constructor
    · intro h
      cases h
      exact .chart v
    · intro h
      cases h
      rfl
  | submit s =>
    simp only [answerOf, Except.bind_eq_ok_iff, fieldOf_eq_ok_iff, Except.mapError_eq_ok_iff]
    constructor
    · rintro ⟨hash, ⟨fs, rfl, hhash⟩, ⟨txHash, method⟩, hok, ha⟩
      obtain rfl := Except.ok.inj ha
      obtain ⟨rfl, rfl⟩ := (check_handle_eq_ok_iff (Value.isJson_of_get? hv hhash)).1 hok
      exact .submit hhash
    · intro h
      cases h with
      | @submit _ fs hash hhash =>
        exact ⟨_, ⟨fs, rfl, hhash⟩, _, (check_handle_eq_ok_iff rfl).2 ⟨rfl, rfl⟩, rfl⟩
  | finality h =>
    simp only [answerOf, Except.bind_eq_ok_iff, Except.mapError_eq_ok_iff]
    constructor
    · rintro ⟨fs, hfs, r, hok, ha⟩
      cases ha
      cases v with
      | object gs =>
        cases hfs
        exact .finality ((check_receipt_eq_ok_iff hv).1 hok)
      | _ => cases hfs
    · intro h
      cases h with
      | @finality _ fs r receipt => exact ⟨fs, rfl, r, (check_receipt_eq_ok_iff hv).2 receipt, rfl⟩

/-- A result of the shape that is laid down stands for what it denotes. -/
theorem stands_of_denotes {a : Answer} (h : Denotes c v a) : Stands c v a := by
  cases h with
  | round n => exact .round rfl
  | outstanding addresses names named =>
    exact .outstanding (.inr ⟨_, addresses, rfl⟩) (.inr ⟨_, names, rfl⟩) ⟨rfl, rfl, named⟩
  | lootTotals loot => exact .lootTotals rfl (loot.imp fun _ _ h => h.1)
  | chart v => exact .chart v
  | submit txHash => exact .submit txHash
  | finality receipt block => exact .finality receipt

end Results

/-! ## Faults -/

section Faults

variable {α β : Type} {c : GatewayCall} {v : Value}

private theorem spares_ok (a : α) : Spares (.ok a) := nofun

private theorem Spares.bind {x : Except Fault α} {f : α → Except Fault β} (hx : Spares x)
    (hf : ∀ a, Spares (f a)) : Spares (x >>= f) := by
  intro e h
  rcases Except.bind_eq_error_iff.1 h with h | ⟨a, -, h⟩
  · exact hx e h
  · exact hf a e h

private theorem spares_mapM {f : α → Except Fault β} (hf : ∀ a, Spares (f a)) (xs : List α) :
    Spares (xs.mapM f) := by
  intro e h
  obtain ⟨x, -, h⟩ := Except.exists_of_mapM_error h
  exact hf x e h

private theorem spares_invalid (x : Except Form.Invalid α) : Spares (x.mapError .invalid) := by
  intro e h
  obtain ⟨i, -, rfl⟩ := Except.mapError_eq_error_iff.1 h
  exact nofun

private theorem spares_toWhole (v : Value) : Spares v.toWhole := by
  have numeral (shown : String) (x : Except Numeral.Fault Int) :
      Spares (x.mapError (Value.numeralFault shown)) := by
    intro e h
    obtain ⟨e, -, rfl⟩ := Except.mapError_eq_error_iff.1 h
    cases e <;> exact nofun
  cases v with
  | text s => exact numeral _ _
  | octets kind bs => exact numeral _ _
  | float x =>
    simp only [Value.toWhole]
    split
    · exact spares_ok _
    · split <;> rintro _ ⟨⟩ ⟨⟩
  | int n => exact spares_ok _
  | bool b => exact spares_ok _
  | _ => rintro _ ⟨⟩ ⟨⟩

private theorem spares_fieldOf (name : String) (v : Value) : Spares (fieldOf name v) := by
  cases v with
  | object fs =>
    simp only [fieldOf, required]
    split
    · exact spares_ok _
    · rintro _ ⟨⟩ ⟨⟩
  | _ => rintro _ ⟨⟩ ⟨⟩

private theorem spares_mapping (what : String) (v : Value) : Spares (mapping what v) := by
  cases v with
  | object fs => exact spares_ok _
  | _ => rintro _ ⟨⟩ ⟨⟩

private theorem spares_counted (v : Value) : Spares (counted v) := by
  unfold counted
  split
  · exact spares_ok _
  · rintro _ ⟨⟩ ⟨⟩

private theorem spares_iterated (v : Value) : Spares (iterated v) := by
  unfold iterated
  split
  · exact spares_ok _
  · rintro _ ⟨⟩ ⟨⟩

private theorem spares_lootOf (v : Value) : Spares (lootOf v) :=
  (spares_fieldOf _ _).bind fun _ => (spares_fieldOf _ _).bind fun _ =>
    (spares_fieldOf _ _).bind fun _ => (spares_toWhole _).bind fun _ => spares_invalid _

/-- Of participants only the lengths of the two lists are blamed on the gateway. -/
theorem gateway_participantsOf_iff {fs : Fields} :
    (∃ f, participantsOf (.object fs) = .error f ∧ f.kind = .gateway) ↔
      Uneven .outstanding (.object fs) := by
  simp only [Uneven, ← lists_iff]
  constructor
  · rintro ⟨f, h, hkind⟩
    rcases Except.bind_eq_error_iff.1 h with h | ⟨addresses, haddresses, h⟩
    · exact (spares_counted _ f h hkind).elim
    rcases Except.bind_eq_error_iff.1 h with h | ⟨names, hnames, h⟩
    · exact (spares_counted _ f h hkind).elim
    refine ⟨addresses, names, haddresses, hnames, fun hlength => ?_⟩
    rw [if_neg (not_not_intro hlength)] at h
    exact spares_mapM (fun _ => spares_invalid _) _ f h hkind
  · rintro ⟨addresses, names, haddresses, hnames, hlength⟩
    simp only [participantsOf, haddresses, hnames, bind, Except.bind, if_pos hlength]
    exact ⟨_, rfl, rfl⟩

/-- **Of results only uneven lists are blamed on the gateway.** -/
theorem gateway_answerOf_iff :
    (∃ f, answerOf c v = .error f ∧ f.kind = .gateway) ↔ Uneven c v := by
  -- Nothing else that is done with a result raises that fault.
  have spared (hspares : Spares (answerOf c v)) (heven : ¬Uneven c v) :
      (∃ f, answerOf c v = .error f ∧ f.kind = .gateway) ↔ Uneven c v :=
    ⟨fun ⟨f, h, hkind⟩ => (hspares f h hkind).elim, fun h => (heven h).elim⟩
  cases c with
  | outstanding =>
    cases v with
    | object fs =>
      rw [← gateway_participantsOf_iff]
      refine exists_congr fun f => and_congr_left fun _ => ?_
      simp only [answerOf, Except.bind_eq_error_iff]
      exact ⟨fun h => h.resolve_right (by rintro ⟨_, _, ⟨⟩⟩), .inl⟩
    | _ => exact spared (by rintro _ ⟨⟩ ⟨⟩) nofun
  | round => exact spared ((spares_toWhole _).bind fun _ => spares_ok _) nofun
  | lootTotals =>
    exact spared ((spares_iterated _).bind fun _ =>
      (spares_mapM spares_lootOf _).bind fun _ => spares_ok _) nofun
  | chart => exact spared (spares_ok _) nofun
  | submit s =>
    exact spared ((spares_fieldOf _ _).bind fun _ => (spares_invalid _).bind fun _ => spares_ok _)
      nofun
  | finality h =>
    exact spared ((spares_mapping _ _).bind fun _ => (spares_invalid _).bind fun _ => spares_ok _)
      nofun

end Faults

/-! ## What the client makes of a reply -/

section Client

variable {c : GatewayCall} {r : HttpReply} {v : Value}

theorem isJson_of_brings (h : r.Brings v) : v.isJson = true := by
  obtain ⟨-, fs, hread, -, hresult⟩ := h
  exact Value.isJson_of_get? (Json.readable_of_readMarked hread).json hresult

theorem answerIn_of_brings (h : r.Brings v) : answerIn c r = answerOf c v := by
  rw [answerIn, readReply_of_brings h]
  rfl

/-- A reply brings one result at most. -/
theorem brings_iff_eq {w : Value} (h : r.Brings v) : r.Brings w ↔ w = v := by
  constructor
  · intro h'
    have := (readReply_of_brings (m := .round) h').symm.trans (readReply_of_brings h)
    exact Except.ok.inj this
  · rintro rfl
    exact h

/-- **What the client makes of any reply** to any question: an answer if the reply brings a result
that stands for one, and a fault otherwise, which is not always one of the gateway. -/
theorem received_reply (c : GatewayCall) (r : HttpReply) : Received c r := by
  have answered (a : Answer) : answerIn c r = .ok a ↔ ∃ v, r.Brings v ∧ Stands c v a := by
    rcases readReply_cases c.method r with ⟨v, -, hv⟩ | ⟨f, hf, -, hr⟩ | ⟨f, hf, -, hr⟩
    · simp only [brings_iff_eq hv, exists_eq_left, answerIn_of_brings hv]
      exact answerOf_eq_ok_iff (isJson_of_brings hv)
    · rw [answerIn, hf]
      exact ⟨nofun, fun ⟨v, hv, _⟩ => (not_brings_of_refuses hr hv).elim⟩
    · rw [answerIn, hf]
      exact ⟨nofun, fun ⟨v, hv, _⟩ => (not_brings_of_garbled hr hv).elim⟩
  constructor
  case answered => exact answered
  case documented => exact fun v a hv ha => (answered a).2 ⟨v, hv, stands_of_denotes ha⟩
  case refused =>
    rcases readReply_cases c.method r with ⟨v, -, hv⟩ | ⟨f, hf, hkind, hr⟩ | ⟨f, hf, hkind, hr⟩
    · simp only [brings_iff_eq hv, exists_eq_left, answerIn_of_brings hv, gateway_answerOf_iff]
      exact ⟨.inr, fun h => h.resolve_left fun hr => not_brings_of_refuses hr hv⟩
    · exact ⟨fun _ => .inl hr, fun _ => ⟨f, by rw [answerIn, hf]; rfl, hkind⟩⟩
    · rw [answerIn, hf]
      constructor
      · rintro ⟨_, ⟨⟩, h⟩
        exact (hkind h).elim
      · rintro (h | ⟨v, hv, -⟩)
        · exact (not_refuses_of_garbled hr h).elim
        · exact (not_brings_of_garbled hr hv).elim
  case escaped =>
    rcases readReply_cases c.method r with ⟨v, -, hv⟩ | ⟨f, hf, hkind, hr⟩ | ⟨f, hf, hkind, hr⟩
    · simp only [brings_iff_eq hv, exists_eq_left, answerIn_of_brings hv,
        ← gateway_answerOf_iff, ← answerOf_eq_ok_iff (isJson_of_brings hv)]
      constructor
      · rintro ⟨f, hf, hkind⟩
        refine .inr ⟨fun a ha => ?_, ?_⟩
        · rw [hf] at ha
          cases ha
        · rintro ⟨f', hf', hkind'⟩
          rw [hf] at hf'
          cases hf'
          exact hkind hkind'
      · rintro (hr | ⟨hnone, hspared⟩)
        · exact (not_brings_of_garbled hr hv).elim
        · cases hv' : answerOf c v with
          | ok a => exact (hnone a hv').elim
          | error f => exact ⟨f, rfl, fun hkind => hspared ⟨f, hv', hkind⟩⟩
    · rw [answerIn, hf]
      constructor
      · rintro ⟨_, ⟨⟩, h⟩
        exact (h hkind).elim
      · rintro (h | ⟨v, hv, -⟩)
        · exact (not_refuses_of_garbled h hr).elim
        · exact (not_brings_of_refuses hr hv).elim
    · exact ⟨fun _ => .inl hr, fun _ => ⟨f, by rw [answerIn, hf]; rfl, hkind⟩⟩
  case deserted =>
    rintro rfl
    rw [answered]
    constructor
    · rintro ⟨v, hv, h⟩
      cases h with
      | outstanding addresses names participants =>
        obtain rfl := participants.addresses_eq
        obtain rfl := participants.names_eq
        exact ⟨_, hv, addresses, names⟩
    · rintro ⟨fs, hv, addresses, names⟩
      exact ⟨_, hv, .outstanding addresses names ⟨rfl, rfl, nofun⟩⟩

/-- A reply whose result is an object without any fields. -/
def emptyReply : HttpReply :=
  ⟨okStatus, "\x7b\"jsonrpc\": \"2.0\", \"id\": 1, \"result\": \x7b\x7d\x7d"⟩

theorem brings_emptyReply : emptyReply.Brings (.object []) := by
  have hread : Json.readMarked emptyReply.text = .ok (resultReply (.nat 1) (.object [])) :=
    (Json.read_of_write Json.Style.blank_spaced (by decide) (by decide +kernel)).2
  exact ⟨rfl, _, hread, nofun, rfl⟩

/-- A result of nothing has no shape that is laid down. Yet as a list of participants it is taken to
mean that everybody has reported, and as a receipt it escapes as another fault. -/
theorem deserted_emptyReply :
    (answerIn .outstanding emptyReply = .ok (.outstanding []) ∧
      ∀ a, ¬Denotes .outstanding (.object []) a) ∧
    ∃ f, answerIn (.finality ⟨"0x1", ""⟩) emptyReply = .error f ∧ f.kind ≠ .gateway := by
  rw [answerIn_of_brings brings_emptyReply, answerIn_of_brings brings_emptyReply]
  refine ⟨⟨rfl, ?_⟩, _, rfl, nofun⟩
  intro a h
  cases h with
  | outstanding addresses names named => cases addresses

end Client
end Wire
end Plunder
