import Plunder.Proofs.Chart.Digits
import Plunder.Proofs.Chart.Ownership
import Plunder.Proofs.Wire.Exchange

/-!
# The shapes of a chart

A chart may arrive as a text of hexadecimal digits, as octets of any kind, or as a list of numbers.
Whatever the shape, the octets that come out are those that were put in, and they make an artifact if
they begin with the mark of a picture. The ledger puts its drawing into the first of the shapes, so
that the drawing comes out again, whether the ledger was asked directly or over the wire.

Main statements:
- `convert_of_holds`, `decodes_of_holds`: what comes out of the shapes
- `convert_of_unfit`: what is refused
- `reading_chart`, `serves_chart`: the answer that holds the drawing, directly and over the wire
- `shapes_agree`: all of this together
-/

namespace Plunder

open Plunder.Text

namespace ChartArtifact

/-! ## Definitions -/

/-- A number for each octet. -/
def numbers (bs : Bytes) : List Value := bs.map fun b => .nat b.toNat

/-- Whether a payload holds these octets, in one of the shapes of a chart. -/
inductive Holds : Value → Bytes → Prop where
  | digits {s : String} {ds : List Char} {bs : Bytes} (marked : IsMarked s ds)
      (spelled : Hex.Spelled bs ds) : Holds (.text s) bs
  | octets (kind : OctetKind) (bs : Bytes) : Holds (.octets kind bs) bs
  | list (bs : Bytes) : Holds (.list (numbers bs)) bs
  | tuple (bs : Bytes) : Holds (.tuple (numbers bs)) bs

/-- Whether a value is a whole number below 256. -/
def IsOctet (v : Value) : Prop := ∃ n : Int, v = .int n ∧ 0 ≤ n ∧ n ≤ 255

/-- Whether a payload has an item that is no octet, or is of a kind that holds none. -/
inductive Unfit : Value → Prop where
  | list {v : Value} {vs : List Value} (mem : v ∈ vs) (other : ¬ IsOctet v) : Unfit (.list vs)
  | tuple {v : Value} {vs : List Value} (mem : v ∈ vs) (other : ¬ IsOctet v) : Unfit (.tuple vs)
  | null : Unfit .null
  | bool (b : Bool) : Unfit (.bool b)
  | int (n : Int) : Unfit (.int n)
  | float (x : Binary64) : Unfit (.float x)
  | object (fs : Fields) : Unfit (.object fs)

/-- What comes of a payload that holds octets: the artifact of those that begin with the mark of a
picture, and nothing in place of others. There is no fault. -/
structure Decodes (raw : Value) (bs : Bytes) : Prop where
  trusted : (∃ rest, bs = 0x89 :: rest) → decode raw = .ok (some ⟨bs⟩, [])
  untrusted : (¬ ∃ rest, bs = 0x89 :: rest) → ∃ notes, decode raw = .ok (none, notes)

/-! ## Items -/

theorem octet?_eq_none_iff {v : Value} : octet? v = none ↔ ¬ IsOctet v := by
  cases v with
  | int n => simp [octet?, IsOctet]
  | _ => simp [octet?, IsOctet]

theorem octet?_nat (b : UInt8) : octet? (.nat b.toNat) = some b := by
  have hlt := b.toNat_lt
  have hrange : 0 ≤ (b.toNat : Int) ∧ (b.toNat : Int) ≤ 255 := by omega
  rw [Value.nat, octet?, if_pos hrange, Int.toNat_natCast, UInt8.ofNat_toNat]

/-- **Numbers of octets are those octets**, wherever they begin to be counted. -/
theorem ofItems_numbers (i : Nat) (bs : Bytes) : ofItems i (numbers bs) = .ok bs := by
  induction bs generalizing i with
  | nil => rfl
  | cons b bs ih =>
    rw [numbers, List.map_cons, ofItems, octet?_nat]
    show (ofItems (i + 1) (numbers bs)).map (b :: ·) = .ok (b :: bs)
    rw [ih]
    rfl

/-- **An item that is no octet is refused**, the first of them by its number. -/
theorem ofItems_of_other {v : Value} {vs : List Value} (i : Nat) (mem : v ∈ vs)
    (other : ¬ IsOctet v) (short : Value.areShort vs = true) :
    ∃ k shown, ofItems i vs = .error (.artifact (.notAnOctet k shown)) := by
  induction vs generalizing i with
  | nil => cases mem
  | cons w ws ih =>
    rw [Value.areShort, Bool.and_eq_true] at short
    cases hw : octet? w with
    | none =>
      obtain ⟨shown, hshown⟩ := Value.exists_show w short.1
      exact ⟨i, shown, by simp only [ofItems, hw, hshown]⟩
    | some b =>
      -- It is one of the items behind.
      have hmem : v ∈ ws := by
        rcases List.mem_cons.1 mem with rfl | hmem
        · rw [octet?_eq_none_iff.2 other] at hw
          cases hw
        · exact hmem
      obtain ⟨k, shown, hk⟩ := ih (i + 1) hmem short.2
      refine ⟨k, shown, ?_⟩
      simp only [ofItems, hw, hk]
      rfl

/-! ## Payloads -/

/-- **Out of every shape come the octets that are in it.** -/
theorem convert_of_holds {raw : Value} {bs : Bytes} (h : Holds raw bs) : convert raw = .ok bs := by
  cases h with
  | @digits s ds _ marked spelled =>
    have heven : ds.length % 2 = 0 := by
      rw [spelled.length_eq]
      exact Nat.mul_mod_right 2 _
    exact convert_text_eq_ok_iff.2 ⟨ds, marked, heven, spelled.paired⟩
  | octets kind => rfl
  | list => exact ofItems_numbers 0 bs
  | tuple => exact ofItems_numbers 0 bs

/-- **What does not hold octets is refused** as of no known format. -/
theorem convert_of_unfit {raw : Value} (h : Unfit raw) (short : raw.isShort = true) :
    ∃ f, convert raw = .error (.artifact f) ∧ f.isHeader = false := by
  cases h with
  | list mem other =>
    obtain ⟨k, shown, h⟩ := ofItems_of_other 0 mem other short
    exact ⟨_, h, rfl⟩
  | tuple mem other =>
    obtain ⟨k, shown, h⟩ := ofItems_of_other 0 mem other short
    exact ⟨_, h, rfl⟩
  | _ => exact ⟨_, rfl, rfl⟩

theorem validate_of_mark (rest : Bytes) : validate (mark :: rest) = .ok ⟨mark :: rest⟩ := by
  rw [validate, if_pos rfl]

theorem validate_of_other {bs : Bytes} (h : ¬ ∃ rest, bs = mark :: rest) :
    ∃ f, validate bs = .error f := by
  cases bs with
  | nil => exact ⟨_, rfl⟩
  | cons b rest =>
    have hb : b ≠ mark := by
      rintro rfl
      exact h ⟨rest, rfl⟩
    exact ⟨_, if_neg hb⟩

/-- Octets that come out of a payload make an artifact if they begin with the mark of a picture. -/
theorem decodes_of_convert {raw : Value} {bs : Bytes} (h : convert raw = .ok bs) :
    Decodes raw bs where
  trusted := by
    rintro ⟨rest, rfl⟩
    have hread : read raw = .ok ⟨mark :: rest⟩ := by
      rw [read, h]
      exact congrArg (Except.mapError Fault.artifact) (validate_of_mark rest)
    rw [decode, hread]
    rfl
  untrusted := by
    intro hother
    obtain ⟨f, hf⟩ := validate_of_other hother
    have hread : read raw = .error (.artifact f) := by
      rw [read, h]
      exact congrArg (Except.mapError Fault.artifact) hf
    exact ⟨_, by rw [decode, hread]⟩

theorem decodes_of_holds {raw : Value} {bs : Bytes} (h : Holds raw bs) : Decodes raw bs :=
  decodes_of_convert (convert_of_holds h)

/-- A payload that is refused has nothing in its place. -/
theorem decode_of_refused {raw : Value} {f : ArtifactFault} (h : convert raw = .error (.artifact f)) :
    ∃ notes, decode raw = .ok (none, notes) := by
  have hread : read raw = .error (.artifact f) := by rw [read, h]; rfl
  exact ⟨_, by rw [decode, hread]⟩

end ChartArtifact

/-! ## The ledger's chart -/

section

variable {l : Ledger} {picture : Bytes}

open ChartArtifact

theorem holds_chartText (picture : Bytes) : Holds (.text (Ledger.chartText picture)) picture := by
  refine .digits (.inl ?_) (Hex.spelled_encodeChars picture)
  rw [Ledger.chartText, String.toList_append, Hex.encode,
    String.toList_ofList (l := Hex.encodeChars picture)]
  rfl

/-- Asked directly, the ledger answers with its drawing. -/
theorem reading_chart (drawn : l.setup.render l.lootTotals = .ok picture) :
    l.reading? .chart = some (.ok (.chart (.text (Ledger.chartText picture)))) := by
  rw [Ledger.reading?, Ledger.chart, Ledger.chartOf, drawn]
  rfl

/-- **Asked over the wire, it answers the same**, and nothing else comes of the question. -/
theorem serves_chart (drawn : l.setup.render l.lootTotals = .ok picture) (now : Moment)
    {contract : String} (contracts : contract = l.setup.contractAddress ∨ contract = "" ∨
      l.setup.contractAddress = "") {id : Nat} (number : Wire.Short id) (l' : Ledger)
    (a : Except Fault Answer) :
    Wire.Serves now contract id l .chart l' a ↔
      l' = l ∧ a = .ok (.chart (.text (Ledger.chartText picture))) := by
  obtain ⟨v, body, hasked, hwritten, hopened⟩ :=
    Wire.openRequest_request now (c := .chart) nofun number contracts
  rw [Wire.serves_iff_of_opened hasked hwritten hopened]
  have harrives : Wire.answerIn .chart (Wire.httpReply (Wire.closeRequest ⟨.nat id, .chart⟩
      (.ok (.chart (.text (Ledger.chartText picture))))).1) =
        .ok (.chart (.text (Ledger.chartText picture))) := by
    have harrives := Wire.arrives_chart (m := .chart) (t := Ledger.chartText picture) number
    generalize Wire.answerIn .chart _ = a at harrives
    cases harrives
    rfl
  constructor
  · rintro ⟨a, served, rfl⟩
    -- The ledger has one answer only, and a drawing in digits travels unharmed.
    cases served with
    | reading read =>
      obtain rfl := Option.some.inj ((reading_chart drawn).symm.trans read)
      exact ⟨rfl, harrives⟩
  · rintro ⟨rfl, rfl⟩
    exact ⟨_, .reading (reading_chart drawn), harrives.symm⟩

end

/-! ## The shapes together -/

namespace ChartArtifact

/-- **All shapes of a chart hold the same octets.** Digits of either case behind either mark, octets
of any kind and lists of numbers are converted to the octets they hold. Payloads with an item that is
no octet, and of every other kind, are refused as of no known format. What is converted becomes an
artifact if and only if it begins with the mark of a picture; there is nothing in place of anything
else, and there is never a fault. So the drawing of the ledger comes out of its answer, and out of
the one answer that comes over the wire. -/
theorem shapes_agree :
    (∀ raw bs, Holds raw bs → convert raw = .ok bs ∧ Decodes raw bs) ∧
      (∀ raw, Unfit raw → raw.isShort = true → ∃ f, convert raw = .error f ∧ f.kind = .format ∧
        ∃ notes, decode raw = .ok (none, notes)) ∧
      (∀ raw, raw.isShort = true → ∃ artifact notes, decode raw = .ok (artifact, notes)) ∧
      ∀ (l : Ledger) (picture : Bytes), l.setup.render l.lootTotals = .ok picture →
        (∃ raw, l.reading? .chart = some (.ok (.chart raw)) ∧ Decodes raw picture) ∧
        ∀ (now : Moment) (contract : String) (id : Nat),
          (contract = l.setup.contractAddress ∨ contract = "" ∨ l.setup.contractAddress = "") →
          Wire.Short id →
            (∃ l' a, Wire.Serves now contract id l .chart l' a) ∧
            ∀ l' a, Wire.Serves now contract id l .chart l' a →
              l' = l ∧ ∃ raw, a = .ok (.chart raw) ∧ Decodes raw picture := by
  refine ⟨?_, ?_, ?_, ?_⟩
  · intro raw bs h
    exact ⟨convert_of_holds h, decodes_of_holds h⟩
  · intro raw unfit short
    obtain ⟨f, hf, hheader⟩ := convert_of_unfit unfit short
    exact ⟨_, hf, by rw [Fault.kind, hheader]; rfl, decode_of_refused hf⟩
  · intro raw short
    rcases decode_cases short with ⟨a, -, ha⟩ | ⟨notes, hnotes⟩
    · exact ⟨_, _, ha⟩
    · exact ⟨_, _, hnotes⟩
  · intro l picture drawn
    have hdecodes := decodes_of_holds (holds_chartText picture)
    refine ⟨⟨_, reading_chart drawn, hdecodes⟩, ?_⟩
    intro now contract id contracts number
    have hserves := serves_chart drawn now contracts number
    refine ⟨⟨l, _, (hserves l _).2 ⟨rfl, rfl⟩⟩, ?_⟩
    intro l' a served
    obtain ⟨hl, ha⟩ := (hserves l' a).1 served
    exact ⟨hl, _, ha, hdecodes⟩

/-- A ledger that draws the smallest picture. -/
def painted : Ledger.Setup := { Ledger.guarded with render := fun _ => .ok [0x89] }

/-- A text in digits of both cases, a list with a truth value in it, and the smallest picture. -/
theorem shapes_agree_painted :
    (Holds (.text "0X89aF") [0x89, 0xAF] ∧ decode (.text "0X89aF") = .ok (some ⟨[0x89, 0xAF]⟩, [])) ∧
      (Unfit (.list [.int 0x89, .bool true]) ∧
        ∃ f, convert (.list [.int 0x89, .bool true]) = .error f ∧ f.kind = .format) ∧
      (painted.render (Ledger.fresh painted).lootTotals = .ok [0x89] ∧ Wire.Short 1 ∧
        ∃ raw, Wire.Serves Ledger.soleReport.issuedAt "" 1 (Ledger.fresh painted) .chart
            (Ledger.fresh painted) (.ok (.chart raw)) ∧
          decode raw = .ok (some ⟨[0x89]⟩, [])) := by
  obtain ⟨hholds, hunfit, -, hledger⟩ := shapes_agree
  have hmarked : IsMarked "0X89aF" ['8', '9', 'a', 'F'] := .inr (by decide)
  have htext : Holds (.text "0X89aF") [0x89, 0xAF] :=
    .digits hmarked (.cons (by decide) (by decide) (.cons (by decide) (by decide) .nil))
  have hbool : Unfit (.list [.int 0x89, .bool true]) :=
    .list (v := .bool true) (by simp) (by rintro ⟨n, hn, -⟩; cases hn)
  have hshort : Wire.Short 1 := Wire.short_of_lt (k := 1) (by decide) (by decide) (by decide)
  refine ⟨⟨htext, (hholds _ _ htext).2.trusted ⟨_, rfl⟩⟩, ⟨hbool, ?_⟩, rfl, hshort, ?_⟩
  · obtain ⟨f, hf, hkind, -⟩ := hunfit _ hbool (by decide)
    exact ⟨f, hf, hkind⟩
  · obtain ⟨⟨l', a, hserves⟩, hall⟩ := (hledger (Ledger.fresh painted) [0x89] rfl).2
      Ledger.soleReport.issuedAt "" 1 (.inr (.inl rfl)) hshort
    obtain ⟨rfl, raw, rfl, hraw⟩ := hall l' a hserves
    exact ⟨raw, hserves, hraw.trusted ⟨_, rfl⟩⟩

end ChartArtifact
end Plunder
