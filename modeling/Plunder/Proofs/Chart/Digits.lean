import Plunder.Chart.Artifact
import Plunder.Proofs.Except
import Plunder.Proofs.Text.Hex

/-!
# Charts as texts

Which texts are read as the octets of a chart. Behind the mark there must be an even number of
characters, which are pairs of hexadecimal digits. The length is taken of all the characters, while
white space between the pairs is skipped, so that it goes unnoticed if there is an even number of it.

Main statements:
- `ofDigits_eq_ok_iff`, `convert_text_eq_ok_iff`: the texts that are read, and as which octets
- `kind_of_convert_text`: every other text is refused as of no known format
- `convert_solid`: without white space, these are the even numbers of digits behind a mark
- `convert_gapped`: the white space is not noticed
-/

namespace Plunder.ChartArtifact

open Plunder.Text

/-! ## Definitions -/

/-- Whether a text has the mark of hexadecimal digits in front of these characters. -/
def IsMarked (s : String) (ds : List Char) : Prop :=
  s.toList = '0' :: 'x' :: ds ∨ s.toList = '0' :: 'X' :: ds

/-! ## Behind the mark -/

theorem ofDigits_of_odd {ds : List Char} (odd : ds.length % 2 = 1) :
    ofDigits ds = .error (.oddLength ds.length) := if_pos odd

theorem ofDigits_of_even {ds : List Char} (even : ds.length % 2 = 0) :
    ofDigits ds = (Hex.decode ds).mapError .notHex := if_neg (by omega)

/-- **The characters that are read are even in number, and pairs of digits** with white space around
them. -/
theorem ofDigits_eq_ok_iff {ds : List Char} {bs : Bytes} :
    ofDigits ds = .ok bs ↔ ds.length % 2 = 0 ∧ Hex.Paired bs ds := by
  rcases Nat.mod_two_eq_zero_or_one ds.length with even | odd
  · rw [ofDigits_of_even even, Except.mapError_eq_ok_iff, Hex.decode_eq_ok_iff]
    exact (and_iff_right even).symm
  · rw [ofDigits_of_odd odd, odd]
    simp

/-- What is not read is of an odd number, or there is something else between the digits. -/
theorem isHeader_of_ofDigits {ds : List Char} {f : ArtifactFault} (h : ofDigits ds = .error f) :
    f.isHeader = false := by
  rcases Nat.mod_two_eq_zero_or_one ds.length with even | odd
  · rw [ofDigits_of_even even] at h
    obtain ⟨i, -, rfl⟩ := Except.mapError_eq_error_iff.1 h
    rfl
  · rw [ofDigits_of_odd odd] at h
    cases h
    rfl

/-! ## Texts -/

section

variable {s : String} {ds : List Char} {bs : Bytes} {f : Fault}

/-- There is only one way to take the mark off. -/
theorem IsMarked.unique {ds' : List Char} (h : IsMarked s ds) (h' : IsMarked s ds') : ds = ds' := by
  -- With different marks the texts differ in the second character.
  rcases h with h | h <;> rcases h' with h' | h' <;> rw [h] at h' <;> cases h' <;> rfl

theorem convert_of_isMarked (h : IsMarked s ds) :
    convert (.text s) = (ofDigits ds).mapError .artifact := by
  rcases h with h | h
  · rw [convert, h]
    exact if_pos (.inl rfl)
  · rw [convert, h]
    exact if_pos (.inr rfl)

theorem convert_of_not_isMarked (h : ∀ ds, ¬ IsMarked s ds) :
    convert (.text s) = .error (.artifact .unmarkedText) := by
  simp only [convert]
  split
  next x ds hs =>
    apply if_neg
    rintro (rfl | rfl)
    · exact h ds (.inl hs)
    · exact h ds (.inr hs)
  next => rfl

/-- **The texts that are read**: a mark, and behind it an even number of characters that are pairs
of digits with white space around them. -/
theorem convert_text_eq_ok_iff :
    convert (.text s) = .ok bs ↔ ∃ ds, IsMarked s ds ∧ ds.length % 2 = 0 ∧ Hex.Paired bs ds := by
  by_cases hmarked : ∃ ds, IsMarked s ds
  · obtain ⟨ds, hds⟩ := hmarked
    rw [convert_of_isMarked hds, Except.mapError_eq_ok_iff, ofDigits_eq_ok_iff]
    constructor
    · intro h
      exact ⟨ds, hds, h⟩
    · rintro ⟨ds', hds', h⟩
      rwa [hds.unique hds']
  · rw [convert_of_not_isMarked fun ds hds => hmarked ⟨ds, hds⟩]
    constructor
    · nofun
    · rintro ⟨ds, hds, -⟩
      exact absurd ⟨ds, hds⟩ hmarked

/-- **Every other text is refused** as of no known format. -/
theorem kind_of_convert_text (h : convert (.text s) = .error f) : f.kind = .format := by
  by_cases hmarked : ∃ ds, IsMarked s ds
  · obtain ⟨ds, hds⟩ := hmarked
    rw [convert_of_isMarked hds] at h
    obtain ⟨f, hf, rfl⟩ := Except.mapError_eq_error_iff.1 h
    rw [Fault.kind, isHeader_of_ofDigits hf]
    rfl
  · rw [convert_of_not_isMarked fun ds hds => hmarked ⟨ds, hds⟩] at h
    cases h
    rfl

end

/-! ## The grammar -/

/-- **The grammar of texts.** A text is read if and only if it is a mark and behind it an even number
of characters that are pairs of digits, with white space before, between or behind them; it is read
as the octets whose digits these are, the more significant first. Every other text is refused as of
no known format. If there is no white space in a text, it is read if and only if it is a mark and an
even number of digits, and there are half as many octets as digits. -/
theorem convert_text_exact (s : String) :
    (∀ bs, convert (.text s) = .ok bs ↔
        ∃ ds, IsMarked s ds ∧ ds.length % 2 = 0 ∧ Hex.Paired bs ds) ∧
      (∀ f, convert (.text s) = .error f → f.kind = .format) ∧
      ((∀ c ∈ s.toList, Hex.isGap c = false) →
        ((∃ bs, convert (.text s) = .ok bs) ↔
          ∃ ds, IsMarked s ds ∧ ds.length % 2 = 0 ∧ ∀ c ∈ ds, ∃ d, Hex.IsDigit d c) ∧
        ∀ bs ds, convert (.text s) = .ok bs → IsMarked s ds →
          Hex.Spelled bs ds ∧ ds.length = 2 * bs.length) := by
  refine ⟨fun bs => convert_text_eq_ok_iff, fun f => kind_of_convert_text, fun solid => ?_⟩
  -- What stands behind the mark is free of white space, as all of the text is.
  have hsolid {ds : List Char} (hds : IsMarked s ds) : ∀ c ∈ ds, Hex.isGap c = false := by
    intro c hc
    apply solid
    rcases hds with hds | hds
    · rw [hds]
      exact List.mem_cons_of_mem _ (List.mem_cons_of_mem _ hc)
    · rw [hds]
      exact List.mem_cons_of_mem _ (List.mem_cons_of_mem _ hc)
  have hspelled {bs : Bytes} {ds : List Char} (h : convert (.text s) = .ok bs)
      (hds : IsMarked s ds) : Hex.Spelled bs ds := by
    obtain ⟨ds', hds', -, hpaired⟩ := convert_text_eq_ok_iff.1 h
    rw [hds.unique hds']
    exact (Hex.paired_iff_spelled (hsolid hds')).1 hpaired
  refine ⟨⟨?_, ?_⟩, ?_⟩
  · rintro ⟨bs, h⟩
    obtain ⟨ds, hds, even, -⟩ := convert_text_eq_ok_iff.1 h
    exact ⟨ds, hds, even, (hspelled h hds).isDigit⟩
  · rintro ⟨ds, hds, even, digits⟩
    obtain ⟨bs, hbs⟩ := Hex.exists_spelled digits even
    exact ⟨bs, convert_text_eq_ok_iff.2 ⟨ds, hds, even, hbs.paired⟩⟩
  · intro bs ds h hds
    exact ⟨hspelled h hds, (hspelled h hds).length_eq⟩

/-- Two octets in digits of both cases. -/
theorem convert_text_exact_cases :
    (∀ c ∈ "0X89aF".toList, Hex.isGap c = false) ∧
      ∃ bs, convert (.text "0X89aF") = .ok bs ∧ Hex.Spelled bs ['8', '9', 'a', 'F'] := by
  have hchars : "0X89aF".toList = ['0', 'X', '8', '9', 'a', 'F'] := by decide
  have hsolid : ∀ c ∈ "0X89aF".toList, Hex.isGap c = false := by
    rw [hchars]
    simp only [List.forall_mem_cons]
    exact ⟨rfl, rfl, rfl, rfl, rfl, rfl, nofun⟩
  have hmarked : IsMarked "0X89aF" ['8', '9', 'a', 'F'] := .inr (by decide)
  have hdigits : ∀ c ∈ ['8', '9', 'a', 'F'], ∃ d, Hex.IsDigit d c := by
    simp only [List.forall_mem_cons]
    exact ⟨⟨8, by decide⟩, ⟨9, by decide⟩, ⟨10, by decide⟩, ⟨15, by decide⟩, nofun⟩
  obtain ⟨hread, hexact⟩ := (convert_text_exact "0X89aF").2.2 hsolid
  obtain ⟨bs, hbs⟩ := hread.2 ⟨_, hmarked, by decide, hdigits⟩
  exact ⟨hsolid, bs, hbs, (hexact bs _ hbs hmarked).1⟩

/-- **White space goes unnoticed**: a text is read although there are blanks among its digits. -/
theorem convert_gapped : convert (.text "0x89  01") = .ok [0x89, 0x01] ∧
    ¬ ∃ ds, IsMarked "0x89  01" ds ∧ ds.length % 2 = 0 ∧ ∀ c ∈ ds, ∃ d, Hex.IsDigit d c := by
  have hmarked : IsMarked "0x89  01" ['8', '9', ' ', ' ', '0', '1'] := .inl (by decide)
  have hpaired : Hex.Paired [0x89, 0x01] ['8', '9', ' ', ' ', '0', '1'] :=
    .cons (by decide) (by decide) (.gap (by decide) (.gap (by decide)
      (.cons (by decide) (by decide) .nil)))
  refine ⟨convert_text_eq_ok_iff.2 ⟨_, hmarked, by decide, hpaired⟩, ?_⟩
  rintro ⟨ds, hds, -, digits⟩
  rw [hds.unique hmarked] at digits
  obtain ⟨d, hd⟩ := digits ' ' (by decide)
  have hgap := hd.not_isGap
  cases hgap

end Plunder.ChartArtifact
