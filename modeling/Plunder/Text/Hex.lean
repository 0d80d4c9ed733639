import Plunder.Text.Bytes

/-!
# Hexadecimal text

Octets written as pairs of hexadecimal digits, most significant digit first, and read back. The
reader takes either case and skips ASCII white space between pairs; where it stops it says at
which character.

Main statement: `decode_encode`, reading what was written gives the octets back.
-/

namespace Plunder.Text.Hex

/-- The value of a hexadecimal digit of either case. -/
def digit? (c : Char) : Option Nat :=
  if '0' ≤ c ∧ c ≤ '9' then some (c.toNat - 48)
  else if 'a' ≤ c ∧ c ≤ 'f' then some (c.toNat - 87)
  else if 'A' ≤ c ∧ c ≤ 'F' then some (c.toNat - 55)
  else none

/-- The lower-case digit of a value below sixteen. -/
def digitChar (d : Nat) : Char := if d < 10 then Char.ofNat (48 + d) else Char.ofNat (87 + d)

def pair (b : UInt8) : List Char := [digitChar (b.toNat / 16), digitChar (b.toNat % 16)]

/-- Octets as lower-case digits. -/
def encodeChars (bs : Bytes) : List Char := bs.flatMap pair

/-- Octets as a text of lower-case digits. -/
def encode (bs : Bytes) : String := String.ofList (encodeChars bs)

/-- The white space that may stand between two pairs. -/
def isGap (c : Char) : Bool := c == ' ' || (0x09 ≤ c.toNat && c.toNat ≤ 0x0D)

/-- Reads pairs; `pos` counts the characters read so far, and an error is the position of the
character that fits no pair. -/
def decodeFrom (pos : Nat) : List Char → Except Nat Bytes
  | [] => .ok []
  | [c] =>
    if isGap c then .ok []
    else if (digit? c).isSome then .error (pos + 1)
    else .error pos
  | c :: d :: rest =>
    if isGap c then decodeFrom (pos + 1) (d :: rest)
    else
      match digit? c, digit? d with
      | none, _ => .error pos
      | some _, none => .error (pos + 1)
      | some hi, some lo => (decodeFrom (pos + 2) rest).map (UInt8.ofNat (16 * hi + lo) :: ·)

/-- Reads pairs. A character outside ASCII is reported before anything else. -/
def decode (cs : List Char) : Except Nat Bytes :=
  match cs.findIdx? fun c => 128 ≤ c.toNat with
  | some i => .error i
  | none => decodeFrom 0 cs

/-! ## Writing and reading back -/

theorem digit?_digitChar (d : Nat) (h : d < 16) : digit? (digitChar d) = some d := by
  have : ∀ k : Fin 16, digit? (digitChar k.val) = some k.val := by decide
  exact this ⟨d, h⟩

theorem not_isGap_digitChar (d : Nat) (h : d < 16) : isGap (digitChar d) = false := by
  have : ∀ k : Fin 16, isGap (digitChar k.val) = false := by decide
  exact this ⟨d, h⟩

theorem digitChar_lt (d : Nat) (h : d < 16) : (digitChar d).toNat < 128 := by
  have : ∀ k : Fin 16, (digitChar k.val).toNat < 128 := by decide
  exact this ⟨d, h⟩

theorem decodeFrom_encodeChars (bs : Bytes) (pos : Nat) :
    decodeFrom pos (encodeChars bs) = .ok bs := by
  induction bs generalizing pos with
  | nil => rfl
  | cons b bs ih =>
    have hi : b.toNat / 16 < 16 := by have := b.toNat_lt; omega
    have lo : b.toNat % 16 < 16 := Nat.mod_lt _ (by decide)
    have hb : UInt8.ofNat (16 * (b.toNat / 16) + b.toNat % 16) = b := by
      rw [Nat.div_add_mod]; exact UInt8.ofNat_toNat
    simp only [encodeChars, List.flatMap_cons, pair, List.cons_append, List.nil_append]
    rw [decodeFrom]
    simp only [not_isGap_digitChar _ hi, digit?_digitChar _ hi, digit?_digitChar _ lo]
    have := ih (pos + 2)
    simp only [encodeChars] at this
    simp [this, hb, Except.map]

/-- Reading what was written gives the octets back. -/
theorem decode_encode (bs : Bytes) : decode (encodeChars bs) = .ok bs := by
  have h : (encodeChars bs).findIdx? (fun c => 128 ≤ c.toNat) = none := by
    simp only [List.findIdx?_eq_none_iff, encodeChars, List.mem_flatMap, pair]
    rintro c ⟨b, -, hc⟩
    have hi : b.toNat / 16 < 16 := by have := b.toNat_lt; omega
    have lo : b.toNat % 16 < 16 := Nat.mod_lt _ (by decide)
    simp only [List.mem_cons, List.not_mem_nil, or_false] at hc
    rcases hc with rfl | rfl
    · simpa using digitChar_lt _ hi
    · simpa using digitChar_lt _ lo
  rw [decode, h]
  exact decodeFrom_encodeChars bs 0

end Plunder.Text.Hex
