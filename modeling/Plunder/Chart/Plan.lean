import Plunder.Amount
import Plunder.Loot
import Plunder.Digest.Sha256
import Plunder.Text.Lower

/-!
# Drawing the loot

The drawing of the loot totals: one bar of whole units for each participant, in a colour of its own,
with the number above it. The plan is the list of steps that draw it.
-/

namespace Plunder.Chart

/-- A colour by its red, green and blue parts between 0 and 1. -/
structure Color where
  red : Binary64
  green : Binary64
  blue : Binary64

/-- The part that an octet stands for. -/
def part (b : UInt8) : Binary64 := .ofRatio false b.toNat 255

/-- The colour of an address, whatever the case of its letters. -/
def addressColor (address : String) : Color :=
  match Sha256.digest (Text.utf8 (Text.lower address)) with
  | r :: g :: b :: _ => ⟨part r, part g, part b⟩
  | _ => ⟨part 0, part 0, part 0⟩

/-- A step of the drawing. -/
inductive Stroke where
  /-- An empty picture of the given size in inches and dots to the inch. -/
  | canvas (width height : Binary64) (dpi : Nat)
  /-- The bars, side by side from zero on. -/
  | bars (heights : List Nat) (width : Binary64) (colors : List Color)
  /-- A number centred above a point. -/
  | caption (x y : Binary64) (text : String)
  /-- The marks below the bars. -/
  | ticks (xs : List Binary64)
  /-- The texts at the marks. -/
  | tickLabels (names : List String)
  /-- How far the picture reaches to the right. -/
  | xLimit (upper : Nat)
  /-- How far the picture reaches upwards. -/
  | yLimit (upper : Nat)
  /-- The picture is written out. -/
  | save (dpi : Nat)
  /-- The picture is put away. -/
  | close

/-- The size of the picture in dots, and the dots to the inch. -/
def widthDots : Nat := 600

def heightDots : Nat := 400

def dpi : Nat := 100

/-- The size of the numbers above the bars. -/
def captionSize : Nat := 10

/-- How far the picture reaches upwards, given the greatest height. -/
def upper (greatest : Nat) : Nat := if greatest < 10 then 20 else greatest + greatest / 8 + 16

def middle (i : Nat) : Binary64 := .ofRatio false (2 * i + 1) 2

/-- How high the number above a bar stands: a fortieth of the picture above it, but at least one. -/
def captionHeight (top height : Nat) : Except Fault Binary64 :=
  let gap := Binary64.ofRatio false top 40
  if !gap.isFinite then .error (.overflow "integer division result too large for a float")
  else if (Binary64.ofNat 1).lt gap then
    let base := Binary64.ofNat height
    if base.isFinite then .ok (base.add gap)
    else .error (.overflow "int too large to convert to float")
  -- Here the sum is formed in whole numbers, and rounded once.
  else .ok (Binary64.ofNat (height + 1))

/-- The numbers above the bars, the first of which has the given index; a number that cannot be
placed ends the drawing. -/
def captions (top : Nat) : Nat → List Nat → List Stroke × Option Fault
  | _, [] => ([], none)
  | i, h :: hs =>
    match captionHeight top h, Numeral.intText? h with
    | .error f, _ => ([], some f)
    | .ok _, none => ([], some .numberTooLong)
    | .ok y, some text =>
      let (rest, fault) := captions top (i + 1) hs
      (.caption (middle i) y text :: rest, fault)

/-- The steps that draw the totals, and the fault that ended the drawing early. The picture is put
away in either case. -/
def plan (records : List LootRecord) : List Stroke × Option Fault :=
  let heights := records.map fun r => r.loot / Amount.unit
  let top := upper (heights.foldl max 0)
  let (texts, fault) := captions top 0 heights
  let begun :=
    [.canvas (.ofRatio false widthDots dpi) (.ofRatio false heightDots dpi) dpi,
      .bars heights (.ofNat 1) (records.map fun r => addressColor r.participant)] ++ texts
  match fault with
  | some f => (begun ++ [.close], some f)
  | none =>
    (begun ++ [.ticks ((List.range heights.length).map middle),
      .tickLabels (records.map (·.name)), .xLimit (max heights.length 1), .yLimit top, .save dpi,
      .close], none)

end Plunder.Chart
