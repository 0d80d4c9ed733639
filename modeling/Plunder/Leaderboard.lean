import Plunder.Amount
import Plunder.Loot
import Plunder.Journal

/-!
# The leaderboard

The loot totals as bars whose heights are relative to the greatest total. One reading of the ledger
is all it takes.
-/

namespace Plunder.Leaderboard

def minHeight : Binary64 := .ofRatio false 4 100

/-- What the leaderboard says when the totals cannot be read. -/
def fetchFailure : String := "Failed to fetch loot totals."

/-- What the leaderboard says when there are no participants. -/
def emptyNotice : String := "No loot to display yet!"

def closedNotice : String := "The Charter is Closed!"

/-- The bar of one participant. -/
structure Bar where
  name : String
  participant : String
  loot : Nat
  height : Binary64

namespace Bar

def units (b : Bar) : Except Fault Decimal := Amount.ofBase b.loot

/-- The loot as the user reads it. -/
def label (b : Bar) : Except Fault String := (Amount.format b.loot).map (· ++ " PO8")

end Bar

/-- The height of a total relative to the greatest; zero where the greatest is. -/
def relative (loot greatest : Nat) : Binary64 := .ofRatio false loot greatest

/-- The totals as bars, none of them below the least height. Equal totals have equal bars. -/
def project (least : Binary64) (records : List LootRecord) : List Bar :=
  let greatest := (records.map (·.loot)).foldl max 0
  records.map fun r =>
    let height := relative r.loot greatest
    ⟨r.name, r.participant, r.loot, if height.lt least then least else height⟩

/-- What the leaderboard shows. -/
structure View where
  bars : List Bar
  error : Option String
  notice : Option String
  closed : Bool

/-- The leaderboard of a closed charter, which reads nothing. -/
def closedView : View := ⟨[], none, some closedNotice, true⟩

/-- The leaderboard after its reading, and what is noted. -/
def view (reading : Except Fault (List LootRecord)) : View × List Note :=
  match reading with
  | .error f =>
    (⟨[], some fetchFailure, none, false⟩,
      [.under .warning "leaderboard" [("status", .text "failed"), ("error", .text f.message)]])
  | .ok [] => (⟨[], none, some emptyNotice, false⟩, [])
  | .ok records =>
    (⟨project minHeight records, none, none, false⟩,
      [.under .debug "leaderboard" [("participants", .nat records.length)]])

end Plunder.Leaderboard
