import Plunder.Chart.Artifact
import Plunder.Loot

/-!
# Sketches

A picture that shows the loot totals in words: the mark of a picture, and behind it the name and the
loot of every participant.
-/

namespace Plunder.Chart

def sketchItem (r : LootRecord) : Except Fault String := do
  let loot ← (Value.nat r.loot).inline
  return r.name ++ "=" ++ loot

def sketch (rs : List LootRecord) : Except Fault Bytes := do
  let items ← rs.mapM sketchItem
  return ChartArtifact.mark :: Text.utf8 (";".intercalate items)

end Plunder.Chart
