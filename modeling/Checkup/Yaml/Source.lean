import Checkup.Text.Portions
import Checkup.Yaml.Cursor

/-!
The text of a YAML file as it gets to its reader.

The text comes in loads: the first two portions of the file together, every further one alone. A
load is refused as a whole if it holds a character that no text may hold. Where a load is refused,
or the file cannot be read on, the text is cut: what stands before the cut counts first.

Main definition: `Source.ofReading`.
-/

namespace Checkup.Yaml

/-- A text and what cuts it short, if anything does. -/
structure Source where
  text : List Char
  cut : Option Problem

namespace Source

def undecodable : Fault := { kind := .unicodeDecodeError }

/-- The text of loads up to the first that is refused, `failed` telling whether there is more that
cannot be read. -/
def ofLoads (failed : Bool) (loads : List (List Char)) : Source :=
  let sound := loads.takeWhile (·.all isAllowed)
  { text := sound.flatten
    cut :=
      if sound.length < loads.length then some .malformed
      else if failed then some (.fault undecodable)
      else none }

/-- The text of a file. -/
def ofReading (r : Text.Reading) : Source :=
  match r.portions with
  | first :: second :: others => ofLoads r.failed ((first ++ second) :: others)
  | portions => ofLoads r.failed (if r.failed then [] else portions)

end Source

end Checkup.Yaml
