import Playbook.Text
import Playbook.Zone.Name

/-!
# Playbook.Zone.Description

Zones by description: an abbreviation or a region, the name of a zone in any
letter case, or the city of a name.

Abbreviations go first, because the database has zones called `EST` and `MST`
that never change their clocks, and nobody who writes `EST` means those.
-/

namespace Playbook.ZoneName

/-! ## Normal form of a description -/

/-- Words that add nothing at the end of a description. -/
def fillers : List (List Char) :=
  ["time", "timezone", "zone", "standard", "daylight"].map String.toList

/-- Drop fillers in front while another word remains. -/
def dropFillers : List (List Char) → List (List Char)
  | w :: v :: rest => if w ∈ fillers then dropFillers (v :: rest) else w :: v :: rest
  | ws => ws

/-- The words of a description in lower case, fillers at the end left out, with
one blank between them. -/
def normalForm (s : List Char) : List Char :=
  let ws := (Text.words s).map Text.lower
  [' '].intercalate (dropFillers ws.reverse).reverse

/-! ## Abbreviations and regions -/

/-- Descriptions in normal form with the names of the zones that they mean. -/
def abbreviations : List (String × String) := [
  ("et", "America/New_York"), ("est", "America/New_York"), ("edt", "America/New_York"),
  ("eastern", "America/New_York"), ("nyc", "America/New_York"), ("ny", "America/New_York"),
  ("ct", "America/Chicago"), ("cst", "America/Chicago"), ("cdt", "America/Chicago"),
  ("central", "America/Chicago"),
  ("mt", "America/Denver"), ("mst", "America/Denver"), ("mdt", "America/Denver"),
  ("mountain", "America/Denver"),
  ("arizona", "America/Phoenix"),
  ("pt", "America/Los_Angeles"), ("pst", "America/Los_Angeles"), ("pdt", "America/Los_Angeles"),
  ("pacific", "America/Los_Angeles"), ("la", "America/Los_Angeles"), ("sf", "America/Los_Angeles"),
  ("san francisco", "America/Los_Angeles"),
  ("akst", "America/Anchorage"), ("akdt", "America/Anchorage"), ("alaska", "America/Anchorage"),
  ("hst", "Pacific/Honolulu"), ("hawaii", "Pacific/Honolulu"),
  ("utc", "UTC"), ("gmt", "UTC"), ("z", "UTC"), ("zulu", "UTC"),
  ("bst", "Europe/London"), ("uk", "Europe/London"),
  ("cet", "Europe/Berlin"), ("cest", "Europe/Berlin"), ("central european", "Europe/Berlin"),
  ("eet", "Europe/Athens"), ("eest", "Europe/Athens"),
  ("ist", "Asia/Kolkata"), ("india", "Asia/Kolkata"), ("mumbai", "Asia/Kolkata"),
  ("jst", "Asia/Tokyo"), ("japan", "Asia/Tokyo"),
  ("hkt", "Asia/Hong_Kong"), ("sgt", "Asia/Singapore"), ("gst", "Asia/Dubai"),
  ("aest", "Australia/Sydney"), ("aedt", "Australia/Sydney"), ("awst", "Australia/Perth"),
  ("nzst", "Pacific/Auckland"), ("nzdt", "Pacific/Auckland"), ("new zealand", "Pacific/Auckland"),
  ("brt", "America/Sao_Paulo")]

/-- The zone that an abbreviation or a region means. -/
def ofAbbreviation? (key : List Char) : Option ZoneName :=
  (abbreviations.lookup (String.ofList key)).bind ofText?

/-! ## Names and cities -/

/-- The first zone whose name is `key` up to letter case. -/
def ofFolded? (key : List Char) : Option ZoneName :=
  all.find? fun z => Text.sameFolded z.text.toList key

/-- The city part of a name: what follows the last slash, if there is one. -/
def city? (name : List Char) : Option (List Char) :=
  if '/' ∈ name then (name.splitOn '/').getLast? else none

/-- The first zone whose city is `key` up to letter case. -/
def ofCity? (key : List Char) : Option ZoneName :=
  all.find? fun z => (city? z.text.toList).any fun c => Text.sameFolded c key

/-! ## Descriptions -/

/-- The zone that a description means. -/
def ofDescription? (input : String) : Option ZoneName :=
  let trimmed := Text.trim input.toList
  let key := normalForm trimmed
  let underscored := key.map fun c => if c = ' ' then '_' else c
  if trimmed = [] then none
  else
    ofAbbreviation? key
      <|> ofText? (String.ofList trimmed)
      <|> ofFolded? underscored
      <|> ofCity? underscored

end Playbook.ZoneName
