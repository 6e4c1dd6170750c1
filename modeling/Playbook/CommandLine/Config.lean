import Playbook.Session.Window
import Playbook.Toml.Reader
import Playbook.Zone.Description

/-!
# Playbook.CommandLine.Config

The configuration of an operator: the balance and the zone that commands use
when none is given, and how much is logged.
-/

namespace Playbook.CommandLine

/-- A configuration. -/
structure Config where
  balance : Float
  fallbackZone : ZoneName
  logLevel : String

/-- What can be wrong with a file of settings. -/
inductive ConfigFault where
  | malformed
  | fallbackZone (input : String)
  | balance
deriving DecidableEq

namespace ConfigFault

/-- A fault in words, followed by its own cause. -/
def messages : ConfigFault → List String
  | .malformed => ["invalid config TOML"]
  | .fallbackZone input => ["defaults.fallback_timezone", "unrecognized timezone: " ++ input]
  | .balance => ["defaults.balance must be a non-negative number"]

end ConfigFault

namespace Config

/-- The file that is read if none is named. -/
def defaultFile : String := "canonstrat.toml"

/-- The configuration without a file. -/
def default : Config where
  balance := 50000.0
  fallbackZone := ZoneName.trader
  logLevel := "warn"

/-! ## Settings -/

/-- A record of settings that need not be given. -/
def record? (names : List String) : Option Toml → Option Toml.Members
  | none => some []
  | some v => v.record? names

/-- A text, or what it is without a setting. -/
def text? (otherwise : String) : Option Toml → Option String
  | none => some otherwise
  | some (.string s) => some s
  | some _ => none

/-- A number, or what it is without a setting. -/
def number? (otherwise : Float) : Option Toml → Option Float
  | none => some otherwise
  | some (.real x) => some x
  | some (.integer n) => some (Float.ofInt n)
  | some _ => none

/-- What a file says, as far as it has settings of the right kinds. -/
structure Draft where
  balance : Float
  fallbackZone : String
  logLevel : String

/-- The settings of a document.  What is not given stays as it is without a
file. -/
def Draft.ofToml? (v : Toml) : Option Draft := do
  let root ← v.record? ["defaults", "logging"]
  let defaults ← record? ["balance", "fallback_timezone"] (root.lookup "defaults")
  let logging ← record? ["level"] (root.lookup "logging")
  return {
    balance := ← number? default.balance (defaults.lookup "balance")
    fallbackZone := ← text? default.fallbackZone.text (defaults.lookup "fallback_timezone")
    logLevel := ← text? default.logLevel (logging.lookup "level") }

/-- The configuration of some settings; the zone is looked at first. -/
def ofDraft (d : Draft) : Except ConfigFault Config :=
  match ZoneName.ofDescription? d.fallbackZone with
  | none => .error (.fallbackZone d.fallbackZone)
  | some fallbackZone =>
    if d.balance.isFinite && 0.0 ≤ d.balance then
      .ok { balance := d.balance, fallbackZone, logLevel := d.logLevel }
    else .error .balance

/-- The configuration in the text of a file. -/
def ofText (text : List Char) : Except ConfigFault Config :=
  match (Toml.read text).bind Draft.ofToml? with
  | some d => ofDraft d
  | none => .error .malformed

end Config

end Playbook.CommandLine
