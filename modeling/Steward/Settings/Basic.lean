import Steward.Reading.Schema
import Steward.Reading.Scalar
import Steward.Text.Case

/-!
# Settings

What can be set, what holds when nothing is set, and which values are allowed.

## Contents

* `Settings` — the settings;
* `Settings.formatRule`, `Settings.levelRule` — the rules for the two settings about logging;
* `Settings.schema` — how settings are read and written;
* `Settings.accessExpiry`, `Settings.writeExpiry` — expiries, where a negative number of seconds means never.
-/

namespace Steward

/-- The settings. -/
structure Settings where
  account : String
  appsManagerUri : Option String
  metricsUri : Option String
  accessExpirySeconds : Int
  writeExpirySeconds : Int
  resultsPerPage : Int
  onlyManaged : Bool
  maxWorkers : Int
  pollInterval : Binary64
  deployTimeout : Binary64
  logLevel : String
  logFormat : String
  metricsEnabled : Bool
  deriving DecidableEq, Inhabited

namespace Settings

/-- Log formats are `json` and `console`, in any case. -/
def formatRule (s : String) : Except String String :=
  let s := Text.lower s
  if s = "json" ∨ s = "console" then .ok s else .error ("Unsupported log format: " ++ s)

/-- Log levels, in any case. -/
def levelRule (s : String) : Except String String :=
  let s := Text.upper s
  if ["DEBUG", "INFO", "WARNING", "ERROR", "CRITICAL"].contains s then .ok s
  else .error ("Unsupported log level: " ++ s)

/-- Settings. -/
def schema : Schema Settings where
  title := "Settings"
  read := record fun es =>
    Settings.mk <$> optional es "account" text "default" <*> perhaps es "apps_manager_uri" text
      <*> perhaps es "metrics_uri" text
      <*> optional es "applications_access_expiry_seconds" integer (-1)
      <*> optional es "applications_write_expiry_seconds" integer 600
      <*> optional es "results_per_page" (atMost 5000 (atLeast 1 integer)) 100
      <*> optional es "only_managed" truth false
      <*> optional es "max_workers" (atLeast 1 integer) 16
      <*> optional es "poll_interval_seconds" (aboveZero number) (.ofInt 5)
      <*> optional es "deploy_timeout_seconds" (aboveZero number) (.ofInt 600)
      <*> optional es "log_level" (ruled text levelRule) "INFO"
      <*> optional es "log_format" (ruled text formatRule) "json"
      <*> optional es "metrics_enabled" truth true
  write s := .map [("account", .text s.account), ("apps_manager_uri", .ofText? s.appsManagerUri),
    ("metrics_uri", .ofText? s.metricsUri),
    ("applications_access_expiry_seconds", .int s.accessExpirySeconds),
    ("applications_write_expiry_seconds", .int s.writeExpirySeconds),
    ("results_per_page", .int s.resultsPerPage), ("only_managed", .bool s.onlyManaged),
    ("max_workers", .int s.maxWorkers), ("poll_interval_seconds", .real s.pollInterval),
    ("deploy_timeout_seconds", .real s.deployTimeout), ("log_level", .text s.logLevel),
    ("log_format", .text s.logFormat), ("metrics_enabled", .bool s.metricsEnabled)]

/-- The names of the settings. -/
def names : List String :=
  ["account", "apps_manager_uri", "metrics_uri", "applications_access_expiry_seconds",
   "applications_write_expiry_seconds", "results_per_page", "only_managed", "max_workers",
   "poll_interval_seconds", "deploy_timeout_seconds", "log_level", "log_format", "metrics_enabled"]

/-- A number of seconds after which something expires; a negative one means never. -/
def expiryOf (seconds : Int) : Option Int :=
  if seconds < 0 then none else some seconds

/-- How long an entry may go unread. -/
def accessExpiry (s : Settings) : Option Int :=
  expiryOf s.accessExpirySeconds

/-- How long an entry may go unwritten. -/
def writeExpiry (s : Settings) : Option Int :=
  expiryOf s.writeExpirySeconds

end Settings

end Steward
