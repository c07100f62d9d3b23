import Typeahead.Config.Reading
import Typeahead.Notice

/-!
# The settings

Each setting has a name, a default and a way of reading it.  The settings are
listed in one order, in which problems with them are told.
-/

namespace Typeahead.Config

open Typeahead.Decimal

set_option autoImplicit false

/-- Where the index is kept. -/
inductive Backend where
  | redis
  | memory
  deriving DecidableEq, Repr, Inhabited

def backendNames : List (String × Backend) := [("redis", .redis), ("memory", .memory)]

/-- Which notices are shown. -/
inductive LogLevel where
  | debug
  | info
  | warning
  | error
  deriving DecidableEq, Repr, Inhabited

def logLevelNames : List (String × LogLevel) :=
  [("DEBUG", .debug), ("INFO", .info), ("WARNING", .warning), ("ERROR", .error)]

/-- Notices of a level are shown. -/
def LogLevel.shows : LogLevel → Level → Bool
  | .debug, _ => true
  | .info, _ => true
  | .warning, level => level != .info
  | .error, level => level == .error

/-- The name of a choice. -/
def nameOfChoice {α : Type} [DecidableEq α] (choices : List (String × α)) (choice : α) : String :=
  ((choices.find? fun entry => decide (entry.2 = choice)).map Prod.fst).getD ""

/-- The settings of the program. -/
structure Settings where
  storeBackend : Backend := .redis
  storeAddress : String := "redis://localhost:6379/0"
  storeTimeout : Binary64 := Binary64.ofInt 5
  catalog : String := "https://replicate.npmjs.com/_all_docs"
  fetchTimeout : Binary64 := Binary64.ofInt 60
  /-- the seconds from one rebuild of the index to the next -/
  rebuildInterval : Binary64 := Binary64.ofInt 43200
  /-- how many pairs trigger a flush -/
  batchSize : Int := 1000
  /-- the seconds from one ping of a store that is not ready to the next -/
  readinessPoll : Binary64 := Binary64.ofInt 1
  /-- whether the service keeps the index built -/
  runIndexer : Bool := true
  /-- for how many seconds an answer may be kept -/
  cacheMaxAge : Int := 300
  /-- how many suggestions are given at most -/
  queryLimit : Int := 11
  host : String := "0.0.0.0"
  port : Int := 8080
  logLevel : LogLevel := .info
  deriving DecidableEq, Repr, Inhabited

/-- The settings, one by one. -/
inductive Setting where
  | storeBackend
  | storeAddress
  | storeTimeout
  | catalog
  | fetchTimeout
  | rebuildInterval
  | batchSize
  | readinessPoll
  | runIndexer
  | cacheMaxAge
  | queryLimit
  | host
  | port
  | logLevel
  deriving DecidableEq, Repr, Inhabited

/-- A small letter for a capital one; the sign of the kelvin counts as a capital K. -/
def smallLetter (c : Char) : Char :=
  if c = '\u212A' then 'k' else c.toLower

namespace Setting

/-- All settings in their order. -/
def all : List Setting :=
  [.storeBackend, .storeAddress, .storeTimeout, .catalog, .fetchTimeout, .rebuildInterval,
    .batchSize, .readinessPoll, .runIndexer, .cacheMaxAge, .queryLimit, .host, .port, .logLevel]

theorem mem_all (setting : Setting) : setting ∈ all := by
  cases setting <;> decide

/-- The key that a setting is given by. -/
def key : Setting → String
  | .storeBackend => "store_backend"
  | .storeAddress => "store_address"
  | .storeTimeout => "store_timeout_seconds"
  | .catalog => "catalog_url"
  | .fetchTimeout => "fetch_timeout_seconds"
  | .rebuildInterval => "rebuild_interval_seconds"
  | .batchSize => "batch_size"
  | .readinessPoll => "readiness_poll_interval_seconds"
  | .runIndexer => "run_indexer"
  | .cacheMaxAge => "cache_max_age_seconds"
  | .queryLimit => "query_limit"
  | .host => "host"
  | .port => "port"
  | .logLevel => "log_level"

/-- The setting that a key gives, whatever its case. -/
def ofKey? (text : String) : Option Setting :=
  all.find? fun setting => setting.key == text.map smallLetter

end Setting

/-- Gives a setting a value. -/
def Settings.assign (settings : Settings) (raw : Raw) : Setting → Except Problem Settings
  | .storeBackend => (raw.toChoice backendNames).map ({ settings with storeBackend := · })
  | .storeAddress => raw.toText.map ({ settings with storeAddress := · })
  | .storeTimeout => (raw.toRealAbove 0).map ({ settings with storeTimeout := · })
  | .catalog => raw.toText.map ({ settings with catalog := · })
  | .fetchTimeout => (raw.toRealAbove 0).map ({ settings with fetchTimeout := · })
  | .rebuildInterval => (raw.toRealAbove 0).map ({ settings with rebuildInterval := · })
  | .batchSize => (raw.toIntegerFrom 1).map ({ settings with batchSize := · })
  | .readinessPoll => (raw.toRealFrom 0).map ({ settings with readinessPoll := · })
  | .runIndexer => raw.toTruth.map ({ settings with runIndexer := · })
  | .cacheMaxAge => (raw.toIntegerFrom 0).map ({ settings with cacheMaxAge := · })
  | .queryLimit => (raw.toIntegerFrom 1).map ({ settings with queryLimit := · })
  | .host => raw.toText.map ({ settings with host := · })
  | .port => raw.toInteger.map ({ settings with port := · })
  | .logLevel => (raw.toChoice logLevelNames).map ({ settings with logLevel := · })

/-- The value of a setting as it would be given. -/
def Settings.get (settings : Settings) : Setting → Raw
  | .storeBackend => .text (nameOfChoice backendNames settings.storeBackend)
  | .storeAddress => .text settings.storeAddress
  | .storeTimeout => .real settings.storeTimeout
  | .catalog => .text settings.catalog
  | .fetchTimeout => .real settings.fetchTimeout
  | .rebuildInterval => .real settings.rebuildInterval
  | .batchSize => .integer settings.batchSize
  | .readinessPoll => .real settings.readinessPoll
  | .runIndexer => .truth settings.runIndexer
  | .cacheMaxAge => .integer settings.cacheMaxAge
  | .queryLimit => .integer settings.queryLimit
  | .host => .text settings.host
  | .port => .integer settings.port
  | .logLevel => .text (nameOfChoice logLevelNames settings.logLevel)

end Typeahead.Config
