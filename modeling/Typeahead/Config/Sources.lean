import Typeahead.Config.Settings

/-!
# Where settings come from

A setting is looked up in the overrides, then in the environment, then in the
file; the first of them that gives it decides, and if none does it keeps its
default.  A key that names no setting is a problem in the overrides and in the
file, and means nothing in the environment.
-/

namespace Typeahead.Config

set_option autoImplicit false

/-- The entries that give settings. -/
structure Sources where
  overrides : List Assignment := []
  environment : List Assignment := []
  file : List Assignment := []
  deriving DecidableEq, Repr, Inhabited

/-- The last value that entries give a setting. -/
def lastValue? (setting : Setting) (entries : List Assignment) : Option Raw :=
  (entries.reverse.find? fun entry => Setting.ofKey? entry.1 == some setting).map Prod.snd

/-- The value that decides about a setting. -/
def Sources.value? (sources : Sources) (setting : Setting) : Option Raw :=
  [sources.overrides, sources.environment, sources.file].findSome? (lastValue? setting)

/-- Settings as far as they have been read, and the problems on the way. -/
structure Draft where
  settings : Settings := {}
  complaints : List Complaint := []
  deriving DecidableEq, Repr, Inhabited

/-- Reads one setting. -/
def Draft.read (sources : Sources) (draft : Draft) (setting : Setting) : Draft :=
  match sources.value? setting with
  | none => draft
  | some raw =>
      match draft.settings.assign raw setting with
      | .ok settings => { draft with settings }
      | .error problem =>
          { draft with complaints := draft.complaints ++ [⟨setting.key, problem⟩] }

/-- The keys that name no setting, each once and in the order in which they come. -/
def Sources.unknownKeys (sources : Sources) : List String :=
  (((sources.overrides ++ sources.file).map Prod.fst).filter fun key =>
    (Setting.ofKey? key).isNone).foldl
      (fun kept key => if kept.contains key then kept else kept ++ [key]) []

/-- The settings that the sources give, or all that is wrong with them. -/
def Sources.settings (sources : Sources) : Except (List Complaint) Settings :=
  let draft := Setting.all.foldl (Draft.read sources) {}
  let complaints := draft.complaints ++ sources.unknownKeys.map (⟨·, .unknownKey⟩)
  if complaints.isEmpty then .ok draft.settings else .error complaints

end Typeahead.Config
