import HouseholdAccess.Text.LetterCase
import HouseholdAccess.Value

/-!
# Where settings come from

A setting is looked for among the values given with the call and then in the
environment, where its name has `PERMISSIONS_` in front (`Settings.Source.value?`).
Names may be written in small or capital letters; of several values for one
setting the first one given counts, and the last one of the environment.

How settings are looked for may be given with the values as well
(`Settings.Lookup.ofGiven`), under names of its own, which are no settings.
-/

namespace HouseholdAccess

namespace Settings

/-- How settings are looked for. -/
structure Lookup where
  /-- What stands in front of their names in the environment. -/
  mark : String := "PERMISSIONS_"
  /-- Whether names have to be written as they are. -/
  exactCase : Bool := false
  /-- Whether empty texts of the environment do not count. -/
  skipsEmpty : Bool := false
  /-- The text of the environment that stands for null. -/
  nullText : Option String := none

namespace Lookup

/-- The names under which it is given how settings are looked for. Those that nothing is done for
    are about files and the arguments of commands, of which there are none. -/
def names : List String :=
  ["_case_sensitive", "_nested_model_default_partial_update", "_env_prefix", "_env_prefix_target",
    "_env_file", "_env_file_encoding", "_env_ignore_empty", "_env_nested_delimiter",
    "_env_nested_max_split", "_env_parse_none_str", "_env_parse_enums", "_cli_prog_name",
    "_cli_parse_args", "_cli_settings_source", "_cli_parse_none_str", "_cli_hide_none_type",
    "_cli_avoid_json", "_cli_enforce_required", "_cli_use_class_docs_for_groups",
    "_cli_exit_on_error", "_cli_prefix", "_cli_flag_prefix_char", "_cli_implicit_flags",
    "_cli_ignore_unknown_args", "_cli_kebab_case", "_cli_shortcuts", "_secrets_dir"]

/-- Whether a key is one of those names. -/
def isName (key : Key) : Bool := names.any (key.isText ·)

/-- Whether something given under a name counts as true. -/
def flag (given : Entries) (name : String) : Bool :=
  ((Entries.field? given name).map Value.isTruthy).getD false

/-- A text given under a name. -/
def text? (given : Entries) (name : String) : Option String :=
  match Entries.field? given name with
  | some (.text s) => some s
  | _ => none

/-- How settings are looked for according to what is given. -/
def ofGiven (given : Entries) : Lookup where
  mark := (text? given "_env_prefix").getD "PERMISSIONS_"
  exactCase := flag given "_case_sensitive"
  skipsEmpty := flag given "_env_ignore_empty"
  nullText := text? given "_env_parse_none_str"

/-- A name as it is compared with others. -/
def normal (l : Lookup) (name : String) : String :=
  if l.exactCase then name else LetterCase.lowercase name

/-- Whether a key is the name of a setting. -/
def isNamed (l : Lookup) (name : String) : Key → Bool
  | .text s => l.normal s == name
  | _ => false

/-- What the environment has under a name. -/
def inEnvironment? (l : Lookup) (environment : List (String × String)) (name : String) :
    Option Value :=
  let name := l.normal (l.mark ++ name)
  let found := environment.reverse.find? fun (n, text) =>
    l.normal n == name && !(l.skipsEmpty && text.isEmpty)
  found.map fun (_, text) => if l.nullText = some text then .null else .text text

end Lookup

/-- Where settings come from. -/
structure Source where
  /-- The values given with the call. -/
  given : Entries
  /-- The environment. -/
  environment : List (String × String)
  /-- How they are looked for. -/
  lookup : Lookup := {}

namespace Source

/-- The source with the values given and the environment. -/
def ofGiven (given : Entries) (environment : List (String × String)) : Source where
  given := given.filter fun (key, _) => !Lookup.isName key
  environment
  lookup := .ofGiven given

/-- The value of a setting, if it has one. -/
def value? (source : Source) (name : String) : Option Value :=
  match source.given.find? fun (key, _) => source.lookup.isNamed name key with
  | some (_, v) => some v
  | none => source.lookup.inEnvironment? source.environment name

/-- What is given beside the settings of the names. -/
def rest (source : Source) (names : List String) : Entries :=
  source.given.filter fun (key, _) => !names.any fun name => source.lookup.isNamed name key

end Source

end Settings

end HouseholdAccess
