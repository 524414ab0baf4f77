import TypesetTrace.Journal.Problem
import TypesetTrace.Service.Field

/-! Names among the settings that are none themselves, but tell where else settings are looked for
and how they are written there. There is nothing to be found elsewhere, so it only matters whether
the values can be used at all. -/
namespace TypesetTrace.Journal.Source

def isVoid : Json → Bool
  | .null => true
  | .bool b => !b
  | .number spelling => match Service.real spelling with
    | .ok x => x == 0.0
    | .error _ => false
  | .string s => s.isEmpty
  | .array vs => vs.isEmpty
  | .object fs => fs.isEmpty

def isString : Json → Bool
  | .string _ => true
  | _ => false

def anything (_ : Json) : Option Problem := none

def nothing : Json → Option Problem
  | .null => none
  | _ => some .unusableSource

def text : Json → Option Problem
  | .null | .string _ => none
  | _ => some .unusableSource

/-- One path or some; the names of fields count as paths. -/
def paths : Json → Option Problem
  | .null | .string _ | .object _ => none
  | .array vs => if vs.all isString then none else some .unusableSource
  | _ => some .unusableSource

def count : Json → Option Problem
  | .number _ | .bool _ => none
  | v => if isVoid v then none else some .unusableSource

/-- The words of a command, or a truth value. -/
def words : Json → Option Problem
  | .null | .bool _ | .array _ => none
  | .number spelling => if isVoid (.number spelling) then none else some .wrongSource
  | _ => some .wrongSource

/-- The names, each with what is wrong with a value. Problems are looked for in this order. -/
def all : List (Text × (Json → Option Problem)) :=
  [("_env_prefix".toList, text), ("_env_nested_max_split".toList, count),
    ("_env_file".toList, paths), ("_build_sources".toList, nothing),
    ("_cli_parse_args".toList, words), ("_secrets_dir".toList, paths)] ++
  ["_case_sensitive", "_nested_model_default_partial_update", "_env_prefix_target",
    "_env_file_encoding", "_env_ignore_empty", "_env_nested_delimiter", "_env_parse_none_str",
    "_env_parse_enums", "_cli_prog_name", "_cli_settings_source", "_cli_parse_none_str",
    "_cli_hide_none_type", "_cli_avoid_json", "_cli_enforce_required",
    "_cli_use_class_docs_for_groups", "_cli_exit_on_error", "_cli_prefix",
    "_cli_flag_prefix_char", "_cli_implicit_flags", "_cli_ignore_unknown_args",
    "_cli_kebab_case", "_cli_shortcuts"].map fun name => (name.toList, anything)

def isName (name : Text) : Bool := all.any fun source => source.1 == name

def problem? (fields : List (Text × Json)) : Option Problem :=
  all.findSome? fun (name, problem?) => (fields.lookup name).bind problem?

end TypesetTrace.Journal.Source
