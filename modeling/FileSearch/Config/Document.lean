import FileSearch.Config.Basic
import FileSearch.Toml.Quoted
import FileSearch.Toml.Reader

/-!
# Configurations in documents

A configuration is a TOML document with a table about searches and one about storage. Whatever a
document leaves out has its default, and what it mentions beyond that is passed over.
-/

set_option autoImplicit false

namespace FileSearch

namespace Toml.Value

def text? : Value → Option String
  | text chars => some (String.ofList chars)
  | _ => none

def boolean? : Value → Option Bool
  | boolean value => some value
  | _ => none

/-- Whether a value is a list or table without anything in it. -/
def isEmpty : Value → Bool
  | list elements => elements.isEmpty
  | table _ entries => entries.isEmpty
  | _ => false

/-- A name. It may stand for itself or as the only key of a table, with nothing behind it. -/
def name? : Value → Option (List Char)
  | text chars => some chars
  | table _ [(key, value)] => if value.isEmpty then some key else none
  | _ => none

/-- What a group of fields has for each of its keys: a table by key, a list by position, and a point
in time nothing. Other values are no groups. -/
def group? (keys : List String) : Value → Option (List (Option Value))
  | table _ entries => some (keys.map fun key => entries.lookup key.toList)
  | list elements => some (keys.zipIdx.map fun (_, position) => elements[position]?)
  | tables elements => some (keys.zipIdx.map fun (_, position) => elements[position]?)
  | moment => some (keys.map fun _ => none)
  | _ => none

end Toml.Value

namespace Format

def all : List Format := [text, json, markdown]

def ofValue? (value : Toml.Value) : Option Format :=
  value.name?.bind fun chars => all.find? fun format => format.name.toList == chars

end Format

namespace Config

def fieldOr {α : Type} (read : Toml.Value → Option α) (default : α) :
    Option Toml.Value → Option α
  | none => some default
  | some value => read value

/-- The keys of the fields about searches. -/
def searchKeys : List String := ["program", "capture_matches", "filter_content", "default_format"]

/-- The keys of the fields about storage. -/
def storageKeys : List String := ["specs_dir"]

/-- A configuration with the fields about searches. -/
def readSearch (config : Config) (value : Toml.Value) : Option Config := do
  match ← value.group? searchKeys with
  | [program, captureMatches, filterContent, defaultFormat] =>
    return { config with
      program := ← fieldOr Toml.Value.text? config.program program
      captureMatches := ← fieldOr Toml.Value.boolean? config.captureMatches captureMatches
      filterContent := ← fieldOr Toml.Value.boolean? config.filterContent filterContent
      defaultFormat := ← fieldOr Format.ofValue? config.defaultFormat defaultFormat }
  | _ => none

/-- A configuration with the fields about storage. -/
def readStorage (config : Config) (value : Toml.Value) : Option Config := do
  match ← value.group? storageKeys with
  | [directory] =>
    return { config with
      specsDirectory? :=
        ← fieldOr (fun value => value.text?.map fun text => some (Path.ofText text))
          config.specsDirectory? directory }
  | _ => none

def ofDocument? (document : String) : Option Config := do
  let entries ← Toml.ofDocument? document
  let config : Config := {}
  let config ← ((entries.lookup "search".toList).map config.readSearch).getD (some config)
  ((entries.lookup "storage".toList).map config.readStorage).getD (some config)

def quoted (text : String) : String :=
  String.ofList (Toml.writeString text.toList)

def flagText (value : Bool) : String :=
  if value then "true" else "false"

/-- The line for the directory of saved specifications, where there is one that is text. -/
def directoryLine? (config : Config) : Option String :=
  match config.specsDirectory? with
  | none => some ""
  | some directory => directory.toText?.map fun text => "specs_dir = " ++ quoted text ++ "\n"

/-- The document of a configuration. There is none for a path that is no text. -/
def document? (config : Config) : Option String :=
  config.directoryLine?.map fun directoryLine =>
    "[search]\nprogram = " ++ quoted config.program
      ++ "\ncapture_matches = " ++ flagText config.captureMatches
      ++ "\nfilter_content = " ++ flagText config.filterContent
      ++ "\ndefault_format = " ++ quoted config.defaultFormat.name
      ++ "\n\n[storage]\n" ++ directoryLine

end Config

end FileSearch
