import Vigil.Config.Comments
import Vigil.Config.Decoding
import Vigil.Files
import Vigil.Json.Reading
import Vigil.Yaml.Value

/-!
# Loading configurations

A configuration file is YAML or JSON with comments, as its name tells. The files
that it includes are merged into it in their order: lists of alerts are joined,
and every other key takes the later value. Files that are included include no more.
-/

namespace Vigil.Config

/-- Why a configuration could not be loaded. -/
inductive LoadingFault where
  | unreadable (path : String)
  | badJson (path : String)
  | badYaml (path : String)
  | notAMapping (path : String)
  | options
deriving DecidableEq, Repr

/-- The message of a configuration that could not be loaded. -/
def LoadingFault.message : LoadingFault → String
  | unreadable path => "Failed to read " ++ path
  | badJson path => "Invalid JSON in " ++ path
  | badYaml path => "Invalid YAML in " ++ path
  | notAMapping path => path ++ " must contain a mapping at the top level"
  | options => "Invalid options"

/-- A path joined to a directory; a path from the root stands for itself. -/
def join (directory path : String) : String :=
  if path.toList.head? = some '/' ∨ directory.isEmpty then path
  else if directory.toList.getLast? = some '/' then directory ++ path
  else directory ++ "/" ++ path

/-- The last component of a path, without slashes after it. -/
def fileName (path : String) : List Char :=
  let reversed := path.toList.reverse.dropWhile (· = '/')
  (reversed.takeWhile (· != '/')).reverse

/-- The directory of a path. -/
def directory (path : String) : String :=
  let reversed := path.toList.reverse.dropWhile (· = '/')
  let front := reversed.dropWhile (· != '/')
  let trimmed := front.dropWhile (· = '/')
  String.ofList (if trimmed.isEmpty then front.take 1 else trimmed.reverse)

/-- The name of a file tells that it holds YAML. -/
def isYaml (path : String) : Bool :=
  match Text.splitLast '.' (fileName path) with
  | some (stem, ending) => !stem.isEmpty && ["yml", "yaml"].contains (String.ofList ending)
  | none => false

/-- The value in a file. -/
def readValue (files : Files) (base : Place) (path : String) : Except LoadingFault Json :=
  match files.readText? base path with
  | none => .error (.unreadable path)
  | some text =>
      if isYaml path then
        match Yaml.read text.toList with
        | some value => .ok value
        | none => .error (.badYaml path)
      else
        match Json.read (stripComments text.toList) with
        | some value => .ok value
        | none => .error (.badJson path)

/-- The mapping in a file; a file without a value is an empty one. -/
def readFields (files : Files) (base : Place) (path : String) : Except LoadingFault Json.Fields :=
  match readValue files base path with
  | .error fault => .error fault
  | .ok (.object fields) => .ok fields
  | .ok .null => .ok []
  | .ok _ => .error (.notAMapping path)

/-- The key of the list of alerts. -/
def alertsKey : String := "alerts"

/-- The key of the list of included files. -/
def includeKey : String := "include"

/-- The alerts of two mappings joined, if the second has a list of them. -/
def mergeAlerts (base overlay : Json.Fields) : Json.Fields :=
  match overlay.get? alertsKey with
  | some (.list more) =>
      match base.get? alertsKey with
      | some (.list alerts) => base.insert alertsKey (.list (alerts ++ more))
      | _ => base.insert alertsKey (.list more)
  | _ => base

/-- Merges a mapping into another one. -/
def merge (base overlay : Json.Fields) : Json.Fields :=
  (overlay.erase alertsKey).foldl (fun merged field => merged.insert field.1 field.2)
    (mergeAlerts base overlay)

/-- The included files of a mapping: a list of texts or one text; anything else is left alone. -/
def includes (fields : Json.Fields) : List String :=
  match fields.get? includeKey with
  | some (.list items) => items.filterMap text
  | some (.text path) => [path]
  | _ => []

/-- Merges included files into a mapping; also the paths that were tried. -/
def mergeIncludes (files : Files) (base : Place) (merged : Json.Fields) :
    List String → List String × Except LoadingFault Json.Fields
  | [] => ([], .ok merged)
  | path :: rest =>
      match readFields files base path with
      | .error fault => ([path], .error fault)
      | .ok overlay =>
          let (tried, result) := mergeIncludes files base (merge merged (overlay.erase includeKey)) rest
          (path :: tried, result)

/-- The merged mapping of a file and the files that it includes; also the paths that were tried. -/
def loadFields (files : Files) (base : Place) (path : String) :
    List String × Except LoadingFault Json.Fields :=
  match readFields files base path with
  | .error fault => ([], .error fault)
  | .ok fields =>
      mergeIncludes files base (fields.erase includeKey)
        ((includes fields).map (join (directory path)))

/-- Loads options; also the paths of the included files that were tried. -/
def load (files : Files) (base : Place) (path : String) :
    List String × Except LoadingFault Options :=
  let (tried, result) := loadFields files base path
  (tried, result.bind fun fields =>
    match Config.options (.object fields) with
    | some options => .ok options
    | none => .error .options)

end Vigil.Config
