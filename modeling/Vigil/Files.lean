import Vigil.Table
import Vigil.Text.Blank

/-!
# Files

A tree of files as the watch sees it. A path is resolved step by step from the
root of the tree, and each step but the last must lead to a directory. A directory
is there when it was made or when a file lies under it.
-/

namespace Vigil

/-- A path from the root of the tree, without dots. -/
abbrev Place := List String

/-- A tree of files with their bytes, and directories that were made. -/
structure Files where
  contents : Table Place (List UInt8)
  made : List Place

namespace Files

/-- The components of a path; a leading slash changes nothing. -/
def components (path : String) : List String :=
  (Text.splitAt '/' path.toList).map String.ofList

/-- Whether a place is a directory. -/
def isDirectory (files : Files) (place : Place) : Bool :=
  place.isEmpty || files.made.any (place.isPrefixOf ·)
    || files.contents.keys.any fun key => place.isPrefixOf key && place.length < key.length

/-- Follows components from a place. -/
def follow (files : Files) (place : Place) : List String → Option Place
  | [] => some place
  | step :: rest =>
      if !files.isDirectory place then none
      else if step = "" ∨ step = "." then files.follow place rest
      else if step = ".." then files.follow place.dropLast rest
      else files.follow (place ++ [step]) rest

/-- The place of a path, where a path without a leading slash begins in a directory. -/
def resolve (files : Files) (base : Place) (path : String) : Option Place :=
  files.follow (if path.toList.head? = some '/' then [] else base) (components path)

/-- The bytes of a file. -/
def read? (files : Files) (base : Place) (path : String) : Option (List UInt8) :=
  (files.resolve base path).bind files.contents.get?

/-- The text of a file in UTF-8. -/
def readText? (files : Files) (base : Place) (path : String) : Option String :=
  (files.read? base path).bind fun bytes => String.fromUTF8? ⟨bytes.toArray⟩

/-- Whether a path leads to a file or a directory. -/
def contains (files : Files) (base : Place) (path : String) : Bool :=
  match files.resolve base path with
  | some place => files.isDirectory place || files.contents.contains place
  | none => false

/-- Writes a file; its directory must be there. -/
def write? (files : Files) (base : Place) (path : String) (bytes : List UInt8) : Option Files :=
  match files.resolve base path with
  | some place =>
      if files.isDirectory place ∨ !files.isDirectory place.dropLast then none
      else some { files with contents := files.contents.set place bytes }
  | none => none

/-- Removes a file; its directory stays. -/
def remove? (files : Files) (base : Place) (path : String) : Option Files :=
  match files.resolve base path with
  | some place =>
      if files.contents.contains place then
        some {
          contents := ⟨files.contents.entries.filter fun entry => entry.1 ≠ place⟩
          made := place.dropLast :: files.made }
      else none
  | none => none

/-- Writes a file and makes the directories on its way. -/
def place (files : Files) (base : Place) (path : String) (bytes : List UInt8) : Files :=
  let steps := (components path).filter fun step => step ≠ "" ∧ step ≠ "."
  { files with contents := files.contents.set (base ++ steps) bytes }

/-- A tree with one directory. -/
def withDirectory (place : Place) : Files := ⟨Table.empty, [place]⟩

end Files

end Vigil
