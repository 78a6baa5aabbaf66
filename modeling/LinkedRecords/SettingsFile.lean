import LinkedRecords.Settings

/-! # Settings files

Where settings are looked for: in the file that is asked for, or else in a default file of the
working directory, which may be missing.
-/

namespace LinkedRecords

/-- A working directory: the contents of its files, by their path from there. -/
structure Folder where
  files : List (List String × ByteArray)

/-- A place that a path leads to. -/
inductive Place where
  | directory
  | file (contents : ByteArray)

namespace Folder

/-- What is in the folder under a path. -/
def at? (f : Folder) (path : List String) : Option Place :=
  match f.files.find? (·.1 = path) with
  | some (_, contents) => some (.file contents)
  | none =>
    if path.isEmpty || f.files.any (fun (p, _) => path.isPrefixOf p) then some .directory else none

/-- Follows the parts of a path from a directory: one in the folder, or `none` for those above it,
of which nothing is known but that they are there. -/
def follow (f : Folder) : (place : Option (List String)) → (parts : List String) → Option Place
  | none, [] => some .directory
  | some path, [] => f.at? path
  | place, part :: parts =>
    match place.map f.at? with
    | some (some (.file _)) | some none => none
    | _ =>
      if part = "" ∨ part = "." then f.follow place parts
      else if part = ".." then
        match place with
        | none | some [] => f.follow none parts
        | some path => f.follow (some path.dropLast) parts
      else
        match place with
        | none => none
        | some path => f.follow (some (path ++ [part])) parts

/-- A path that takes so many bytes leads nowhere, and neither does a longer one. -/
def pathLimit : Nat := 4096

/-- The place that a path leads to, if it is there. -/
def resolve? (f : Folder) (path : String) : Option Place :=
  if path.isEmpty || pathLimit ≤ path.utf8ByteSize then none
  else
    let start := if path.startsWith "/" then none else some []
    f.follow start (path.splitOn "/")

end Folder

/-- The options that a file sets. -/
def Options.ofFile (folder : Folder) (path : String) : Except SettingsError Options :=
  match folder.resolve? path with
  | none => .error (.fileNotFound path)
  | some .directory => .error .unreadable
  | some (.file contents) =>
    match String.fromUTF8? contents with
    | none => .error .unreadable
    | some text => Options.ofToml text

/-- The options that a file sets: the one that is asked for, or else the default file, or else the
default options. -/
def Options.load (folder : Folder) (defaultPath : String) (asked : Option String) :
    Except SettingsError Options :=
  match asked with
  | some path => Options.ofFile folder path
  | none =>
    match folder.resolve? defaultPath with
    | some _ => Options.ofFile folder defaultPath
    | none => .ok {}

end LinkedRecords
