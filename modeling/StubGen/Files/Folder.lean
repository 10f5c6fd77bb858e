import StubGen.Files.Reading

/-!
# A folder as a source of files

A folder holds files and folders under paths that start in it. Beside it there are the directories
above it and those of the system, which hold nothing else, and the empty device.
-/

namespace StubGen.Files

/-- What stands under a name. -/
inductive Entry where
  | file (content : List UInt8)
  | directory
  deriving DecidableEq, Repr, Inhabited

/-- The entries of a folder, by their paths from it. -/
abbrev Folder := List (Path × Entry)

namespace Folder

/-- What stands under the given parts: an entry, or a folder that an entry's path passes. -/
def entry? (folder : Folder) (parts : List String) : Option Entry :=
  match folder.find? fun (path, _) => path.parts = parts with
  | some (_, entry) => some entry
  | none =>
    if folder.any fun (path, _) => parts.isPrefixOf path.parts then some .directory else none

/-- The longest name in bytes that a file can have. -/
def maxNameBytes : Nat := 255

/-- Follows a path from the directory under `here`, where `above` counts the steps out of the
folder. -/
def follow (folder : Folder) (above : Nat) (here : List String) :
    List String → Except ReadError (List UInt8)
  | [] => .error .isDirectory
  | part :: rest =>
    if part = ".." then
      if above = 0 ∧ here ≠ [] then follow folder 0 here.dropLast rest
      else follow folder (above + 1) [] rest
    else if part.utf8ByteSize > maxNameBytes then .error .nameTooLong
    else if 0 < above then .error .missing
    else
      match folder.entry? (here ++ [part]), rest with
      | none, _ => .error .missing
      | some (.file content), [] => .ok content
      | some (.file _), _ => .error .notDirectory
      | some .directory, rest => follow folder 0 (here ++ [part]) rest

def maxPathBytes : Nat := 4095

def systemDirectories : List String :=
  ["bin", "boot", "dev", "etc", "home", "lib", "lib64", "media", "mnt", "opt", "proc", "root",
   "run", "sbin", "srv", "sys", "tmp", "usr", "var"]

/-- What stands in the directory of the whole system. -/
def system : Folder :=
  (⟨"", ["dev", "null"]⟩, .file []) :: systemDirectories.map fun name => (⟨"", [name]⟩, .directory)

/-- What can be read when the folder is the working directory. -/
def files (folder : Folder) (path : Path) : Except ReadError (List UInt8) :=
  if path.spelling.toList.contains '\x00' then .error .nullCharacter
  else if maxPathBytes < path.spelling.utf8ByteSize then .error .nameTooLong
  else if path.root.isEmpty then folder.follow 0 [] path.parts
  else system.follow 0 [] path.parts

end Folder

end StubGen.Files
