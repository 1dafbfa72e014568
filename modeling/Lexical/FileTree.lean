import Lexical.SourceError
/-! The files that a run can see, and how a path finds them.

A tree holds what lies in the working directory. What lies outside is not known: paths may lead there
through directories, but every name there is missing. -/
namespace Lexical

inductive FileNode
  | file (bytes : ByteArray)
  | directory

/-- Entries by the names that lead to them, the latest first. -/
structure FileTree where
  entries : List (List String × FileNode)

namespace FileTree

/-- The longest name of a file or directory, in bytes. -/
def maxNameBytes : Nat := 255

/-- The longest path, in bytes. -/
def maxPathBytes : Nat := 4095

def components (path : String) : List String :=
  (path.toList.splitOn '/').map String.ofList

def empty : FileTree := ⟨[]⟩

/-- Adds an entry, which hides an earlier one of the same path. -/
def insert (t : FileTree) (path : String) (node : FileNode) : FileTree :=
  ⟨((components path).filter (fun name => name ≠ "" && name ≠ "."), node) :: t.entries⟩

/-- The node that `names` lead to. A directory is there as soon as anything lies in it. -/
def node? (t : FileTree) (names : List String) : Option FileNode :=
  match t.entries.lookup names with
  | some node => some node
  | none => if t.entries.any (names.isPrefixOf ·.1) then some .directory else none

/-- Where the first components of a path lead. -/
inductive Place
  /-- A directory of the tree, by the names that lead to it. -/
  | inside (names : List String)
  | outside
  | file (bytes : ByteArray)

/-- One component further. The component before has to be a directory, also for a component that
stays there. -/
def walk (t : FileTree) (place : Place) (name : String) : Except ReadFault Place :=
  match place with
  | .file _ => .error .notADirectory
  | .outside =>
    if name = "" || name = "." || name = ".." then .ok .outside
    else if maxNameBytes < name.utf8ByteSize then .error .invalidFilename
    else .error .notFound
  | .inside names =>
    if name = "" || name = "." then .ok place
    else if name = ".." then .ok (if names.isEmpty then .outside else .inside names.dropLast)
    else if maxNameBytes < name.utf8ByteSize then .error .invalidFilename
    else match t.node? (names ++ [name]) with
      | some (.file bytes) => .ok (.file bytes)
      | some .directory => .ok (.inside (names ++ [name]))
      | none => .error .notFound

def find (t : FileTree) (path : String) : Except ReadFault Place :=
  if path.toList.contains '\x00' then .error .invalidInput
  else if path.isEmpty then .error .notFound
  else if maxPathBytes < path.utf8ByteSize then .error .invalidFilename
  else (components path).foldlM t.walk
    (if path.toList.head? = some '/' then .outside else .inside [])

/-- The text of the file at `path`. -/
def read (t : FileTree) (path : String) : Except ReadFault String :=
  match t.find path with
  | .error fault => .error fault
  | .ok (.inside _) | .ok .outside => .error .isADirectory
  | .ok (.file bytes) =>
    match String.fromUTF8? bytes with
    | some text => .ok text
    | none => .error .invalidData

end FileTree

end Lexical
