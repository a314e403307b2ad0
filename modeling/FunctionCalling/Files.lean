/-
  A directory of files held in memory, and how a path leads into it.

  A path is walked component by component from the directory itself: each one needs a directory
  to be looked up in, must not be longer than a file name may be, and must be there.  A path that
  ends in a slash asks for a directory.  What a path leads to is read as a whole and must be
  UTF-8.
-/
import FunctionCalling.Error

namespace FunctionCalling

/-- A file or a directory with what is in it. -/
inductive FileNode where
  | file (bytes : ByteArray)
  | directory (entries : List (String × FileNode))

/-- Text from bytes, if they are UTF-8. -/
def readText (bytes : ByteArray) : Except ReadFault String :=
  match String.fromUTF8? bytes with
  | some text => .ok text
  | none => .error .invalidUtf8

namespace FileNode

/-- The longest file name and the longest path, in bytes. -/
def maxNameBytes : Nat := 255

/-- The longest path, in bytes. -/
def maxPathBytes : Nat := 4095

/-- The components of a path. -/
def components (path : String) : List String :=
  (path.toList.splitOn '/').map String.ofList

/-- Follows components; `above` are the directories passed, the innermost first. -/
def walk (above : List FileNode) (node : FileNode) : List String → Except ReadFault FileNode
  | [] => .ok node
  | name :: rest =>
    match node with
    | file _ => .error .notDirectory
    | directory entries =>
      if name = "" ∨ name = "." then walk above node rest
      else if name = ".." then
        match above with
        | [] => walk [] node rest
        | parent :: above => walk above parent rest
      else if name.utf8ByteSize > maxNameBytes then .error .nameTooLong
      else
        match entries.lookup name with
        | some next => walk (node :: above) next rest
        | none => .error .notFound

/-- Reads the file that a path leads to. -/
def read (root : FileNode) (path : String) : Except ReadFault String := do
  if path.isEmpty then throw .notFound
  if path.utf8ByteSize > maxPathBytes then throw .nameTooLong
  match ← root.walk [] (components path) with
  | directory _ => throw .isDirectory
  | file bytes => readText bytes

end FileNode

end FunctionCalling
