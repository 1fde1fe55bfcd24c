import Std.Data.TreeMap
import Spreadsheet.FileAccess

/-!
A file system in memory, with the answers that one on disk gives.

Every file and every directory below the root is kept under its place, the list of
names that leads to it from the root. A path is walked name by name: `.` and an
empty name stay, `..` goes up, and every step needs a directory to start from. A
path that begins with a slash starts at the root, any other at the home directory.

* `FileTree.read`, `FileTree.write` and `FileTree.size` are the file operations;
* `FileTree.fresh` has the usual directories and an empty home;
* `FileTree.changes` lists the files that a later tree adds or alters at home.
-/

namespace Spreadsheet

/-- What a path leads to. -/
inductive FileTree.Node where
  | directory
  | file (content : ByteArray)
  /-- It reads as an empty file and forgets what is written. -/
  | sink

/-- A file system. The root is a directory and is not listed. -/
structure FileTree where
  /-- What stands at each place. -/
  nodes : Std.TreeMap (List String) FileTree.Node
  /-- Where a path without a leading slash starts. -/
  home : List String

namespace FileTree

/-- The directories that stand in the root of a file system. -/
def rootFolders : List String :=
  ["bin", "boot", "dev", "etc", "home", "lib", "media", "mnt", "opt", "proc", "root", "run",
    "sbin", "srv", "sys", "tmp", "usr", "var"]

/-- The file system before anything is put into it. The home directory is a
temporary one and stands alone in its parent. -/
def fresh : FileTree where
  nodes := (∅ : Std.TreeMap (List String) Node)
    |>.insertMany (rootFolders.map fun name => ([name], Node.directory))
    |>.insert ["dev", "null"] .sink
    |>.insert ["tmp", "work"] .directory
  home := ["tmp", "work"]

/-- What stands at a place. -/
def node? (tree : FileTree) : List String → Option Node
  | [] => some .directory
  | place => tree.nodes[place]?

/-- The longest name, in bytes. -/
def maxName : Nat := 255

/-- Paths must be shorter than this, in bytes. -/
def pathLimit : Nat := 4096

/-- The names on a path, with `.` and empty names among them. -/
def namesOf (path : String) : List String :=
  (path.toList.splitOn '/').map String.ofList

/-- One step of a walk: from a directory to what a name in it stands for. The
place that is reached need not exist yet. -/
def stepTo (tree : FileTree) (place : List String) (name : String) :
    Except FileFault (List String) :=
  match tree.node? place with
  | none => .error .missing
  | some (.file _) | some .sink => .error .notDirectory
  | some .directory =>
      if name = "" || name = "." then .ok place
      else if name = ".." then .ok place.dropLast
      else if maxName < name.utf8ByteSize then .error .nameTooLong
      else .ok (place ++ [name])

/-- Where the walk along a path starts, and the names on the way. -/
def route (tree : FileTree) (path : String) : Except FileFault (List String × List String) :=
  if path.toList.contains '\x00' then .error .zeroInName
  else if pathLimit ≤ path.utf8ByteSize then .error .nameTooLong
  else match path.toList with
    | [] => .error .missing
    | '/' :: _ => .ok ([], namesOf path)
    | _ => .ok (tree.home, namesOf path)

/-- What a path leads to. -/
def find (tree : FileTree) (path : String) : Except FileFault Node := do
  let (start, names) ← tree.route path
  match tree.node? (← names.foldlM tree.stepTo start) with
  | some node => return node
  | none => .error .missing

/-- The content of a file. -/
def read (tree : FileTree) (path : String) : Except FileFault ByteArray := do
  match ← tree.find path with
  | .file content => return content
  | .sink => return .empty
  | .directory => .error .isDirectory

/-- The number of bytes of a file; a directory has none. -/
def size (tree : FileTree) (path : String) : Except FileFault Nat := do
  match ← tree.find path with
  | .file content => return content.size
  | .sink | .directory => return 0

/-- The tree after a file is written. Only the last name of the path may be new.
Whether that name can be the name of a file is looked at after the way to it and
before its length: a name with a slash behind it stands for a directory. -/
def write (tree : FileTree) (path : String) (content : ByteArray) : Except FileFault FileTree := do
  let (start, names) ← tree.route path
  let named := (names.reverse.dropWhile (· == "")).reverse
  let last := named.getLast?.getD "."
  let folder ← (named.dropLast ++ ["."]).foldlM tree.stepTo start
  if named.length < names.length || last = "." || last = ".." then .error .isDirectory
  else
    let place ← tree.stepTo folder last
    match tree.node? place with
    | some .directory => .error .isDirectory
    | some .sink => return tree
    | _ => return { tree with nodes := tree.nodes.insert place (.file content) }

/-- The tree with something put at a path from home, and directories on the way to
it. -/
def put (tree : FileTree) (path : String) (node : Node) : FileTree :=
  let names := (namesOf path).filter fun name => name ≠ "" && name ≠ "."
  let folders := (List.range names.length).tail.map fun n => tree.home ++ names.take n
  let nodes := folders.foldl (fun nodes place => nodes.insert place .directory) tree.nodes
  { tree with nodes := nodes.insert (tree.home ++ names) node }

/-- The files at home, or in a directory there, that are new in a later tree or
have other content, by their path from home. -/
def changes (before after : FileTree) : List (String × ByteArray) :=
  after.nodes.toList.filterMap fun (place, node) =>
    match node with
    | .directory | .sink => none
    | .file content =>
        if before.home.isPrefixOf place then
          let path := "/".intercalate (place.drop before.home.length)
          match before.nodes[place]? with
          | some (.file old) => if old.data = content.data then none else some (path, content)
          | _ => some (path, content)
        else none

/-- File operations on a tree that is part of the state. -/
instance : FileAccess (StateM FileTree) where
  read path := return (← get).read path
  write path content := do
    match (← get).write path content with
    | .ok tree =>
        set tree
        return .ok ()
    | .error fault => return .error fault
  size path := return (← get).size path

end FileTree

end Spreadsheet
