import ApiScaffold.Registry
import ApiScaffold.Storage.Basic
import ApiScaffold.Text.Pieces

/-!
File trees: a storage that is a value. It answers with the errors of an operating system.
-/

namespace ApiScaffold

inductive FileTree where
  | file (contents : String)
  | directory (entries : List (String × FileTree))
deriving Repr

namespace FileTree

def empty : FileTree := directory []

/-- What is below a tree, by the names that lead to it. -/
def find? : List String → FileTree → Option FileTree
  | [], tree => some tree
  | name :: names, directory entries => (entries.lookup name).bind (find? names)
  | _ :: _, file _ => none

/-- Puts something below a tree; directories on the way are created. -/
def put (new : FileTree) : List String → FileTree → FileTree
  | [], _ => new
  | name :: names, directory entries =>
    directory (Registry.insert name (put new names ((entries.lookup name).getD empty)) entries)
  | _ :: _, file contents => file contents

theorem find?_put_directory (new : FileTree) (name : String) (entries : List (String × FileTree)) :
    (put new [name] (directory entries)).find? [name] = some new := by
  have found := Registry.find?_insert_self name new entries
  simp only [Registry.find?] at found
  simp [put, find?, found]

mutual
/-- Everything below a tree with its path, a directory before what is in it. -/
def contents (above : String) : FileTree → List (String × FileTree)
  | file _ => []
  | directory entries => entryContents above entries
termination_by structural tree => tree

def entryContents (above : String) : List (String × FileTree) → List (String × FileTree)
  | [] => []
  | (name, tree) :: rest =>
    (above ++ name, tree) :: contents (above ++ name ++ "/") tree ++ entryContents above rest
termination_by structural entries => entries
end

def names (path : String) : List String :=
  (Text.splitWhere (· == '/') path.toList).map String.ofList

/-- Names that lead nowhere else. -/
def stays (name : String) : Bool := name.isEmpty || name = "."

def lead (here : List String) (name : String) : List String :=
  if stays name then here else if name = ".." then here.dropLast else here ++ [name]

/-- What the names lead to from `here`; all but the last have to lead to directories. -/
def follow (tree : FileTree) : List String → List String → Except SystemError FileTree
  | here, [] =>
    match tree.find? here with
    | some found => .ok found
    | none => .error .noEntry
  | here, name :: rest =>
    match tree.find? here with
    | some (directory _) => follow tree (lead here name) rest
    | some (file _) => .error .notDirectory
    | none => .error .noEntry

def read (tree : FileTree) (path : String) : Except SystemError String :=
  if path.isEmpty then .error .noEntry
  else
    match follow tree [] (names path) with
    | .ok (file contents) => .ok contents
    | .ok (directory _) => .error .isDirectory
    | .error reason => .error reason

/-- Creates the directories that are missing on a way from `here`, and tells where it ends. -/
def createAll : FileTree → List String → List String → Except SystemError (FileTree × List String)
  | tree, here, [] => .ok (tree, here)
  | tree, here, name :: rest =>
    let next := lead here name
    match tree.find? next with
    | some (directory _) => createAll tree next rest
    | some (file _) => .error (if rest.isEmpty then .alreadyExists else .notDirectory)
    | none => createAll (put empty next tree) next rest

def createDirectory (tree : FileTree) (path : String) : Except SystemError FileTree := do
  return (← createAll tree [] ((names path).filter (!stays ·))).1

def write (tree : FileTree) (path contents : String) : Except SystemError FileTree := do
  let names := (names path).filter (!stays ·)
  let (tree, here) ← createAll tree [] names.dropLast
  let place := lead here (names.getLastD "")
  match tree.find? place with
  | some (directory _) => throw .isDirectory
  | _ => return put (file contents) place tree

/-- A file tree as a storage; nothing can be fetched. -/
def storage : Storage (StateM FileTree) where
  read path := do return ((← get).read path).mapError Cause.system
  write path contents := do
    match (← get).write path contents with
    | .ok tree =>
      set tree
      return .ok ()
    | .error reason => return .error (.system reason)
  fetch _ := return .error .transfer

end FileTree

end ApiScaffold
