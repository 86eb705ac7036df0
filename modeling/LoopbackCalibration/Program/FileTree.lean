import LoopbackCalibration.Program.Path

/-! # File trees

A file tree holds directories and files by their place, the list of names that leads
there from the root. Paths are resolved from a working directory, name by name: every
name but the last has to lead to a directory. What is wrong with a path is found in this
order: first what is wrong with it as a whole, then what is wrong with each name.
-/

namespace LoopbackCalibration

/-- What stands at a place. -/
inductive FileNode where
  | directory
  | file (contents : String)
  /-- A device without contents, whatever is written to it. -/
  | sink
  deriving Repr, DecidableEq

/-- A place by the names that lead to it from the root, last to first. -/
abbrev Place : Type := List String

/-- Directories and files, and a working directory. -/
structure FileTree where
  /-- What stands where; the root is always there. -/
  nodes : List (Place × FileNode)
  here : Place
  deriving Repr

namespace FileTree

/-- A tree with an empty working directory, and a device without contents. -/
def empty : FileTree where
  nodes := [(["tmp"], .directory), (["work", "tmp"], .directory),
    (["dev"], .directory), (["null", "dev"], .sink)]
  here := ["work", "tmp"]

/-- What stands at a place, if anything does. -/
def node? (tree : FileTree) (place : Place) : Option FileNode :=
  if place.isEmpty then some .directory else tree.nodes.lookup place

/-- A directory stands at the place. -/
def isDirectory (tree : FileTree) (place : Place) : Bool :=
  tree.node? place == some .directory

/-- The tree with a node put at a place, instead of what stood there. -/
def put (tree : FileTree) (place : Place) (node : FileNode) : FileTree :=
  { tree with nodes := (place, node) :: tree.nodes.filter fun entry => entry.1 != place }

/-- Where the walk along a path begins. -/
def origin (tree : FileTree) (path : String) : Place :=
  if path.startsWith "/" then [] else tree.here

/-- Go from a place to what a name stands for there. -/
def step (tree : FileTree) (place : Place) (name : String) : Except FileFault Place :=
  if !tree.isDirectory place then
    .error .notDirectory
  else if name = "." then
    .ok place
  else if name = ".." then
    .ok place.tail
  else do
    Path.checkName name
    if (tree.node? (name :: place)).isSome then .ok (name :: place) else .error .notFound

/-- Go along names, one after the other. -/
def walk (tree : FileTree) (place : Place) : List String → Except FileFault Place
  | [] => .ok place
  | name :: rest => do
    let next ← tree.step place name
    tree.walk next rest

/-- The place that a path leads to. -/
def resolve (tree : FileTree) (path : String) : Except FileFault Place := do
  Path.check path
  tree.walk (tree.origin path) (Path.names path)

/-- The contents of the file that a path leads to. -/
def readFile (tree : FileTree) (path : String) : Except FileFault String := do
  let place ← tree.resolve path
  match tree.node? place with
  | some (.file contents) => .ok contents
  | some .sink => .ok ""
  | some .directory => .error .isDirectory
  | none => .error .notFound

/-- The directory of the last name in a path, and that name. -/
def parent (tree : FileTree) (path : String) : Except FileFault (Place × String) := do
  Path.check path
  match (Path.names path).getLast? with
  | none => .error .alreadyExists
  | some last =>
    let place ← tree.walk (tree.origin path) (Path.names path).dropLast
    if tree.isDirectory place then
      Path.checkName last
      return (place, last)
    else
      .error .notDirectory

/-- Write a file, which is made if it is not there. -/
def writeFile (tree : FileTree) (path contents : String) : Except FileFault FileTree := do
  let (place, name) ← tree.parent path
  if name = "." || name = ".." then
    .error .isDirectory
  else
    match tree.node? (name :: place) with
    | some .directory => .error .isDirectory
    | some .sink => .ok tree
    | _ => .ok (tree.put (name :: place) (.file contents))

/-- Make one directory, in a directory that is there. -/
def makeDirectory (tree : FileTree) (path : String) : Except FileFault FileTree := do
  Path.check path
  let (place, name) ← tree.parent (Path.withoutSlashes path)
  if name = "." || name = ".." || (tree.node? (name :: place)).isSome then
    .error .alreadyExists
  else
    .ok (tree.put (name :: place) .directory)

/-- The path leads to a directory. -/
def leadsToDirectory (tree : FileTree) (path : String) : Bool :=
  match tree.resolve path with
  | .ok place => tree.isDirectory place
  | .error _ => false

/-- Making directories in a tree, which stays as it is when one cannot be made. -/
def directoryCalls : DirectoryCalls (StateM FileTree) where
  make path := fun tree =>
    match tree.makeDirectory path with
    | .ok made => (.ok (), made)
    | .error fault => (.error fault, tree)
  isDirectory path := fun tree => (tree.leadsToDirectory path, tree)

/-- Make a directory with all directories above it. Those made stay even if it cannot be
made itself. -/
def makeDirectories (path : String) : StateM FileTree (Except FileFault Unit) :=
  directoryCalls.makeNested path

/-- A tree with files in its working directory, with the directories above them. -/
def ofFiles (files : List (String × String)) : Except FileFault FileTree :=
  files.foldlM (fun tree (path, contents) =>
    ((makeDirectories ((Path.parent? path).getD "")).run tree).2.writeFile path contents) empty

/-- The path of a place from the working directory, if it lies below. -/
def pathFromHere? (tree : FileTree) (place : Place) : Option String :=
  let names := place.reverse
  let here := tree.here.reverse
  if here.isPrefixOf names then
    some ("/".intercalate (names.drop here.length))
  else
    none

/-- The files below the working directory, with their paths from there and their contents. -/
def files (tree : FileTree) : List (String × String) :=
  tree.nodes.filterMap fun (place, node) =>
    match node, tree.pathFromHere? place with
    | .file contents, some path => some (path, contents)
    | _, _ => none

end FileTree

end LoopbackCalibration
