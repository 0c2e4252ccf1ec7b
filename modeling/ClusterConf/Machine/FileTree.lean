import ClusterConf.Machine.Path
set_option autoImplicit false

/-!
Trees of files. A tree maps places, lists of names from the root, to files and directories; the
root is always a directory. Operations take paths, which may pass through `.` and `..`, and answer
`none` when they fail.
-/
namespace ClusterConf

/-- The names on the way from the root. -/
abbrev Place := List String

/-- What stands at a place. -/
inductive FileEntry where
  | directory
  | file (content : ByteArray)

/-- Entries by place, each place once; the root is not among them. -/
structure FileTree where
  entries : List (Place × FileEntry)

namespace FileTree

def empty : FileTree := ⟨[]⟩

def entry? (t : FileTree) (place : Place) : Option FileEntry :=
  if place.isEmpty then some .directory
  else (t.entries.find? (·.1 == place)).map (·.2)

def isDirectory (t : FileTree) (place : Place) : Bool :=
  match t.entry? place with
  | some .directory => true
  | _ => false

/-- The tree without what stands at a place. -/
def erase (t : FileTree) (place : Place) : FileTree := ⟨t.entries.filter (·.1 != place)⟩

/-- The tree with something at a place, instead of what stands there. -/
def put (t : FileTree) (place : Place) (e : FileEntry) : FileTree :=
  ⟨(place, e) :: (t.erase place).entries⟩

/-- Where the parts of a path lead from a place. Every step starts in a directory. -/
def follow? (t : FileTree) : Place → List String → Option Place
  | place, [] => some place
  | place, part :: rest =>
    if !t.isDirectory place then none
    else if part.isEmpty || part == "." then follow? t place rest
    else if part == ".." then follow? t place.dropLast rest
    else
      let next := place ++ [part]
      if (t.entry? next).isSome then follow? t next rest else none

def isEntryName (name : String) : Bool := name.utf8ByteSize ≤ 255

/-- Whether files can be asked for by a path: at most 4095 bytes, none of them zero. -/
def isPath (path : String) : Bool := path.utf8ByteSize < 4096 && !path.toList.contains '\x00'

def start (cwd : Place) (path : String) : Place := if Path.isAbsolute path then [] else cwd

/-- The place that a path leads to. -/
def resolve? (t : FileTree) (cwd : Place) (path : String) : Option Place :=
  if path.isEmpty || !isPath path then none else t.follow? (start cwd path) (Path.parts path)

/-- The place that a path leads to, or where it could be made in a directory that is there. -/
def resolveNew? (t : FileTree) (cwd : Place) (path : String) : Option Place :=
  match t.resolve? cwd path with
  | some place => some place
  | none =>
    if !isPath path then none
    else match (Path.parts path).reverse with
    | last :: before =>
      if last.isEmpty || last == "." || last == ".." || !isEntryName last then none
      else
        match t.follow? (start cwd path) before.reverse with
        | some place => if t.isDirectory place then some (place ++ [last]) else none
        | none => none
    | [] => none

def pathExists (t : FileTree) (cwd : Place) (path : String) : Bool := (t.resolve? cwd path).isSome

def read? (t : FileTree) (cwd : Place) (path : String) : Option ByteArray := do
  match t.entry? (← t.resolve? cwd path) with
  | some (.file content) => some content
  | _ => none

/-- Makes the directories on the way that are not there, and tells whether all could be made. -/
def makeWay (t : FileTree) : Place → List String → Bool × FileTree
  | place, [] => (t.isDirectory place, t)
  | place, part :: rest =>
    if !t.isDirectory place then (false, t)
    else if part.isEmpty || part == "." then makeWay t place rest
    else if part == ".." then makeWay t place.dropLast rest
    else
      let next := place ++ [part]
      if (t.entry? next).isSome then makeWay t next rest
      else if isEntryName part then makeWay (t.put next .directory) next rest
      else (false, t)

/-- Makes a directory and those on the way to it, as far as possible. -/
def createDirectories (t : FileTree) (cwd : Place) (path : String) : Bool × FileTree :=
  if path.isEmpty then (true, t)
  else if !isPath path then (false, t)
  else t.makeWay (start cwd path) (Path.parts path)

/-- Makes an empty file, or empties the one that is there. -/
def createFile? (t : FileTree) (cwd : Place) (path : String) : Option FileTree := do
  let place ← t.resolveNew? cwd path
  match t.entry? place with
  | some .directory => none
  | _ => some (t.put place (.file ByteArray.empty))

def append? (t : FileTree) (cwd : Place) (path : String) (content : ByteArray) :
    Option FileTree := do
  let place ← t.resolve? cwd path
  match t.entry? place with
  | some (.file before) => some (t.put place (.file (before ++ content)))
  | _ => none

/-- Moves a file over another one or to a new place. -/
def rename? (t : FileTree) (cwd : Place) (source target : String) : Option FileTree := do
  let a ← t.resolve? cwd source
  let b ← t.resolveNew? cwd target
  match t.entry? a, t.entry? b with
  | some (.file _), some .directory => none
  | some (.file content), _ => some ((t.erase a).put b (.file content))
  | _, _ => none

def remove? (t : FileTree) (cwd : Place) (path : String) : Option FileTree := do
  let place ← t.resolve? cwd path
  match t.entry? place with
  | some (.file _) => some (t.erase place)
  | _ => none

def files (t : FileTree) : List (Place × ByteArray) :=
  t.entries.filterMap fun (place, e) =>
    match e with
    | .file content => some (place, content)
    | .directory => none

end FileTree
end ClusterConf
