set_option autoImplicit false

/-!
Paths as texts. A path is cut at its slashes; empty parts and dots say nothing, except for a dot at
the very start. The text in front of the last part that says something is the parent.
-/
namespace ClusterConf.Path

def isAbsolute (p : String) : Bool := p.startsWith "/"

def parts (p : String) : List String := (p.toList.splitOn '/').map String.ofList

/-- Drops parts at the end that say nothing; the parts are given last first. -/
def dropSilent : List String → List String
  | [] => []
  | [part] => if part.isEmpty then [] else [part]
  | part :: before => if part.isEmpty || part == "." then dropSilent before else part :: before

/-- The parts of a relative path, or those after the root, last first and without silent ends. -/
def spoken (p : String) : List String :=
  if isAbsolute p then
    dropRoot (dropSilent ((parts p).drop 1).reverse)
  else dropSilent (parts p).reverse
where
  /-- Directly below the root a dot says nothing either. -/
  dropRoot : List String → List String
    | [part] => if part == "." then [] else [part]
    | ps => ps

/-- The text of parts given last first. -/
def ofSpoken (absolute : Bool) (ps : List String) : String :=
  (if absolute then "/" else "") ++ "/".intercalate ps.reverse

/-- The path without its last part; a root and an empty path have no parent. -/
def parent? (p : String) : Option String :=
  match spoken p with
  | [] => none
  | _ :: before =>
    let absolute := isAbsolute p
    let kept := dropSilent before
    some (ofSpoken absolute (if absolute then spoken.dropRoot kept else kept))

/-- A parent that is not the empty path. -/
def properParent? (p : String) : Option String := (parent? p).filter fun q => !q.isEmpty

/-- The last part, if it is a name. -/
def fileName? (p : String) : Option String :=
  match spoken p with
  | name :: _ => if name == ".." || name == "." then none else some name
  | [] => none

/-- A file name cut at its last dot, unless that is its first letter or there is none. -/
def splitName (name : String) : String × Option String :=
  match (name.toList.splitOn '.').reverse with
  | ext :: before@(_ :: _) =>
    let stem := ['.'].intercalate before.reverse
    if stem.isEmpty then (name, none) else (String.ofList stem, some (String.ofList ext))
  | _ => (name, none)

/-- What follows the last dot of the file name. -/
def extension? (p : String) : Option String := (fileName? p).bind fun name => (splitName name).2

/-- The path with another extension; a path without a file name stays as it is. -/
def withExtension (p ext : String) : String :=
  match fileName? p, spoken p with
  | some name, _ :: before => ofSpoken (isAbsolute p) (((splitName name).1 ++ "." ++ ext) :: before)
  | _, _ => p

/-- `q` as seen from `p`; an absolute path stands for itself. -/
def join (p q : String) : String :=
  if isAbsolute q || p.isEmpty then q
  else if p.endsWith "/" then p ++ q
  else p ++ "/" ++ q

end ClusterConf.Path
