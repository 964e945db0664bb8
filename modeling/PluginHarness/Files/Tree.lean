import PluginHarness.Entries
import PluginHarness.Failure
import PluginHarness.Files.Path

/-!
# File trees

Directories, files and links by location. A location is the list of names from the root; the
root is a directory and is not listed. Paths are walked name by name: a link in the middle is
followed, up to a fixed number of links, and what a name follows has to be a directory.

## Main definitions

* `Entry`, `FileTree`: what is at which location.
* `FileTree.walkNames`, `FileTree.walk`: from a directory along names to an entry.
* `FileTree.find`: what a path leads to; `FileTree.findEntry`: the same, but a link at the end
  is not followed.
* `FileTree.slot`: the directory of a path and the name that the path has in it.
-/

namespace PluginHarness

/-- What is at a location. -/
inductive Entry where
  | directory
  | file (content : List UInt8)
  | link (target : String)
  deriving DecidableEq, Repr

/-- Entries by location, and the directory from which relative paths start. -/
structure FileTree where
  entries : Entries (List String) Entry
  cwd : List String

namespace FileTree

/-- What is at a location. -/
def get? (t : FileTree) (loc : List String) : Option Entry :=
  if loc.isEmpty then some .directory else t.entries.get? loc

/-- Puts an entry at a location. -/
def put (t : FileTree) (loc : List String) (e : Entry) : FileTree :=
  { t with entries := t.entries.insert loc e }

/-- Drops the entry at a location. -/
def drop (t : FileTree) (loc : List String) : FileTree :=
  { t with entries := t.entries.erase loc }

/-- Drops everything below a location, but not what is at it. -/
def dropBelow (t : FileTree) (loc : List String) : FileTree :=
  { t with entries := t.entries.filter fun e => !(loc.isPrefixOf e.1) || e.1 == loc }

/-- Whether anything is below a location. -/
def hasBelow (t : FileTree) (loc : List String) : Bool :=
  t.entries.any fun e => loc.isPrefixOf e.1 && e.1 != loc

/-! ### Walking -/

/-- Why a walk ends before its end. -/
inductive WalkFault where
  | missing
  | notDirectory
  | nameTooLong
  | linkLoop
  deriving DecidableEq, Repr

/-- The error that the operating system reports for a path. -/
def WalkFault.system (path : String) : WalkFault → SystemFault
  | .missing => .missing path
  | .notDirectory => .notDirectory path
  | .nameTooLong => .nameTooLong path
  | .linkLoop => .linkLoop path

/-- How many links one walk follows. -/
def maxLinks : Nat := 40

/-- The greatest number of bytes of a name. -/
def maxNameBytes : Nat := 255

/-- Paths with as many bytes as this or more are not walked. -/
def pathBytesLimit : Nat := 4096

/-- Walks from the directory `here` along names. A link at the very end is followed only if
`followLast`; where a link is followed, `follow` walks on from a directory along other names. -/
def walkNames (t : FileTree) (followLast : Bool)
    (follow : List String → List String → Except WalkFault (List String × Entry))
    (here : List String) : List String → Except WalkFault (List String × Entry)
  | [] => .ok (here, .directory)
  | name :: rest =>
    if name == "." then walkNames t followLast follow here rest
    else if name == ".." then walkNames t followLast follow here.dropLast rest
    else if maxNameBytes < name.utf8ByteSize then .error .nameTooLong
    else
      let loc := here ++ [name]
      match t.get? loc with
      | none => .error .missing
      | some .directory => walkNames t followLast follow loc rest
      | some (.file content) =>
        if rest.isEmpty then .ok (loc, .file content) else .error .notDirectory
      | some (.link target) =>
        if rest.isEmpty && !followLast then .ok (loc, .link target)
        else follow (if Path.isAbsolute target.toList then [] else here)
          (Path.parts target ++ rest)

/-- Walks from a directory along names, following at most as many links. -/
def walk (t : FileTree) (followLast : Bool) :
    (links : Nat) → List String → List String → Except WalkFault (List String × Entry)
  | 0 => walkNames t followLast fun _ _ => .error .linkLoop
  | links + 1 => walkNames t followLast (walk t followLast links)

/-- Where the walk of a path starts. -/
def start (t : FileTree) (path : String) : List String :=
  if Path.isAbsolute path.toList then [] else t.cwd

/-- Paths that are not walked at all. -/
def refused? (path : String) : Option Fault :=
  if path.toList.contains '\x00' then some .embeddedNull
  else if pathBytesLimit ≤ path.utf8ByteSize then some (.system (.nameTooLong path))
  else if path == "" then some (.system (.missing path))
  else none

/-- Walks a path to its end. -/
def locate (t : FileTree) (followLast : Bool) (path : String) :
    Except Fault (List String × Entry) :=
  match refused? path with
  | some f => .error f
  | none =>
    match walk t followLast maxLinks (t.start path) (Path.parts path) with
    | .ok found => .ok found
    | .error f => .error (.system (f.system path))

/-- What a path leads to; a link at the end is followed. -/
def find (t : FileTree) (path : String) : Except Fault (List String × Entry) :=
  t.locate true path

/-- What a path leads to; a link at the end is not followed. -/
def findEntry (t : FileTree) (path : String) : Except Fault (List String × Entry) :=
  t.locate false path

/-- Whether a path leads to anything. -/
def exists? (t : FileTree) (path : String) : Bool := (t.find path).toOption.isSome

/-- Whether a path leads to a directory. -/
def isDirectory (t : FileTree) (path : String) : Bool :=
  (t.find path).toOption.any fun found => found.2 == .directory

/-- Whether a path leads to a file. -/
def isFile (t : FileTree) (path : String) : Bool :=
  (t.find path).toOption.any fun found => match found.2 with
    | .file _ => true
    | _ => false

/-- Whether a path leads to a link. -/
def isLink (t : FileTree) (path : String) : Bool :=
  (t.findEntry path).toOption.any fun found => match found.2 with
    | .link _ => true
    | _ => false

/-! ### Slots -/

/-- The last name of a path. -/
inductive LastName where
  | name (name : String)
  /-- The directory itself. -/
  | itself
  /-- The directory above. -/
  | above
  deriving DecidableEq, Repr

/-- The directory in which a path has its last name, and that name. -/
def slot (t : FileTree) (path : String) : Except Fault (List String × LastName) :=
  match refused? path with
  | some f => .error f
  | none =>
    let names := Path.names path.toList
    match walk t true maxLinks (t.start path) (names.dropLast ++ ["."]) with
    | .error f => .error (.system (f.system path))
    | .ok (directory, _) =>
      match names.getLast? with
      | none => .ok (directory, .itself)
      | some "." => .ok (directory, .itself)
      | some ".." => .ok (directory, .above)
      | some name =>
        if maxNameBytes < name.utf8ByteSize then .error (.system (.nameTooLong path))
        else .ok (directory, .name name)

end FileTree

end PluginHarness
