import PluginHarness.Attempt
import PluginHarness.Files.Tree

/-!
# Changes to a file tree

Making and removing directories and files. Each operation either does what its name says or
fails with what the operating system reports; the compound ones keep what their steps did before
a failure.

## Main definitions

* `FileTree.read`: the content of a file.
* `FileTree.makeDirectory`, `FileTree.makeDirectories`: one directory, or with its ancestors.
* `FileTree.unlink`, `FileTree.removeDirectory`: one file or link, one empty directory.
* `FileTree.removeTree`: a directory with everything below it.
-/

namespace PluginHarness.FileTree

/-- The content of the file that a path leads to. -/
def read (t : FileTree) (path : String) : Except Fault (List UInt8) :=
  match t.find path with
  | .error f => .error f
  | .ok (_, .file content) => .ok content
  | .ok _ => .error (.system (.isDirectory path))

/-- Makes one directory; its parent has to be there and nothing in its place. -/
def makeDirectory (path : String) : Attempt FileTree Unit := fun t =>
  match t.slot path with
  | .error f => (.error f, t)
  | .ok (_, .itself) | .ok (_, .above) => (.error (.fault (.system (.alreadyExists path))), t)
  | .ok (directory, .name name) =>
    if (t.get? (directory ++ [name])).isSome then
      (.error (.fault (.system (.alreadyExists path))), t)
    else (.ok (), t.put (directory ++ [name]) .directory)

/-- Whether a failure says that something is there already. -/
def saysExists : Failure → Bool
  | .fault (.system f) => f.number == 17
  | _ => false

/-- The path above a path and its last name; a slash at the end is not looked at. -/
def aboveAndLast (path : List Char) : List Char × List Char :=
  let (above, last) := Path.splitLast path
  if last.isEmpty then Path.splitLast above else (above, last)

/-- Makes a directory and whatever is missing above it, at most `depth` directories. That the
directory is there already is no failure when `mayExist`; for those above it never is. -/
def makeDirectoriesFrom : (depth : Nat) → (mayExist : Bool) → (path : String) →
    Attempt FileTree Unit
  | 0, _, _ => Attempt.pure ()
  | depth + 1, mayExist, path => do
    let (above, last) := aboveAndLast path.toList
    let t ← Attempt.state
    let mut settled := false
    if !above.isEmpty && !last.isEmpty && !t.exists? (String.ofList above) then
      (makeDirectoriesFrom depth mayExist (String.ofList above)).handle fun e =>
        if saysExists e then some (Attempt.pure ()) else none
      -- a directory made under the name `.` is there once the one above it is
      settled := last == ['.']
    if settled then return ()
    (makeDirectory path).handle fun e =>
      if mayExist && e.isSystem then
        some do
          let t ← Attempt.state
          if t.isDirectory path then return () else Attempt.fail e
      else none

/-- Makes a directory and whatever is missing above it; it may be there already. -/
def makeDirectories (path : String) : Attempt FileTree Unit :=
  makeDirectoriesFrom (path.length + 1) true path

/-- Removes the file or link at the end of a path. -/
def unlink (path : String) : Attempt FileTree Unit := fun t =>
  match t.slot path with
  | .error f => (.error f, t)
  | .ok (_, .itself) | .ok (_, .above) => (.error (.fault (.system (.isDirectory path))), t)
  | .ok (directory, .name name) =>
    match t.get? (directory ++ [name]) with
    | none => (.error (.fault (.system (.missing path))), t)
    | some .directory => (.error (.fault (.system (.isDirectory path))), t)
    | some _ =>
      if path.toList.getLast? == some '/' then
        (.error (.fault (.system (.notDirectory path))), t)
      else (.ok (), t.drop (directory ++ [name]))

/-- Removes the empty directory at the end of a path. -/
def removeDirectory (path : String) : Attempt FileTree Unit := fun t =>
  match t.slot path with
  | .error f => (.error f, t)
  | .ok (_, .itself) => (.error (.fault (.system (.invalid path))), t)
  | .ok (_, .above) => (.error (.fault (.system (.notEmpty path))), t)
  | .ok (directory, .name name) =>
    let loc := directory ++ [name]
    match t.get? loc with
    | none => (.error (.fault (.system (.missing path))), t)
    | some .directory =>
      if t.hasBelow loc then (.error (.fault (.system (.notEmpty path))), t)
      else (.ok (), t.drop loc)
    | some _ => (.error (.fault (.system (.notDirectory path))), t)

/-- Removes a directory with everything below it. What a link below it leads to stays. The path
must not end in a link. -/
def removeTree (path : String) : Attempt FileTree Unit := fun t =>
  match t.findEntry path with
  | .error f => (.error f, t)
  | .ok (loc, .directory) => removeDirectory path (t.dropBelow loc)
  | .ok (_, .file _) => (.error (.fault (.system (.notDirectory path))), t)
  | .ok (_, .link _) =>
    match t.find path with
    | .error f => (.error f, t)
    | .ok _ => (.error (.fault .linkInstead), t)

end PluginHarness.FileTree
