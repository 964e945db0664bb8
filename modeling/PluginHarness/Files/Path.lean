/-!
# Paths

A path is a text; its parts are the names between its slashes. A slash at the end asks for a
directory, which is what the part `.` does too, so it counts as one.

## Main definitions

* `Path.isAbsolute`, `Path.parts`: how a path is walked.
* `Path.splitLast`: the path up to its last part, and that part.
* `Path.clean`: a path without empty parts and without `.` parts.
* `Path.normalize`: an absolute path with `..` parts carried out.
-/

namespace PluginHarness.Path

/-- The path starts at the root. -/
def isAbsolute (path : List Char) : Bool := path.head? == some '/'

/-- The names between slashes, empty ones included. -/
def segments : List Char → List (List Char)
  | [] => [[]]
  | c :: rest =>
    if c = '/' then [] :: segments rest
    else match segments rest with
      | first :: others => (c :: first) :: others
      | [] => [[c]]

/-- The names of a path without the empty ones. -/
def names (path : List Char) : List String :=
  ((segments path).filter (!·.isEmpty)).map String.ofList

/-- The names that are walked; a slash at the end counts as the name `.`. -/
def parts (path : String) : List String :=
  let cs := path.toList
  names cs ++ if cs.getLast? == some '/' then ["."] else []

/-- The longest beginning that ends in a slash, and the rest. -/
def splitAtLastSlash (path : List Char) : List Char × List Char :=
  let tail := (path.reverse.takeWhile (· != '/')).reverse
  (path.take (path.length - tail.length), tail)

/-- The path up to its last part and that part. The first loses its slashes at the end, unless
it has nothing else. -/
def splitLast (path : List Char) : List Char × List Char :=
  let (head, tail) := splitAtLastSlash path
  let bare := (head.reverse.dropWhile (· == '/')).reverse
  (if bare.isEmpty then head else bare, tail)

/-- The slashes at the front that are kept: two are two, one or more than two are one. -/
def root (path : List Char) : String :=
  match path.takeWhile (· == '/') with
  | [] => ""
  | ['/', '/'] => "//"
  | _ => "/"

/-- The path without empty parts and without `.` parts; `.` when nothing is left. -/
def clean (path : String) : String :=
  let cs := path.toList
  let start := root cs
  let names := (names cs).filter (· != ".")
  if start == "" && names.isEmpty then "." else start ++ "/".intercalate names

/-- Carries out `..` parts; at the root they do nothing. -/
def climb : List String → List String → List String
  | done, [] => done
  | done, name :: rest =>
    if name == "." then climb done rest
    else if name == ".." then climb done.dropLast rest
    else climb (done ++ [name]) rest

/-- A path, seen from the directory `cwd`, as an absolute path without `.` and `..`. -/
def normalize (cwd : List String) (path : String) : String :=
  let cs := path.toList
  let start := root cs
  if start == "" then "/" ++ "/".intercalate (climb cwd (names cs))
  else start ++ "/".intercalate (climb [] (names cs))

end PluginHarness.Path
