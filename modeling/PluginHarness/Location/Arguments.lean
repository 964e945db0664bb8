import PluginHarness.Files.Tree
import PluginHarness.Text.Words

/-!
# Arguments of a location command

A command line becomes a list of arguments in which the path of the location has its place. The
list is settled by the command line and the files alone, so that a path, whatever it holds, is
always one argument or a part of one.

A command line that names a file is that file, spaces and all. Otherwise it is split into words:
a single word gets the path as its argument, words with the placeholder get the path in its
place, and words without any placeholder are taken as they are.

## Main definitions

* `Argument`: an argument in which the path has its place.
* `argumentsOf`: the arguments of a command line.
* `fillPlaceholder`: a word with the path in place of each placeholder.
-/

namespace PluginHarness

/-- An argument whose text may depend on the path. -/
inductive Argument where
  /-- The text as it is. -/
  | literal (text : List Char)
  /-- The path as one whole argument. -/
  | path
  /-- The text with the path in place of each placeholder. -/
  | template (text : List Char)
  deriving DecidableEq, Repr

namespace Argument

/-- A word with `path` in place of each placeholder, from left to right. -/
def fillPlaceholder (path : List Char) : List Char → List Char
  | '\x7b' :: 'p' :: 'a' :: 't' :: 'h' :: '\x7d' :: rest => path ++ fillPlaceholder path rest
  | c :: rest => c :: fillPlaceholder path rest
  | [] => []

/-- Whether a word holds a placeholder. -/
def hasPlaceholder : List Char → Bool
  | '\x7b' :: 'p' :: 'a' :: 't' :: 'h' :: '\x7d' :: _ => true
  | _ :: rest => hasPlaceholder rest
  | [] => false

/-- The argument for a path. -/
def fill (path : List Char) : Argument → List Char
  | .literal text => text
  | .path => path
  | .template text => fillPlaceholder path text

end Argument

/-- The arguments that the words of a command line stand for. -/
def argumentsOfWords (words : List (List Char)) : Except Fault (List Argument) :=
  match words with
  | [] => .error .blankCommand
  | [word] => .ok [.literal word, .path]
  | words =>
    if words.any Argument.hasPlaceholder then .ok (words.map .template)
    else .ok (words.map .literal)

/-- The arguments of a command line. -/
def argumentsOf (t : FileTree) (line : String) : Except Fault (List Argument) :=
  if t.isFile line then .ok [.literal line.toList, .path]
  else
    match Text.splitWords line.toList with
    | .error f => .error (.split f)
    | .ok words => argumentsOfWords words

/-- The arguments of a command line for a path. -/
def commandArguments (t : FileTree) (line path : String) : Except Fault (List String) :=
  (argumentsOf t line).map fun args =>
    args.map fun a => String.ofList (a.fill path.toList)

end PluginHarness
