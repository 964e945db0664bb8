import PluginHarness.World

/-!
# Unique names

Resources of one run carry a common suffix, made from eight random bytes: two groups of eight
upper-case hexadecimal digits with a hyphen between them. When there is no random source, names
carry no suffix.

## Main definitions

* `Naming.suffixOf`: the suffix made from bytes.
* `Naming.newSuffix`: a new suffix from the random source.
* `Naming.unique`: a name with a suffix.
-/

namespace PluginHarness.Naming

/-- How many bytes each group of a suffix shows. -/
def groupSize : Nat := 4

/-- Two upper-case hexadecimal digits. -/
def byteText (b : UInt8) : List Char := (Text.hexText 2 b.toNat).map Char.toUpper

/-- The suffix made from bytes. -/
def suffixOf (bytes : List UInt8) : String :=
  String.ofList ((bytes.take groupSize).flatMap byteText ++
    '-' :: (bytes.drop groupSize).flatMap byteText)

/-- There is no random source, or it does not work. -/
def isUnavailable (e : Failure) : Bool :=
  e.isSystem || match e with
    | .fault (.foreign f) => f.reaction == .unsupported
    | _ => false

/-- A new suffix; empty when the random source is unavailable. -/
def newSuffix : Attempt World String := do
  let w ← Attempt.state
  match w.environment.entropy with
  | .ok bytes => return suffixOf bytes
  | .error e =>
    if isUnavailable e then
      World.report "naming" .warning
        ("Random source unavailable, names will carry no suffix: " ++ e.message)
      return ""
    else Attempt.fail e

/-- The name with the suffix; an empty suffix adds nothing. -/
def unique (suffix name : String) : String :=
  if suffix = "" then name else name ++ "-" ++ suffix

end PluginHarness.Naming
