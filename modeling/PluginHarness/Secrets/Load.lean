import PluginHarness.Secrets.Basic
import PluginHarness.World
import PluginHarness.Yaml.Value

/-!
# Loading credentials

## Main definitions

* `Secrets.parse`: the credentials of a document, with unknown keys reported.
* `Secrets.load`: the credentials of a file.
-/

namespace PluginHarness.Secrets

/-- The credentials that a document gives; keys that name no operation are reported. -/
def parse (d : Document) : Attempt World Secrets := do
  if let .map entries := d then
    World.reportKeys "credentials" .debug "Ignoring unknown secrets key " (unknownKeys entries)
  Attempt.ofExcept (ofDocument d)

/-- Reads the document that a credentials file holds. -/
def readFile (t : FileTree) (path : String) : Except Fault Document := do
  let bytes ← t.read path
  let text ← (Text.decode bytes).mapError .undecodable
  Yaml.readText .standard (Text.unifyNewlines text)

/-- The credentials that a file gives. -/
def load (path : String) : Attempt World Secrets := do
  World.record (.secretsRead path)
  let w ← Attempt.state
  match readFile w.files path with
  | .ok d =>
    (parse d).handle fun e =>
      if e.isSecrets then some (Attempt.fail (.within (.secretsMalformed path) e)) else none
  | .error (.system f) => Attempt.fail (.within (.secretsUnreadable path) (.fault (.system f)))
  | .error .malformed => Attempt.fail (.within (.secretsMalformed path) (.fault .malformed))
  | .error f => Attempt.fail (.fault f)

end PluginHarness.Secrets
