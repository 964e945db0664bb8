/-!
# Places and actions

A run needs two places on the host: one that volumes are mounted on and one that they are staged
in. Each of them is created before a scenario and removed after it.

## Main definitions

* `Place`: the mount target or the staging place.
* `Action`: creation or removal.
-/

namespace PluginHarness

/-- A place that a scenario needs. -/
inductive Place where
  | target
  | staging
  deriving DecidableEq, Repr

/-- What is done to a place. -/
inductive Action where
  | creation
  | removal
  deriving DecidableEq, Repr

namespace Place

/-- The name in settings and messages. -/
def name : Place → String
  | .target => "target"
  | .staging => "staging"

end Place

namespace Action

/-- The name in messages. -/
def noun : Action → String
  | .creation => "creation"
  | .removal => "removal"

/-- The verb in setting names. -/
def verb : Action → String
  | .creation => "create"
  | .removal => "remove"

end Action

end PluginHarness
