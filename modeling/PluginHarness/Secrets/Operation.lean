/-!
# Operations with credentials

The protocol operations that can be given credentials. Each has a name and a key in the
credentials file, and either of them identifies it.

## Main definitions

* `Operation`: the eight operations.
* `Operation.name`, `Operation.key`: their names and keys.
* `Operation.ofKey?`, `Operation.ofIdentifier?`: looking one up.

## Main results

* `Operation.ofKey?_eq_some_iff`: a key stands for at most one operation.
* `Operation.ofIdentifier?_name`, `ofIdentifier?_key`, `ofIdentifier?_eq_none`: what identifies an
  operation.
-/

namespace PluginHarness

/-- An operation that can be given credentials. -/
inductive Operation where
  | createVolume
  | deleteVolume
  | controllerPublishVolume
  | controllerUnpublishVolume
  | nodeStageVolume
  | nodePublishVolume
  | createSnapshot
  | deleteSnapshot
  deriving DecidableEq, Repr

namespace Operation

/-- All operations in order. -/
def all : List Operation :=
  [.createVolume, .deleteVolume, .controllerPublishVolume, .controllerUnpublishVolume,
   .nodeStageVolume, .nodePublishVolume, .createSnapshot, .deleteSnapshot]

/-- The name of an operation. -/
def name : Operation → String
  | .createVolume => "CREATE_VOLUME"
  | .deleteVolume => "DELETE_VOLUME"
  | .controllerPublishVolume => "CONTROLLER_PUBLISH_VOLUME"
  | .controllerUnpublishVolume => "CONTROLLER_UNPUBLISH_VOLUME"
  | .nodeStageVolume => "NODE_STAGE_VOLUME"
  | .nodePublishVolume => "NODE_PUBLISH_VOLUME"
  | .createSnapshot => "CREATE_SNAPSHOT"
  | .deleteSnapshot => "DELETE_SNAPSHOT"

/-- The key of an operation in the credentials file. -/
def key : Operation → String
  | .createVolume => "CreateVolumeSecret"
  | .deleteVolume => "DeleteVolumeSecret"
  | .controllerPublishVolume => "ControllerPublishVolumeSecret"
  | .controllerUnpublishVolume => "ControllerUnpublishVolumeSecret"
  | .nodeStageVolume => "NodeStageVolumeSecret"
  | .nodePublishVolume => "NodePublishVolumeSecret"
  | .createSnapshot => "CreateSnapshotSecret"
  | .deleteSnapshot => "DeleteSnapshotSecret"

/-- The name of the bundle's field for an operation. -/
def field : Operation → String
  | .createVolume => "create_volume_secret"
  | .deleteVolume => "delete_volume_secret"
  | .controllerPublishVolume => "controller_publish_volume_secret"
  | .controllerUnpublishVolume => "controller_unpublish_volume_secret"
  | .nodeStageVolume => "node_stage_volume_secret"
  | .nodePublishVolume => "node_publish_volume_secret"
  | .createSnapshot => "create_snapshot_secret"
  | .deleteSnapshot => "delete_snapshot_secret"

/-- The operation with this key. -/
def ofKey? (key : String) : Option Operation := all.find? fun o => o.key == key

/-- The operation with this name or key. -/
def ofIdentifier? (identifier : String) : Option Operation :=
  all.find? fun o => o.name == identifier || o.key == identifier

/-- The operation with this field. -/
def ofField? (field : String) : Option Operation :=
  all.find? fun o => o.field == field

theorem mem_all (o : Operation) : o ∈ all := by cases o <;> decide

/-- Different operations have different keys. -/
theorem key_injective {o o' : Operation} (h : o.key = o'.key) : o = o' := by
  have distinct : ∀ a ∈ all, ∀ b ∈ all, a.key = b.key → a = b := by decide
  exact distinct o (mem_all o) o' (mem_all o') h

/-- A key stands for an operation exactly when it is that operation's key. -/
theorem ofKey?_eq_some_iff {key : String} {o : Operation} : ofKey? key = some o ↔ o.key = key := by
  constructor
  · intro h
    simpa using List.find?_some h
  · rintro rfl
    cases o <;> rfl

/-- An operation is identified by its name and by its key. -/
theorem ofIdentifier?_name (o : Operation) : ofIdentifier? o.name = some o := by
  cases o <;> rfl

theorem ofIdentifier?_key (o : Operation) : ofIdentifier? o.key = some o := by
  cases o <;> rfl

/-- Nothing else identifies an operation. -/
theorem ofIdentifier?_eq_none {identifier : String}
    (h : ∀ o : Operation, identifier ≠ o.name ∧ identifier ≠ o.key) :
    ofIdentifier? identifier = none := by
  refine List.find?_eq_none.2 fun o _ => ?_
  simp [Ne.symm (h o).1, Ne.symm (h o).2]

end Operation

end PluginHarness
