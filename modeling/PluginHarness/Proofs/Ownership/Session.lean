import PluginHarness.Proofs.Moves
import PluginHarness.Proofs.Ownership
import PluginHarness.Proofs.Session

/-!
# A session loses no connection

The two endpoints of a session are accounted for together: the session owns what either of them
owns. An operation on one endpoint leaves the other alone, so the session conserves accounts
because its endpoints do, and everything else that it does is about other topics.

Sharing needs no argument of its own. The controller owns nothing while it shares the connection
to the plugin, so the node endpoint stays the only owner.

## Main results

* `Session.setup_conserves`, `teardown_conserves`, `close_conserves`: the operations.
* `Session.Move.conserves`: every move of a session.
* `Session.held_close`: a closed session owns nothing.
-/

namespace PluginHarness

open Attempt Relation World

variable {α : Type}

namespace Session

/-- How often the session owns the connection. -/
def held (s : Session) (c : Connection) : Nat := s.node.held c + s.controller.held c

/-- The world beside a session, and what the session owns. -/
abbrev Accounts : Session × World → Session × World → Prop :=
  Conserves Prod.snd fun s => s.1.held

/-- A session that was just made owns nothing. -/
@[simp] theorem held_fresh (config : Config) (dialer : Dialer) (suffix : String) (c : Connection) :
    (fresh config dialer suffix).held c = 0 := by
  simp [held, fresh, Endpoint.held, Endpoint.Owns, Endpoint.unbound]

/-! ### Attempts on parts of a session -/

theorem onNode_conserves {x : Attempt (Endpoint × World) α} (hx : x.Respects Endpoint.Accounts) :
    (onNode x).Respects Accounts :=
  hx.on fun s _ h => h.lift rfl rfl s.1.controller.held (fun _ => rfl) fun _ => rfl

theorem onController_conserves {x : Attempt (Endpoint × World) α}
    (hx : x.Respects Endpoint.Accounts) : (onController x).Respects Accounts :=
  hx.on fun s _ h => h.lift rfl rfl s.1.node.held (fun _ => Nat.add_comm _ _)
    fun _ => Nat.add_comm _ _

/-- What neither opens nor closes connections and leaves the endpoints alone. -/
theorem conserves_of_within {x : Attempt (Session × World) α}
    (hx : x.Respects (Within Topic.offline))
    (hk : x.Respects (Kept fun s => s.1.endpoints)) : x.Respects Accounts := by
  intro s
  obtain ⟨hnode, hcontroller⟩ := Prod.mk.inj (hk s)
  refine conserves_of_confined (hx s) (by decide) (by decide) fun c => ?_
  simp only [held, hnode, hcontroller]

/-! ### The operations of a session -/

theorem loadSecrets_conserves : loadSecrets.Respects Accounts :=
  conserves_of_within (loadSecrets_within (by decide)) loadSecrets_endpoints

theorem connect_conserves : connect.Respects Accounts := by
  have node : connectNode.Respects Accounts := current_respects.bind fun _ =>
    (onNode_conserves (Endpoint.ensure_conserves _)).explained _
  refine node.bind fun _ => Respects.bind ?_ fun _ => respects_pure ()
  refine current_respects.bind fun s => ?_
  dsimp only
  split
  · exact onController_conserves (Endpoint.share_conserves _)
  · exact (onController_conserves (Endpoint.ensure_conserves _)).explained _

theorem provision_conserves : provision.Respects Accounts :=
  conserves_of_within (provision_within (by decide) (by decide)) provision_endpoints

theorem setup_conserves : setup.Respects Accounts :=
  loadSecrets_conserves.bind fun _ => connect_conserves.bind fun _ => provision_conserves

theorem teardown_conserves : teardown.Respects Accounts :=
  conserves_of_within (teardown_within (by decide) (by decide)) teardown_endpoints

theorem close_conserves : close.Respects Accounts :=
  (onController_conserves Endpoint.release_conserves).bind fun _ =>
    onNode_conserves Endpoint.release_conserves

/-- A closed session owns nothing. -/
theorem held_close (s : Session × World) (h : s.2.environment.ClosesOrdinarily) (c : Connection) :
    (close s).2.1.held c = 0 := by
  obtain ⟨w', hrun⟩ := close_spec h s.1
  rw [hrun, held, Endpoint.held_cleared, Endpoint.held_cleared]

/-! ### Moves -/

variable {s s' : Session × World}

theorem Aside.conserves (h : Aside s s') : Accounts s s' := by
  cases h with
  | configure s w config =>
    exact conserves_of_confined (refl_of (Confined []) w) (by simp) (by simp) fun _ => rfl
  | elsewhere s h => exact conserves_of_confined h (by simp) (by simp) fun _ => rfl
  | close => exact close_conserves s

/-- **Every move of a session conserves the accounts of all connections.** -/
theorem Move.conserves (h : Move s s') : Accounts s s' := by
  cases h with
  | aside h => exact h.conserves
  | setup => exact setup_conserves s
  | teardown => exact teardown_conserves s

theorem conserves_of_moves (h : ReflTransGen Move s s') : Accounts s s' := by
  induction h with
  | refl => exact refl_of _ s
  | tail _ h ih => exact trans_of _ ih h.conserves

end Session

end PluginHarness
