import PluginHarness.Proofs.Endpoint

/-!
# What the operations of a session do

The operations of a session act on disjoint parts of the world. Credentials are read, connections
are opened and closed, places are created, and places are removed; no operation does two of these
except `setup`, which does the first three one after the other. What an operation does to the
session itself is bounded in the same way, by what is seen of the session before and after it.

## Main definitions

* `Session.Within`: the world beside a session changes within the topics.
* `Session.Stages`: how far a setup comes.

## Main results

* `Session.loadSecrets_within`, `connect_within`, `provision_within`, `teardown_within`,
  `close_within`: the topics of each operation.
* `Session.loadSecrets_kept`, `connectNode_kept`, `connectController_kept`, `provision_kept`,
  `teardown_kept`, `close_kept`: the parts of a session that an operation does not change.
* `Session.loadSecrets_endpoints`, `provision_endpoints`, `teardown_endpoints`: the endpoints are
  such parts.
* `Session.close_spec`: closing unbinds both endpoints.
* `Session.setup_stages`: a setup ends at its first failure.
-/

namespace PluginHarness

open Attempt World

variable {α β : Type} {T : List Topic}

/-- The built-in values, but without places. -/
def Config.placeless : Config :=
  { Config.default with
    target := ⟨"", Config.defaultStep, Config.defaultStep⟩
    staging := ⟨"", Config.defaultStep, Config.defaultStep⟩ }

/-! ### Endpoints -/

namespace Endpoint

/-- The world beside an endpoint changes within the topics. -/
abbrev Within (T : List Topic) : Endpoint × World → Endpoint × World → Prop :=
  ConfinedIn Prod.snd T

theorem onWorld_within {x : Attempt World α} (hx : x.Respects (Confined T)) :
    (onWorld x).Respects (Within T) :=
  hx.on fun _ _ h => h

theorem set_within (e : Endpoint) : (set e).Respects (Within T) :=
  respects_change fun s => refl_of (Confined T) s.2

theorem release_within (h : .closing ∈ T) : release.Respects (Within T) := by
  refine respects_state.bind fun s => ?_
  dsimp only
  split
  · split
    · exact (onWorld_within (Connection.closeQuietly_respects h _ _)).bind fun _ => set_within _
    · exact set_within _
  · exact set_within _

theorem ensure_within (hd : .dialing ∈ T) (hc : .closing ∈ T) (address : String) :
    (ensure address).Respects (Within T) := by
  refine respects_state.bind fun s => ?_
  dsimp only
  split
  · exact (onWorld_within (reportStep_respects _ _)).bind fun _ => respects_pure _
  · exact (release_within hc).bind fun _ => (onWorld_within (reportStep_respects _ _)).bind
      fun _ => (onWorld_within (Dialer.dial_respects hd (fun _ => hc) address)).bind
      fun _ => (set_within _).bind fun _ => respects_pure _

theorem share_within (hc : .closing ∈ T) (other : Endpoint) :
    (share other).Respects (Within T) := by
  refine respects_state.bind fun s => ?_
  dsimp only
  split
  · exact (release_within hc).bind fun _ => (set_within _).bind fun _ => respects_pure _
  · exact (set_within _).bind fun _ => respects_pure _

end Endpoint

/-! ### Sessions -/

namespace Session

/-- The world beside a session changes within the topics. -/
abbrev Within (T : List Topic) : Session × World → Session × World → Prop :=
  ConfinedIn Prod.snd T

section Parts

theorem onWorld_within {x : Attempt World α} (hx : x.Respects (Confined T)) :
    (onWorld x).Respects (Within T) :=
  hx.on fun _ _ h => h

theorem onNode_within {x : Attempt (Endpoint × World) α} (hx : x.Respects (Endpoint.Within T)) :
    (onNode x).Respects (Within T) :=
  hx.on fun _ _ h => h

theorem onController_within {x : Attempt (Endpoint × World) α}
    (hx : x.Respects (Endpoint.Within T)) : (onController x).Respects (Within T) :=
  hx.on fun _ _ h => h

theorem change_within (f : Session → Session) : (change f).Respects (Within T) :=
  respects_change fun s => refl_of (Confined T) s.2

theorem current_respects {R : Session × World → Session × World → Prop} [IsPreorder _ R] :
    current.Respects R :=
  respects_state.bind fun _ => respects_pure _

end Parts

theorem loadSecrets_within (h : .secrets ∈ T) : loadSecrets.Respects (Within T) := by
  refine current_respects.bind fun s => ?_
  dsimp only
  split
  · exact change_within _
  · split
    · exact respects_pure ()
    · refine Respects.bind (onWorld_within ?_) fun secrets => change_within _
      refine (Secrets.load_respects h _).handle fun e y hy => ?_
      split at hy <;> cases hy
      exact respects_fail _

theorem connectNode_within (hd : .dialing ∈ T) (hc : .closing ∈ T) :
    connectNode.Respects (Within T) :=
  current_respects.bind fun _ => (onNode_within (Endpoint.ensure_within hd hc _)).explained _

theorem connectController_within (hd : .dialing ∈ T) (hc : .closing ∈ T) :
    connectController.Respects (Within T) := by
  refine current_respects.bind fun s => ?_
  dsimp only
  split
  · exact onController_within (Endpoint.share_within hc _)
  · exact (onController_within (Endpoint.ensure_within hd hc _)).explained _

theorem connect_within (hd : .dialing ∈ T) (hc : .closing ∈ T) : connect.Respects (Within T) :=
  (connectNode_within hd hc).bind fun _ => (connectController_within hd hc).bind fun _ =>
    respects_pure ()

theorem createPlace_within (h : .location ∈ T) (hc : .creation ∈ T) (p : Place) :
    (createPlace p).Respects (Within T) := by
  refine current_respects.bind fun s => (onWorld_within
    ((Location.create_respects h _ _).explained _)).bind fun path =>
    (onWorld_within (record_respects fun t ht => ?_)).bind fun _ => change_within _
  cases ht
  exact hc

theorem provision_within (h : .location ∈ T) (hc : .creation ∈ T) :
    provision.Respects (Within T) :=
  (onWorld_within (reportStep_respects _ _)).bind fun _ => (createPlace_within h hc _).bind
    fun _ => createPlace_within h hc _

theorem setup_within (hs : .secrets ∈ T) (hd : .dialing ∈ T) (hc : .closing ∈ T)
    (hl : .location ∈ T) (hp : .creation ∈ T) : setup.Respects (Within T) :=
  (loadSecrets_within hs).bind fun _ => (connect_within hd hc).bind fun _ =>
    provision_within hl hp

theorem reportPath_respects (level : Level) (path : Document) (text : String → String) :
    (reportPath level path text).Respects (Confined T) := by
  unfold reportPath
  split
  · exact report_respects _ _ _
  · exact respects_pure ()

theorem removePlace_respects (h : .location ∈ T) (hr : .removal ∈ T) (p : Place) (path : Document)
    (strategy : Strategy) : (removePlace p path strategy).Respects (Confined T) := by
  unfold removePlace
  split
  · exact respects_pure []
  · exact ((Location.remove_respects h hr strategy path).bind fun _ =>
      (reportPath_respects _ _ _).bind fun _ => respects_pure []).rescue fun e =>
      (reportPath_respects _ _ _).bind fun _ => respects_pure [e]

theorem removePlaces_respects (h : .location ∈ T) (hr : .removal ∈ T) (s : Session) :
    (removePlaces s).Respects (Confined T) := by
  refine (removePlace_respects h hr _ _ _).bind fun errors =>
    (removePlace_respects h hr _ _ _).bind fun errors' => ?_
  dsimp only
  split
  · exact respects_pure ()
  · exact respects_fail _

theorem teardown_within (h : .location ∈ T) (hr : .removal ∈ T) :
    teardown.Respects (Within T) :=
  current_respects.bind fun s => (change_within _).bind fun _ =>
    onWorld_within (removePlaces_respects h hr s)

theorem close_within (h : .closing ∈ T) : close.Respects (Within T) :=
  (onController_within (Endpoint.release_within h)).bind fun _ =>
    onNode_within (Endpoint.release_within h)

/-! ### What is seen of a session -/

section Kept

variable {v : Session → β}

theorem onWorld_kept (x : Attempt World α) : (onWorld x).Respects (Kept fun s => v s.1) :=
  fun _ => rfl

theorem onNode_kept (h : ∀ s e, v { s with node := e } = v s)
    (x : Attempt (Endpoint × World) α) : (onNode x).Respects (Kept fun s => v s.1) :=
  fun s => h s.1 _

theorem onController_kept (h : ∀ s e, v { s with controller := e } = v s)
    (x : Attempt (Endpoint × World) α) : (onController x).Respects (Kept fun s => v s.1) :=
  fun s => h s.1 _

/-- Credentials are loaded without a look at anything else. -/
theorem loadSecrets_kept
    (h : ∀ s secrets file, v { s with secrets := secrets, secretsFile := file } = v s) :
    loadSecrets.Respects (Kept fun s => v s.1) := by
  refine current_respects.bind fun s => ?_
  dsimp only
  split
  · exact respects_change fun s => h s.1 _ _
  · split
    · exact respects_pure ()
    · exact (onWorld_kept _).bind fun secrets => respects_change fun s => h s.1 _ _

theorem connectNode_kept (h : ∀ s e, v { s with node := e } = v s) :
    connectNode.Respects (Kept fun s => v s.1) :=
  current_respects.bind fun _ => (onNode_kept h _).explained _

theorem connectController_kept (h : ∀ s e, v { s with controller := e } = v s) :
    connectController.Respects (Kept fun s => v s.1) := by
  refine current_respects.bind fun s => ?_
  dsimp only
  split
  · exact onController_kept h _
  · exact (onController_kept h _).explained _

theorem createPlace_kept (p : Place) (h : ∀ s d, v (setPath p d s) = v s) :
    (createPlace p).Respects (Kept fun s => v s.1) :=
  current_respects.bind fun _ => (onWorld_kept _).bind fun _ => (onWorld_kept _).bind fun _ =>
    respects_change fun s => h s.1 _

theorem provision_kept (h : ∀ s p d, v (setPath p d s) = v s) :
    provision.Respects (Kept fun s => v s.1) :=
  (onWorld_kept _).bind fun _ => (createPlace_kept _ fun s d => h s _ d).bind fun _ =>
    createPlace_kept _ fun s d => h s _ d

theorem teardown_kept
    (h : ∀ s target staging, v { s with target := target, staging := staging } = v s) :
    teardown.Respects (Kept fun s => v s.1) :=
  current_respects.bind fun _ => Respects.bind (respects_change fun s => h s.1 _ _) fun _ =>
    onWorld_kept _

theorem close_kept (hn : ∀ s e, v { s with node := e } = v s)
    (hc : ∀ s e, v { s with controller := e } = v s) :
    close.Respects (Kept fun s => v s.1) :=
  (onController_kept hc _).bind fun _ => onNode_kept hn _

end Kept

/-- Both endpoints of a session. -/
def endpoints (s : Session) : Endpoint × Endpoint := (s.node, s.controller)

theorem loadSecrets_endpoints : loadSecrets.Respects (Kept fun s => s.1.endpoints) :=
  loadSecrets_kept fun _ _ _ => rfl

theorem provision_endpoints : provision.Respects (Kept fun s => s.1.endpoints) :=
  provision_kept fun _ p _ => by cases p <;> rfl

theorem teardown_endpoints : teardown.Respects (Kept fun s => s.1.endpoints) :=
  teardown_kept fun _ _ _ => rfl

/-! ### How the operations run -/

/-- Closing a session unbinds both of its endpoints, and never fails. -/
theorem close_spec {w : World} (h : w.environment.ClosesOrdinarily) (s : Session) :
    ∃ w', close (s, w) =
      (.ok (), ({ s with node := s.node.cleared, controller := s.controller.cleared }, w')) := by
  obtain ⟨w₁, h₁, hconf, -⟩ := Endpoint.release_spec h s.controller
  obtain ⟨w₂, h₂, -, -⟩ := Endpoint.release_spec (hconf.environment_eq ▸ h) s.node
  have hcontroller : onController Endpoint.close (s, w) =
      (.ok (), ({ s with controller := s.controller.cleared }, w₁)) := by
    simp only [onController, on_apply, Endpoint.close, h₁]
  refine ⟨w₂, ?_⟩
  rw [close, bind_of_ok hcontroller]
  simp only [onNode, on_apply, Endpoint.close, h₂]

/-- How far a setup comes: it ends at the first stage that fails, and at the places otherwise. -/
inductive Stages (s : Session × World) : Except Failure Unit × (Session × World) → Prop
  | secrets {e : Failure} {s₁ : Session × World} (h : loadSecrets s = (.error e, s₁)) :
      Stages s (.error e, s₁)
  | node {e : Failure} {s₁ s₂ : Session × World} (h₁ : loadSecrets s = (.ok (), s₁))
      (h₂ : connectNode s₁ = (.error e, s₂)) : Stages s (.error e, s₂)
  | controller {e : Failure} {c : Option Connection} {s₁ s₂ s₃ : Session × World}
      (h₁ : loadSecrets s = (.ok (), s₁)) (h₂ : connectNode s₁ = (.ok c, s₂))
      (h₃ : connectController s₂ = (.error e, s₃)) : Stages s (.error e, s₃)
  | places {c c' : Option Connection} {s₁ s₂ s₃ : Session × World}
      (h₁ : loadSecrets s = (.ok (), s₁)) (h₂ : connectNode s₁ = (.ok c, s₂))
      (h₃ : connectController s₂ = (.ok c', s₃)) : Stages s (provision s₃)

theorem setup_stages (s : Session × World) : Stages s (setup s) := by
  rcases bind_cases loadSecrets (fun _ => connect >>= fun _ => provision) s with
    ⟨e, s₁, h₁, hb⟩ | ⟨_, s₁, h₁, hb⟩
  · rw [setup, hb]
    exact .secrets h₁
  rw [setup, hb]
  rcases bind_cases connectNode (fun _ => connectController >>= fun _ => pure ()) s₁ with
    ⟨e, s₂, h₂, hb₂⟩ | ⟨c, s₂, h₂, hb₂⟩
  · rw [bind_of_error (show connect s₁ = _ from hb₂)]
    exact .node h₁ h₂
  rcases bind_cases connectController (fun _ => pure ()) s₂ with
    ⟨e, s₃, h₃, hb₃⟩ | ⟨c', s₃, h₃, hb₃⟩
  · rw [bind_of_error (show connect s₁ = _ from hb₂.trans hb₃)]
    exact .controller h₁ h₂ h₃
  · rw [bind_of_ok (show connect s₁ = _ from hb₂.trans hb₃)]
    exact .places h₁ h₂ h₃

end Session

end PluginHarness
