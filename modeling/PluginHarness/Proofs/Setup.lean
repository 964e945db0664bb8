import PluginHarness.Proofs.Session

/-!
# The stages of a setup

A setup goes through its stages until one fails. Each stage acts on fields of its own: credentials,
the connection to the plugin, the connection to its controller, and the two places. What a stage
does is said here once, by an equation or by its courses, with everything that the stage reads and
with the world that it leaves. Nothing is assumed about the state or the environment, so a stage
that is interrupted is covered as well.

## Main definitions

* `Session.Credentials`: the courses of the stage of the credentials.
* `Session.NodeStep`: how the connection to the plugin comes out in a setup.
* `Session.connected`: the session that the places are created in.
* `Session.creation`: creating a place as it is configured.
* `Session.Provision`: the courses of the stage of the places.

## Main results

* `Session.loadSecrets_course`, `Session.provision_course`: the courses of these stages.
* `Session.connectNode_ok`, `connectNode_error`, `connectController_ok`, `connectController_error`:
  what the stages of the connections did, by how they ended.
-/

namespace PluginHarness

open Attempt World

namespace Session

variable {α : Type} {s s' : Session × World}

/-- An attempt on the world leaves the session alone. -/
theorem onWorld_run {x : Attempt World α} {r : Except Failure α} {w : World}
    (h : x s.2 = (r, w)) : onWorld x s = (r, (s.1, w)) := by
  simp only [onWorld, on_apply, h]

/-! ### Credentials -/

/-- The courses of the stage of the credentials. -/
inductive Credentials (s : Session × World) : Except Failure Unit × (Session × World) → Prop
  /-- No file is configured. -/
  | absent (h : s.1.config.secretsFile = "") :
      Credentials s (.ok (), ({ s.1 with secrets := Secrets.empty, secretsFile := "" }, s.2))
  /-- The credentials are those of the file already. -/
  | remembered (h : s.1.config.secretsFile ≠ "") (hf : s.1.config.secretsFile = s.1.secretsFile) :
      Credentials s (.ok (), s)
  /-- The file is read. -/
  | loaded (h : s.1.config.secretsFile ≠ "") (hf : s.1.config.secretsFile ≠ s.1.secretsFile)
      {secrets : Secrets} {w : World}
      (hl : Secrets.load s.1.config.secretsFile s.2 = (.ok secrets, w)) :
      Credentials s
        (.ok (), ({ s.1 with secrets := secrets, secretsFile := s.1.config.secretsFile }, w))
  /-- Reading the file fails. -/
  | failed (h : s.1.config.secretsFile ≠ "") (hf : s.1.config.secretsFile ≠ s.1.secretsFile)
      {e : Failure} {w : World} (hl : Secrets.load s.1.config.secretsFile s.2 = (.error e, w)) :
      Credentials s
        (.error (if e.isSecrets then .within (.precondition .secrets) e else e), (s.1, w))

theorem loadSecrets_course (s : Session × World) : Credentials s (loadSecrets s) := by
  let file := s.1.config.secretsFile
  let read : Attempt World Secrets := (Secrets.load file).handle fun e =>
    if e.isSecrets then some (Attempt.fail (.within (.precondition .secrets) e)) else none
  have hrun : loadSecrets s =
      (if file = "" then
        Session.change fun s => { s with secrets := Secrets.empty, secretsFile := "" }
      else if file = s.1.secretsFile then pure ()
      else onWorld read >>= fun secrets =>
        Session.change fun s => { s with secrets := secrets, secretsFile := file }) s := rfl
  rw [hrun]
  by_cases h : file = ""
  · rw [if_pos h]
    exact .absent h
  by_cases hf : file = s.1.secretsFile
  · rw [if_neg h, if_pos hf]
    exact .remembered h hf
  rw [if_neg h, if_neg hf]
  rcases hl : Secrets.load file s.2 with ⟨e | secrets, w⟩
  · have hread : read s.2 =
        (.error (if e.isSecrets then .within (.precondition .secrets) e else e), w) := by
      cases he : e.isSecrets <;> simp [read, handle, hl, he]
    rw [bind_of_error (onWorld_run hread)]
    exact .failed h hf hl
  · have hread : read s.2 = (.ok secrets, w) := by
      simp [read, handle, hl]
    rw [bind_of_ok (onWorld_run hread)]
    exact .loaded h hf hl

/-- With its credentials, a session has the name of the configured file; nothing else changed. -/
theorem loadSecrets_ok (h : loadSecrets s = (.ok (), s')) :
    s'.1 = { s.1 with secrets := s'.1.secrets, secretsFile := s.1.config.secretsFile } ∧
      Confined [.secrets] s.2 s'.2 := by
  have hwithin : Within [.secrets] s (loadSecrets s).2 := loadSecrets_within (by simp) s
  have hcourse := loadSecrets_course s
  rw [h] at hwithin hcourse
  refine ⟨?_, hwithin⟩
  cases hcourse with
  | absent hf => rw [hf]
  | remembered _ hf => rw [hf]
  | loaded => rfl

/-- Without its credentials, a session stays as it is. -/
theorem loadSecrets_error {e : Failure} (h : loadSecrets s = (.error e, s')) :
    s'.1 = s.1 ∧ Confined [.secrets] s.2 s'.2 := by
  have hwithin : Within [.secrets] s (loadSecrets s).2 := loadSecrets_within (by simp) s
  have hcourse := loadSecrets_course s
  rw [h] at hwithin hcourse
  refine ⟨?_, hwithin⟩
  cases hcourse with
  | failed => rfl

/-! ### Connections -/

/-- An attempt on the connection to the plugin changes nothing else of the session. -/
theorem onNode_run {x : Attempt (Endpoint × World) α} {r : Except Failure α}
    (h : onNode x s = (r, s')) :
    x (s.1.node, s.2) = (r, (s'.1.node, s'.2)) ∧ s'.1 = { s.1 with node := s'.1.node } := by
  simp only [onNode, on_apply, Prod.mk.injEq] at h
  obtain ⟨rfl, rfl⟩ := h
  exact ⟨rfl, rfl⟩

theorem onController_run {x : Attempt (Endpoint × World) α} {r : Except Failure α}
    (h : onController x s = (r, s')) :
    x (s.1.controller, s.2) = (r, (s'.1.controller, s'.2)) ∧
      s'.1 = { s.1 with controller := s'.1.controller } := by
  simp only [onController, on_apply, Prod.mk.injEq] at h
  obtain ⟨rfl, rfl⟩ := h
  exact ⟨rfl, rfl⟩

theorem connectNode_ok {c : Option Connection} (h : connectNode s = (.ok c, s')) :
    Endpoint.Ensured s.1.node s.1.config.address s.2 (.ok c, (s'.1.node, s'.2)) ∧
      s'.1 = { s.1 with node := s'.1.node } := by
  obtain ⟨hrun, hrest⟩ := onNode_run (ok_of_explained h)
  have hcourse := Endpoint.ensure_course s.1.node s.1.config.address s.2
  rw [hrun] at hcourse
  exact ⟨hcourse, hrest⟩

theorem connectNode_error {e : Failure} (h : connectNode s = (.error e, s')) :
    s.2.environment.Interrupts e ∨
      s'.1 = { s.1 with node := s.1.node.cleared } ∧
        ∃ x w, e = x.inContext (.precondition (.node s.1.config.address)) ∧
          s.1.node.dialer.dial s.1.config.address w = (.error x, s'.2) := by
  obtain ⟨x, hx, rfl⟩ := error_of_explained h
  obtain ⟨hrun, hrest⟩ := onNode_run hx
  have hcourse := Endpoint.ensure_course s.1.node s.1.config.address s.2
  rw [hrun] at hcourse
  refine (hcourse.of_error_inContext _).imp_right fun ⟨hcleared, hd⟩ => ⟨?_, hd⟩
  rw [hrest, hcleared]

/-- A setup gets as far as the connection to the plugin, which comes out like this. -/
def NodeStep (s : Session × World) (r : Except Failure (Option Connection) × (Session × World)) :
    Prop :=
  ∃ s₁, loadSecrets s = (.ok (), s₁) ∧ connectNode s₁ = r

theorem NodeStep.within {r : Except Failure (Option Connection)} (h : NodeStep s (r, s')) :
    Confined [.secrets, .dialing, .closing] s.2 s'.2 := by
  obtain ⟨s₁, h₁, h₂⟩ := h
  have hwithin : Within [.dialing, .closing] s₁ (connectNode s₁).2 :=
    connectNode_within (by simp) (by simp) s₁
  rw [h₂] at hwithin
  exact trans_of _ ((loadSecrets_ok h₁).2.mono (by simp)) (Confined.mono hwithin (by simp))

/-- When the plugin is reached, a session has its credentials and owns what the dial gave. -/
theorem NodeStep.of_ok {c : Option Connection} (h : NodeStep s (.ok c, s')) :
    s'.1 = { s.1 with
      secrets := s'.1.secrets
      secretsFile := s.1.config.secretsFile
      node := s.1.node.bound c s.1.config.address } := by
  obtain ⟨s₁, h₁, h₂⟩ := h
  obtain ⟨hsecrets, -⟩ := loadSecrets_ok h₁
  obtain ⟨hcourse, hnode⟩ := connectNode_ok h₂
  rw [hnode, hcourse.of_ok, hsecrets]

/-- When the plugin is not reached, a session has its credentials and no connection to it. -/
theorem NodeStep.of_error {e : Failure} (h : NodeStep s (.error e, s')) :
    s.2.environment.Interrupts e ∨
      s'.1 = { s.1 with
        secrets := s'.1.secrets
        secretsFile := s.1.config.secretsFile
        node := s.1.node.cleared } ∧
      ∃ x w, e = x.inContext (.precondition (.node s.1.config.address)) ∧
        s.1.node.dialer.dial s.1.config.address w = (.error x, s'.2) := by
  obtain ⟨s₁, h₁, h₂⟩ := h
  obtain ⟨hsecrets, hconf⟩ := loadSecrets_ok h₁
  have hcourse := connectNode_error h₂
  rw [hconf.environment_eq, hsecrets] at hcourse
  rcases hcourse with hi | ⟨hnode, hd⟩
  · exact .inl hi
  · refine .inr ⟨?_, hd⟩
    rw [hnode]

/-- Without an address for it, the controller shares the connection to the plugin. -/
theorem connectController_of_empty (h : s.1.config.controllerAddress = "") :
    connectController s = onController (Endpoint.share s.1.node) s := by
  have hrun : connectController s =
      (if s.1.config.controllerAddress = "" then onController (Endpoint.share s.1.node)
        else (onController (Endpoint.ensure s.1.config.controllerAddress)).explained
          (.precondition (.controller s.1.config.controllerAddress))) s := rfl
  rw [hrun, if_pos h]

theorem connectController_of_ne (h : s.1.config.controllerAddress ≠ "") :
    connectController s = (onController (Endpoint.ensure s.1.config.controllerAddress)).explained
      (.precondition (.controller s.1.config.controllerAddress)) s := by
  have hrun : connectController s =
      (if s.1.config.controllerAddress = "" then onController (Endpoint.share s.1.node)
        else (onController (Endpoint.ensure s.1.config.controllerAddress)).explained
          (.precondition (.controller s.1.config.controllerAddress))) s := rfl
  rw [hrun, if_neg h]

/-- A connected controller shares the connection to the plugin, or owns what the dial gave. -/
theorem connectController_ok {c : Option Connection} (h : connectController s = (.ok c, s')) :
    s'.1 = { s.1 with
      controller := if s.1.config.controllerAddress = "" then s.1.controller.sharing s.1.node
        else s.1.controller.bound c s.1.config.controllerAddress } := by
  by_cases ha : s.1.config.controllerAddress = ""
  · rw [connectController_of_empty ha] at h
    obtain ⟨hrun, hrest⟩ := onController_run h
    obtain ⟨w', -, hshare | ⟨x, hshare, -⟩⟩ :=
      Endpoint.share_course s.1.controller s.1.node s.2
    · have hshared : s'.1.controller = s.1.controller.sharing s.1.node :=
        congrArg (·.2.1) (hrun.symm.trans hshare)
      rw [hrest, if_pos ha, hshared]
    · cases hrun.symm.trans hshare
  · rw [connectController_of_ne ha] at h
    obtain ⟨hrun, hrest⟩ := onController_run (ok_of_explained h)
    have hcourse := Endpoint.ensure_course s.1.controller s.1.config.controllerAddress s.2
    rw [hrun] at hcourse
    rw [hrest, if_neg ha, hcourse.of_ok]

/-- A controller fails to connect only when an address is configured, and is unbound then. -/
theorem connectController_error {e : Failure} (h : connectController s = (.error e, s')) :
    s.2.environment.Interrupts e ∨
      s.1.config.controllerAddress ≠ "" ∧ s'.1 = { s.1 with controller := s.1.controller.cleared } ∧
        ∃ x w, e = x.inContext (.precondition (.controller s.1.config.controllerAddress)) ∧
          s.1.controller.dialer.dial s.1.config.controllerAddress w = (.error x, s'.2) := by
  by_cases ha : s.1.config.controllerAddress = ""
  · rw [connectController_of_empty ha] at h
    obtain ⟨hrun, -⟩ := onController_run h
    obtain ⟨w', -, hshare | ⟨x, hshare, hx⟩⟩ := Endpoint.share_course s.1.controller s.1.node s.2
    · cases hrun.symm.trans hshare
    · obtain rfl : e = x := Except.error.inj (congrArg Prod.fst (hrun.symm.trans hshare))
      exact .inl hx
  · rw [connectController_of_ne ha] at h
    obtain ⟨x, hx, rfl⟩ := error_of_explained h
    obtain ⟨hrun, hrest⟩ := onController_run hx
    have hcourse := Endpoint.ensure_course s.1.controller s.1.config.controllerAddress s.2
    rw [hrun] at hcourse
    refine (hcourse.of_error_inContext _).imp_right fun ⟨hcleared, hd⟩ => ⟨ha, ?_, hd⟩
    rw [hrest, hcleared]

/-- The session with these credentials and with what its dials gave for the plugin and the
controller. -/
def connected (s : Session) (secrets : Secrets) (c c' : Option Connection) : Session :=
  { s with
    secrets := secrets
    secretsFile := s.config.secretsFile
    node := s.node.bound c s.config.address
    controller := if s.config.controllerAddress = ""
      then s.controller.sharing (s.node.bound c s.config.address)
      else s.controller.bound c' s.config.controllerAddress }

theorem NodeStep.connected {c c' : Option Connection} {s₂ : Session × World}
    (h : NodeStep s (.ok c, s₂)) (h' : connectController s₂ = (.ok c', s')) :
    s'.1 = s.1.connected s'.1.secrets c c' := by
  have hcontroller := connectController_ok h'
  rw [h.of_ok] at hcontroller
  rw [hcontroller]
  rfl

theorem NodeStep.within_connectController {c : Option Connection}
    {r : Except Failure (Option Connection)} {s₂ : Session × World} (h : NodeStep s (.ok c, s₂))
    (h' : connectController s₂ = (r, s')) : Confined [.secrets, .dialing, .closing] s.2 s'.2 := by
  have hwithin : Within [.secrets, .dialing, .closing] s₂ (connectController s₂).2 :=
    connectController_within (by simp) (by simp) s₂
  rw [h'] at hwithin
  exact trans_of _ h.within hwithin

/-! ### Places -/

/-- Creating a place as it is configured. -/
def creation (s : Session) (p : Place) : Attempt World Document :=
  Location.create (s.config.strategy .creation p) (s.config.place p).path

/-- The step of creating a place as it is configured. -/
def creationStep (s : Session) (p : Place) : Step :=
  .place p (s.config.place p).path (s.config.strategy .creation p).describe

/-- What creating a place does is configured. -/
theorem creation_congr {s s' : Session} (h : s'.config = s.config) (p : Place) :
    s'.creation p = s.creation p ∧ s'.creationStep p = s.creationStep p := by
  simp only [creation, creationStep, h, and_self]

theorem config_setPath (s : Session) (p : Place) (d : Document) :
    (setPath p d s).config = s.config := by
  cases p <;> rfl

/-- Creating a place stores the path that its creation gave, or fails and stores nothing. -/
theorem createPlace_apply (p : Place) (s : Session × World) :
    createPlace p s = match s.1.creation p s.2 with
      | (.ok d, w) => (.ok (), (setPath p d s.1, (World.record (.created p d) w).2))
      | (.error e, w) => (.error (e.inContext (.precondition (s.1.creationStep p))), (s.1, w)) := by
  let x := (s.1.creation p).explained (.precondition (s.1.creationStep p))
  have hrun : createPlace p s = (onWorld x >>= fun d =>
      onWorld (World.record (.created p d)) >>= fun _ => Session.change (setPath p d)) s := rfl
  have hx := explained_apply (s.1.creation p) (.precondition (s.1.creationStep p)) s.2
  rw [hrun]
  rcases hc : s.1.creation p s.2 with ⟨e | d, w⟩ <;> rw [hc] at hx
  · exact bind_of_error (onWorld_run hx)
  · exact bind_of_ok (onWorld_run hx)

/-- The courses of the stage of the places. -/
inductive Provision (s : Session × World) : Except Failure Unit × (Session × World) → Prop
  /-- The target is not created. -/
  | target {w₀ w₁ : World} {e : Failure} (h : Confined [] s.2 w₀)
      (ht : s.1.creation .target w₀ = (.error e, w₁)) :
      Provision s (.error (e.inContext (.precondition (s.1.creationStep .target))), (s.1, w₁))
  /-- The target is created, but not the staging place. -/
  | staging {w₀ w₁ w₂ : World} {t : Document} {e : Failure} (h : Confined [] s.2 w₀)
      (ht : s.1.creation .target w₀ = (.ok t, w₁))
      (hg : s.1.creation .staging (World.record (.created .target t) w₁).2 = (.error e, w₂)) :
      Provision s (.error (e.inContext (.precondition (s.1.creationStep .staging))),
        (setPath .target t s.1, w₂))
  /-- Both places are created. -/
  | done {w₀ w₁ w₂ : World} {t g : Document} (h : Confined [] s.2 w₀)
      (ht : s.1.creation .target w₀ = (.ok t, w₁))
      (hg : s.1.creation .staging (World.record (.created .target t) w₁).2 = (.ok g, w₂)) :
      Provision s (.ok (), (setPath .staging g (setPath .target t s.1),
        (World.record (.created .staging g) w₂).2))

theorem provision_course (s : Session × World) : Provision s (provision s) := by
  let w₀ := (World.reportStep "context" "creating mount and staging directories" s.2).2
  have h : Confined [] s.2 w₀ := reportStep_respects _ _ s.2
  have hrun : provision s =
      (createPlace .target >>= fun _ => createPlace .staging) (s.1, w₀) := rfl
  have htarget := createPlace_apply .target (s.1, w₀)
  rw [hrun]
  rcases ht : s.1.creation .target w₀ with ⟨e | t, w₁⟩ <;> simp only [ht] at htarget
  · rw [bind_of_error htarget]
    exact .target h ht
  · have hstaging := createPlace_apply .staging
      (setPath .target t s.1, (World.record (.created .target t) w₁).2)
    obtain ⟨hcreation, hstep⟩ := creation_congr (config_setPath s.1 .target t) .staging
    rw [bind_of_ok htarget, hstaging, hcreation, hstep]
    rcases hg : s.1.creation .staging (World.record (.created .target t) w₁).2 with ⟨e | g, w₂⟩
    · exact .staging h ht hg
    · exact .done h ht hg

end Session

end PluginHarness
