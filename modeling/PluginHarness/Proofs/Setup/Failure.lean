import PluginHarness.Proofs.Addresses
import PluginHarness.Proofs.Setup.Credentials

/-!
# Where a failed setup stops

A setup that fails with an unmet precondition names the step that failed. What it did up to this
step stays done, and nothing was done for a later step: this is the state that tidying up and the
next setup have to cope with. `Session.Halted` says for each step what that state is. The cause
that is reported is the failure of what the step attempted, and the world is the one that this
attempt left, so nothing at all comes after it.

The step is what a reader of the failure has, so the law has to exclude that a failure of one step
comes in the words of another. Credentials are the only case to look at, as their failures are
passed on without a look at the context that they are in.

## Main definitions

* `Session.Halted`: what a setup leaves that failed at a step.

## Main results

* `Session.halts_at_step`: the state after a failed setup, step by step.
-/

namespace PluginHarness

open Attempt Relation World

namespace Session

variable {env : Environment} {dialer : Dialer} {past : List (String × Secrets)}
  {s s' : Session × World} {step : Step} {cause : Failure}

/-- What a setup leaves that failed at the step, from this cause. -/
def Halted (past : List (String × Secrets)) (s s' : Session × World) (cause : Failure) :
    Step → Prop
  /- Nothing changed, and nothing was done but to ask for the file. -/
  | .secrets =>
    s'.1 = s.1 ∧ Confined [.secrets] s.2 s'.2 ∧
      Secrets.load s.1.config.secretsFile s.2 = (.error cause, s'.2)
  /- The credentials are there, and the plugin's endpoint is unbound. -/
  | .node address =>
    address = s.1.config.address ∧ Recalls (loads s ++ past) s'.1 ∧
      s'.1 = { s.1 with
        secrets := s'.1.secrets
        secretsFile := s.1.config.secretsFile
        node := s.1.node.cleared } ∧
      Confined [.secrets, .dialing, .closing] s.2 s'.2 ∧
      ∃ w, s.1.node.dialer.dial address w = (.error cause, s'.2)
  /- The plugin is connected too, and the controller is unbound. -/
  | .controller address =>
    address = s.1.config.controllerAddress ∧ Recalls (loads s ++ past) s'.1 ∧
      (∃ c, s'.1 = { s.1 with
        secrets := s'.1.secrets
        secretsFile := s.1.config.secretsFile
        node := s.1.node.bound (some c) s.1.config.address
        controller := s.1.controller.cleared }) ∧
      Confined [.secrets, .dialing, .closing] s.2 s'.2 ∧
      ∃ w, s.1.controller.dialer.dial address w = (.error cause, s'.2)
  /- Everything is connected, and creating the target was the last thing that was done. -/
  | .place .target path strategy =>
    .place .target path strategy = s.1.creationStep .target ∧ Recalls (loads s ++ past) s'.1 ∧
      (∃ c c', s'.1 = s.1.connected s'.1.secrets (some c) c') ∧
      ∃ w, Confined [.secrets, .dialing, .closing] s.2 w ∧
        s.1.creation .target w = (.error cause, s'.2)
  /- The target is the one that was created, and creating the staging place was the last thing. -/
  | .place .staging path strategy =>
    .place .staging path strategy = s.1.creationStep .staging ∧ Recalls (loads s ++ past) s'.1 ∧
      ∃ target, (∃ c c', s'.1 = setPath .target target (s.1.connected s'.1.secrets (some c) c')) ∧
        ∃ w w', Confined [.secrets, .dialing, .closing] s.2 w ∧
          s.1.creation .target w = (.ok target, w') ∧
          s.1.creation .staging (World.record (.created .target target) w').2 = (.error cause, s'.2)

/-- An interruption is in no context. -/
theorem not_interrupts_within (env : Environment) (c : Context) (cause : Failure) :
    ¬ env.Interrupts (.within c cause) := fun h => nomatch h.1

/-- The credentials fail only at their own step. -/
theorem halted_of_loadSecrets (past : List (String × Secrets))
    (h : loadSecrets s = (.error (.within (.precondition step) cause), s')) :
    step = .secrets ∧ Halted past s s' cause .secrets := by
  obtain ⟨hsame, hconf⟩ := loadSecrets_error h
  have hcourse := loadSecrets_course s
  generalize hr : loadSecrets s = r at hcourse
  cases hcourse with
  | absent => cases hr.symm.trans h
  | remembered => cases hr.symm.trans h
  | loaded => cases hr.symm.trans h
  | @failed e w hne hf hl =>
    obtain ⟨he, rfl⟩ := Prod.mk.inj (hr.symm.trans h)
    have he := Except.error.inj he
    split at he
    · cases he
      exact ⟨rfl, rfl, hconf, hl⟩
    · rw [he] at hl
      exact absurd hl Secrets.load_error_ne

/-- The places fail at the first that is not created. -/
theorem halted_of_provision (past : List (String × Secrets)) {s₃ : Session × World}
    {c : Connection} {c' : Option Connection}
    (hrest : s₃.1 = s.1.connected s₃.1.secrets (some c) c')
    (hconf : Confined [.secrets, .dialing, .closing] s.2 s₃.2)
    (hrecalls : Recalls (loads s ++ past) s'.1)
    (h : provision s₃ = (.error (.within (.precondition step) cause), s')) :
    Halted past s s' cause step := by
  have hcreation (p : Place) := creation_congr (show s₃.1.config = s.1.config by rw [hrest]; rfl) p
  have hcourse := provision_course s₃
  generalize hr : provision s₃ = r at hcourse
  have hr := hr.symm.trans h
  cases hcourse with
  | done => cases hr
  | target hw ht =>
    obtain ⟨he, rfl⟩ := Prod.mk.inj hr
    obtain ⟨hc, rfl, -⟩ := Failure.inContext_eq_within (Except.error.inj he)
    rw [(hcreation .target).1] at ht
    rw [(hcreation .target).2] at hc
    cases hc
    exact ⟨rfl, hrecalls, ⟨c, c', hrest⟩, _, trans_of _ hconf (hw.mono (by simp)), ht⟩
  | @staging _ _ _ t _ hw ht hg =>
    obtain ⟨he, rfl⟩ := Prod.mk.inj hr
    obtain ⟨hc, rfl, -⟩ := Failure.inContext_eq_within (Except.error.inj he)
    rw [(hcreation .target).1] at ht
    rw [(hcreation .staging).1] at hg
    rw [(hcreation .staging).2] at hc
    cases hc
    refine ⟨rfl, hrecalls, t, ⟨c, c', ?_⟩, _, _, trans_of _ hconf (hw.mono (by simp)), ht, hg⟩
    exact congrArg (setPath .target t) hrest

/-- **A failed setup stops at its step.** From any state that a run can get to, a setup whose
precondition is not met leaves everything behind the failed step untouched; what the steps before
it did stays done. The cause is the failure of what the step attempted last. -/
theorem halts_at_step (hans : dialer.Answers env) (h : Loaded env dialer past s)
    (hfail : setup s = (.error (.within (.precondition step) cause), s')) :
    Halted past s s' cause step := by
  obtain ⟨config, suffix, files, hmoves⟩ := h.moves
  have hknown := known_of_moves hmoves
  have hrecalls := h.recalls.afterSetup
  rw [hfail] at hrecalls
  have hstages := setup_stages s
  generalize hr : setup s = r at hstages
  have hr := hr.symm.trans hfail
  cases hstages with
  | secrets h₁ =>
    cases hr
    obtain ⟨rfl, hhalted⟩ := halted_of_loadSecrets past h₁
    exact hhalted
  | node h₁ h₂ =>
    cases hr
    have hstep : NodeStep s (.error _, _) := ⟨_, h₁, h₂⟩
    obtain ⟨hrest, x, w, he, hd⟩ := hstep.of_error.resolve_left (not_interrupts_within _ _ _)
    obtain ⟨hc, rfl, -⟩ := Failure.inContext_eq_within he.symm
    cases hc
    exact ⟨rfl, hrecalls, hrest, hstep.within, w, hd⟩
  | controller h₁ h₂ h₃ =>
    cases hr
    have hstep : NodeStep s (.ok _, _) := ⟨_, h₁, h₂⟩
    obtain ⟨c, rfl⟩ := Option.isSome_iff_exists.mp (hstep.isSome_of_ok hans hknown)
    obtain ⟨-, hrest, x, w, he, hd⟩ :=
      (connectController_error h₃).resolve_left (not_interrupts_within _ _ _)
    obtain ⟨hc, rfl, -⟩ := Failure.inContext_eq_within he.symm
    rw [hstep.of_ok] at hrest hc hd
    cases hc
    exact ⟨rfl, hrecalls, ⟨c, by rw [hrest]⟩, hstep.within_connectController h₃, w, hd⟩
  | places h₁ h₂ h₃ =>
    have hstep : NodeStep s (.ok _, _) := ⟨_, h₁, h₂⟩
    obtain ⟨c, rfl⟩ := Option.isSome_iff_exists.mp (hstep.isSome_of_ok hans hknown)
    exact halted_of_provision past (hstep.connected h₃) (hstep.within_connectController h₃)
      hrecalls hr

/-- A session that shared its connection is given an address for the controller that is not
reached. It goes on with its connection to the plugin, and the controller is unbound. -/
theorem halts_at_step_controller :
    let s₀ : Session × World :=
      (fresh { Config.placeless with address := "node" } .plain "", initial .refusing ⟨[], []⟩)
    let config := { Config.placeless with address := "node", controllerAddress := "gone" }
    let s : Session × World := ({ (setup s₀).2.1 with config := config }, (setup s₀).2.2)
    Dialer.plain.Answers .refusing ∧ Loaded .refusing .plain (loads s₀) s ∧
      (setup s).1 = .error (.within (.precondition (.controller "gone")) Environment.unreachable) ∧
      Halted (loads s₀) s (setup s).2 Environment.unreachable (.controller "gone") := by
  intro s₀ config s
  have hfresh : Loaded .refusing .plain [] s₀ := .fresh _ "" ⟨[], []⟩
  have hrun : Loaded .refusing .plain (loads s₀) s := by
    have hsetup := hfresh.setup
    rw [List.append_nil] at hsetup
    exact hsetup.aside (.configure _ _ config)
  have hfailed : (setup s).1 =
      .error (.within (.precondition (.controller "gone")) Environment.unreachable) := by rfl
  exact ⟨Dialer.answers_refusing, hrun, hfailed,
    halts_at_step Dialer.answers_refusing hrun (Prod.ext hfailed rfl)⟩

end Session

end PluginHarness
