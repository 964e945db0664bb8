import PluginHarness.CommandLine.Command
import PluginHarness.Proofs.Ownership.Suite
import PluginHarness.Proofs.Secrets
import PluginHarness.Proofs.Setup

/-!
# Configuration failures end a run only before it begins

A failure about the configuration ends a run of the command line with status 2, and this is to mean
that nothing was done yet. But credentials are read again before every scenario, and whatever is
dialed or called from outside may fail in the same words. So the guarantee rests on what failures
become on their way out: setting up puts them into the context of its step, tidying up gathers
them, closing forgets them, and nothing that is left is about the configuration. An attempt with
that property is `Operational`, which is closed under all combinations of attempts.

A run of the command then has two parts. In the first one, `CommandLine.opening`, the configuration
is made and the session started; nothing is dialed, created or told before it is over, and its
failures are the only ones about the configuration. The second one is operational.

## Main definitions

* `Attempt.Operational`: no failure is about the configuration.
* `Suite.ownRun`, `CommandLine.opening`: the two parts of a run.
* `Suite.Reported`: what scenarios told, and whether they passed.

## Main results

* `Session.setup_operational`, `teardown_operational`, `close_operational`: the operations of a
  session.
* `Suite.scenarios_reported`: a list of scenarios passes when all that is told of it is well.
* `CommandLine.configuration_ends_startup_only`: status 2 means that nothing was done, and a run
  that completes ends with 0 or 1.
-/

namespace PluginHarness

open Attempt World

variable {σ α : Type} {P : Failure → Prop}

theorem Failure.isConfiguration_of_isInterrupt {e : Failure} (h : e.isInterrupt = true) :
    e.isConfiguration = false := by
  rcases e with ⟨f⟩ | _ | _
  · rcases f with ⟨⟨reaction, _, _⟩⟩ | _ <;> try cases h
    cases reaction <;> first | rfl | cases h
  all_goals cases h

/-- No failure of the attempt is about the configuration. -/
abbrev Attempt.Operational (x : Attempt σ α) : Prop :=
  x.FailsOnly fun e => e.isConfiguration = false

/-! ### Reading credentials -/

theorem FileTree.read_error {t : FileTree} {path : String} {f : Fault}
    (h : t.read path = .error f) : f = .embeddedNull ∨ ∃ g, f = .system g := by
  unfold read find locate at h
  cases hr : refused? path with
  | some f' =>
    rw [hr] at h
    cases h
    unfold refused? at hr
    split_ifs at hr <;> cases hr
    · exact .inl rfl
    all_goals exact .inr ⟨_, rfl⟩
  | none =>
    rw [hr] at h
    dsimp only at h
    cases hw : walk t true maxLinks (t.start path) (Path.parts path) with
    | error g =>
      rw [hw] at h
      cases h
      exact .inr ⟨_, rfl⟩
    | ok found =>
      rcases found with ⟨loc, _ | _ | _⟩ <;> rw [hw] at h <;> cases h
      all_goals exact .inr ⟨_, rfl⟩

theorem Yaml.readText_error {d : Dialect} {text : List Char} {f : PluginHarness.Fault}
    (h : readText d text = .error f) : f = .malformed ∨ ∃ g, f = .scalar g := by
  unfold readText at h
  rcases hd : documentOf d text with (_ | g) | d' <;> rw [hd] at h <;> cases h
  · exact .inl rfl
  · exact .inr ⟨g, rfl⟩

namespace Secrets

theorem readFile_error {t : FileTree} {path : String} {f : Fault}
    (h : readFile t path = .error f) : (Failure.fault f).isConfiguration = false := by
  unfold readFile at h
  rcases hr : t.read path with f' | bytes
  · rw [hr] at h
    cases h
    rcases FileTree.read_error hr with rfl | ⟨g, rfl⟩ <;> rfl
  rcases hd : Text.decode bytes with g | text
  · rw [hr] at h
    simp only [bind, Except.bind, hd, Except.mapError] at h
    cases h
    rfl
  · rw [hr] at h
    simp only [bind, Except.bind, hd, Except.mapError] at h
    rcases Yaml.readText_error h with rfl | ⟨g, rfl⟩ <;> rfl

/-- A failure of loading that is about the configuration is about credentials. -/
theorem isSecrets_of_load {path : String} {w w' : World} {e : Failure}
    (h : load path w = (.error e, w')) (hc : e.isConfiguration = true) : e.isSecrets = true := by
  obtain ⟨w₁, hrun⟩ := load_run path w
  have hgiven : given path (readFile w.files path) = .error e :=
    congrArg Prod.fst (hrun.symm.trans h)
  unfold given at hgiven
  split at hgiven
  · next d hd =>
    rcases ho : ofDocument d with e' | s <;> rw [ho] at hgiven
    · rcases ofDocument_error ho with rfl | ⟨f, rfl⟩ <;> cases hgiven
      · cases hc
      · rfl
    · cases hgiven
  · cases hgiven
    rfl
  · cases hgiven
    rfl
  · next hr =>
    cases hgiven
    rw [readFile_error hr] at hc
    cases hc

end Secrets

/-! ### Sessions -/

namespace Session

variable {x : Attempt World α}

theorem onWorld_failsOnly (hx : x.FailsOnly P) : (onWorld x).FailsOnly P := hx.on _ _

theorem current_failsOnly : current.FailsOnly P := failsOnly_state.bind fun _ => failsOnly_pure _

/-- Closing quietly can only be interrupted. -/
theorem release_operational : Endpoint.release.Operational := by
  have hquiet (c : Connection) (description : String) :
      (Connection.closeQuietly c description).Operational :=
    FailsOnly.rescue (fun _ => failsOnly_change _)
      (fun _ => Failure.isConfiguration_of_isInterrupt) _
  refine failsOnly_state.bind fun s => ?_
  dsimp only
  split
  · split
    · exact ((hquiet _ _).on _ _).bind fun _ => failsOnly_change _
    · exact failsOnly_change _
  · exact failsOnly_change _

theorem loadSecrets_operational : loadSecrets.Operational := by
  intro s e s' h
  have hcourse := loadSecrets_course s
  rw [h] at hcourse
  cases hcourse with
  | @failed _ _ e _ hl =>
    split
    · rfl
    · next hs =>
      by_contra hc
      exact hs (Secrets.isSecrets_of_load hl (by simpa using hc))

/-- What is explained as a step of a setup is about that step. -/
theorem explained_operational (x : Attempt σ α) (step : Step) :
    (x.explained (.precondition step)).Operational :=
  failsOnly_explained (fun _ => rfl) (fun _ => Failure.isConfiguration_of_isInterrupt) x

theorem connectNode_operational : connectNode.Operational :=
  current_failsOnly.bind fun _ => explained_operational _ _

theorem connectController_operational : connectController.Operational := by
  have hshare (other : Endpoint) : (Endpoint.share other).Operational := by
    refine failsOnly_state.bind fun s => ?_
    dsimp only
    split
    · exact release_operational.bind fun _ => (failsOnly_change _).bind fun _ => failsOnly_pure _
    · exact (failsOnly_change _).bind fun _ => failsOnly_pure _
  refine current_failsOnly.bind fun s => ?_
  dsimp only
  split
  · exact (hshare _).on _ _
  · exact explained_operational _ _

theorem createPlace_operational (p : Place) : (createPlace p).Operational :=
  current_failsOnly.bind fun _ => (onWorld_failsOnly (explained_operational _ _)).bind fun _ =>
    (onWorld_failsOnly (failsOnly_change _)).bind fun _ => failsOnly_change _

theorem setup_operational : setup.Operational :=
  loadSecrets_operational.bind fun _ => (connectNode_operational.bind fun _ =>
    connectController_operational.bind fun _ => failsOnly_pure ()).bind fun _ =>
    (onWorld_failsOnly (failsOnly_change _)).bind fun _ =>
    (createPlace_operational _).bind fun _ => createPlace_operational _

theorem teardown_operational : teardown.Operational := by
  have hreport (level : Level) (path : Document) (text : String → String) :
      (reportPath level path text).Operational := by
    unfold reportPath
    split
    · exact failsOnly_change _
    · exact failsOnly_pure ()
  have hplace (p : Place) (path : Document) (strategy : Strategy) :
      (removePlace p path strategy).Operational := by
    unfold removePlace
    split
    · exact failsOnly_pure []
    · exact FailsOnly.rescue (fun e => (hreport _ _ _).bind fun _ => failsOnly_pure [e])
        (fun _ => Failure.isConfiguration_of_isInterrupt) _
  refine current_failsOnly.bind fun s => (failsOnly_change _).bind fun _ => onWorld_failsOnly ?_
  refine (hplace _ _ _).bind fun errors => (hplace _ _ _).bind fun errors' => ?_
  dsimp only
  split
  · exact failsOnly_pure ()
  · exact failsOnly_fail rfl

theorem close_operational : close.Operational :=
  (release_operational.on _ _).bind fun _ => release_operational.on _ _

end Session

/-! ### Scenarios -/

namespace Observed

theorem onWorld_within {T : List Topic} {x : Attempt World α} (hx : x.Respects (Confined T)) :
    (onWorld x).Respects (ConfinedIn Prod.fst T) :=
  hx.on fun _ _ h => h

theorem onWorld_told {x : Attempt World α} {r : Except Failure α} {o o' : Observed}
    (h : onWorld x o = (r, o')) : o'.2 = o.2 :=
  (congrArg (fun result => result.2.2) h).symm

theorem withSession_apply (session : Session) (x : Attempt Run α) (o : Observed) :
    withSession session x o = ((x (session, o)).1, (x (session, o)).2.2) := rfl

end Observed

namespace Suite

theorem settled_operational (outcome : Except Failure Unit) : (settled outcome).Operational := by
  rcases outcome with e | _
  · simp only [settled]
    split
    · next h => exact failsOnly_fail (Failure.isConfiguration_of_isInterrupt h)
    · exact failsOnly_pure false
  · exact failsOnly_pure true

theorem phase_operational (name : String) (p : Phase) (x : Attempt (Session × World) Unit) :
    (phase name p x).Operational :=
  fun _ _ _ h => nomatch h

/-- Assigning a configuration can fail by an unknown name only. -/
theorem configure_operational (s : Scenario) : (configure s).Operational := by
  refine failsOnly_state.bind fun r => (failsOnly_ofExcept fun e h => ?_).bind fun _ =>
    failsOnly_change _
  rcases ha : r.1.config.assign s.changes with e' | config
  · simp only [Session.configure, ha, bind, Except.bind, Except.error.injEq] at h
    subst h
    unfold Config.assign at ha
    split at ha <;> cases ha
    rfl
  · simp [Session.configure, ha, bind, Except.bind, pure, Except.pure] at h

theorem scenario_operational (s : Scenario) : (scenario s).Operational := by
  have hverdict (before after : Except Failure Unit) : (verdict s before after).Operational :=
    (settled_operational after).bind fun _ => (settled_operational before).bind fun _ =>
      failsOnly_pure _
  have hrest := (configure_operational s).bind fun _ =>
    (phase_operational s.name .before (prepare s.name)).bind fun before =>
    (phase_operational s.name .after Session.teardown).bind fun after => hverdict before after
  unfold scenario
  split
  · exact FailsOnly.bind (failsOnly_fail rfl) fun _ => hrest
  · exact hrest

theorem scenarios_operational : ∀ list : List Scenario, (scenarios list).Operational
  | [] => failsOnly_pure true
  | s :: rest => (scenario_operational s).bind fun _ =>
      (scenarios_operational rest).bind fun _ => failsOnly_pure _

/-! ### What scenarios tell -/

/-- What scenarios told, and whether they passed: two reports for each scenario, in order. They
passed when all reports are well and no scenario fails by itself. -/
structure Reported (list : List Scenario) (passed : Bool) (reports : List PhaseReport) : Prop where
  phases : reports.map (fun p => (p.scenario, p.phase)) =
    list.flatMap fun s => [(s.name, .before), (s.name, .after)]
  passed_eq : passed = (reports.all (fun p => p.outcome.isOk) && list.all fun s => !s.fails)

theorem Reported.append {list list' : List Scenario} {passed passed' : Bool}
    {reports reports' : List PhaseReport} (h : Reported list passed reports)
    (h' : Reported list' passed' reports') :
    Reported (list ++ list') (passed && passed') (reports ++ reports') := by
  refine ⟨by simp [h.phases, h'.phases], ?_⟩
  rw [h.passed_eq, h'.passed_eq, List.all_append, List.all_append]
  ac_rfl

theorem settled_ok {outcome : Except Failure Unit} {passed : Bool} {r r' : Run}
    (h : settled outcome r = (.ok passed, r')) : passed = outcome.isOk ∧ r' = r := by
  rcases outcome with e | _
  · simp only [settled] at h
    split at h <;> cases h
    exact ⟨rfl, rfl⟩
  · cases h
    exact ⟨rfl, rfl⟩

theorem verdict_ok {s : Scenario} {before after : Except Failure Unit} {passed : Bool} {r r' : Run}
    (h : verdict s before after r = (.ok passed, r')) :
    passed = (before.isOk && after.isOk && !s.fails) ∧ r' = r := by
  obtain ⟨tidied, r₁, h₁, hrest⟩ := ok_of_bind h
  obtain ⟨prepared, r₂, h₂, hend⟩ := ok_of_bind hrest
  cases hend
  obtain ⟨rfl, rfl⟩ := settled_ok h₁
  obtain ⟨rfl, rfl⟩ := settled_ok h₂
  exact ⟨rfl, rfl⟩

/-- A phase tells how it went. -/
theorem phase_told (name : String) (p : Phase) (x : Attempt (Session × World) Unit) (r : Run) :
    ∃ (report : PhaseReport) (r' : Run), phase name p x r = (.ok report.outcome, r') ∧
      r'.2.2 = .phase report :: r.2.2 ∧ report.scenario = name ∧ report.phase = p :=
  ⟨⟨name, p, _, _, _⟩, _, rfl, rfl, rfl, rfl⟩

/-- Assigning a configuration tells nothing. -/
theorem configure_told {s : Scenario} {r r' : Run} (h : configure s r = (.ok (), r')) :
    r'.2 = r.2 := by
  obtain ⟨before, r₁, h₁, hrest⟩ := ok_of_bind h
  obtain ⟨changed, r₂, h₂, hend⟩ := ok_of_bind hrest
  obtain rfl : r = r₁ := congrArg Prod.snd h₁
  obtain rfl : r = r₂ := congrArg Prod.snd h₂
  cases hend
  rfl

/-- A scenario that comes to its end told how its two phases went. -/
theorem scenario_reported {s : Scenario} {passed : Bool} {r r' : Run}
    (h : scenario s r = (.ok passed, r')) :
    ∃ before after : PhaseReport, r'.2.2 = .phase after :: .phase before :: r.2.2 ∧
      Reported [s] passed [before, after] := by
  have hrest : (configure s >>= fun _ => phase s.name .before (prepare s.name) >>= fun before =>
      phase s.name .after Session.teardown >>= fun after => verdict s before after) r =
      (.ok passed, r') := by
    unfold scenario at h
    split at h
    · cases h
    · exact h
  obtain ⟨_, r₁, h₁, hrest⟩ := ok_of_bind hrest
  obtain ⟨before, r₂, h₂, htold₂, hname, hphase⟩ := phase_told s.name .before (prepare s.name) r₁
  rw [bind_of_ok h₂] at hrest
  obtain ⟨after, r₃, h₃, htold₃, hname', hphase'⟩ := phase_told s.name .after Session.teardown r₂
  rw [bind_of_ok h₃] at hrest
  obtain ⟨rfl, rfl⟩ := verdict_ok hrest
  refine ⟨before, after, ?_, ?_, ?_⟩
  · rw [htold₃, htold₂, configure_told h₁]
  · simp [hname, hphase, hname', hphase']
  · simp

/-- **A list of scenarios that comes to its end** told how all of their phases went, and it passed
when all went well. -/
theorem scenarios_reported {passed : Bool} {r r' : Run} :
    ∀ {list : List Scenario}, scenarios list r = (.ok passed, r') →
      ∃ reports : List PhaseReport, r'.2.2 = (reports.map Progress.phase).reverse ++ r.2.2 ∧
        Reported list passed reports := by
  intro list h
  induction list generalizing passed r with
  | nil =>
    cases h
    exact ⟨[], rfl, rfl, rfl⟩
  | cons s rest ih =>
    obtain ⟨first, r₁, h₁, hrest⟩ := ok_of_bind h
    obtain ⟨others, r₂, h₂, hend⟩ := ok_of_bind hrest
    cases hend
    obtain ⟨before, after, htold, hfirst⟩ := scenario_reported h₁
    obtain ⟨reports, htold', hothers⟩ := ih h₂
    refine ⟨before :: after :: reports, ?_, hfirst.append hothers⟩
    rw [htold', htold]
    simp

/-! ### Runs in a session of their own -/

/-- Starts the session of a run, before anything runs scenarios in it. -/
def openSession (config : Config) (paths extra : List Document) (dialer : Dialer) :
    Attempt Observed Session := do
  let config ← Observed.onWorld (prepareConfig config)
  let session ← Observed.onWorld (Session.start config dialer none)
  Observed.tell (.launched (arguments config paths extra))
  Observed.onWorld (World.report "runner" .info
    ("Running " ++ title ++ " against " ++ config.address))
  return session

/-- Runs scenarios in the session of a run, which is closed however they end. -/
def ownRun (list : List Scenario) (session : Session) : Attempt Observed Bool :=
  Observed.withSession session ((inSession false list).always (Run.onSession Session.close))

theorem launch_eq (config : Config) (paths extra : List Document) (dialer : Dialer)
    (list : List Scenario) : launch config paths extra dialer list =
      openSession config paths extra dialer >>= ownRun list := by
  simp only [launch, launchWith, openSession, bind_bind]
  rfl

/-- The end of a run that keeps its session only tells that it is over. -/
theorem finish_false (r : Run) :
    ∃ events, finish false r = (.ok (), (r.1, (r.2.1, .ended events :: r.2.2))) :=
  ⟨_, rfl⟩

theorem inSession_operational (list : List Scenario) : (inSession false list).Operational :=
  FailsOnly.bind (fun _ _ _ h => nomatch h) fun _ =>
    (scenarios_operational list).always fun _ _ _ h => nomatch h

theorem ownRun_operational (list : List Scenario) (session : Session) :
    (ownRun list session).Operational := by
  intro o e o' h
  have hrun : ((inSession false list).always (Run.onSession Session.close)).Operational :=
    (inSession_operational list).always (Session.close_operational.on _ _)
  rw [ownRun, Observed.withSession_apply, Prod.mk.injEq] at h
  exact hrun (session, o) e _ (Prod.ext h.1 rfl)

/-- Scenarios that come to their end in a session told how they went. -/
theorem inSession_reported {list : List Scenario} {passed : Bool} {r r' : Run}
    (h : inSession false list r = (.ok passed, r')) :
    ∃ reports events, r'.2.2 = .ended events :: ((reports.map Progress.phase).reverse ++
      .began false :: r.2.2) ∧ Reported list passed reports := by
  obtain ⟨_, r₁, hbegan, hrest⟩ := ok_of_bind h
  obtain ⟨r₂, hlist, hend⟩ := ok_of_always hrest
  obtain ⟨reports, htold, hreported⟩ := scenarios_reported hlist
  obtain ⟨events, hfinish⟩ := finish_false r₂
  cases hbegan
  cases hfinish.symm.trans hend
  exact ⟨reports, events, congrArg (Progress.ended events :: ·) htold, hreported⟩

/-- A run whose scenarios come to their end gives whether they passed. -/
theorem ownRun_of_ok {list : List Scenario} {session : Session} {o : Observed} {passed : Bool}
    {r : Run} (h : inSession false list (session, o) = (.ok passed, r))
    (hord : o.1.environment.ClosesOrdinarily) :
    ∃ o', ownRun list session o = (.ok passed, o') := by
  have henv :=
    (attended_conserves false (scenarios_attends list) (session, o) hord).1.environment_eq
  have hr : (attended false (scenarios list) (session, o)).2 = r := congrArg Prod.snd h
  rw [hr] at henv
  obtain ⟨w', hclose⟩ := Session.close_spec (w := r.2.1) (henv ▸ hord) r.1
  have hclosed : Run.onSession Session.close r = (.ok (),
      ({ r.1 with node := r.1.node.cleared, controller := r.1.controller.cleared },
        (w', r.2.2))) := by
    simp only [Run.onSession, on_apply, hclose]
  refine ⟨(w', r.2.2), ?_⟩
  rw [ownRun, Observed.withSession_apply, always_of_ok h hclosed]

end Suite

/-! ### The command -/

namespace CommandLine

/-- Makes the configuration of a run and starts its session. -/
def opening (o : Options) (features : List Document) : Attempt Observed Session := do
  let config ← Observed.onWorld (Config.build o.config o.overrides [])
  let paths := if features.isEmpty then Suite.defaultPaths else features
  Suite.openSession config paths o.suiteArguments .channel

theorem runSuite_eq (o : Options) (features : List Document) (list : List Scenario) :
    runSuite o features list = opening o features >>= Suite.ownRun list := by
  simp only [runSuite, opening, Suite.launch_eq, bind_bind]

/-- Opening is confined to reading credentials. -/
theorem opening_confined (o : Options) (features : List Document) :
    (opening o features).Respects (ConfinedIn Prod.fst [.secrets]) := by
  have htell (p : Progress) :
      (Observed.tell p).Respects (ConfinedIn Prod.fst [.secrets]) := fun o => refl_of _ o.1
  exact (Observed.onWorld_within (Config.build_respects _ _ _)).bind fun config =>
    (Observed.onWorld_within (Suite.prepareConfig_respects (by simp) _)).bind fun config =>
    (Observed.onWorld_within (Session.start_respects _ _ _)).bind fun session =>
    (htell _).bind fun _ =>
    (Observed.onWorld_within (report_respects _ _ _)).bind fun _ => respects_pure session

/-- When opening fails, nothing was told. -/
theorem opening_error {o : Options} {features : List Document} {obs obs' : Observed} {e : Failure}
    (h : opening o features obs = (.error e, obs')) :
    obs'.2 = obs.2 := by
  rcases error_of_bind h with h₁ | ⟨config, obs₁, h₁, hrest⟩
  · exact Observed.onWorld_told h₁
  rcases error_of_bind hrest with h₂ | ⟨config', obs₂, h₂, hrest⟩
  · exact (Observed.onWorld_told h₂).trans (Observed.onWorld_told h₁)
  rcases error_of_bind hrest with h₃ | ⟨session, obs₃, h₃, hrest⟩
  · exact (Observed.onWorld_told h₃).trans
      ((Observed.onWorld_told h₂).trans (Observed.onWorld_told h₁))
  -- once there is a session, it is told and reported, and neither fails
  · cases hrest

theorem threshold_error {o : Options} {e : Failure} (h : o.threshold = .error e) :
    e.isConfiguration = false := by
  unfold Options.threshold at h
  split at h
  · unfold Threshold.ofName at h
    dsimp only at h
    split at h <;> cases h
    rfl
  · cases h
    rfl

/-- How the command ends, by how the run of the suite ended. -/
theorem run_apply {o : Options} {level : Level} (hl : o.threshold = .ok level)
    (features : List Document) (list : List Scenario) {obs : Observed}
    (hd : obs.1.environment.lookup? debugVariable ≠ some "1") :
    run o features list obs = match runSuite o features list obs with
      | (.ok passed, obs') => (.ok (Exit.ofResult passed), obs')
      | (.error e, obs') =>
        if e.isConfiguration then (.ok (Exit.malformed e), obs') else (.error e, obs') := by
  have hdebug : (obs.1.environment.lookup? debugVariable == some "1") = false := by simpa using hd
  have hrun : run o features list obs =
      ((Exit.ofResult <$> runSuite o features list).handle fun e =>
        if e.isConfiguration && !false then some (return Exit.malformed e) else none) obs := by
    rw [← hdebug]
    simp only [run, hl, bind_apply, ofExcept_apply, state_apply]
  rw [hrun]
  rcases hs : runSuite o features list obs with ⟨e | passed, obs'⟩
  · rw [handle_of_error _ (map_of_error _ hs)]
    cases hc : e.isConfiguration <;> simp [hc]
  · rw [handle_of_ok _ (map_of_ok _ hs)]

/-- A failure about the configuration comes from opening the session. -/
theorem opening_of_runSuite {o : Options} {features : List Document} {list : List Scenario}
    {obs obs' : Observed} {e : Failure} (h : runSuite o features list obs = (.error e, obs'))
    (hc : e.isConfiguration = true) : opening o features obs = (.error e, obs') := by
  rw [runSuite_eq] at h
  rcases error_of_bind h with hopen | ⟨session, obs₁, -, hown⟩
  · exact hopen
  · rw [Suite.ownRun_operational list session obs₁ e obs' hown] at hc
    cases hc

/-- **Configuration failures end a run only before it begins.** Whatever is dialed, called, executed
and read, no failure of setting up, tidying up or closing is about the configuration. So a run of
the command that ends with status 2 did nothing but read credentials: it told nothing of a scenario,
opened and closed no connection and started no command. No other failure about the configuration
leaves a run. When the scenarios come to their end, the status is 0 or 1, by whether all of them
passed. -/
theorem configuration_ends_startup_only :
    (Session.setup.Operational ∧ Session.teardown.Operational ∧ Session.close.Operational) ∧
    ∀ (o : Options) (features : List Document) (list : List Scenario) (obs : Observed),
      obs.1.environment.lookup? debugVariable ≠ some "1" →
      (∀ exit obs', run o features list obs = (.ok exit, obs') → exit.code = 2 →
        Confined [.secrets] obs.1 obs'.1 ∧ obs'.2 = obs.2) ∧
      (∀ e obs', run o features list obs = (.error e, obs') → e.isConfiguration = false) ∧
      ∀ level session obs₁ passed r, o.threshold = .ok level →
        opening o features obs = (.ok session, obs₁) → obs.1.environment.ClosesOrdinarily →
        Suite.inSession false list (session, obs₁) = (.ok passed, r) →
        (∃ obs', run o features list obs = (.ok (Exit.ofResult passed), obs')) ∧
        ∃ reports events, r.2.2 = .ended events :: ((reports.map Progress.phase).reverse ++
          .began false :: obs₁.2) ∧ Suite.Reported list passed reports := by
  refine ⟨⟨Session.setup_operational, Session.teardown_operational, Session.close_operational⟩,
    fun o features list obs hd => ⟨fun exit obs' h hcode => ?_, fun e obs' h => ?_,
      fun level session obs₁ passed r hl hopen hord hin => ⟨?_, Suite.inSession_reported hin⟩⟩⟩
  · rcases hl : o.threshold with e | level
    · rw [run, hl] at h
      cases h
    rw [run_apply hl features list hd] at h
    rcases hs : runSuite o features list obs with ⟨e | passed, obs₁⟩ <;> simp only [hs] at h
    · split at h <;> cases h
      next hc =>
      have hopen := opening_of_runSuite hs hc
      have hconf := opening_confined o features obs
      rw [hopen] at hconf
      exact ⟨hconf, opening_error hopen⟩
    · cases h
      cases passed <;> cases hcode
  · rcases hl : o.threshold with e' | level
    · rw [run, hl] at h
      cases h
      exact threshold_error hl
    rw [run_apply hl features list hd] at h
    rcases hs : runSuite o features list obs with ⟨e' | passed, obs₁⟩ <;> simp only [hs] at h
    · split at h <;> cases h
      next hc => simpa using hc
    · cases h
  · have hconf := opening_confined o features obs
    rw [hopen] at hconf
    obtain ⟨obs', hown⟩ := Suite.ownRun_of_ok hin (hconf.environment_eq ▸ hord)
    refine ⟨obs', ?_⟩
    rw [run_apply hl features list hd, runSuite_eq, bind_of_ok hopen, hown]

/-- The arguments that give an address, or none. -/
def optionsAt (address : Option String) : Options where
  config := none
  overrides := address.toList.map fun a => (.text "address", .text a)
  tags := .null
  logLevel := .text "info"

/-- Before the second scenario a credentials file is configured that cannot be read. -/
def losing : List Scenario :=
  [⟨"first", [], false, false⟩,
    ⟨"second", [("secrets_file", .document (.text "gone"))], false, false⟩]

/-- Without an address the run ends with status 2 and nothing is told. With one, the credentials
that are lost in the middle of the run make it end with status 1. -/
theorem configuration_ends_startup_only_losing :
    let obs : Observed := (initial .stubborn ⟨[], []⟩, [])
    obs.1.environment.lookup? debugVariable ≠ some "1" ∧ obs.1.environment.ClosesOrdinarily ∧
      (∃ exit obs', run (optionsAt none) [] losing obs = (.ok exit, obs') ∧ exit.code = 2 ∧
        obs'.2 = []) ∧
      ∃ session obs₁ r obs', opening (optionsAt (some "node")) [] obs = (.ok session, obs₁) ∧
        Suite.inSession false losing (session, obs₁) = (.ok false, r) ∧
        run (optionsAt (some "node")) [] losing obs = (.ok ⟨1, none⟩, obs') := by
  intro obs
  have hdebug : obs.1.environment.lookup? debugVariable ≠ some "1" := nofun
  have hord : obs.1.environment.ClosesOrdinarily := Environment.closesOrdinarily_stubborn
  refine ⟨hdebug, hord, ?_, ?_⟩
  · have hcode : (run (optionsAt none) [] losing obs).1.toOption.map Exit.code = some 2 := by
      decide +kernel
    rcases h : run (optionsAt none) [] losing obs with ⟨e | exit, obs'⟩ <;> rw [h] at hcode
    · cases hcode
    · have hexit : exit.code = 2 := Option.some.inj hcode
      exact ⟨exit, obs', rfl, hexit, ((configuration_ends_startup_only.2 _ _ _ obs hdebug).1
        exit obs' h hexit).2⟩
  · let all : Attempt Observed Bool := opening (optionsAt (some "node")) [] >>= fun session =>
      Observed.withSession session (Suite.inSession false losing)
    have hall : (all obs).1.toOption = some false := by decide +kernel
    rcases h : all obs with ⟨e | passed, obs₂⟩ <;> rw [h] at hall <;> cases hall
    obtain ⟨session, obs₁, hopen, hin⟩ := ok_of_bind h
    rw [Observed.withSession_apply, Prod.mk.injEq] at hin
    have hin' : Suite.inSession false losing (session, obs₁) =
        (.ok false, (Suite.inSession false losing (session, obs₁)).2) := Prod.ext hin.1 rfl
    obtain ⟨obs', hrun⟩ := ((configuration_ends_startup_only.2 _ _ _ obs hdebug).2.2
      Level.info session obs₁ false _ rfl hopen hord hin').1
    exact ⟨session, obs₁, _, obs', hopen, hin', hrun⟩

end CommandLine

end PluginHarness
