import PluginHarness.Proofs.Ownership.Session

/-!
# A run closes what it opens

A run of a suite starts without a session and leaves none, so nothing is owned before and after
it. As every part of the run conserves accounts, each connection that was opened in between was
closed, once, and no other one was closed.

Who closes depends on who opened the session. A launched run keeps its session to itself: what
runs the scenarios closes nothing, and the run does so afterwards, whatever happened. A run that
opens its session from textual settings has it closed by what ends the scenarios. Either way the
closing is the last thing that is done to the session, and it is done for every outcome of the
scenarios, an interruption included.

What runs the scenarios is a parameter. It may prepare and tidy up any number of times and in any
order, stop between the two, and replace the configuration.

## Main definitions

* `Suite.IsRun`: the runs of a suite, for anything that runs the scenarios.

## Main results

* `Suite.closes_what_it_opens`: the runs close what they open, exactly once.
-/

namespace PluginHarness

open Attempt Relation World

variable {α : Type}

namespace Run

/-- The world of a run, and what its session owns. -/
abbrev Accounts : Run → Run → Prop := Conserves (fun r => r.2.1) fun r => r.1.held

theorem tell_conserves (p : Progress) : (tell p).Respects Accounts := fun r =>
  conserves_of_confined (refl_of (Confined []) r.2.1) (by simp) (by simp) fun _ => rfl

theorem onSession_conserves {x : Attempt (Session × World) α} (hx : x.Respects Session.Accounts) :
    (onSession x).Respects Accounts :=
  hx.on fun _ _ h => h

end Run

namespace Observed

/-- The world beside what a run tells; there is no session that could own anything. -/
abbrev Accounts : Observed → Observed → Prop := Conserves Prod.fst fun _ _ => 0

theorem tell_conserves (p : Progress) : (tell p).Respects Accounts := fun o =>
  conserves_of_confined (refl_of (Confined []) o.1) (by simp) (by simp) fun _ => rfl

theorem onWorld_conserves {x : Attempt World α}
    (hx : x.Respects (Confined Topic.offline)) : (onWorld x).Respects Accounts :=
  hx.on fun _ _ h => conserves_of_confined h (by decide) (by decide) fun _ => rfl

/-- A session may come and go, provided that it owns nothing when it comes and when it goes. -/
theorem withSession_conserves {session : Session} (hnew : ∀ c, session.held c = 0)
    {x : Attempt Run α} (hx : x.Respects Run.Accounts)
    (hend : ∀ r : Run, r.2.1.environment.ClosesOrdinarily → ∀ c, (x r).2.1.held c = 0) :
    (withSession session x).Respects Accounts := by
  intro o hord
  obtain ⟨hall, hacc⟩ := hx (session, o) hord
  refine ⟨hall, fun c => ?_⟩
  have hbalance := hacc c
  dsimp only at hbalance
  rwa [hnew, hend _ hord] at hbalance

end Observed

namespace Suite

/-! ### The end of a run -/

theorem mark_conserves : Run.mark.Respects Run.Accounts :=
  respects_state.bind fun _ => respects_pure _

theorem finish_conserves (owned : Bool) : (finish owned).Respects Run.Accounts := by
  have told (n : Nat) : (Run.eventsSince n >>= fun events => Run.tell (.ended events)).Respects
      Run.Accounts :=
    (respects_state.bind fun _ => respects_pure _).bind fun _ => Run.tell_conserves _
  refine mark_conserves.bind fun n => ?_
  dsimp only
  split
  · exact (Run.onSession_conserves Session.close_conserves).bind fun _ => told n
  · exact told n

/-- The end of a run that opened its session leaves the session as closing it does. -/
theorem finish_session (r : Run) (h : r.2.1.environment.ClosesOrdinarily) :
    (finish true r).2.1 = (Session.close r.current).2.1 := by
  obtain ⟨w', hrun⟩ := Session.close_spec h r.1
  have hclose : Run.onSession Session.close r = (.ok (),
      ({ r.1 with node := r.1.node.cleared, controller := r.1.controller.cleared },
        (w', r.2.2))) := by
    simp only [Run.onSession, on_apply, hrun]
  rw [show Session.close r.current = _ from hrun]
  simp only [finish, Run.mark, bind_apply, state_apply, pure_apply, if_true, hclose]
  rfl

theorem held_finish (r : Run) (h : r.2.1.environment.ClosesOrdinarily) (c : Connection) :
    (finish true r).2.1.held c = 0 := by
  rw [finish_session r h]
  exact Session.held_close r.current h c

/-! ### Runs in a session -/

theorem Attends.conserves {body : Attempt Run Bool} (h : Attends body) :
    body.Respects Run.Accounts :=
  h.mono fun _ _ => Session.conserves_of_moves

theorem attended_conserves (owned : Bool) {body : Attempt Run Bool} (h : Attends body) :
    (attended owned body).Respects Run.Accounts :=
  (Run.tell_conserves _).bind fun _ => h.conserves.always (finish_conserves owned)

/-- A run that opened its session closes it, whatever runs the scenarios and however it ends. -/
theorem held_attended {body : Attempt Run Bool} (h : Attends body) (r : Run)
    (hord : r.2.1.environment.ClosesOrdinarily) (c : Connection) :
    (attended true body r).2.1.held c = 0 := by
  obtain ⟨r₁, hr₁, hworld⟩ :
      ∃ r₁ : Run, attended true body r = body.always (finish true) r₁ ∧ r₁.2.1 = r.2.1 :=
    ⟨_, rfl, rfl⟩
  have hord₁ : r₁.2.1.environment.ClosesOrdinarily := hworld ▸ hord
  have hleft := (h.conserves r₁ hord₁).1.environment_eq
  rw [hr₁, always_state]
  exact held_finish _ (hleft ▸ hord₁) c

/-! ### Whole runs -/

/-- A run of a suite: launched in a session of its own, or opened from textual settings. -/
inductive IsRun : Attempt Observed Bool → Prop
  | launched (config : Config) (paths extra : List Document) (dialer : Dialer)
      {body : Attempt Run Bool} (h : Attends body) :
      IsRun (launchWith config paths extra dialer body)
  | opened (userdata : List (String × Document)) {body : Attempt Run Bool} (h : Attends body) :
      IsRun (openedWith userdata body)

theorem prepareConfig_respects {T : List Topic} (h : .secrets ∈ T) (config : Config) :
    (prepareConfig config).Respects (Confined T) := by
  refine (Config.withParametersFile_respects config).bind fun config => ?_
  dsimp only
  split
  · exact (Secrets.load_respects h _).bind fun _ => respects_pure _
  · exact respects_pure _

/-- A run may start a session, which owns nothing then, and leave one that owns nothing. -/
theorem started_conserves (config : Config) (dialer : Dialer) {f : Session → Attempt Observed Bool}
    (hf : ∀ session : Session, (∀ c, session.held c = 0) → (f session).Respects Observed.Accounts) :
    (Observed.onWorld (Session.start config dialer none) >>= f).Respects Observed.Accounts := by
  have hstart : (Observed.onWorld (Session.start config dialer none)).Respects Observed.Accounts :=
    Observed.onWorld_conserves (Session.start_respects config dialer none)
  refine hstart.bind_of (fun o session o' h => ?_) hf
  have hgiven : Session.start config dialer none o.1 = (.ok session, o'.1) := by
    simp only [Observed.onWorld, on_apply, Prod.mk.injEq] at h
    rw [← h.2, ← h.1]
  intro c
  rcases bind_cases Naming.newSuffix (fun suffix => pure (Session.fresh config dialer suffix)) o.1
    with ⟨e, w, -, hrun⟩ | ⟨suffix, w, -, hrun⟩
  · exact absurd (hgiven.symm.trans hrun) (by simp)
  · have hfresh := hgiven.symm.trans hrun
    simp only [pure_apply, Prod.mk.injEq, Except.ok.injEq] at hfresh
    rw [hfresh.1, Session.held_fresh]

/-- Every run conserves accounts; its session owns nothing when it is gone. -/
theorem IsRun.conserves {x : Attempt Observed Bool} (h : IsRun x) :
    x.Respects Observed.Accounts := by
  cases h with
  | launched config paths extra dialer h =>
    refine (Observed.onWorld_conserves
      (prepareConfig_respects (by decide) config)).bind fun config =>
      started_conserves config dialer fun session hnew => (Observed.tell_conserves _).bind fun _ =>
      (Observed.onWorld_conserves (report_respects _ _ _)).bind fun _ =>
      Observed.withSession_conserves hnew ?_ fun r hord c => ?_
    · exact (attended_conserves false h).always
        (Run.onSession_conserves Session.close_conserves)
    · have hleft := (attended_conserves false h r hord).1.environment_eq
      rw [always_state]
      exact Session.held_close _ (hleft ▸ hord) c
  | opened userdata h =>
    exact (Observed.onWorld_conserves (Config.ofUserdata_respects userdata)).bind fun config =>
      started_conserves config .channel fun session hnew =>
      Observed.withSession_conserves hnew (attended_conserves true h) (held_attended h)

/-! ### The main result -/

/-- **A run closes what it opens.** Of the connections that were opened in a run, each was closed
in it exactly once, and no other one was closed. The runs of lists of scenarios are runs in this
sense, and they may end in any way. -/
theorem closes_what_it_opens :
    (∀ config paths extra dialer list, IsRun (launch config paths extra dialer list)) ∧
    (∀ userdata list, IsRun (opened userdata list)) ∧
    ∀ x, IsRun x → ∀ o : Observed, o.1.environment.ClosesOrdinarily → ∀ c,
      (newly Event.closed? o.1 (x o).2.1).count c =
        if o.1.opened < c ∧ c ≤ (x o).2.1.opened then 1 else 0 :=
  ⟨fun config paths extra dialer list =>
      .launched config paths extra dialer (scenarios_attends list),
    fun userdata list => .opened userdata (scenarios_attends list),
    fun _ h o hord _ => (h.conserves o).closed_once hord rfl rfl⟩

/-- Both connections are closed although closing them fails and the user ends the run. -/
theorem closes_what_it_opens_interrupted :
    let o : Observed := (initial .stubborn ⟨[], []⟩, [])
    let config := { Config.placeless with address := "node", controllerAddress := "controller" }
    let run := launch config [] [] .plain
      [⟨"kept", [], false, false⟩, ⟨"ended", [], false, true⟩]
    Environment.stubborn.ClosesOrdinarily ∧ (run o).2.1.opened = 2 ∧
      (newly Event.closed? o.1 (run o).2.1).count 1 = 1 ∧
      (newly Event.closed? o.1 (run o).2.1).count 2 = 1 := by
  intro o config run
  have hopened : (run o).2.1.opened = 2 := by decide +kernel
  have hclosed (c : Connection) : (newly Event.closed? o.1 (run o).2.1).count c =
      if o.1.opened < c ∧ c ≤ (run o).2.1.opened then 1 else 0 :=
    closes_what_it_opens.2.2 run (closes_what_it_opens.1 _ _ _ _ _) o
      Environment.closesOrdinarily_stubborn c
  rw [hopened] at hclosed
  exact ⟨Environment.closesOrdinarily_stubborn, hopened, hclosed 1, hclosed 2⟩

end Suite

end PluginHarness
