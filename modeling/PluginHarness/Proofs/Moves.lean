import Mathlib.Logic.Relation
import PluginHarness.Proofs.Frame
import PluginHarness.Suite.Lifecycle

/-!
# What can happen to a session

A session is prepared and tidied up by whatever runs the scenarios, and between these the
configuration may be replaced, the world may change, and the connections may be closed early. Each
of these is a `Session.Move`. Nothing else acts on a session, so a property of runs is settled by
the moves, and the same theorem then holds for every way of running scenarios.

What runs scenarios is an attempt on a run. It `Attends` the session when it only makes moves; what
it tells is its own affair. The runner of a list of scenarios does more: it tidies up after every
preparation. A preparation, anything aside, and the tidying up make a `Session.Round`, and the
runner only makes rounds.

## Main definitions

* `Session.Aside`, `Session.Move`, `Session.Round`: what happens to a session.
* `Suite.Attends`: what runs scenarios only makes moves.

## Main results

* `Suite.scenarios_rounds`: the runner of a list of scenarios makes rounds.
* `Suite.scenarios_attends`: hence it attends the session.
-/

namespace PluginHarness

open Attempt Relation World

namespace Session

/-- What happens to a session beside its preparation and tidying up. -/
inductive Aside : Session × World → Session × World → Prop
  /-- The configuration is replaced. -/
  | configure (s : Session) (w : World) (config : Config) :
      Aside (s, w) ({ s with config := config }, w)
  /-- The world changes, but not by a session. -/
  | elsewhere (s : Session) {w w' : World} (h : Confined [.location, .secrets] w w') :
      Aside (s, w) (s, w')
  /-- The connections are closed. -/
  | close (s : Session × World) : Aside s (Session.close s).2

/-- Anything that happens to a session. -/
inductive Move : Session × World → Session × World → Prop
  | aside {s s' : Session × World} (h : Aside s s') : Move s s'
  | setup (s : Session × World) : Move s (Session.setup s).2
  | teardown (s : Session × World) : Move s (Session.teardown s).2

/-- Anything that happens to a session, where tidying up follows every preparation. -/
inductive Round : Session × World → Session × World → Prop
  | aside {s s' : Session × World} (h : Aside s s') : Round s s'
  /-- A scenario may do anything aside between its preparation and the tidying up. -/
  | scenario (s : Session × World) {t : Session × World}
      (h : ReflTransGen Aside (Session.setup s).2 t) : Round s (Session.teardown t).2

variable {s s' : Session × World}

/-- A round is made of moves. -/
theorem Round.moves (h : Round s s') : ReflTransGen Move s s' := by
  cases h with
  | aside h => exact .single (.aside h)
  | @scenario t h =>
    have hbetween : ReflTransGen Move (Session.setup s).2 t :=
      h.lift id fun _ _ => .aside
    exact .head (.setup s) (hbetween.tail (.teardown _))

theorem moves_of_rounds (h : ReflTransGen Round s s') : ReflTransGen Move s s' := by
  induction h with
  | refl => exact .refl
  | tail _ h ih => exact ih.trans h.moves

end Session

/-- The session of a run, with the world. -/
def Run.current (r : Run) : Session × World := (r.1, r.2.1)

/-- Between the two runs there were rounds of the session. -/
def Run.Rounds (r r' : Run) : Prop := ReflTransGen Session.Round r.current r'.current

instance : IsPreorder Run Run.Rounds where
  refl _ := ReflTransGen.refl
  trans _ _ _ h h' := ReflTransGen.trans h h'

namespace Suite

/-- What runs scenarios only makes moves of the session. -/
def Attends (body : Attempt Run Bool) : Prop :=
  body.Respects fun r r' => ReflTransGen Session.Move r.current r'.current

/-- A phase gives how its attempt went, and does to the session what the attempt does. -/
theorem phase_apply (name : String) (p : Phase) (x : Attempt (Session × World) Unit) (r : Run) :
    ∃ r', phase name p x r = (.ok (x r.current).1, r') ∧ r'.current = (x r.current).2 :=
  ⟨_, rfl, rfl⟩

theorem configure_rounds (s : Scenario) : (configure s).Respects Run.Rounds := by
  intro r
  rcases h : r.1.configure s.changes with e | changed
  · have hrun : configure s r = (.error e, r) := by
      simp only [configure, bind_apply, state_apply, ofExcept_apply, h]
    rw [hrun]
    exact refl_of _ r
  · have hrun : configure s r = (.ok (), (changed, r.2)) := by
      simp only [configure, bind_apply, state_apply, ofExcept_apply, h, change_apply]
    obtain ⟨config, rfl⟩ : ∃ config, changed = { r.1 with config := config } := by
      rcases hc : r.1.config.assign s.changes with e | config
      · simp [Session.configure, hc, bind, Except.bind] at h
      · simp only [Session.configure, hc, bind, Except.bind, pure, Except.pure,
          Except.ok.injEq] at h
        exact ⟨config, h.symm⟩
    rw [hrun]
    exact .single (.aside (.configure r.1 r.2.1 config))

/-- The report before a preparation is something aside. -/
theorem prepare_rounds (name : String) (s : Session × World) :
    ∃ s₀, Session.Aside s s₀ ∧ (prepare name s).2 = (Session.setup s₀).2 := by
  have h := report_respects (T := [.location, .secrets]) "hooks" .debug
    ("Setting up scenario " ++ name) s.2
  exact ⟨_, .elsewhere s.1 h, rfl⟩

/-- A preparation and the tidying up after it are a round, whatever the outcomes. -/
theorem phases_rounds (name : String) {f : Except Failure Unit → Except Failure Unit →
    Attempt Run Bool} (hf : ∀ before after, (f before after).Respects Run.Rounds) :
    (phase name .before (prepare name) >>= fun before =>
      phase name .after Session.teardown >>= f before).Respects Run.Rounds := by
  intro r
  obtain ⟨r₁, h₁, hr₁⟩ := phase_apply name .before (prepare name) r
  obtain ⟨r₂, h₂, hr₂⟩ := phase_apply name .after Session.teardown r₁
  obtain ⟨s₀, haside, hprep⟩ := prepare_rounds name r.current
  have hround : r.Rounds r₂ := by
    rw [Run.Rounds, hr₂, hr₁, hprep]
    exact .head (.aside haside) (.single (.scenario s₀ .refl))
  rw [bind_of_ok h₁, bind_of_ok h₂]
  exact trans_of _ hround (hf _ _ r₂)

theorem settled_rounds (outcome : Except Failure Unit) : (settled outcome).Respects Run.Rounds := by
  rcases outcome with e | _
  · simp only [settled]
    split
    · exact respects_fail e
    · exact respects_pure false
  · exact respects_pure true

theorem verdict_rounds (s : Scenario) (before after : Except Failure Unit) :
    (verdict s before after).Respects Run.Rounds :=
  (settled_rounds after).bind fun _ => (settled_rounds before).bind fun _ => respects_pure _

theorem scenario_rounds (s : Scenario) : (scenario s).Respects Run.Rounds := by
  have hrest := (configure_rounds s).bind fun _ => phases_rounds s.name (verdict_rounds s)
  unfold scenario
  split
  · exact (respects_fail _).bind fun _ => hrest
  · exact hrest

/-- **The runner of a list of scenarios makes rounds.** -/
theorem scenarios_rounds : ∀ list : List Scenario, (scenarios list).Respects Run.Rounds
  | [] => respects_pure true
  | s :: rest => (scenario_rounds s).bind fun _ =>
      (scenarios_rounds rest).bind fun _ => respects_pure _

theorem scenarios_attends (list : List Scenario) : Attends (scenarios list) :=
  (scenarios_rounds list).mono fun _ _ => Session.moves_of_rounds

end Suite

end PluginHarness
