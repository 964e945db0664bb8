import PluginHarness.Proofs.Moves
import PluginHarness.Proofs.Setup
import PluginHarness.Proofs.Teardown

/-!
# What is removed is what was created

The stored paths of a session say what its next tidying up has to remove. `Provisioned made s s'`
relates them to the history: between the two states the places `made` were created, in this order,
and each stored path is that of the last creation of its place, or what it was before. The relation
follows a run from piece to piece, because lists of creations append.

Between scenarios both stored paths are empty, as every round ends with tidying up, and this
forgets the paths before it removes anything. So a setup starts from nothing, what is stored after
it is what it created, and tidying up removes that: every path that is not empty, once, in the
order of creation.

Where a setup stopped does not matter. A failed creation gives no path, and what was created before
it stays stored; a failure of the staging place leaves the target for the tidying up.

## Main definitions

* `Session.Provisioned`: what was created, and that the stored paths are its paths.

## Main results

* `Session.setup_provisioned`: what a setup creates, and in which order.
* `Session.newly_removing_teardown`: tidying up removes what is stored.
* `Session.removes_what_was_created`: a scenario removes what it created, and nothing else.
-/

namespace PluginHarness

open Attempt Relation World

namespace Session

/-- The stored paths, the target before the staging place. -/
def paths (s : Session) : Document × Document := (s.target, s.staging)

theorem path_of_paths {s s' : Session} (h : s'.paths = s.paths) (p : Place) :
    s'.path p = s.path p := by
  obtain ⟨htarget, hstaging⟩ := Prod.mk.inj h
  cases p
  · exact htarget
  · exact hstaging

/-- Creating the place as it is configured gave the path. -/
def Gave (config : Config) (p : Place) (d : Document) : Prop :=
  ∃ w w', Location.create (config.strategy .creation p) (config.place p).path w = (.ok d, w')

/-- The places were created as they are configured, in this order, and the stored paths are those
of their creation. -/
structure Provisioned (made : List (Place × Document)) (s s' : Session × World) : Prop where
  suffix : s.2.history <:+ s'.2.history
  seen : newly Event.created? s.2 s'.2 = made
  gave : ∀ e ∈ made, Gave s.1.config e.1 e.2
  config_eq : s'.1.config = s.1.config
  path_eq : ∀ p, s'.1.path p = made.foldl (fun d e => if e.1 = p then e.2 else d) (s.1.path p)

variable {s s' s'' : Session × World}

theorem Provisioned.append {made made' : List (Place × Document)} (h : Provisioned made s s')
    (h' : Provisioned made' s' s'') : Provisioned (made ++ made') s s'' := by
  have hgave := h'.gave
  rw [h.config_eq] at hgave
  refine ⟨h.suffix.trans h'.suffix, ?_, List.forall_mem_append.mpr ⟨h.gave, hgave⟩,
    h'.config_eq.trans h.config_eq, fun p => ?_⟩
  · rw [newly_append h.suffix h'.suffix, h.seen, h'.seen]
  · rw [h'.path_eq, h.path_eq, List.foldl_append]

/-- Nothing is created while the stored paths stay and no event is about creation. -/
theorem provisioned_nil {T : List Topic} (h : Within T s s') (ht : .creation ∉ T)
    (hk : Kept (fun s => (s.1.config, s.1.paths)) s s') : Provisioned [] s s' := by
  obtain ⟨hconfig, hpaths⟩ := Prod.mk.inj hk
  exact ⟨h.suffix, h.newly_eq_nil Event.isAbout_created ht, List.forall_mem_nil _, hconfig,
    path_of_paths hpaths⟩

/-! ### Setup -/

/-- Creating a place fails and stores nothing, or stores the path that it gave. -/
theorem createPlace_course (p : Place) (s : Session × World) :
    (∃ e s', createPlace p s = (.error e, s') ∧ Provisioned [] s s') ∨
      ∃ d s', createPlace p s = (.ok (), s') ∧ Provisioned [(p, d)] s s' := by
  have hrun := createPlace_apply p s
  have hcreate : Provisioned [] s (s.1, (s.1.creation p s.2).2) :=
    provisioned_nil (T := [.location]) (Location.create_respects (by simp) _ _ s.2) (by simp) rfl
  rcases hc : s.1.creation p s.2 with ⟨e | d, w⟩ <;> simp only [hc] at hrun hcreate
  · exact .inl ⟨_, _, hrun, hcreate⟩
  · have hstore : Provisioned [(p, d)] (s.1, w) (setPath p d s.1,
        { w with history := .created p d :: w.history }) := by
      refine ⟨List.suffix_cons _ _, ?_, List.forall_mem_singleton.mpr ⟨s.2, w, hc⟩,
        config_setPath s.1 p d, fun q => ?_⟩
      · rw [newly_of_history (show _ = [Event.created p d] ++ w.history from rfl)]
        rfl
      · cases p <;> cases q <;> rfl
    exact .inr ⟨d, _, hrun, hcreate.append hstore⟩

/-- What was created is the target, then the staging place; and both when there was no failure. -/
def InOrder (made : List (Place × Document)) (r : Except Failure Unit) : Prop :=
  ∃ t g, made <+: [(.target, t), (.staging, g)] ∧
    (r = .ok () → made = [(.target, t), (.staging, g)])

theorem inOrder_nil (e : Failure) : InOrder [] (.error e) :=
  ⟨noPath, noPath, List.nil_prefix, fun h => nomatch h⟩

theorem provision_provisioned (s : Session × World) :
    ∃ made, Provisioned made s (provision s).2 ∧ InOrder made (provision s).1 := by
  obtain ⟨s₀, h₀, hrun⟩ : ∃ s₀, Provisioned [] s s₀ ∧
      provision s = (createPlace .target >>= fun _ => createPlace .staging) s₀ :=
    ⟨_, provisioned_nil (T := [])
      (onWorld_within (reportStep_respects "context" _) s) (by simp) rfl, rfl⟩
  rw [hrun]
  rcases createPlace_course .target s₀ with ⟨e, s₁, h, hp⟩ | ⟨t, s₁, h, ht⟩
  · rw [bind_of_error h]
    exact ⟨[], h₀.append hp, inOrder_nil e⟩
  · rw [bind_of_ok h]
    rcases createPlace_course .staging s₁ with ⟨e, s₂, h', hp⟩ | ⟨g, s₂, h', hg⟩
    · rw [h']
      exact ⟨[(.target, t)], (h₀.append ht).append hp, t, noPath, by simp, fun h => nomatch h⟩
    · rw [h']
      exact ⟨[(.target, t), (.staging, g)], (h₀.append ht).append hg, t, g, List.prefix_rfl,
        fun _ => rfl⟩

/-- An attempt that is not about creation and keeps the stored paths. -/
theorem provisioned_of_run {α : Type} {x : Attempt (Session × World) α} {T : List Topic}
    (hx : x.Respects (Within T)) (ht : .creation ∉ T)
    (hk : x.Respects (Kept fun s => (s.1.config, s.1.paths)))
    {r : Except Failure α} (h : x s = (r, s')) : Provisioned [] s s' := by
  have hwithin := hx s
  have hkept := hk s
  rw [h] at hwithin hkept
  exact provisioned_nil hwithin ht hkept

theorem loadSecrets_provisioned {r : Except Failure Unit} (h : loadSecrets s = (r, s')) :
    Provisioned [] s s' :=
  provisioned_of_run (T := [.secrets]) (loadSecrets_within (by simp)) (by simp)
    (loadSecrets_kept (v := fun s => (s.config, s.paths)) fun _ _ _ => rfl) h

theorem connectNode_provisioned {r : Except Failure (Option Connection)}
    (h : connectNode s = (r, s')) : Provisioned [] s s' :=
  provisioned_of_run (T := [.dialing, .closing]) (connectNode_within (by simp) (by simp)) (by simp)
    (connectNode_kept (v := fun s => (s.config, s.paths)) fun _ _ => rfl) h

theorem connectController_provisioned {r : Except Failure (Option Connection)}
    (h : connectController s = (r, s')) : Provisioned [] s s' :=
  provisioned_of_run (T := [.dialing, .closing]) (connectController_within (by simp) (by simp))
    (by simp) (connectController_kept (v := fun s => (s.config, s.paths)) fun _ _ => rfl) h

/-- A setup creates the target and then the staging place, and stores what it created. It creates
nothing before it has credentials and connections. -/
theorem setup_provisioned (s : Session × World) :
    ∃ made, Provisioned made s (setup s).2 ∧ InOrder made (setup s).1 := by
  have hstages := setup_stages s
  generalize setup s = r at hstages ⊢
  cases hstages with
  | secrets h => exact ⟨[], loadSecrets_provisioned h, inOrder_nil _⟩
  | node h₁ h₂ =>
    exact ⟨[], (loadSecrets_provisioned h₁).append (connectNode_provisioned h₂), inOrder_nil _⟩
  | controller h₁ h₂ h₃ =>
    exact ⟨[], ((loadSecrets_provisioned h₁).append (connectNode_provisioned h₂)).append
      (connectController_provisioned h₃), inOrder_nil _⟩
  | @places _ _ _ _ s₃ h₁ h₂ h₃ =>
    obtain ⟨made, hmade, horder⟩ := provision_provisioned s₃
    exact ⟨made, (((loadSecrets_provisioned h₁).append (connectNode_provisioned h₂)).append
      (connectController_provisioned h₃)).append hmade, horder⟩

/-! ### Teardown -/

/-- Tidying up removes what is stored, the target before the staging place. -/
theorem newly_removing_teardown (s : Session × World)
    (h : ∀ p, (s.1.config.strategy .removal p).RemovesOrdinarily s.2.environment (s.1.path p)) :
    newly Event.removing? s.2 (teardown s).2.2 =
      [s.1.path .target, s.1.path .staging].filter Document.truthy := by
  obtain ⟨errors, errors', w, w', h₁, h₂, hrun⟩ :=
    teardown_course (tidiesOrdinarily_of_strategies h)
  calc newly Event.removing? s.2 (teardown s).2.2
      = s.1.attempts.map Prod.snd := by
        rw [hrun, newly_of_removals Event.isAbout_removing h₁ h₂]
        exact congrFun List.filterMap_eq_map _
    _ = [s.1.path .target, s.1.path .staging].filter Document.truthy :=
        (List.filter_map (f := Prod.snd) (p := Document.truthy)).symm

/-! ### Whole runs -/

/-- Nothing aside touches the stored paths, creates a place or removes one. -/
theorem Aside.within (h : Aside s s') :
    Within [.closing, .location, .secrets] s s' ∧ Kept (fun s => s.1.paths) s s' := by
  cases h with
  | configure s w config => exact ⟨refl_of (Confined _) w, rfl⟩
  | elsewhere s h => exact ⟨h.mono (by simp), rfl⟩
  | close => exact ⟨close_within (by simp) s, close_kept (fun _ _ => rfl) (fun _ _ => rfl) s⟩

theorem within_of_asides (h : ReflTransGen Aside s s') :
    Within [.closing, .location, .secrets] s s' ∧ Kept (fun s => s.1.paths) s s' := by
  induction h with
  | refl => exact ⟨refl_of _ s, refl_of _ s⟩
  | tail _ h ih => exact ⟨trans_of _ ih.1 h.within.1, trans_of _ ih.2 h.within.2⟩

/-- Between scenarios the stored paths are empty. -/
theorem path_of_rounds (h : ReflTransGen Round s s') (hs : ∀ p, s.1.path p = noPath) (p : Place) :
    s'.1.path p = noPath := by
  induction h with
  | refl => exact hs p
  | tail _ h ih =>
    cases h with
    | aside h => exact (path_of_paths h.within.2 p).trans ih
    | @scenario t _ =>
      rw [teardown_session]
      cases p <;> rfl

/-- What is stored after places were created in order, when nothing was stored before. -/
theorem stored_of_inOrder {made : List (Place × Document)} {r : Except Failure Unit}
    (h : Provisioned made s s') (horder : InOrder made r) (hs : ∀ p, s.1.path p = noPath) :
    [s'.1.path .target, s'.1.path .staging].filter Document.truthy =
      (made.map Prod.snd).filter Document.truthy := by
  obtain ⟨t, g, hprefix, -⟩ := horder
  have hpath (p : Place) :
      s'.1.path p = made.foldl (fun d e => if e.1 = p then e.2 else d) noPath := by
    rw [h.path_eq, hs]
  rw [hpath, hpath]
  have hempty : noPath.truthy = false := by decide
  rcases List.prefix_cons_iff.mp hprefix with rfl | ⟨rest, rfl, hrest⟩
  · simp [hempty]
  · rcases List.prefix_cons_iff.mp hrest with rfl | ⟨rest', rfl, hrest'⟩
    · simp [hempty, List.filter_cons]
    · rw [List.prefix_nil.mp hrest']
      rfl

/-- **A scenario removes what it created.** At any time between scenarios nothing is stored. From
there, a setup creates the target and then the staging place, as far as it comes, under the paths
that their creation gives. Whatever happens aside, the tidying up after it attempts to remove the
paths of these places that are not empty, each once and in this order. No other removal is
attempted, before it or in it. -/
theorem removes_what_was_created {config : Config} {dialer : Dialer} {suffix : String} {w : World}
    {s t : Session × World} (hrun : ReflTransGen Round (fresh config dialer suffix, w) s)
    (haside : ReflTransGen Aside (setup s).2 t)
    (hord : ∀ p, (t.1.config.strategy .removal p).RemovesOrdinarily t.2.environment (t.1.path p)) :
    let made := newly Event.created? s.2 (setup s).2.2
    s.1.target = noPath ∧ s.1.staging = noPath ∧
    (∀ e ∈ made, Gave s.1.config e.1 e.2) ∧
    (∃ target staging, made <+: [(.target, target), (.staging, staging)] ∧
      ((setup s).1 = .ok () → made = [(.target, target), (.staging, staging)])) ∧
    newly Event.removing? s.2 t.2 = [] ∧
    newly Event.removing? t.2 (teardown t).2.2 =
      (made.map Prod.snd).filter Document.truthy ∧
    newly Event.created? (setup s).2.2 (teardown t).2.2 = [] := by
  intro made
  have hempty : ∀ p, s.1.path p = noPath :=
    path_of_rounds hrun fun p => by cases p <;> rfl
  obtain ⟨made', hmade, horder⟩ := setup_provisioned s
  obtain rfl : made = made' := hmade.seen
  obtain ⟨hwithin, hkept⟩ := within_of_asides haside
  have hsetup : Within [.secrets, .dialing, .closing, .location, .creation] s (setup s).2 :=
    setup_within (by simp) (by simp) (by simp) (by simp) (by simp) s
  have hteardown : Within [.location, .removal] t (teardown t).2 :=
    teardown_within (by simp) (by simp) t
  refine ⟨hempty .target, hempty .staging, hmade.gave, horder, ?_, ?_, ?_⟩
  · rw [newly_append hsetup.suffix hwithin.suffix,
      hsetup.newly_eq_nil Event.isAbout_removing (by simp),
      hwithin.newly_eq_nil Event.isAbout_removing (by simp), List.append_nil]
  · have hpath (p : Place) : t.1.path p = (setup s).2.1.path p := path_of_paths hkept p
    rw [newly_removing_teardown t hord, hpath, hpath]
    exact stored_of_inOrder hmade horder hempty
  · rw [newly_append hwithin.suffix hteardown.suffix,
      hwithin.newly_eq_nil Event.isAbout_created (by simp),
      hteardown.newly_eq_nil Event.isAbout_created (by simp), List.append_nil]

/-- Callback 0 makes places under a name of its own, and callback 1 fails. -/
def mover : Environment :=
  { Environment.stubborn with
    call := fun c _ =>
      if c.number = 0 then return .text "/made"
      else Attempt.fail (.fault (.foreign ⟨.ordinary, "RuntimeError", "busy"⟩)) }

/-- Both places are removed by callback 1. The target is made by callback 0, and there is no
staging place. -/
def renamed : Config :=
  { Config.placeless with
    address := "node"
    target := ⟨"/asked", ⟨"", none, some ⟨0, none, "make"⟩⟩, ⟨"", none, some ⟨1, none, "drop"⟩⟩⟩
    staging := ⟨"", Config.defaultStep, ⟨"", none, some ⟨1, none, "drop"⟩⟩⟩ }

theorem removesOrdinarily_mover (path : Document) :
    (Strategy.callback ⟨1, none, "drop"⟩).RemovesOrdinarily mover path := by
  refine Strategy.removesOrdinarily_callback fun t e t' h => ?_
  cases h
  rfl

/-- The removal of a path that was not the configured one is attempted and fails. -/
theorem removes_what_was_created_renamed :
    let s : Session × World := (fresh renamed .plain "", initial mover ⟨[], []⟩)
    let t := (setup s).2
    let made := newly Event.created? s.2 t.2
    (∀ p, (t.1.config.strategy .removal p).RemovesOrdinarily t.2.environment (t.1.path p)) ∧
      made.map (fun e => (e.1, e.2.asText?)) = [(.target, some "/made"), (.staging, some "")] ∧
      newly Event.removing? t.2 (teardown t).2.2 = (made.map Prod.snd).filter Document.truthy := by
  intro s t made
  have hstrategy (p : Place) : t.1.config.strategy .removal p = .callback ⟨1, none, "drop"⟩ := by
    cases p <;> decide +kernel
  have hmade : made.map (fun e => (e.1, e.2.asText?)) =
      [(.target, some "/made"), (.staging, some "")] := by decide +kernel
  have henv : t.2.environment = mover :=
    (setup_within (T := Topic.all) (Topic.mem_all _) (Topic.mem_all _) (Topic.mem_all _)
      (Topic.mem_all _) (Topic.mem_all _) s).environment_eq
  have hord (p : Place) :
      (t.1.config.strategy .removal p).RemovesOrdinarily t.2.environment (t.1.path p) := by
    rw [hstrategy, henv]
    exact removesOrdinarily_mover _
  exact ⟨hord, hmade, (removes_what_was_created .refl .refl hord).2.2.2.2.2.1⟩

end Session

end PluginHarness
