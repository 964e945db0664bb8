import PluginHarness.Proofs.Addresses
import PluginHarness.Proofs.Setup.Credentials
import PluginHarness.Proofs.Setup.Sharing

/-!
# What a successful setup guarantees

A scenario that runs after a setup relies on all of it: open connections to the addresses that are
configured now, the credentials of the file that is configured now, and places that were created
for it. None of this may depend on what the session did before. It may have been connected
otherwise, it may have been closed or stopped half way in an earlier setup, and its controller may
dangle.

Three laws of runs meet here. The endpoints are linked, which says what is open; they are known,
which says what it was opened to; and file and credentials belong together. A setup that ends well
has gone through all stages, and so gives the session the shape that is configured, of which these
laws then speak.

## Main definitions

* `Endpoint.Reaches`: the endpoint has a connection that is open to the address.
* `Session.Created`: the places were created and are stored.

## Main results

* `Session.setup_ok`: a setup that ends well went through all stages.
* `Session.ready_after_setup`: connections, credentials and places after a successful setup.
-/

namespace PluginHarness

open Attempt Relation World

/-- The endpoint has the connection, which is open and was opened to the address. -/
structure Endpoint.Reaches (w : World) (e : Endpoint) (c : Connection) (address : String) :
    Prop where
  connection_eq : e.connection = some c
  address_eq : e.address = address
  isOpen : w.IsOpen c
  addressOf_eq : w.addressOf c = some address

/-- A known endpoint reaches what it names. -/
theorem Endpoint.Known.reaches {dialer : Dialer} {e : Endpoint} {w : World} {c : Connection}
    {address : String} (h : Known dialer (e, w)) (hc : e.connection = some c)
    (ha : e.address = address) (hopen : w.IsOpen c) : e.Reaches w c address :=
  ⟨hc, ha, hopen, ha ▸ h.addressed c hc⟩

namespace Session

variable {env : Environment} {dialer : Dialer} {past : List (String × Secrets)}
  {s s' : Session × World}

/-- Both places were created as they are configured, from the world on, and are stored. -/
def Created (s : Session) (w : World) (s' : Session × World) : Prop :=
  ∃ w₁ w₂, s.creation .target w = (.ok s'.1.target, w₁) ∧
    s.creation .staging (World.record (.created .target s'.1.target) w₁).2 =
      (.ok s'.1.staging, w₂) ∧
    s'.2 = (World.record (.created .staging s'.1.staging) w₂).2

/-- A setup that ends well went through all stages. -/
theorem setup_ok (h : setup s = (.ok (), s')) :
    ∃ c c' s₂ s₃, NodeStep s (.ok c, s₂) ∧ connectController s₂ = (.ok c', s₃) ∧
      provision s₃ = (.ok (), s') := by
  have hstages := setup_stages s
  generalize hr : setup s = r at hstages
  have hr := hr.symm.trans h
  cases hstages with
  | secrets => cases hr
  | node => cases hr
  | controller => cases hr
  | @places c c' s₁ s₂ s₃ h₁ h₂ h₃ => exact ⟨c, c', s₂, s₃, ⟨s₁, h₁, h₂⟩, h₃, hr⟩

theorem provision_ok (h : provision s = (.ok (), s')) :
    s'.1 = setPath .staging s'.1.staging (setPath .target s'.1.target s.1) ∧
      ∃ w, Confined [] s.2 w ∧ Created s.1 w s' := by
  have hcourse := provision_course s
  generalize hr : provision s = r at hcourse
  have hr := hr.symm.trans h
  cases hcourse with
  | target => cases hr
  | staging => cases hr
  | done hw ht hg =>
    obtain ⟨-, rfl⟩ := Prod.mk.inj hr
    exact ⟨rfl, _, hw, _, _, ht, hg, rfl⟩

theorem Created.congr {s₀ s₁ : Session} {w : World} (h : Created s₁ w s')
    (hconfig : s₁.config = s₀.config) : Created s₀ w s' := by
  have hcreation (p : Place) := (creation_congr hconfig p).1
  rw [Created, hcreation, hcreation] at h
  exact h

/-- A setup that ends well created both places; before that it did nothing to the files. -/
theorem created_of_setup (h : setup s = (.ok (), s')) :
    s'.1.config = s.1.config ∧
      ∃ w, Confined [.secrets, .dialing, .closing] s.2 w ∧ Created s.1 w s' := by
  obtain ⟨c, c', s₂, s₃, hstep, h₃, hprov⟩ := setup_ok h
  obtain ⟨hpaths, w, hw, hcreated⟩ := provision_ok hprov
  have hconfig : s₃.1.config = s.1.config := by
    rw [hstep.connected h₃]
    rfl
  refine ⟨?_, w, ?_, hcreated.congr hconfig⟩
  · rw [hpaths]
    exact hconfig
  · exact trans_of _ (hstep.within_connectController h₃) (hw.mono (by simp))

/-- An empty path is taken as it is configured. -/
theorem Created.path_eq_noPath {s : Session} {w : World} (h : Created s w s') {p : Place}
    (hp : (s.config.place p).path = "") : s'.1.path p = noPath := by
  have hempty (w : World) : s.creation p w = (.ok noPath, w) := by
    rw [creation, hp]
    rfl
  obtain ⟨w₁, w₂, ht, hg, -⟩ := h
  cases p with
  | target => exact (Except.ok.inj (congrArg Prod.fst ((hempty _).symm.trans ht))).symm
  | staging => exact (Except.ok.inj (congrArg Prod.fst ((hempty _).symm.trans hg))).symm

/-- **What a session is after a successful setup.** -/
theorem session_of_setup_ok (hans : dialer.Answers env) (hk : Known env dialer s)
    (h : setup s = (.ok (), s')) :
    (∃ c c', s'.1 = setPath .staging s'.1.staging (setPath .target s'.1.target
        (s.1.connected s'.1.secrets (some c) c')) ∧
      (s.1.config.controllerAddress ≠ "" → c'.isSome = true)) ∧
    ∃ w, Confined [.secrets, .dialing, .closing] s.2 w ∧ Created s.1 w s' := by
  obtain ⟨c, c', s₂, s₃, hstep, h₃, hprov⟩ := setup_ok h
  obtain ⟨c, rfl⟩ := Option.isSome_iff_exists.mp (hstep.isSome_of_ok hans hk)
  obtain ⟨hpaths, w, hw, hcreated⟩ := provision_ok hprov
  have hconnected := hstep.connected h₃
  have hconf := hstep.within_connectController h₃
  refine ⟨⟨c, c', ?_, fun ha => ?_⟩, w, trans_of _ hconf (hw.mono (by simp)),
    hcreated.congr (by rw [hconnected]; rfl)⟩
  · have hsecrets : s'.1.secrets = s₃.1.secrets := by rw [hpaths]; rfl
    rw [hsecrets, ← hconnected]
    exact hpaths
  · refine isSome_of_connectController hans (hstep.known hk) ?_ h₃
    rwa [hstep.of_ok]

/-- **A successful setup gives a scenario all that it needs.** From any state that a run can get
to, with dials that give a connection or fail:

* the connection to the plugin is open and was opened to the configured address;
* without an address for the controller, it shares this connection, and no other one is open;
* with such an address, it has an open connection of its own that was opened to it;
* the credentials are those that are remembered for the configured file, or there are none;
* the stored paths are what creating the places gave in this setup, empty for an empty path. -/
theorem ready_after_setup (henv : env.ClosesOrdinarily) (hans : dialer.Answers env)
    (h : Loaded env dialer past s) (hok : setup s = (.ok (), s')) :
    let config := s.1.config
    (∃ c, s'.1.node.Reaches s'.2 c config.address ∧
      (config.controllerAddress = "" →
        s'.1.controller.Reaches s'.2 c config.address ∧ ∀ c', s'.2.IsOpen c' → c' = c) ∧
      (config.controllerAddress ≠ "" →
        ∃ c', c' ≠ c ∧ s'.1.controller.Reaches s'.2 c' config.controllerAddress)) ∧
    s'.1.secretsFile = config.secretsFile ∧
    (config.secretsFile = "" → s'.1.secrets = Secrets.empty) ∧
    (config.secretsFile ≠ "" →
      (loads s ++ past).head? = some (config.secretsFile, s'.1.secrets)) ∧
    (∃ w, Confined [.secrets, .dialing, .closing] s.2 w ∧ Created s.1 w s') ∧
    ∀ p, (config.place p).path = "" → s'.1.path p = noPath := by
  intro config
  obtain ⟨_, suffix, files, hmoves⟩ := h.moves
  have hmoves' := hmoves.tail (.setup s)
  have hrecalls := h.recalls.afterSetup
  rw [hok] at hmoves' hrecalls
  have hlinked := linked_of_moves henv hmoves'
  have hknown := known_of_moves hmoves'
  obtain ⟨⟨c, c', hs, hc'⟩, w, hw, hcreated⟩ := session_of_setup_ok hans (known_of_moves hmoves) hok
  have hfile : s'.1.secretsFile = config.secretsFile := by rw [hs]; rfl
  have hnode : s'.1.node = s.1.node.bound (some c) config.address := by rw [hs]; rfl
  have howns : s'.1.node.Owns c := by rw [hnode]; exact ⟨rfl, rfl⟩
  have hopen : s'.2.IsOpen c := (hlinked.isOpen (held_ne_zero_of_node howns)).1
  refine ⟨⟨c, hknown.node.reaches howns.2 (by rw [hnode]; rfl) hopen, fun ha => ?_, fun ha => ?_⟩,
    hfile, fun hf => hrecalls.empty (hfile.trans hf), fun hf => ?_, ⟨w, hw, hcreated⟩,
    fun p hp => hcreated.path_eq_noPath hp⟩
  · have hcontroller : s'.1.controller = s.1.controller.sharing s'.1.node := by
      rw [hs]
      exact if_pos ha
    refine ⟨hknown.controller.reaches ?_ ?_ hopen, fun c' hopen' => ?_⟩
    · rw [hcontroller]
      exact howns.2
    · rw [hcontroller, hnode]
      rfl
    · have hsame := hlinked.connection_of_isOpen (by rw [hcontroller]; rfl) hopen'
      exact Option.some.inj (hsame.symm.trans howns.2)
  · obtain ⟨c', rfl⟩ := Option.isSome_iff_exists.mp (hc' ha)
    have hcontroller : s'.1.controller =
        s.1.controller.bound (some c') config.controllerAddress := by
      rw [hs]
      exact if_neg ha
    have howns' : s'.1.controller.Owns c' := by rw [hcontroller]; exact ⟨rfl, rfl⟩
    have hopen' := (hlinked.isOpen (held_ne_zero_of_controller howns')).1
    refine ⟨c', ?_, hknown.controller.reaches howns'.2 (by rw [hcontroller]; rfl) hopen'⟩
    rintro rfl
    exact hlinked.not_owns_controller howns howns'
  · rw [← hfile] at hf ⊢
    exact hrecalls.loaded hf

/-- The controller dangles after a setup that did not reach the plugin. The next setup has an
address that is reached, for the plugin and for the controller. -/
theorem ready_after_setup_dangling :
    let node := { Config.placeless with address := "node" }
    let again := { Config.placeless with address := "again", controllerAddress := "again" }
    let s₀ : Session × World := (fresh node .plain "", initial .refusing ⟨[], []⟩)
    let s₁ : Session × World :=
      ({ (setup s₀).2.1 with config := { node with address := "gone" } }, (setup s₀).2.2)
    let s : Session × World := ({ (setup s₁).2.1 with config := again }, (setup s₁).2.2)
    Environment.refusing.ClosesOrdinarily ∧ Dialer.plain.Answers .refusing ∧
      Loaded .refusing .plain (loads s₁ ++ (loads s₀ ++ [])) s ∧ s.1.Dangles ∧
      ∃ s', setup s = (.ok (), s') ∧
        ∃ c c', c' ≠ c ∧ s'.1.node.Reaches s'.2 c "again" ∧
          s'.1.controller.Reaches s'.2 c' "again" := by
  intro node again s₀ s₁ s
  have hfresh : Loaded .refusing .plain [] s₀ := .fresh node "" ⟨[], []⟩
  have hrun : Loaded .refusing .plain (loads s₁ ++ (loads s₀ ++ [])) s :=
    (hfresh.setup.aside (.configure _ _ _)).setup.aside (.configure _ _ again)
  have hdangles : s.1.Dangles := by decide +kernel
  have hok : (setup s).1 = .ok () := by rfl
  obtain ⟨⟨c, hnode, -, hown⟩, -⟩ :=
    ready_after_setup Environment.closesOrdinarily_refusing Dialer.answers_refusing hrun
      (Prod.ext hok rfl)
  obtain ⟨c', hne, hcontroller⟩ := hown (by decide)
  exact ⟨Environment.closesOrdinarily_refusing, Dialer.answers_refusing, hrun, hdangles,
    _, Prod.ext hok rfl, c, c', hne, hnode, hcontroller⟩

end Session

end PluginHarness
