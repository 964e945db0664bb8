import PluginHarness.Proofs.Session

/-!
# A session dials when its history asks for it

Whether a session dials is decided by three fields of an endpoint. What a reader of a run wants to
know is the law behind them: an address is dialed unless the last thing that befell the endpoint
was a dial of this very address that gave a connection.

The two agree because every operation changes the fields and the history together. `Follows` is the
agreement for one endpoint: it keeps a connection to an address exactly when its history is headed
by such a dial. A connection that is shared, a dial that gave none and a closing all head the
history without being such a dial, and after each of them the endpoint keeps nothing.

## Where the history comes from

The history is not a field of anything. A run is given by what was done to a session, and
`Past.afterSetup` reads off a setup which addresses were asked for in each of its stages, and how
the stage ended. So the law is about what was dialed, not about what an endpoint says of itself.

## Main definitions

* `Turn`: what befalls an endpoint; `Past`: the histories of both endpoints of a session.
* `missing`: what has to be dialed after a history.
* `Session.Lived`: the runs of a session, with the past that they leave.
* `Endpoint.Follows`: an endpoint agrees with its history.

## Main results

* `Endpoint.ensure_follows`: ensuring a connection dials what is missing, and agrees afterwards.
* `Session.Lived.agrees`: every run keeps both endpoints in agreement with their histories.
* `Session.dials_when_missing`: what a setup dials; nothing else dials.
-/

namespace PluginHarness

open Attempt World

/-! ### Histories -/

/-- What befalls an endpoint. -/
inductive Turn where
  /-- An address was dialed, with or without getting a connection. -/
  | dialed (address : String) (connected : Bool)
  /-- The connection of the other endpoint was shared. -/
  | shared
  | closed
  deriving DecidableEq

/-- What has to be dialed after a history, the newest turn first, to be connected to an address. -/
def missing (past : List Turn) (address : String) : List String :=
  if past.head? = some (.dialed address true) then [] else [address]

/-- The stage ended with a connection. -/
def isConnected : Except Failure (Option Connection) → Bool
  | .ok (some _) => true
  | _ => false

/-- The dials between two worlds, the newest first, in a stage that ended like this. -/
def turns (w w' : World) (r : Except Failure (Option Connection)) : List Turn :=
  ((newly Event.dialing? w w').map fun address => .dialed address (isConnected r)).reverse

@[simp] theorem isConnected_mapError (f : Failure → Failure)
    (r : Except Failure (Option Connection)) : isConnected (r.mapError f) = isConnected r := by
  rcases r with e | c <;> rfl

/-- Every dial asks for its address once, whatever comes of it. -/
theorem Dialed.newly_dialing {address : String} {w : World}
    {r : Except Failure (Option Connection) × World} (h : Dialed address w r) :
    newly Event.dialing? w r.2 = [address] := by
  cases h with
  | connected _ _ hd => exact hd
  | absent _ _ hd => exact hd
  | failed _ _ hd => exact hd
  | @late w' e h _ hd =>
    have hclose := Connection.close_respects (T := [.closing]) (by simp) w'.opened w'
    rw [newly_append h.suffix hclose.suffix, hd,
      hclose.newly_eq_nil Event.isAbout_dialing (by simp), List.append_nil]

namespace Endpoint

/-- The endpoint keeps a connection to an address exactly when its history is headed by a dial of
this address that gave one. -/
def Follows (e : Endpoint) (past : List Turn) : Prop :=
  ∀ address, e.Keeps address ↔ past.head? = some (.dialed address true)

variable {e : Endpoint} {past : List Turn} {w : World}

/-- An endpoint that owns nothing follows any history that is not headed by a dial that gave a
connection. -/
theorem follows_of_not_owned (ho : e.owned = false)
    (hp : ∀ address, past.head? ≠ some (.dialed address true)) : e.Follows past := by
  refine fun address => iff_of_false (fun hk => ?_) (hp address)
  rw [Keeps, ho] at hk
  exact Bool.false_ne_true hk.1

/-- Ensuring a connection dials what is missing, and the endpoint follows its history with this
dial. -/
theorem ensure_follows (h : w.environment.ClosesOrdinarily) (hf : e.Follows past)
    (address : String) :
    newly Event.dialing? w (ensure address (e, w)).2.2 = missing past address ∧
      (ensure address (e, w)).2.1.Follows
        (turns w (ensure address (e, w)).2.2 (ensure address (e, w)).1 ++ past) := by
  by_cases hk : e.Keeps address
  · obtain ⟨w', hrun, hconf⟩ := ensure_of_keeps hk w
    have hnone : newly Event.dialing? w w' = [] :=
      hconf.newly_eq_nil Event.isAbout_dialing (by simp)
    rw [hrun, missing, if_pos ((hf address).mp hk), turns, hnone]
    exact ⟨rfl, hf⟩
  · obtain ⟨w₁, hconf, -, hrun⟩ := ensure_of_not_keeps h hk
    have hdial := e.dialer.dial_course address w₁
    have hconf' := Dialer.dial_respects (T := Topic.all) (Topic.mem_all _)
      (fun _ => Topic.mem_all _) (d := e.dialer) address w₁
    have hseen : newly Event.dialing? w (e.dialer.dial address w₁).2 = [address] := by
      rw [newly_append hconf.suffix hconf'.suffix,
        hconf.newly_eq_nil Event.isAbout_dialing (by simp), hdial.newly_dialing]
      rfl
    rw [hrun, missing, if_neg fun hhead => hk ((hf address).mpr hhead)]
    rcases hd : e.dialer.dial address w₁ with ⟨x | c, w₂⟩ <;> rw [hd] at hseen
    · refine ⟨hseen, follows_of_not_owned rfl fun a => ?_⟩
      simp [turns, hseen, isConnected]
    · refine ⟨hseen, fun a => ?_⟩
      cases c <;> simp [turns, hseen, isConnected, Keeps]

theorem share_follows (h : w.environment.ClosesOrdinarily) (other : Endpoint) :
    newly Event.dialing? w (share other (e, w)).2.2 = [] ∧
      (share other (e, w)).2.1.Follows (.shared :: past) := by
  obtain ⟨w', hrun, hconf, -⟩ := share_spec h e other
  rw [hrun]
  exact ⟨hconf.newly_eq_nil Event.isAbout_dialing (by simp),
    follows_of_not_owned rfl fun _ hhead => nomatch hhead⟩

end Endpoint

/-! ### The past of a session -/

/-- What befell the endpoints of a session, the newest turn first. -/
structure Past where
  node : List Turn
  controller : List Turn

namespace Past

/-- The past after the connection to the plugin was made sure of in this state. -/
def afterNode (past : Past) (s : Session × World) : Past :=
  let r := Session.connectNode s
  { past with node := turns s.2 r.2.2 r.1 ++ past.node }

/-- The past after the connection to the controller was made sure of in this state. -/
def afterController (past : Past) (s : Session × World) : Past :=
  let r := Session.connectController s
  { past with
    controller :=
      if s.1.config.controllerAddress = "" then .shared :: past.controller
      else turns s.2 r.2.2 r.1 ++ past.controller }

/-- The past after a setup in this state, which may stop before it connects. -/
def afterSetup (past : Past) (s : Session × World) : Past :=
  match Session.loadSecrets s with
  | (.error _, _) => past
  | (.ok (), s₁) =>
    match Session.connectNode s₁ with
    | (.error _, _) => past.afterNode s₁
    | (.ok _, s₂) => (past.afterNode s₁).afterController s₂

/-- The past after both endpoints were closed. -/
def afterClose (past : Past) : Past := ⟨.closed :: past.node, .closed :: past.controller⟩

end Past

namespace Session

/-- A session lived through this past: it was made without connections in the environment, and
then prepared, tidied up, closed and given other configurations in any order. -/
inductive Lived (env : Environment) : Past → Session × World → Prop
  | fresh (config : Config) (dialer : Dialer) (suffix : String) {w : World}
      (h : w.environment = env) : Lived env ⟨[], []⟩ (Session.fresh config dialer suffix, w)
  | setup {past : Past} {s : Session × World} (h : Lived env past s) :
      Lived env (past.afterSetup s) (Session.setup s).2
  | teardown {past : Past} {s : Session × World} (h : Lived env past s) :
      Lived env past (Session.teardown s).2
  | close {past : Past} {s : Session × World} (h : Lived env past s) :
      Lived env past.afterClose (Session.close s).2
  | configure {past : Past} {s : Session × World} (h : Lived env past s) (config : Config) :
      Lived env past ({ s.1 with config := config }, s.2)
  | elsewhere {past : Past} {s : Session × World} (h : Lived env past s) {w : World}
      (hw : Confined [.location, .secrets] s.2 w) : Lived env past (s.1, w)

/-- Both endpoints follow their histories. -/
structure Agrees (env : Environment) (past : Past) (s : Session × World) : Prop where
  environment_eq : s.2.environment = env
  node : s.1.node.Follows past.node
  controller : s.1.controller.Follows past.controller

variable {env : Environment} {past : Past} {s s' : Session × World} {T : List Topic}

/-- What leaves the endpoints alone keeps them in agreement with their histories. -/
theorem Agrees.kept (h : Agrees env past s) (hw : Within T s s')
    (hk : Kept (fun s => s.1.endpoints) s s') : Agrees env past s' := by
  obtain ⟨hnode, hcontroller⟩ := Prod.mk.inj hk
  exact ⟨hw.environment_eq.trans h.environment_eq, hnode ▸ h.node, hcontroller ▸ h.controller⟩

/-- The stage of the plugin dials what is missing. -/
theorem connectNode_follows (henv : s.2.environment.ClosesOrdinarily) {history : List Turn}
    (hf : s.1.node.Follows history) :
    newly Event.dialing? s.2 (connectNode s).2.2 = missing history s.1.config.address ∧
      (connectNode s).2.1.node.Follows
        (turns s.2 (connectNode s).2.2 (connectNode s).1 ++ history) := by
  have hrun : connectNode s = ((onNode (Endpoint.ensure s.1.config.address)).explained
      (.precondition (.node s.1.config.address))) s := rfl
  obtain ⟨hdials, hfollows⟩ := Endpoint.ensure_follows henv hf s.1.config.address
  rw [hrun, explained_apply]
  refine ⟨hdials, ?_⟩
  simp only [turns, isConnected_mapError]
  exact hfollows

/-- The stage of the controller shares the connection when no address is configured, and otherwise
dials what is missing. -/
theorem connectController_follows (henv : s.2.environment.ClosesOrdinarily) {history : List Turn}
    (hf : s.1.controller.Follows history) :
    newly Event.dialing? s.2 (connectController s).2.2 =
        (if s.1.config.controllerAddress = "" then []
          else missing history s.1.config.controllerAddress) ∧
      (connectController s).2.1.controller.Follows
        (if s.1.config.controllerAddress = "" then .shared :: history
          else turns s.2 (connectController s).2.2 (connectController s).1 ++ history) := by
  have hrun : connectController s =
      (if s.1.config.controllerAddress = "" then onController (Endpoint.share s.1.node)
        else (onController (Endpoint.ensure s.1.config.controllerAddress)).explained
          (.precondition (.controller s.1.config.controllerAddress))) s := rfl
  rw [hrun]
  by_cases ha : s.1.config.controllerAddress = ""
  · rw [if_pos ha, if_pos ha, if_pos ha]
    exact Endpoint.share_follows henv s.1.node
  · obtain ⟨hdials, hfollows⟩ := Endpoint.ensure_follows henv hf s.1.config.controllerAddress
    rw [if_neg ha, if_neg ha, if_neg ha, explained_apply]
    refine ⟨hdials, ?_⟩
    simp only [turns, isConnected_mapError]
    exact hfollows

theorem Agrees.afterNode (h : Agrees env past s) (henv : env.ClosesOrdinarily) :
    Agrees env (past.afterNode s) (connectNode s).2 := by
  have hw : Within Topic.all s (connectNode s).2 :=
    connectNode_within (Topic.mem_all _) (Topic.mem_all _) s
  have hk : (connectNode s).2.1.controller = s.1.controller :=
    connectNode_kept (v := Session.controller) (fun _ _ => rfl) s
  refine ⟨hw.environment_eq.trans h.environment_eq,
    (connectNode_follows (h.environment_eq ▸ henv) h.node).2, ?_⟩
  rw [hk]
  exact h.controller

theorem Agrees.afterController (h : Agrees env past s) (henv : env.ClosesOrdinarily) :
    Agrees env (past.afterController s) (connectController s).2 := by
  have hw : Within Topic.all s (connectController s).2 :=
    connectController_within (Topic.mem_all _) (Topic.mem_all _) s
  have hk : (connectController s).2.1.node = s.1.node :=
    connectController_kept (v := Session.node) (fun _ _ => rfl) s
  refine ⟨hw.environment_eq.trans h.environment_eq, ?_,
    (connectController_follows (h.environment_eq ▸ henv) h.controller).2⟩
  rw [hk]
  exact h.node

/-- Loading credentials leaves everything that decides about dials alone, and dials nothing. -/
theorem Agrees.afterSecrets (h : Agrees env past s) {r : Except Failure Unit}
    {s₁ : Session × World} (h₁ : loadSecrets s = (r, s₁)) :
    Agrees env past s₁ ∧ s₁.1.config = s.1.config ∧ s.2.history <:+ s₁.2.history ∧
      newly Event.dialing? s.2 s₁.2 = [] := by
  have hw : Within [.secrets] s (loadSecrets s).2 := loadSecrets_within (by simp) s
  have hagrees := h.kept hw (loadSecrets_endpoints s)
  have hconfig : (loadSecrets s).2.1.config = s.1.config :=
    loadSecrets_kept (v := Session.config) (fun _ _ _ => rfl) s
  rw [h₁] at hw hagrees hconfig
  exact ⟨hagrees, hconfig, hw.suffix, hw.newly_eq_nil Event.isAbout_dialing (by simp)⟩

/-- A setup keeps both endpoints in agreement with their histories, wherever it stops. -/
theorem Agrees.afterSetup (h : Agrees env past s) (henv : env.ClosesOrdinarily) :
    Agrees env (past.afterSetup s) (setup s).2 := by
  have hnode {s₁ s₂ : Session × World} {r : Except Failure (Option Connection)}
      (h₁ : loadSecrets s = (.ok (), s₁)) (h₂ : connectNode s₁ = (r, s₂)) :
      Agrees env (past.afterNode s₁) s₂ := by
    have hagrees := (h.afterSecrets h₁).1.afterNode henv
    rwa [h₂] at hagrees
  have hcontroller {s₁ s₂ s₃ : Session × World} {r r' : Except Failure (Option Connection)}
      (h₁ : loadSecrets s = (.ok (), s₁)) (h₂ : connectNode s₁ = (r, s₂))
      (h₃ : connectController s₂ = (r', s₃)) :
      Agrees env ((past.afterNode s₁).afterController s₂) s₃ := by
    have hagrees := (hnode h₁ h₂).afterController henv
    rwa [h₃] at hagrees
  have hstages := setup_stages s
  generalize setup s = r at hstages ⊢
  unfold Past.afterSetup
  cases hstages with
  | secrets h₁ =>
    simp only [h₁]
    exact (h.afterSecrets h₁).1
  | node h₁ h₂ =>
    simp only [h₁, h₂]
    exact hnode h₁ h₂
  | controller h₁ h₂ h₃ =>
    simp only [h₁, h₂]
    exact hcontroller h₁ h₂ h₃
  | places h₁ h₂ h₃ =>
    simp only [h₁, h₂]
    exact (hcontroller h₁ h₂ h₃).kept (T := [.location, .creation])
      (provision_within (by simp) (by simp) _) (provision_endpoints _)

theorem Agrees.afterClose (h : Agrees env past s) (henv : env.ClosesOrdinarily) :
    Agrees env past.afterClose (close s).2 := by
  have hw : Within [.closing] s (close s).2 := close_within (by simp) s
  obtain ⟨w', hrun⟩ := close_spec (h.environment_eq ▸ henv) s.1
  refine ⟨hw.environment_eq.trans h.environment_eq, ?_, ?_⟩ <;> rw [hrun] <;>
    exact Endpoint.follows_of_not_owned rfl fun _ hhead => nomatch hhead

/-- Every run keeps both endpoints in agreement with their histories. -/
theorem Lived.agrees (h : Lived env past s) (henv : env.ClosesOrdinarily) :
    Agrees env past s := by
  induction h with
  | fresh config dialer suffix h =>
    have hunbound (e : Endpoint) (ho : e.owned = false) : e.Follows [] :=
      Endpoint.follows_of_not_owned ho fun _ hhead => nomatch hhead
    exact ⟨h, hunbound _ rfl, hunbound _ rfl⟩
  | setup _ ih => exact ih.afterSetup henv
  | teardown _ ih =>
    exact ih.kept (T := [.location, .removal]) (teardown_within (by simp) (by simp) _)
      (teardown_endpoints _)
  | close _ ih => exact ih.afterClose henv
  | configure _ config ih => exact ih.kept (refl_of (Within []) _) rfl
  | elsewhere _ hw ih => exact ih.kept hw rfl

/-! ### What is dialed -/

/-- After the stages of the connections, a setup only creates places. -/
theorem setup_after_connect {s₁ s₂ : Session × World} {c : Option Connection}
    (h₁ : loadSecrets s = (.ok (), s₁)) (h₂ : connectNode s₁ = (.ok c, s₂)) :
    Within [.location, .creation] (connectController s₂).2 (setup s).2 := by
  have hstages := setup_stages s
  generalize setup s = r at hstages ⊢
  cases hstages with
  | secrets h => cases h₁.symm.trans h
  | node h h' =>
    cases h₁.symm.trans h
    cases h₂.symm.trans h'
  | controller h h' h₃ =>
    cases h₁.symm.trans h
    cases h₂.symm.trans h'
    rw [h₃]
    exact refl_of _ _
  | places h h' h₃ =>
    cases h₁.symm.trans h
    cases h₂.symm.trans h'
    rw [h₃]
    exact provision_within (by simp) (by simp) _

/-- A setup that connected to the plugin dials in the two stages of the connections only. -/
theorem newly_dialing_setup {s₁ s₂ : Session × World} {c : Option Connection}
    (hs : s.2.history <:+ s₁.2.history) (hd : newly Event.dialing? s.2 s₁.2 = [])
    (h₁ : loadSecrets s = (.ok (), s₁)) (h₂ : connectNode s₁ = (.ok c, s₂)) :
    newly Event.dialing? s.2 (setup s).2.2 = newly Event.dialing? s₁.2 s₂.2 ++
      newly Event.dialing? s₂.2 (connectController s₂).2.2 := by
  have hnode : Within Topic.all s₁ (connectNode s₁).2 :=
    connectNode_within (Topic.mem_all _) (Topic.mem_all _) s₁
  have hcontroller : Within Topic.all s₂ (connectController s₂).2 :=
    connectController_within (Topic.mem_all _) (Topic.mem_all _) s₂
  have hrest := setup_after_connect h₁ h₂
  rw [h₂] at hnode
  have hs₂ := hs.trans hnode.suffix
  rw [newly_append (hs₂.trans hcontroller.suffix) hrest.suffix,
    hrest.newly_eq_nil Event.isAbout_dialing (by simp), List.append_nil,
    newly_append hs₂ hcontroller.suffix, newly_append hs hnode.suffix, hd, List.nil_append]

/-- **A session dials what is missing.** After any past, a setup that has its credentials dials the
plugin unless the last that befell this endpoint was a dial of the same address that gave a
connection. When this stage gives no failure it then does the same for the controller, if an address
is configured for it. There is no other dial in a setup, and none in any other operation. -/
theorem dials_when_missing (henv : env.ClosesOrdinarily) (h : Lived env past s) :
    let dialed := newly Event.dialing? s.2 (setup s).2.2
    let node := missing past.node s.1.config.address
    let controller :=
      if s.1.config.controllerAddress = "" then []
      else missing past.controller s.1.config.controllerAddress
    (∀ e s₁, loadSecrets s = (.error e, s₁) → dialed = []) ∧
    (∀ s₁, loadSecrets s = (.ok (), s₁) →
      newly Event.dialing? s₁.2 (connectNode s₁).2.2 = node ∧
      (∀ e s₂, connectNode s₁ = (.error e, s₂) → dialed = node) ∧
      ∀ c s₂, connectNode s₁ = (.ok c, s₂) →
        newly Event.dialing? s₂.2 (connectController s₂).2.2 = controller ∧
          dialed = node ++ controller) ∧
    newly Event.dialing? s.2 (teardown s).2.2 = [] ∧
    newly Event.dialing? s.2 (close s).2.2 = [] := by
  intro dialed node controller
  have hagrees := h.agrees henv
  have hteardown : Within [.location, .removal] s (teardown s).2 :=
    teardown_within (by simp) (by simp) s
  have hclose : Within [.closing] s (close s).2 := close_within (by simp) s
  refine ⟨fun e s₁ h₁ => ?_, fun s₁ h₁ => ?_,
    hteardown.newly_eq_nil Event.isAbout_dialing (by simp),
    hclose.newly_eq_nil Event.isAbout_dialing (by simp)⟩
  · have hrun : setup s = (.error e, s₁) := bind_of_error h₁
    obtain ⟨-, -, -, hd⟩ := hagrees.afterSecrets h₁
    show newly Event.dialing? s.2 (setup s).2.2 = []
    rw [hrun, hd]
  obtain ⟨hagrees₁, hconfig₁, hs, hd⟩ := hagrees.afterSecrets h₁
  have hnode : newly Event.dialing? s₁.2 (connectNode s₁).2.2 = node := by
    rw [(connectNode_follows (hagrees₁.environment_eq ▸ henv) hagrees₁.node).1, hconfig₁]
  refine ⟨hnode, fun e s₂ h₂ => ?_, fun c s₂ h₂ => ?_⟩
  · have hrun : setup s = (.error e, s₂) :=
      (bind_of_ok h₁).trans (bind_of_error (show connect s₁ = _ from bind_of_error h₂))
    have hw : Within Topic.all s₁ (connectNode s₁).2 :=
      connectNode_within (Topic.mem_all _) (Topic.mem_all _) s₁
    show newly Event.dialing? s.2 (setup s).2.2 = node
    rw [h₂] at hnode hw
    rw [hrun, newly_append hs hw.suffix, hd, hnode, List.nil_append]
  · have hagrees₂ := hagrees₁.afterNode henv
    have hconfig₂ : (connectNode s₁).2.1.config = s₁.1.config :=
      connectNode_kept (v := Session.config) (fun _ _ => rfl) s₁
    rw [h₂] at hnode hagrees₂ hconfig₂
    have hcontroller : newly Event.dialing? s₂.2 (connectController s₂).2.2 = controller := by
      rw [(connectController_follows (hagrees₂.environment_eq ▸ henv) hagrees₂.controller).1,
        hconfig₂, hconfig₁]
      rfl
    refine ⟨hcontroller, ?_⟩
    show newly Event.dialing? s.2 (setup s).2.2 = node ++ controller
    rw [newly_dialing_setup hs hd h₁ h₂, hnode, hcontroller]

/-- A session that shared its connection is given an address for the controller. The connection to
the plugin is kept, and the controller is dialed. -/
theorem dials_when_missing_after_sharing :
    let s₀ : Session × World :=
      (fresh { Config.placeless with address := "node" } .plain "", initial .stubborn ⟨[], []⟩)
    let config :=
      { Config.placeless with address := "node", controllerAddress := "controller" }
    let s : Session × World := ({ (setup s₀).2.1 with config := config }, (setup s₀).2.2)
    let past := Past.afterSetup ⟨[], []⟩ s₀
    Environment.stubborn.ClosesOrdinarily ∧ Lived .stubborn past s ∧
      past.node = [.dialed "node" true] ∧ past.controller = [.shared] ∧
      newly Event.dialing? s.2 (setup s).2.2 = ["controller"] := by
  intro s₀ config s past
  have hfresh : Lived .stubborn ⟨[], []⟩ s₀ := .fresh _ .plain "" rfl
  have hlived : Lived .stubborn past s := hfresh.setup.configure config
  have hnode : past.node = [.dialed "node" true] := by decide +kernel
  have hcontroller : past.controller = [.shared] := by decide +kernel
  refine ⟨Environment.closesOrdinarily_stubborn, hlived, hnode, hcontroller, ?_⟩
  have hconnected : (connectNode (loadSecrets s).2).1.isOk = true := by decide +kernel
  rcases h₂ : connectNode (loadSecrets s).2 with ⟨e | c, s₂⟩
  · rw [h₂] at hconnected
    cases hconnected
  · have hdials := ((dials_when_missing Environment.closesOrdinarily_stubborn hlived).2.1
      (loadSecrets s).2 rfl).2.2 c s₂ h₂
    rw [hdials.2, hnode, hcontroller]
    decide

end Session

end PluginHarness
