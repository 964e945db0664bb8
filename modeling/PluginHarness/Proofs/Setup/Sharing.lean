import PluginHarness.Proofs.Ownership.Session
import PluginHarness.Proofs.Setup

/-!
# Which connection of a session can be a closed one

A controller without an address of its own shares the connection to the plugin. What it shares is
the connection as it was then: when the plugin's endpoint gives its connection up later, the
controller is not told, and holds a connection that is closed. Whoever uses the connections of a
session has to know when this is the case.

It is the case in one kind of state, `Session.Dangles`: the controller shares a connection and there
is none to the plugin. A run gets there when a setup fails to replace the connection to the plugin,
for then it ends before the controller follows. It stays there until a setup gets past the plugin or
the session is closed. In every other state of a run the session holds open connections only.

## Main definitions

* `Session.Dangles`: the controller shares a connection that the plugin's endpoint gave up.
* `Session.Reconnected`: what a move does to the endpoints.
* `Session.Linked`: how the endpoints stand to each other and to what was opened and closed.

## Main results

* `Session.Linked.move`: every move keeps the endpoints linked.
* `Session.closed_iff_dangles`: what a session holds is open, except while its controller dangles.
-/

namespace PluginHarness

open Attempt Relation World

namespace Session

variable {s s' s₁ s₂ : Session × World}

/-- The controller shares a connection, and there is none to the plugin. -/
def Dangles (s : Session) : Prop := s.controller.isShared = true ∧ s.node.connection = none

instance (s : Session) : Decidable s.Dangles := inferInstanceAs (Decidable (_ ∧ _))

/-! ### The endpoints in a setup -/

/-- The controller of the second session is unbound, or shares what the plugin's endpoint of that
session has, or owns what a dial gave. -/
def Follows (s s' : Session) : Prop :=
  s'.controller = s.controller.cleared ∨ s'.controller = s.controller.sharing s'.node ∨
    ∃ c address, s'.controller = s.controller.bound c address

/-- What a move does to the endpoints. -/
inductive Reconnected (s s' : Session × World) : Prop
  | unchanged (hn : s'.1.node = s.1.node) (hc : s'.1.controller = s.1.controller)
  | closed (hs : s' = (close s).2) (hn : s'.1.node = s.1.node.cleared)
      (hc : s'.1.controller = s.1.controller.cleared)
  /-- The dial for the plugin failed, and the controller stays as it was. -/
  | refused {e : Failure} (hs : s' = (setup s).2) (h : NodeStep s (.error e, s'))
      (hd : ∃ x w, s.1.node.dialer.dial s.1.config.address w = (.error x, s'.2))
      (hn : s'.1.node = s.1.node.cleared) (hc : s'.1.controller = s.1.controller)
  /-- The plugin was reached, and the controller follows. -/
  | reached {c : Option Connection} {s₂ : Session × World} (hs : s' = (setup s).2)
      (h : NodeStep s (.ok c, s₂)) (hn : s'.1.node = s.1.node.bound c s.1.config.address)
      (hc : Follows s.1 s'.1)

/-- A controller that is connected, or fails to be, follows the plugin's endpoint. -/
theorem connectController_follows_node (hord : s.2.environment.ClosesOrdinarily)
    {r : Except Failure (Option Connection)} (h : connectController s = (r, s')) :
    s'.1.node = s.1.node ∧ Follows s.1 s'.1 := by
  rcases r with e | c
  · obtain ⟨-, hrest, -⟩ := (connectController_error h).resolve_left (hord.not_interrupts e)
    exact ⟨by rw [hrest], .inl (by rw [hrest])⟩
  · have hrest := connectController_ok h
    refine ⟨by rw [hrest], .inr ?_⟩
    rw [hrest]
    by_cases ha : s.1.config.controllerAddress = ""
    · exact .inl (if_pos ha)
    · exact .inr ⟨_, _, if_neg ha⟩

/-- What comes after the plugin is reached is the connection to the controller; the places leave the
endpoints alone. -/
theorem endpoints_of_nodeStep {c : Option Connection} (h : NodeStep s (.ok c, s₂)) :
    (setup s).2.1.endpoints = (connectController s₂).2.1.endpoints := by
  obtain ⟨s₁, h₁, h₂⟩ := h
  have hstages := setup_stages s
  generalize setup s = r at hstages ⊢
  cases hstages with
  | secrets h₁' => cases h₁.symm.trans h₁'
  | node h₁' h₂' =>
    cases h₁.symm.trans h₁'
    cases h₂.symm.trans h₂'
  | controller h₁' h₂' h₃ =>
    cases h₁.symm.trans h₁'
    cases h₂.symm.trans h₂'
    rw [h₃]
  | places h₁' h₂' h₃ =>
    cases h₁.symm.trans h₁'
    cases h₂.symm.trans h₂'
    rw [h₃]
    exact provision_endpoints _

/-- When the plugin is reached, the setup leaves a connection to it, and the controller follows. -/
theorem follows_of_nodeStep {c : Option Connection} (hord : s.2.environment.ClosesOrdinarily)
    (h : NodeStep s (.ok c, s₂)) :
    (setup s).2.1.node = s.1.node.bound c s.1.config.address ∧ Follows s.1 (setup s).2.1 := by
  have hord₂ : s₂.2.environment.ClosesOrdinarily := by rwa [h.within.environment_eq]
  rcases h₃ : connectController s₂ with ⟨r, s₃⟩
  have hends := endpoints_of_nodeStep h
  rw [h₃] at hends
  obtain ⟨hnode, hcontroller⟩ := Prod.mk.inj hends
  obtain ⟨hnode', hfollows⟩ := connectController_follows_node hord₂ h₃
  rw [Follows, ← hnode, ← hcontroller, h.of_ok] at hfollows
  exact ⟨by rw [hnode, hnode', h.of_ok], hfollows⟩

theorem setup_reconnected (s : Session × World) (hord : s.2.environment.ClosesOrdinarily) :
    Reconnected s (setup s).2 := by
  have reached {c : Option Connection} {s₂ : Session × World} (h : NodeStep s (.ok c, s₂)) :
      Reconnected s (setup s).2 :=
    .reached rfl h (follows_of_nodeStep hord h).1 (follows_of_nodeStep hord h).2
  have hstages := setup_stages s
  generalize hr : setup s = r at hstages ⊢
  cases hstages with
  | secrets h =>
    obtain ⟨hrest, -⟩ := loadSecrets_error h
    exact .unchanged (by rw [hrest]) (by rw [hrest])
  | node h₁ h₂ =>
    have hstep : NodeStep s (.error _, _) := ⟨_, h₁, h₂⟩
    obtain ⟨hrest, x, w, -, hd⟩ := hstep.of_error.resolve_left (hord.not_interrupts _)
    exact .refused (by rw [hr]) hstep ⟨x, w, hd⟩ (by rw [hrest]) (by rw [hrest])
  | controller h₁ h₂ h₃ =>
    rw [← hr]
    exact reached ⟨_, h₁, h₂⟩
  | places h₁ h₂ h₃ =>
    rw [← hr]
    exact reached ⟨_, h₁, h₂⟩

theorem close_reconnected (s : Session × World) (hord : s.2.environment.ClosesOrdinarily) :
    Reconnected s (close s).2 := by
  obtain ⟨w', hrun⟩ := close_spec hord s.1
  have hstate : (close s).2 = _ := congrArg Prod.snd hrun
  exact .closed rfl (by rw [hstate]) (by rw [hstate])

/-- **What a move does to the endpoints.** -/
theorem Move.reconnected (h : Move s s') (hord : s.2.environment.ClosesOrdinarily) :
    Reconnected s s' := by
  cases h with
  | setup => exact setup_reconnected s hord
  | teardown => exact .unchanged rfl rfl
  | aside h =>
    cases h with
    | configure => exact .unchanged rfl rfl
    | elsewhere => exact .unchanged rfl rfl
    | close => exact close_reconnected s hord

/-! ### Dangling -/

/-- A controller that follows shares nothing but the connection to the plugin. -/
theorem Follows.shared {s s' : Session} (h : Follows s s') (hs : s'.controller.isShared = true) :
    s'.node.connection = s'.controller.connection := by
  rcases h with hc | hc | ⟨c, address, hc⟩ <;> rw [hc] at hs ⊢
  · cases hs
  · rfl
  · simp [Endpoint.isShared] at hs

/-- A controller that follows does not dangle. -/
theorem Follows.not_dangles {s s' : Session} (h : Follows s s') : ¬ s'.Dangles := by
  rintro ⟨hshared, hnone⟩
  have hsame := h.shared hshared
  rw [hnone] at hsame
  rw [Endpoint.isShared, ← hsame] at hshared
  cases hshared

theorem Reconnected.enters (h : Reconnected s s') (hs : ¬ s.1.Dangles) (hs' : s'.1.Dangles) :
    s' = (setup s).2 ∧ (∃ e, NodeStep s (.error e, s')) ∧
      ∃ x w, s.1.node.dialer.dial s.1.config.address w = (.error x, s'.2) := by
  cases h with
  | unchanged hn hc =>
    rw [Dangles, hn, hc] at hs'
    exact absurd hs' hs
  | closed _ _ hc =>
    rw [Dangles, hc] at hs'
    cases hs'.1
  | refused hsetup h hd => exact ⟨hsetup, ⟨_, h⟩, hd⟩
  | reached _ _ _ hc => exact absurd hs' hc.not_dangles

theorem Reconnected.leaves (h : Reconnected s s') (hs : s.1.Dangles) (hs' : ¬ s'.1.Dangles) :
    s' = (close s).2 ∨ s' = (setup s).2 ∧ ∃ c s₂, NodeStep s (.ok c, s₂) := by
  cases h with
  | unchanged hn hc =>
    rw [Dangles, hn, hc] at hs'
    exact absurd hs hs'
  | closed hclose => exact .inl hclose
  | refused _ _ _ hn hc =>
    rw [Dangles, hn, hc] at hs'
    exact absurd ⟨hs.1, rfl⟩ hs'
  | reached hsetup h => exact .inr ⟨hsetup, _, _, h⟩

/-! ### The invariant -/

/-- How the endpoints of a session stand to each other, and to what was opened and closed. -/
structure Linked (env : Environment) (s : Session × World) : Prop where
  environment_eq : s.2.environment = env
  /-- What was opened is closed, or owned by one endpoint. -/
  balance : ∀ c, s.2.closings c + s.1.held c = s.2.openings c
  /-- What there is to the plugin is owned by its endpoint. -/
  owned : ∀ c, s.1.node.connection = some c → s.1.node.owned = true
  /-- What the controller shares is the connection to the plugin, if there is one. -/
  shared : s.1.controller.isShared = true →
    s.1.node.connection = none ∨ s.1.node.connection = s.1.controller.connection
  /-- What the controller has was opened at some time. -/
  opened : ∀ c, s.1.controller.connection = some c → s.2.HasOpened c

section

variable {env : Environment} {c : Connection}

theorem linked_fresh (env : Environment) (config : Config) (dialer : Dialer) (suffix : String)
    (files : FileTree) : Linked env (fresh config dialer suffix, initial env files) where
  environment_eq := rfl
  balance c := by simp
  owned c h := nomatch h
  shared h := nomatch h
  opened c h := nomatch h

/-- What is owned is open, and owned by one endpoint only. -/
theorem Linked.isOpen (h : Linked env s) (hc : s.1.held c ≠ 0) :
    s.2.IsOpen c ∧ s.1.held c = 1 := by
  have hbalance := h.balance c
  have hle := s.2.openings_le_one c
  exact ⟨⟨hasOpened_of_balance hbalance hc, by omega⟩, by omega⟩

/-- What is owned by nobody is closed. -/
theorem Linked.isClosed (h : Linked env s) (hc : s.1.held c = 0) (hopened : s.2.HasOpened c) :
    s.2.IsClosed c := by
  have hbalance := h.balance c
  rw [openings_eq_one hopened] at hbalance
  exact ⟨hopened, by omega⟩

theorem held_ne_zero_of_node {s : Session} (hc : s.node.Owns c) : s.held c ≠ 0 := by
  simp [held, Endpoint.held, hc]

theorem held_ne_zero_of_controller {s : Session} (hc : s.controller.Owns c) : s.held c ≠ 0 := by
  simp [held, Endpoint.held, hc]

/-- What a controller that follows has is owned, by itself or by the plugin's endpoint. -/
theorem Follows.held_ne_zero {s s' : Session} (h : Follows s s') (ho : s'.node.owned = true)
    (hc : s'.controller.connection = some c) : s'.held c ≠ 0 := by
  rcases h with he | he | ⟨c', address, he⟩ <;> rw [he] at hc
  · cases hc
  · exact held_ne_zero_of_node ⟨ho, hc⟩
  · exact held_ne_zero_of_controller (by rw [he]; exact ⟨rfl, hc⟩)

/-- No connection is owned by both endpoints. -/
theorem Linked.not_owns_controller (h : Linked env s) (hc : s.1.node.Owns c) :
    ¬ s.1.controller.Owns c := by
  intro hc'
  have hone := (h.isOpen (held_ne_zero_of_node hc)).2
  simp [held, Endpoint.held, hc, hc'] at hone

/-- While the controller owns nothing, what is open is the connection to the plugin. -/
theorem Linked.connection_of_isOpen (h : Linked env s) (ho : s.1.controller.owned = false)
    (hc : s.2.IsOpen c) : s.1.node.connection = some c := by
  by_contra hne
  have hnone : s.1.held c = 0 := by simp [held, Endpoint.held, Endpoint.Owns, hne, ho]
  exact (h.isClosed hnone hc.1).2 hc.2

/-- **Every move keeps the endpoints linked.** -/
theorem Linked.move (h : Linked env s) (henv : env.ClosesOrdinarily) (hm : Move s s') :
    Linked env s' := by
  have hord : s.2.environment.ClosesOrdinarily := h.environment_eq ▸ henv
  obtain ⟨hall, hacc⟩ := hm.conserves hord
  have hbalance (c : Connection) : s'.2.closings c + s'.1.held c = s'.2.openings c := by
    have hacc := hacc c
    have hbefore := h.balance c
    dsimp only at hacc
    omega
  have hkept (hc : s'.1.controller = s.1.controller) (c : Connection)
      (hconn : s'.1.controller.connection = some c) : s'.2.HasOpened c :=
    (h.opened c (hc ▸ hconn)).mono hall.opened_le
  have henv' := hall.environment_eq.trans h.environment_eq
  cases hm.reconnected hord with
  | unchanged hn hc =>
    exact ⟨henv', hbalance, by rw [hn]; exact h.owned, by rw [hn, hc]; exact h.shared, hkept hc⟩
  | closed _ hn hc =>
    refine ⟨henv', hbalance, fun c hconn => ?_, fun _ => .inl (by rw [hn]; rfl), fun c hconn => ?_⟩
    · rw [hn] at hconn
      cases hconn
    · rw [hc] at hconn
      cases hconn
  | refused _ _ _ hn hc =>
    refine ⟨henv', hbalance, fun c hconn => ?_, fun _ => .inl (by rw [hn]; rfl), hkept hc⟩
    rw [hn] at hconn
    cases hconn
  | reached _ _ hn hc =>
    have howned : s'.1.node.owned = true := by rw [hn]; rfl
    exact ⟨henv', hbalance, fun _ _ => howned, fun hshared => .inr (hc.shared hshared),
      fun c hconn => hasOpened_of_balance (hbalance c) (hc.held_ne_zero howned hconn)⟩

theorem linked_of_moves (henv : env.ClosesOrdinarily) {config : Config} {dialer : Dialer}
    {suffix : String} {files : FileTree}
    (h : ReflTransGen Move (fresh config dialer suffix, initial env files) s) : Linked env s := by
  induction h with
  | refl => exact linked_fresh env config dialer suffix files
  | tail _ hm ih => exact ih.move henv hm

/-- What the controller has is closed exactly when nobody owns it, which is while it dangles. -/
theorem Linked.closed_iff (h : Linked env s) :
    (∃ c, s.1.controller.connection = some c ∧ s.2.IsClosed c) ↔ s.1.Dangles := by
  constructor
  · rintro ⟨c, hc, -, hclosed⟩
    have hnone : s.1.held c = 0 := by
      by_contra hheld
      exact hclosed (h.isOpen hheld).1.2
    have hnode : s.1.node.connection ≠ some c := fun hn =>
      held_ne_zero_of_node ⟨h.owned c hn, hn⟩ hnone
    have hshared : s.1.controller.isShared = true := by
      cases ho : s.1.controller.owned
      · simp [Endpoint.isShared, hc, ho]
      · exact absurd hnone (held_ne_zero_of_controller ⟨ho, hc⟩)
    refine ⟨hshared, (h.shared hshared).resolve_right fun hsame => hnode (hsame.trans hc)⟩
  · rintro ⟨hshared, hnone⟩
    simp only [Endpoint.isShared, Bool.and_eq_true, Bool.not_eq_true',
      Option.isSome_iff_exists] at hshared
    obtain ⟨⟨c, hc⟩, howned⟩ := hshared
    refine ⟨c, hc, h.isClosed ?_ (h.opened c hc)⟩
    simp [held, Endpoint.held, Endpoint.Owns, hnone, howned]

/-- **What a session holds is open, except while its controller dangles.** In every state that a
new session can get to:

* what there is to the plugin is open, and owned by its endpoint;
* what the controller owns is open, and not the connection to the plugin;
* what the controller shares is the connection to the plugin, if there is one;
* the controller has a closed connection exactly when it shares one while there is none to the
  plugin. Only a setup whose dial for the plugin failed leads into such a state, and only a closing
  or a setup that reaches the plugin out of it, which both always do. -/
theorem closed_iff_dangles (henv : env.ClosesOrdinarily) {config : Config} {dialer : Dialer}
    {suffix : String} {files : FileTree}
    (h : ReflTransGen Move (fresh config dialer suffix, initial env files) s) :
    (∀ c, s.1.node.connection = some c → s.2.IsOpen c ∧ s.1.node.owned = true) ∧
    (∀ c, s.1.controller.connection = some c → s.1.controller.owned = true →
      s.2.IsOpen c ∧ s.1.node.connection ≠ some c) ∧
    (∀ c, s.1.controller.connection = some c → s.1.controller.owned = false →
      s.1.node.connection ≠ none → s.1.node.connection = some c) ∧
    ((∃ c, s.1.controller.connection = some c ∧ s.2.IsClosed c) ↔ s.1.Dangles) ∧
    (∀ s', Move s s' → ¬ s.1.Dangles → s'.1.Dangles →
      s' = (setup s).2 ∧ (∃ e, NodeStep s (.error e, s')) ∧
        ∃ x w, s.1.node.dialer.dial s.1.config.address w = (.error x, s'.2)) ∧
    (∀ s', Move s s' → s.1.Dangles → ¬ s'.1.Dangles →
      s' = (close s).2 ∨ s' = (setup s).2 ∧ ∃ c s₂, NodeStep s (.ok c, s₂)) ∧
    ¬ (close s).2.1.Dangles ∧
    ((∃ c s₂, NodeStep s (.ok c, s₂)) → ¬ (setup s).2.1.Dangles) := by
  have hlinked := linked_of_moves henv h
  have hord : s.2.environment.ClosesOrdinarily := hlinked.environment_eq ▸ henv
  have hnode {c : Connection} (hc : s.1.node.connection = some c) : s.1.node.Owns c :=
    ⟨hlinked.owned c hc, hc⟩
  refine ⟨fun c hc => ?_, fun c hc howned => ?_, fun c hc howned hsome => ?_, hlinked.closed_iff,
    fun s' hm => (hm.reconnected hord).enters, fun s' hm => (hm.reconnected hord).leaves, ?_,
    fun ⟨c, s₂, hstep⟩ => (follows_of_nodeStep hord hstep).2.not_dangles⟩
  · exact ⟨(hlinked.isOpen (held_ne_zero_of_node (hnode hc))).1, hlinked.owned c hc⟩
  · exact ⟨(hlinked.isOpen (held_ne_zero_of_controller ⟨howned, hc⟩)).1,
      fun hn => hlinked.not_owns_controller (hnode hn) ⟨howned, hc⟩⟩
  · have hshared : s.1.controller.isShared = true := by simp [Endpoint.isShared, hc, howned]
    exact ((hlinked.shared hshared).resolve_left hsome).trans hc
  · obtain ⟨w', hrun⟩ := close_spec hord s.1
    rw [show (close s).2 = _ from congrArg Prod.snd hrun]
    exact fun hd => nomatch hd.1

/-- A session that shared its connection is given an address that is not reached. -/
theorem closed_iff_dangles_of_refused :
    let s₀ : Session × World :=
      (fresh { Config.placeless with address := "node" } .plain "", initial .refusing ⟨[], []⟩)
    let config := { Config.placeless with address := "gone" }
    let s : Session × World := ({ (setup s₀).2.1 with config := config }, (setup s₀).2.2)
    Environment.refusing.ClosesOrdinarily ∧ ReflTransGen Move s₀ (setup s).2 ∧
      ¬ s.1.Dangles ∧ (setup s).2.1.Dangles ∧ (∃ e, NodeStep s (.error e, (setup s).2)) ∧
      (setup s).2.1.controller.connection = some 1 ∧ (setup s).2.2.IsClosed 1 := by
  intro s₀ config s
  have hrun : ReflTransGen Move s₀ s :=
    .tail (.single (.setup s₀)) (.aside (.configure _ _ config))
  have hbefore : ¬ s.1.Dangles := by decide +kernel
  have hafter : (setup s).2.1.Dangles := by decide +kernel
  have hconn : (setup s).2.1.controller.connection = some 1 := by decide +kernel
  obtain ⟨-, -, -, -, henters, -⟩ :=
    closed_iff_dangles Environment.closesOrdinarily_refusing hrun
  obtain ⟨-, -, -, hclosed, -⟩ :=
    closed_iff_dangles Environment.closesOrdinarily_refusing (hrun.tail (.setup s))
  obtain ⟨c, hc, hisClosed⟩ := hclosed.mpr hafter
  cases hconn.symm.trans hc
  exact ⟨Environment.closesOrdinarily_refusing, hrun.tail (.setup s), hbefore, hafter,
    (henters _ (.setup s) hbefore hafter).2.1, hconn, hisClosed⟩

end

end Session

end PluginHarness
