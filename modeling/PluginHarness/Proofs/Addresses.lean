import PluginHarness.Proofs.Moves
import PluginHarness.Proofs.Setup

/-!
# The address that a connection was opened to

A connection is a number, and an endpoint says beside it which address it is for. That it was
opened to this address is a fact about the past. The history has all dials in order, and from the
environment follows which of them opened a connection, so the addresses of all connections can be
read off a world: `World.addresses` goes through the history and lists them.

The list only grows, so the address of a connection never changes (`Enrolls.addressOf`). What is
not about dialing does not touch it, and a dial enters the connection that it hands out under its
own address. From this every move of a session keeps what is `Session.Known` of it: both endpoints
name the address that their connection was opened to.

## Main definitions

* `World.addresses`, `World.addressOf`: the addresses of all connections, and of one.
* `Endpoint.Addressed`: the endpoint names the address of its connection.
* `Session.Known`: the dialers of a session, and that both of its endpoints are addressed.

## Main results

* `Dialer.dial_address`: a dial opens its connection to the address that it was asked for.
* `Session.known_of_moves`: a run keeps what is known of a session.
-/

namespace PluginHarness

open Attempt Relation World

/-! ### Openings in a history -/

/-- The dial gave a connection. -/
def DialReply.isConnected : DialReply → Bool
  | .connected => true
  | _ => false

namespace Event

/-- With this past, the event opens a connection. -/
def opens (env : Environment) (past : List Event) : Event → Bool
  | .dialed address => (env.dial (World.dials ⟨env, ⟨[], []⟩, 0, past⟩) address).isConnected
  | .channelOpened _ => true
  | _ => false

theorem topic?_of_opens {env : Environment} {past : List Event} {e : Event}
    (h : e.opens env past = true) : e.topic? = some .dialing := by
  cases e <;> first | rfl | cases h

/-- The address that was asked for last. -/
def lastAddress (past : List Event) : String := (past.findSome? dialing?).getD ""

/-- The addresses that connections were opened to in a history, the newest first. -/
def addresses (env : Environment) : List Event → List String
  | [] => []
  | e :: past =>
    if e.opens env past then lastAddress past :: addresses env past else addresses env past

/-- Events that are not about dialing open nothing. -/
theorem addresses_append {env : Environment} {past : List Event} :
    ∀ {new : List Event}, (∀ e ∈ new, e.topic? ≠ some .dialing) →
      addresses env (new ++ past) = addresses env past
  | [], _ => rfl
  | e :: new, h => by
    have hnot : ¬ e.opens env (new ++ past) = true := fun ho =>
      h e List.mem_cons_self (topic?_of_opens ho)
    rw [List.cons_append, addresses, if_neg hnot]
    exact addresses_append fun e he => h e (List.mem_cons_of_mem _ he)

end Event

namespace World

variable {w w' : World} {c : Connection} {a : String} {T : List Topic}

/-- The addresses that connections were opened to, the newest first. -/
def addresses (w : World) : List String := Event.addresses w.environment w.history

/-- The address that the connection was opened to. -/
def addressOf (w : World) : Connection → Option String
  | 0 => none
  | n + 1 => w.addresses.reverse[n]?

/-- There is an address for every connection. -/
def Registered (w : World) : Prop := w.addresses.length = w.opened

/-- The addresses of new connections are added. -/
def Enrolls (w w' : World) : Prop :=
  w'.environment = w.environment ∧
    ∃ new, w'.addresses = new ++ w.addresses ∧ w'.opened = w.opened + new.length

instance : IsPreorder World Enrolls where
  refl w := ⟨rfl, [], rfl, rfl⟩
  trans w₁ w₂ w₃ h₁ h₂ := by
    obtain ⟨henv₁, new₁, haddr₁, hopen₁⟩ := h₁
    obtain ⟨henv₂, new₂, haddr₂, hopen₂⟩ := h₂
    refine ⟨henv₂.trans henv₁, new₂ ++ new₁, ?_, ?_⟩
    · rw [haddr₂, haddr₁, List.append_assoc]
    · rw [hopen₂, hopen₁, List.length_append]
      omega

theorem Enrolls.registered (h : Enrolls w w') (hw : w.Registered) : w'.Registered := by
  obtain ⟨-, new, haddr, hopen⟩ := h
  rw [Registered, haddr, hopen, List.length_append, hw, Nat.add_comm]

/-- A connection keeps the address that it was opened to. -/
theorem Enrolls.addressOf (h : Enrolls w w') (hc : w.addressOf c = some a) :
    w'.addressOf c = some a := by
  obtain ⟨-, new, haddr, -⟩ := h
  cases c with
  | zero => cases hc
  | succ n =>
    obtain ⟨hlt, -⟩ := List.getElem?_eq_some_iff.mp hc
    rw [World.addressOf, haddr, List.reverse_append, List.getElem?_append_left hlt]
    exact hc

theorem Confined.enrolls (h : Confined T w w') (hd : .dialing ∉ T) : Enrolls w w' := by
  obtain ⟨new, hist, about⟩ := h.history
  refine ⟨h.environment_eq, [], ?_, h.opened_eq hd⟩
  rw [addresses, hist, h.environment_eq, Event.addresses_append fun e he ht => hd (about e he _ ht)]
  rfl

/-- The connection opened last has the address entered last. -/
theorem addressOf_newest (hw : w.Registered) (haddr : w'.addresses = a :: w.addresses) :
    w'.addressOf (w.opened + 1) = some a := by
  rw [World.addressOf, haddr, List.reverse_cons, ← hw, ← List.length_reverse,
    List.getElem?_concat_length]

end World

/-! ### Dials -/

/-- The connection that was handed out, if any, is the next one, and is entered under the
address. -/
def Entered (address : String) (w : World) (r : Except Failure (Option Connection) × World) :
    Prop :=
  Enrolls w r.2 ∧
    ∀ c, r.1 = .ok (some c) → c = w.opened + 1 ∧ r.2.addresses = address :: w.addresses

namespace Dialer

variable (address : String) (w : World)

/-- How a dial ends that the environment answers like this. -/
def answered : DialReply → Except Failure (Option Connection) × World
  | .connected =>
    (.ok (some (w.opened + 1)), w.grown [.dialed address, .dialing address] (w.opened + 1))
  | .absent => (.ok none, w.grown [.dialed address, .dialing address] w.opened)
  | .failed e => (.error e, w.grown [.dialed address, .dialing address] w.opened)

theorem plain_apply :
    plain.dial address w = answered address w
      (w.environment.dial (w.grown [.dialing address] w.opened).dials address) := by
  rcases hr : w.environment.dial (w.grown [.dialing address] w.opened).dials address <;>
    simp only [dial, bind_apply, record_apply, state_apply, answered] <;>
    simp only [grown, List.singleton_append] at hr <;> rw [hr] <;> rfl

theorem plain_enters : Entered address w (plain.dial address w) := by
  let reply := w.environment.dial (w.grown [.dialing address] w.opened).dials address
  have haddr (n : Nat) : (w.grown [.dialed address, .dialing address] n).addresses =
      if reply.isConnected then address :: w.addresses else w.addresses := rfl
  rw [plain_apply, show w.environment.dial _ address = reply from rfl]
  cases hr : reply <;> rw [hr] at haddr
  · exact ⟨⟨rfl, [address], haddr _, rfl⟩, fun c hc => ⟨by cases hc; rfl, haddr _⟩⟩
  · exact ⟨⟨rfl, [], haddr _, rfl⟩, by simp [answered]⟩
  · exact ⟨⟨rfl, [], haddr _, rfl⟩, by simp [answered]⟩

theorem channel_enters : Entered address w (channel.dial address w) := by
  let w₀ := w.grown [.dialing address] w.opened
  let w' := w₀.grown (Connection.channelEvents address Connection.readyDeadline) (w.opened + 1)
  have haddr : w'.addresses = address :: w.addresses := rfl
  have hopen : Enrolls w w' := ⟨rfl, [address], haddr, rfl⟩
  have hrun : channel.dial address w =
      (some <$> Connection.connect address Connection.readyDeadline) w₀ := rfl
  rw [hrun]
  by_cases ha : address = ""
  · have hc : Connection.connect address Connection.readyDeadline w₀ =
        (.error (.fault .noAddress), w₀) := by
      rw [Connection.connect, if_pos ha]
      rfl
    rw [map_of_error some hc]
    exact ⟨⟨rfl, [], rfl, rfl⟩, by simp⟩
  · rcases Connection.connect_of_ne ha Connection.readyDeadline w₀ with hc | ⟨e, hc⟩
    · rw [map_of_ok some hc]
      exact ⟨hopen, fun c hc => ⟨by cases hc; rfl, haddr⟩⟩
    · have hclose := (Connection.close_respects (T := [.closing]) (by simp) w'.opened w').enrolls
        (by simp)
      rw [map_of_error some hc]
      exact ⟨trans_of Enrolls hopen hclose, by simp⟩

theorem dial_enters (d : Dialer) : Entered address w (d.dial address w) := by
  cases d with
  | plain => exact plain_enters address w
  | channel => exact channel_enters address w

/-- **A dial opens its connection to the address that it was asked for.** -/
theorem addressOf_dial {d : Dialer} {address : String} {w w' : World} {c : Connection}
    (hw : w.Registered) (h : d.dial address w = (.ok (some c), w')) :
    w'.addressOf c = some address := by
  obtain ⟨-, hentered⟩ := dial_enters address w d
  rw [h] at hentered
  obtain ⟨rfl, haddr⟩ := hentered c rfl
  exact addressOf_newest hw haddr

/-! ### Dials without an answer -/

/-- In the environment, a dial gives a connection or fails. -/
def Answers (d : Dialer) (env : Environment) : Prop :=
  d = .plain → ∀ n address, env.dial n address ≠ .absent

theorem answers_refusing : plain.Answers .refusing := by
  intro _ n address
  show (if address = "gone" then DialReply.failed Environment.unreachable else .connected) ≠ .absent
  split <;> exact DialReply.noConfusion

theorem isSome_of_dial {d : Dialer} {w w' : World} {address : String} {c : Option Connection}
    (hans : d.Answers w.environment) (h : d.dial address w = (.ok c, w')) : c.isSome = true := by
  cases d with
  | plain =>
    simp only [dial, bind_apply, record_apply, state_apply] at h
    generalize World.dials _ = n at h
    cases hr : w.environment.dial n address with
    | connected =>
      rw [hr] at h
      cases h
      rfl
    | absent => exact absurd hr (hans rfl n address)
    | failed e =>
      rw [hr] at h
      cases h
  | channel =>
    have hrun : channel.dial address w = (some <$> Connection.connect address
        Connection.readyDeadline) (w.grown [.dialing address] w.opened) := rfl
    rw [hrun] at h
    rcases hc : Connection.connect address Connection.readyDeadline
      (w.grown [.dialing address] w.opened) with ⟨e | c', w₁⟩
    · rw [map_of_error some hc] at h
      cases h
    · rw [map_of_ok some hc] at h
      cases h
      rfl

end Dialer

/-! ### Endpoints -/

namespace Endpoint

variable {dialer : Dialer} {e other : Endpoint} {w w' : World}

/-- The endpoint names the address that its connection was opened to. -/
def Addressed (w : World) (e : Endpoint) : Prop :=
  ∀ c, e.connection = some c → w.addressOf c = some e.address

/-- What is known of an endpoint in a run. -/
structure Known (dialer : Dialer) (t : Endpoint × World) : Prop where
  dialer_eq : t.1.dialer = dialer
  registered : t.2.Registered
  addressed : t.1.Addressed t.2

/-- What happens elsewhere in the world does not matter for an endpoint. -/
theorem Known.mono (h : Known dialer (e, w)) (hw : Enrolls w w') : Known dialer (e, w') :=
  ⟨h.dialer_eq, hw.registered h.registered, fun c hc => hw.addressOf (h.addressed c hc)⟩

theorem Known.cleared (h : Known dialer (e, w)) : Known dialer (e.cleared, w) :=
  ⟨h.dialer_eq, h.registered, fun _ hc => nomatch hc⟩

theorem release_known (h : Known dialer (e, w)) :
    Enrolls w (release (e, w)).2.2 ∧ Known dialer (release (e, w)).2 := by
  obtain ⟨w', hconf, hrun | ⟨x, hrun, -⟩⟩ := release_course e w
  all_goals
    have hw := hconf.enrolls (by simp)
    rw [hrun]
  · exact ⟨hw, (h.mono hw).cleared⟩
  · exact ⟨hw, h.mono hw⟩

/-- What is shared comes with its address. -/
theorem share_known (h : Known dialer (e, w)) (ho : Known dialer (other, w)) :
    Enrolls w (share other (e, w)).2.2 ∧ Known dialer (share other (e, w)).2 := by
  obtain ⟨w', hconf, hrun | ⟨x, hrun, -⟩⟩ := share_course e other w
  all_goals
    have hw := hconf.enrolls (by simp)
    rw [hrun]
  · exact ⟨hw, h.dialer_eq, hw.registered h.registered, (ho.mono hw).addressed⟩
  · exact ⟨hw, h.mono hw⟩

theorem ensure_known (h : Known dialer (e, w)) (address : String) :
    Enrolls w (ensure address (e, w)).2.2 ∧ Known dialer (ensure address (e, w)).2 := by
  have hcourse := ensure_course e address w
  generalize ensure address (e, w) = r at hcourse ⊢
  cases hcourse with
  | kept _ hconf =>
    have hw := hconf.enrolls (by simp)
    exact ⟨hw, h.mono hw⟩
  | interrupted hconf =>
    have hw := hconf.enrolls (by simp)
    exact ⟨hw, h.mono hw⟩
  | @failed x w₁ w₂ _ hconf hd =>
    have hw := hconf.enrolls (by simp)
    have hdial := (Dialer.dial_enters address w₁ e.dialer).1
    rw [hd] at hdial
    exact ⟨trans_of Enrolls hw hdial, ((h.mono hw).mono hdial).cleared⟩
  | @dialed c w₁ w₂ _ hconf hd =>
    have hw := hconf.enrolls (by simp)
    have hdial := (Dialer.dial_enters address w₁ e.dialer).1
    rw [hd] at hdial
    refine ⟨trans_of Enrolls hw hdial, h.dialer_eq, ((h.mono hw).mono hdial).registered,
      fun c' hc => ?_⟩
    rw [bound_connection] at hc
    rw [hc] at hd
    exact Dialer.addressOf_dial (h.mono hw).registered hd

/-- An endpoint whose dials are answered has a connection when it has made sure of one. -/
theorem Ensured.isSome_of_ok {address : String} {c : Option Connection} {t : Endpoint × World}
    (hans : e.dialer.Answers w.environment) (h : Ensured e address w (.ok c, t)) :
    c.isSome = true := by
  cases h with
  | kept hk => exact hk.2.1
  | dialed _ hconf hd =>
    rw [← hconf.environment_eq] at hans
    exact Dialer.isSome_of_dial hans hd

end Endpoint

/-! ### Sessions -/

namespace Session

variable {env : Environment} {dialer : Dialer} {s s' : Session × World}

/-- What is known of a session in a run. -/
structure Known (env : Environment) (dialer : Dialer) (s : Session × World) : Prop where
  environment_eq : s.2.environment = env
  node : Endpoint.Known dialer (s.1.node, s.2)
  controller : Endpoint.Known dialer (s.1.controller, s.2)

theorem known_fresh (env : Environment) (config : Config) (dialer : Dialer) (suffix : String)
    (files : FileTree) : Known env dialer (fresh config dialer suffix, initial env files) :=
  ⟨rfl, ⟨rfl, rfl, fun _ hc => nomatch hc⟩, ⟨rfl, rfl, fun _ hc => nomatch hc⟩⟩

theorem Known.onNode (h : Known env dialer s) {t : Endpoint × World}
    (ht : Enrolls s.2 t.2 ∧ Endpoint.Known dialer t) :
    Known env dialer ({ s.1 with node := t.1 }, t.2) :=
  ⟨ht.1.1.trans h.environment_eq, ht.2, h.controller.mono ht.1⟩

theorem Known.onController (h : Known env dialer s) {t : Endpoint × World}
    (ht : Enrolls s.2 t.2 ∧ Endpoint.Known dialer t) :
    Known env dialer ({ s.1 with controller := t.1 }, t.2) :=
  ⟨ht.1.1.trans h.environment_eq, h.node.mono ht.1, ht.2⟩

/-- What neither opens nor closes connections and leaves the endpoints alone. -/
theorem known_of_within {x : Attempt (Session × World) Unit}
    (hx : x.Respects (Within Topic.offline)) (hk : x.Respects (Kept fun s => s.1.endpoints)) :
    x.Respects (Maintains (Known env dialer)) := by
  intro s h
  obtain ⟨hnode, hcontroller⟩ := Prod.mk.inj (hk s)
  have hw : Enrolls s.2 (x s).2.2 := (hx s).enrolls (by decide)
  refine ⟨hw.1.trans h.environment_eq, ?_, ?_⟩
  · rw [hnode]
    exact h.node.mono hw
  · rw [hcontroller]
    exact h.controller.mono hw

theorem connectNode_known : connectNode.Respects (Maintains (Known env dialer)) := by
  have ensured (address : String) :
      (Session.onNode (Endpoint.ensure address)).Respects (Maintains (Known env dialer)) :=
    fun _ h => h.onNode (Endpoint.ensure_known h.node address)
  exact current_respects.bind fun _ => (ensured _).explained _

theorem connectController_known : connectController.Respects (Maintains (Known env dialer)) := by
  intro s
  by_cases ha : s.1.config.controllerAddress = ""
  · rw [connectController_of_empty ha]
    exact fun h => h.onController (Endpoint.share_known h.controller h.node)
  · have ensured (address : String) :
        (Session.onController (Endpoint.ensure address)).Respects (Maintains (Known env dialer)) :=
      fun _ h => h.onController (Endpoint.ensure_known h.controller address)
    rw [connectController_of_ne ha]
    exact (ensured _).explained _ s

/-- When dials are answered, there is a connection to a plugin that was reached. -/
theorem NodeStep.isSome_of_ok (hans : dialer.Answers env) (hk : Known env dialer s)
    {c : Option Connection} (h : NodeStep s (.ok c, s')) : c.isSome = true := by
  obtain ⟨s₁, h₁, h₂⟩ := h
  obtain ⟨hsecrets, hconf⟩ := loadSecrets_ok h₁
  refine (connectNode_ok h₂).1.isSome_of_ok ?_
  rw [hconf.environment_eq, hk.environment_eq, hsecrets]
  rwa [hk.node.dialer_eq]

theorem NodeStep.known (hk : Known env dialer s) {r : Except Failure (Option Connection)}
    (h : NodeStep s (r, s')) : Known env dialer s' := by
  obtain ⟨s₁, h₁, h₂⟩ := h
  have hloaded : Known env dialer (loadSecrets s).2 :=
    known_of_within (loadSecrets_within (by decide)) loadSecrets_endpoints s hk
  rw [h₁] at hloaded
  have hconnected : Known env dialer (connectNode s₁).2 := connectNode_known s₁ hloaded
  rwa [h₂] at hconnected

/-- When dials are answered, a controller with an address of its own has a connection. -/
theorem isSome_of_connectController (hans : dialer.Answers env) (hk : Known env dialer s)
    (ha : s.1.config.controllerAddress ≠ "") {c : Option Connection}
    (h : connectController s = (.ok c, s')) : c.isSome = true := by
  rw [connectController_of_ne ha] at h
  obtain ⟨hrun, -⟩ := onController_run (ok_of_explained h)
  have hcourse := Endpoint.ensure_course s.1.controller s.1.config.controllerAddress s.2
  rw [hrun] at hcourse
  refine hcourse.isSome_of_ok ?_
  rw [hk.environment_eq]
  rwa [hk.controller.dialer_eq]

theorem setup_known : setup.Respects (Maintains (Known env dialer)) :=
  (known_of_within (loadSecrets_within (by decide)) loadSecrets_endpoints).bind fun _ =>
    (connectNode_known.bind fun _ => connectController_known.bind fun _ => respects_pure ()).bind
      fun _ => known_of_within (provision_within (by decide) (by decide)) provision_endpoints

theorem close_known : close.Respects (Maintains (Known env dialer)) :=
  Respects.bind (fun _ h => h.onController (Endpoint.release_known h.controller)) fun _ _ h =>
    h.onNode (Endpoint.release_known h.node)

theorem Move.known (hm : Move s s') (h : Known env dialer s) : Known env dialer s' := by
  cases hm with
  | setup => exact setup_known s h
  | teardown =>
    exact known_of_within (teardown_within (by decide) (by decide)) teardown_endpoints s h
  | aside ha =>
    cases ha with
    | configure => exact ⟨h.environment_eq, h.node, h.controller⟩
    | elsewhere s hw =>
      have hw := hw.enrolls (by simp)
      exact ⟨hw.1.trans h.environment_eq, h.node.mono hw, h.controller.mono hw⟩
    | close => exact close_known s h

/-- **A run keeps what is known of a session.** -/
theorem known_of_moves {config : Config} {suffix : String} {files : FileTree}
    (h : ReflTransGen Move (fresh config dialer suffix, initial env files) s) :
    Known env dialer s := by
  induction h with
  | refl => exact known_fresh env config dialer suffix files
  | tail _ hm ih => exact hm.known ih

end Session

end PluginHarness
