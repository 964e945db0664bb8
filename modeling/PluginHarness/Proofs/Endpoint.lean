import PluginHarness.Proofs.Frame

/-!
# What the operations of an endpoint do

One specification for each operation, from which everything else about endpoints is derived. They
assume that closing a connection raises no interruption: an interrupted release leaves the endpoint
with a connection that it has closed, and nothing sensible can be said from there on. What holds in
that case too is said by the courses of the operations, which list the ways in which they can end.

Dialing is specified by an equation in the number of closings, openings and connections handed
out. It holds for every outcome of the dial, also for a channel that is not ready in time, which
is opened and closed within the dial and never handed out.

## Main definitions

* `Dialed`: the ways in which a dial can end.
* `Endpoint.Owns`: the endpoint has to close this connection.
* `Endpoint.Keeps`: the endpoint owns a connection to this address, which `ensure` keeps.
* `Endpoint.bound`, `Endpoint.sharing`: the endpoint after it dialed, and after it shared.
* `Endpoint.Ensured`: the ways in which ensuring a connection can end.

## Main results

* `Dialer.dial_course`: how a dial ends; `Dialed.balance`: what it opens, it hands out or closes.
* `Endpoint.release_spec`, `share_spec`, `ensure_of_keeps`, `ensure_of_not_keeps`: the operations.
* `Endpoint.release_course`, `share_course`, `ensure_course`: the same with interruptions.
-/

namespace PluginHarness

open Attempt World

variable {w : World}

/-! ### Closing a connection -/

namespace Connection

theorem closings_record_closed (w : World) (c c' : Connection) :
    World.closings { w with history := .closed c :: w.history } c' =
      w.closings c' + if c' = c then 1 else 0 := by
  by_cases h : c' = c
  · simp [closings, Event.closed?, h]
  · simp [closings, Event.closed?, h, Ne.symm h]

theorem closings_close (c : Connection) (w : World) (c' : Connection) :
    (close c w).2.closings c' = w.closings c' + if c' = c then 1 else 0 := by
  rw [← closings_record_closed]
  simp only [close, bind_apply, record_apply, state_apply]
  cases w.environment.closeFailure c <;> rfl

/-- Closing a connection fails only as the environment says. -/
theorem close_error {c : Connection} {e : Failure} {w' : World}
    (h : close c w = (.error e, w')) : w.environment.closeFailure c = some e := by
  simp only [close, bind_apply, record_apply, state_apply] at h
  cases hc : w.environment.closeFailure c with
  | none => simp [hc] at h
  | some e' =>
    simp only [hc, fail_apply, Prod.mk.injEq, Except.error.injEq] at h
    rw [h.1]

theorem close_failure (h : w.environment.ClosesOrdinarily) {c : Connection} {e : Failure}
    {w' : World} (he : close c w = (.error e, w')) : e.isInterrupt = false :=
  h c e (close_error he)

/-- Closing quietly ends well, unless the closing is interrupted. -/
theorem closeQuietly_course (c : Connection) (description : String) (w : World) :
    (∃ w', closeQuietly c description w = (.ok (), w')) ∨
      ∃ e w', closeQuietly c description w = (.error e, w') ∧ w.environment.Interrupts e := by
  rcases hc : close c w with ⟨e | _, w'⟩
  · have hrun := rescue_of_error (fun e => World.report "connection" .warning
      ("Ignoring error while closing " ++ description ++ ": " ++ e.message)) hc
    cases he : e.isInterrupt
    · rw [he] at hrun
      exact .inl ⟨_, hrun⟩
    · rw [he] at hrun
      exact .inr ⟨e, w', hrun, he, c, close_error hc⟩
  · exact .inl ⟨w', rescue_of_ok _ hc⟩

/-- A connection that is closed quietly is closed once, and its failure does not show. -/
theorem closeQuietly_spec (h : w.environment.ClosesOrdinarily) (c : Connection)
    (description : String) :
    ∃ w', closeQuietly c description w = (.ok (), w') ∧ Confined [.closing] w w' ∧
      ∀ c', w'.closings c' = w.closings c' + if c' = c then 1 else 0 := by
  have hconf := closeQuietly_respects (T := [.closing]) (by simp) c description w
  rcases hc : close c w with ⟨e | _, w'⟩
  · have hrun : closeQuietly c description w = report "connection" .warning
        ("Ignoring error while closing " ++ description ++ ": " ++ e.message) w' := by
      rw [closeQuietly, rescue_of_error _ hc, close_failure h hc]
      rfl
    rw [hrun] at hconf ⊢
    refine ⟨_, rfl, hconf, fun c' => ?_⟩
    rw [← closings_close c w c', hc]
    exact (report_respects (T := []) _ _ _ w').closings_eq (by simp) c'
  · have hrun : closeQuietly c description w = (.ok (), w') := rescue_of_ok _ hc
    rw [hrun] at hconf ⊢
    refine ⟨w', rfl, hconf, fun c' => ?_⟩
    rw [← closings_close c w c', hc]

end Connection

/-! ### Dialing -/

/-- The ways in which a dial can end. -/
inductive Dialed (address : String) (w : World) : Except Failure (Option Connection) × World → Prop
  /-- A connection is opened and handed out. -/
  | connected {w' : World} (h : Confined [.dialing] w w') (ho : w'.opened = w.opened + 1)
      (hd : newly Event.dialing? w w' = [address]) : Dialed address w (.ok (some w'.opened), w')
  /-- There is neither a connection nor a failure. -/
  | absent {w' : World} (h : Confined [.dialing] w w') (ho : w'.opened = w.opened)
      (hd : newly Event.dialing? w w' = [address]) : Dialed address w (.ok none, w')
  /-- The dial fails before a connection is opened. -/
  | failed {w' : World} {e : Failure} (h : Confined [.dialing] w w') (ho : w'.opened = w.opened)
      (hd : newly Event.dialing? w w' = [address]) : Dialed address w (.error e, w')
  /-- A channel is opened, is not ready in time and is closed again. -/
  | late {w' : World} {e : Failure} (h : Confined [.dialing] w w') (ho : w'.opened = w.opened + 1)
      (hd : newly Event.dialing? w w' = [address]) :
      Dialed address w (.error e, (Connection.close w'.opened w').2)

theorem Dialer.dial_plain (address : String) (w : World) :
    Dialed address w (plain.dial address w) := by
  let new : List Event := [.dialed address, .dialing address]
  have hnew : ∀ e ∈ new, ∀ t, e.topic? = some t → t = .dialing := by
    simp [new, Event.topic?]
  simp only [dial, bind_apply, record_apply, state_apply]
  generalize World.dials _ = n
  cases w.environment.dial n address with
  | connected =>
    exact .connected (confined_grown (Nat.le_succ w.opened) hnew) rfl (newly_grown w new _)
  | absent => exact .absent (confined_grown (Nat.le_refl _) hnew) rfl (newly_grown w new _)
  | failed e => exact .failed (confined_grown (Nat.le_refl _) hnew) rfl (newly_grown w new _)

/-- What opening a channel leaves in the history. -/
def Connection.channelEvents (address : String) (deadline : Deadline) : List Event :=
  [.awaited deadline, .channelOpened (target address),
    .reported ⟨Record.package ++ "." ++ "connection", Level.debug,
      "Dialing " ++ address ++ " (target " ++ target address ++ ")", false⟩]

/-- A channel to an address is opened, and then handed out or closed. -/
theorem Connection.connect_of_ne {address : String} (ha : address ≠ "") (deadline : Deadline)
    (w : World) :
    let w' := w.grown (channelEvents address deadline) (w.opened + 1)
    connect address deadline w = (.ok w'.opened, w') ∨
      ∃ e, connect address deadline w = (.error e, (close w'.opened w').2) := by
  intro w'
  unfold connect
  rw [if_neg ha]
  simp only [bind_apply, report, record_apply, state_apply, openConnection]
  split
  · exact .inl rfl
  · exact .inr (bind_fail (close (w.opened + 1)) _ w')

theorem Dialer.dial_channel (address : String) (w : World) :
    Dialed address w (channel.dial address w) := by
  let w₀ := w.grown [.dialing address] w.opened
  have h₀ : Confined [.dialing] w w₀ :=
    confined_grown (Nat.le_refl _) (by simp [Event.topic?])
  have hd₀ : newly Event.dialing? w w₀ = [address] := newly_grown _ _ _
  have hrun : channel.dial address w =
      (some <$> Connection.connect address Connection.readyDeadline) w₀ := rfl
  rw [hrun]
  by_cases ha : address = ""
  · have hc : Connection.connect address Connection.readyDeadline w₀ =
        (.error (.fault .noAddress), w₀) := by
      rw [Connection.connect, if_pos ha]
      rfl
    rw [map_of_error some hc]
    exact .failed h₀ rfl hd₀
  · let events := Connection.channelEvents address Connection.readyDeadline
    let w' := w₀.grown events (w₀.opened + 1)
    have h : Confined [.dialing] w₀ w' :=
      confined_grown (Nat.le_succ _) (by simp [events, Connection.channelEvents, Event.topic?])
    have hd' : newly Event.dialing? w w' = [address] := by
      rw [newly_append h₀.suffix h.suffix, hd₀, newly_grown]
      rfl
    rcases Connection.connect_of_ne ha Connection.readyDeadline w₀ with hc | ⟨e, hc⟩
    · rw [map_of_ok some hc]
      exact .connected (trans_of _ h₀ h) rfl hd'
    · rw [map_of_error some hc]
      exact .late (trans_of _ h₀ h) rfl hd'

/-- **The course of a dial.** -/
theorem Dialer.dial_course (d : Dialer) (address : String) (w : World) :
    Dialed address w (d.dial address w) := by
  cases d with
  | plain => exact dial_plain address w
  | channel => exact dial_channel address w

/-- How often an outcome of a dial hands out the connection. -/
def handedOut : Except Failure (Option Connection) → Connection → Nat
  | .ok (some c'), c => if c = c' then 1 else 0
  | _, _ => 0

@[simp] theorem handedOut_error (e : Failure) (c : Connection) : handedOut (.error e) c = 0 := rfl

/-- **The balance of a dial.** What it opens, it hands out or closes. -/
theorem Dialed.balance {address : String} {r : Except Failure (Option Connection) × World}
    (h : Dialed address w r) (c : Connection) :
    r.2.closings c + handedOut r.1 c + w.openings c = w.closings c + r.2.openings c := by
  cases h with
  | @connected w' h ho hd =>
    rw [h.closings_eq (by simp), openings_of_opened_succ ho]
    simp only [handedOut]
    omega
  | absent h ho hd =>
    rw [h.closings_eq (by simp), openings_of_opened_eq ho]
    rfl
  | failed h ho hd =>
    rw [h.closings_eq (by simp), openings_of_opened_eq ho]
    rfl
  | @late w' e h ho hd =>
    have hclosed := Connection.close_respects (T := [.closing]) (by simp) w'.opened w'
    rw [Connection.closings_close, h.closings_eq (by simp),
      openings_of_opened_eq (hclosed.opened_eq (by simp)), openings_of_opened_succ ho]
    simp only [handedOut]
    omega

/-! ### Endpoints -/

namespace Endpoint

/-- The endpoint has to close the connection. -/
def Owns (e : Endpoint) (c : Connection) : Prop := e.owned = true ∧ e.connection = some c

instance (e : Endpoint) (c : Connection) : Decidable (e.Owns c) :=
  inferInstanceAs (Decidable (_ ∧ _))

/-- How often the endpoint owns the connection, which is at most once. -/
def held (e : Endpoint) (c : Connection) : Nat := if e.Owns c then 1 else 0

/-- The endpoint owns a connection to the address, which it keeps when one is wanted. -/
def Keeps (e : Endpoint) (address : String) : Prop :=
  e.owned = true ∧ e.connection.isSome = true ∧ e.address = address

instance (e : Endpoint) (address : String) : Decidable (e.Keeps address) :=
  inferInstanceAs (Decidable (_ ∧ _))

/-- The endpoint that owns what a dial of the address gave. -/
def bound (e : Endpoint) (c : Option Connection) (address : String) : Endpoint :=
  { e with connection := c, address := address, owned := true }

/-- The endpoint that shares what another one has. -/
def sharing (e other : Endpoint) : Endpoint :=
  { e with connection := other.connection, address := other.address, owned := false }

section Fields

variable (e other : Endpoint) (c : Option Connection) (address : String)

@[simp] theorem bound_connection : (e.bound c address).connection = c := rfl

@[simp] theorem bound_address : (e.bound c address).address = address := rfl

@[simp] theorem bound_owned : (e.bound c address).owned = true := rfl

@[simp] theorem sharing_connection : (e.sharing other).connection = other.connection := rfl

end Fields

/-- An endpoint that keeps its connection is as if it had just dialed it. -/
theorem bound_of_keeps {e : Endpoint} {address : String} (h : e.Keeps address) :
    e.bound e.connection address = e := by
  obtain ⟨ho, -, ha⟩ := h
  rw [bound, ← ha, ← ho]

@[simp] theorem held_cleared (e : Endpoint) (c : Connection) : e.cleared.held c = 0 := by
  simp [held, Owns, cleared, unbound]

theorem held_eq_zero {e : Endpoint} (h : ∀ c, ¬ e.Owns c) (c : Connection) : e.held c = 0 :=
  if_neg (h c)

/-- What the endpoint owns is closed quietly, and then forgotten. -/
theorem release_of_owns {e : Endpoint} {c : Connection} (h : e.Owns c) (w : World) :
    release (e, w) =
      match Connection.closeQuietly c ("connection to " ++ e.name ++ " at " ++ e.address) w with
      | (.ok (), w') => (.ok (), (e.cleared, w'))
      | (.error x, w') => (.error x, (e, w')) := by
  obtain ⟨ho, hc⟩ := h
  simp only [release, bind_apply, state_apply, ho, hc, if_true, onWorld, on_apply]
  rcases Connection.closeQuietly c _ w with ⟨x | _, w'⟩ <;> rfl

/-- An endpoint that owns nothing forgets what it has. -/
theorem release_of_not_owns {e : Endpoint} (h : ∀ c, ¬ e.Owns c) (w : World) :
    release (e, w) = (.ok (), (e.cleared, w)) := by
  simp only [release, bind_apply, state_apply]
  by_cases ho : e.owned = true
  · cases hc : e.connection with
    | none =>
      simp only [ho, if_true]
      rfl
    | some c => exact absurd ⟨ho, hc⟩ (h c)
  · simp only [ho]
    rfl

/-- Releasing closes the connection that the endpoint owns, if any, and unbinds the endpoint. -/
theorem release_spec (h : w.environment.ClosesOrdinarily) (e : Endpoint) :
    ∃ w', release (e, w) = (.ok (), (e.cleared, w')) ∧ Confined [.closing] w w' ∧
      ∀ c, w'.closings c = w.closings c + e.held c := by
  by_cases hown : ∃ c, e.Owns c
  · obtain ⟨c, hown⟩ := hown
    obtain ⟨w', hw', hconf, hclos⟩ := Connection.closeQuietly_spec h c
      ("connection to " ++ e.name ++ " at " ++ e.address)
    refine ⟨w', ?_, hconf, fun c' => ?_⟩
    · rw [release_of_owns hown, hw']
    · rw [hclos]
      exact congrArg _ (if_congr (by simp [Owns, hown.1, hown.2, eq_comm]) rfl rfl)
  · have hnone : ∀ c, ¬ e.Owns c := fun c hc => hown ⟨c, hc⟩
    exact ⟨w, release_of_not_owns hnone w, refl_of _ w, fun c => by
      rw [held_eq_zero hnone, Nat.add_zero]⟩

/-- Sharing closes what the endpoint owned, and takes over what the other one has. -/
theorem share_spec (h : w.environment.ClosesOrdinarily) (e other : Endpoint) :
    ∃ w', share other (e, w) = (.ok other.connection, (e.sharing other, w')) ∧
      Confined [.closing] w w' ∧ ∀ c, w'.closings c = w.closings c + e.held c := by
  by_cases ho : e.owned = true
  · obtain ⟨w', hw', hconf, hclos⟩ := release_spec h e
    refine ⟨w', ?_, hconf, hclos⟩
    simp only [share, bind_apply, state_apply, ho, if_true, hw']
    rfl
  · refine ⟨w, ?_, refl_of _ w, fun c => ?_⟩
    · simp only [share, bind_apply, state_apply, ho]
      rfl
    · rw [held_eq_zero (fun c hown => ho hown.1), Nat.add_zero]

/-- A connection that the endpoint owns to the wanted address is kept. -/
theorem ensure_of_keeps {e : Endpoint} {address : String} (hk : e.Keeps address) (w : World) :
    ∃ w', ensure address (e, w) = (.ok e.connection, (e, w')) ∧ Confined [] w w' := by
  have hrep := reportStep_respects (T := []) "connection"
    ("reusing connection to " ++ e.name ++ " at " ++ address) w
  refine ⟨_, ?_, hrep⟩
  obtain ⟨ho, hc, ha⟩ := hk
  simp only [ensure, bind_apply, state_apply, ho, hc, ha, beq_self_eq_true, Bool.and_self, if_true]
  rfl

/-- Otherwise the endpoint is released and the address dialed. -/
theorem ensure_of_release {e : Endpoint} {address : String} (hk : ¬ e.Keeps address) {w w' : World}
    (hrelease : release (e, w) = (.ok (), (e.cleared, w'))) :
    ensure address (e, w) =
      match e.dialer.dial address
        (World.reportStep "connection" ("connecting to " ++ e.name) w').2 with
      | (.ok c, w₂) => (.ok c, (e.bound c address, w₂))
      | (.error x, w₂) => (.error x, (e.cleared, w₂)) := by
  have hb : ¬ (e.owned && e.connection.isSome && e.address == address) = true := by
    simpa [Keeps, and_assoc] using hk
  simp only [ensure, bind_apply, state_apply, hb, Bool.false_eq_true, if_false, hrelease, onWorld,
    on_apply, reportStep, record_apply]
  rcases e.dialer.dial address _ with ⟨x | c, w₂⟩ <;> rfl

/-- Only what the dial gives is owned afterwards. After a failed dial the endpoint is unbound. -/
theorem ensure_of_not_keeps (h : w.environment.ClosesOrdinarily) {e : Endpoint} {address : String}
    (hk : ¬ e.Keeps address) :
    ∃ w₁, Confined [.closing] w w₁ ∧ (∀ c, w₁.closings c = w.closings c + e.held c) ∧
      ensure address (e, w) = match e.dialer.dial address w₁ with
        | (.ok c, w₂) => (.ok c, (e.bound c address, w₂))
        | (.error x, w₂) => (.error x, (e.cleared, w₂)) := by
  obtain ⟨w', hrelease, hconf, hclos⟩ := release_spec h e
  have hrep := reportStep_respects (T := [.closing]) "connection" ("connecting to " ++ e.name) w'
  refine ⟨_, trans_of _ hconf hrep, fun c => ?_, ensure_of_release hk hrelease⟩
  rw [(reportStep_respects (T := []) _ _ w').closings_eq (by simp), hclos]

/-! ### Courses of the operations

The specifications above leave interruptions out. The courses below have them as a case of their
own, with the closing that was interrupted, and need no assumption on the environment. -/

theorem release_course (e : Endpoint) (w : World) :
    ∃ w', Confined [.closing] w w' ∧ (release (e, w) = (.ok (), (e.cleared, w')) ∨
      ∃ x, release (e, w) = (.error x, (e, w')) ∧ w.environment.Interrupts x) := by
  by_cases hown : ∃ c, e.Owns c
  · obtain ⟨c, hown⟩ := hown
    have hconf := Connection.closeQuietly_respects (T := [.closing]) (by simp) c
      ("connection to " ++ e.name ++ " at " ++ e.address) w
    rcases Connection.closeQuietly_course c
      ("connection to " ++ e.name ++ " at " ++ e.address) w with ⟨w', hw'⟩ | ⟨x, w', hw', hx⟩
    all_goals rw [hw'] at hconf
    · exact ⟨w', hconf, .inl (by rw [release_of_owns hown, hw'])⟩
    · exact ⟨w', hconf, .inr ⟨x, by rw [release_of_owns hown, hw'], hx⟩⟩
  · exact ⟨w, refl_of _ w, .inl (release_of_not_owns (fun c hc => hown ⟨c, hc⟩) w)⟩

theorem share_course (e other : Endpoint) (w : World) :
    ∃ w', Confined [.closing] w w' ∧
      (share other (e, w) = (.ok other.connection, (e.sharing other, w')) ∨
        ∃ x, share other (e, w) = (.error x, (e, w')) ∧ w.environment.Interrupts x) := by
  by_cases ho : e.owned = true
  · obtain ⟨w', hconf, hrelease | ⟨x, hrelease, hx⟩⟩ := release_course e w
    · refine ⟨w', hconf, .inl ?_⟩
      simp only [share, bind_apply, state_apply, ho, if_true, hrelease]
      rfl
    · refine ⟨w', hconf, .inr ⟨x, ?_, hx⟩⟩
      simp only [share, bind_apply, state_apply, ho, if_true, hrelease]
  · refine ⟨w, refl_of _ w, .inl ?_⟩
    simp only [share, bind_apply, state_apply, ho]
    rfl

/-- The ways in which ensuring a connection to the address can end. -/
inductive Ensured (e : Endpoint) (address : String) (w : World) :
    Except Failure (Option Connection) × (Endpoint × World) → Prop
  /-- What the endpoint owns is a connection to the address already. -/
  | kept {w' : World} (hk : e.Keeps address) (h : Confined [] w w') :
      Ensured e address w (.ok e.connection, (e, w'))
  /-- What the endpoint had is given up for what the dial gives. -/
  | dialed {c : Option Connection} {w₁ w₂ : World} (hk : ¬ e.Keeps address)
      (h : Confined [.closing] w w₁) (hd : e.dialer.dial address w₁ = (.ok c, w₂)) :
      Ensured e address w (.ok c, (e.bound c address, w₂))
  /-- What the endpoint had is given up, and the dial fails. -/
  | failed {x : Failure} {w₁ w₂ : World} (hk : ¬ e.Keeps address)
      (h : Confined [.closing] w w₁) (hd : e.dialer.dial address w₁ = (.error x, w₂)) :
      Ensured e address w (.error x, (e.cleared, w₂))
  /-- Giving up what the endpoint had is interrupted. -/
  | interrupted {x : Failure} {w₁ : World} (h : Confined [.closing] w w₁)
      (hx : w.environment.Interrupts x) : Ensured e address w (.error x, (e, w₁))

/-- Whatever was given is owned afterwards. -/
theorem Ensured.of_ok {e e' : Endpoint} {address : String} {w w' : World} {c : Option Connection}
    (h : Ensured e address w (.ok c, (e', w'))) : e' = e.bound c address := by
  cases h with
  | kept hk => exact (bound_of_keeps hk).symm
  | dialed => rfl

/-- A failure interrupted the closing, or comes from the dial and leaves the endpoint unbound. -/
theorem Ensured.of_error {e e' : Endpoint} {address : String} {w w' : World} {x : Failure}
    (h : Ensured e address w (.error x, (e', w'))) :
    w.environment.Interrupts x ∨
      e' = e.cleared ∧ ∃ w₁, Confined [.closing] w w₁ ∧
        e.dialer.dial address w₁ = (.error x, w') := by
  cases h with
  | failed _ h hd => exact .inr ⟨rfl, _, h, hd⟩
  | interrupted _ hx => exact .inl hx

/-- The same for a failure that was put into a context. -/
theorem Ensured.of_error_inContext {e e' : Endpoint} {address : String} {w w' : World}
    {x : Failure} (h : Ensured e address w (.error x, (e', w'))) (c : Context) :
    w.environment.Interrupts (x.inContext c) ∨
      e' = e.cleared ∧ ∃ y w₁, x.inContext c = y.inContext c ∧
        e.dialer.dial address w₁ = (.error y, w') := by
  rcases h.of_error with hi | ⟨hcleared, w₁, -, hd⟩
  · rw [Failure.inContext_of_isInterrupt c hi.1]
    exact .inl hi
  · exact .inr ⟨hcleared, x, w₁, rfl, hd⟩

/-- **The course of ensuring a connection.** -/
theorem ensure_course (e : Endpoint) (address : String) (w : World) :
    Ensured e address w (ensure address (e, w)) := by
  by_cases hk : e.Keeps address
  · obtain ⟨w', hrun, hconf⟩ := ensure_of_keeps hk w
    rw [hrun]
    exact .kept hk hconf
  obtain ⟨w', hconf, hrelease | ⟨x, hrelease, hx⟩⟩ := release_course e w
  · have hrep := reportStep_respects (T := [.closing]) "connection" ("connecting to " ++ e.name) w'
    rw [ensure_of_release hk hrelease]
    rcases hd : e.dialer.dial address _ with ⟨x | c, w₂⟩
    · exact .failed hk (trans_of _ hconf hrep) hd
    · exact .dialed hk (trans_of _ hconf hrep) hd
  · have hb : ¬ (e.owned && e.connection.isSome && e.address == address) = true := by
      simpa [Keeps, and_assoc] using hk
    have hrun : ensure address (e, w) = (.error x, (e, w')) := by
      simp only [ensure, bind_apply, state_apply, hb, Bool.false_eq_true, if_false, hrelease]
    rw [hrun]
    exact .interrupted hconf hx

end Endpoint

end PluginHarness
