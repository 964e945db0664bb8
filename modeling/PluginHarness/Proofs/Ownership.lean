import PluginHarness.Proofs.Endpoint

/-!
# Every connection has one owner until it is closed

The account of a connection is an equation between three numbers: how often it was opened, how
often it was closed, and how many endpoints own it. Nothing that a run does can change

```
openings - closings - owners
```

for any connection, so a connection that is opened stays owned until it is closed, and what is
closed is owned no longer. `Conserves` states this for a step from one state to another, with the
subtractions moved to the other side.

The law is one relation for all kinds of state. What varies is where the world is in the state and
which connections the endpoints in it own, and both are parameters. As it is a preorder, runs of
any length conserve accounts because their parts do.

## Main definitions

* `Conserves`: no connection's account changes from one state to the other.

## Main results

* `conserves_of_confined`: what neither opens nor closes conserves accounts.
* `Endpoint.release_conserves`, `share_conserves`, `ensure_conserves`: the operations do.
-/

namespace PluginHarness

open Attempt World

variable {σ : Type}

/-- No connection's account changes: what is opened is owned or closed, and what is closed or given
up was owned. Nothing is undone, so both numbers only grow. Nothing is said when closing a
connection may end in an interruption. -/
def Conserves (world : σ → World) (held : σ → Connection → Nat) (s s' : σ) : Prop :=
  (world s).environment.ClosesOrdinarily →
    Confined Topic.all (world s) (world s') ∧
      ∀ c, (world s').closings c + held s' c + (world s).openings c =
        (world s).closings c + held s c + (world s').openings c

instance (world : σ → World) (held : σ → Connection → Nat) :
    IsPreorder σ (Conserves world held) where
  refl _ _ := ⟨refl_of _ _, fun _ => rfl⟩
  trans s₁ s₂ s₃ h₁₂ h₂₃ h := by
    obtain ⟨hall, h₁₂⟩ := h₁₂ h
    obtain ⟨hall', h₂₃⟩ := h₂₃ (hall.environment_eq ▸ h)
    refine ⟨trans_of _ hall hall', fun c => ?_⟩
    have := h₁₂ c
    have := h₂₃ c
    omega

section

variable {world : σ → World} {held : σ → Connection → Nat} {s s' : σ}

/-- What neither opens nor closes connections and leaves them with their owners. -/
theorem conserves_of_confined {T : List Topic} (h : Confined T (world s) (world s'))
    (hd : .dialing ∉ T) (hc : .closing ∉ T) (hheld : ∀ c, held s' c = held s c) :
    Conserves world held s s' := by
  refine fun _ => ⟨h.all, fun c => ?_⟩
  rw [h.closings_eq hc, hheld, openings_of_opened_eq (h.opened_eq hd)]

/-- A step of a part of the state is one of the whole when the rest owns the same as before. -/
theorem Conserves.lift {τ : Type} {world' : τ → World} {held' : τ → Connection → Nat} {t t' : τ}
    (h : Conserves world' held' t t') (hw : world s = world' t) (hw' : world s' = world' t')
    (rest : Connection → Nat) (hh : ∀ c, held s c = held' t c + rest c)
    (hh' : ∀ c, held s' c = held' t' c + rest c) : Conserves world held s s' := by
  intro henv
  rw [hw] at henv ⊢
  rw [hw']
  obtain ⟨hall, h⟩ := h henv
  refine ⟨hall, fun c => ?_⟩
  have := h c
  rw [hh, hh']
  omega

/-- When nothing is owned before and after, what was opened in between was closed once, and nothing
else was closed. -/
theorem Conserves.closed_once (h : Conserves world held s s')
    (hord : (world s).environment.ClosesOrdinarily) {c : Connection} (hs : held s c = 0)
    (hs' : held s' c = 0) :
    (newly Event.closed? (world s) (world s')).count c =
      if (world s).opened < c ∧ c ≤ (world s').opened then 1 else 0 := by
  obtain ⟨hall, hacc⟩ := h hord
  have hle := hall.opened_le
  have hacc := hacc c
  rw [closings_of_suffix hall.suffix, hs, hs'] at hacc
  simp only [openings] at hacc
  split_ifs at hacc ⊢ <;> lia

end

namespace Endpoint

/-- The world beside an endpoint, and what the endpoint owns. -/
abbrev Accounts : Endpoint × World → Endpoint × World → Prop :=
  Conserves Prod.snd fun t => t.1.held

/-- Giving up what the endpoint owns by closing it. -/
theorem accounts_of_closed {e e' : Endpoint} {w w' : World} (h : Confined [.closing] w w')
    (hclos : ∀ c, w'.closings c = w.closings c + e.held c) (he' : ∀ c, ¬ e'.Owns c) :
    Accounts (e, w) (e', w') := by
  refine fun _ => ⟨h.all, fun c => ?_⟩
  simp only [hclos, held_eq_zero he', openings_of_opened_eq (h.opened_eq (by simp))]
  omega

theorem release_conserves : release.Respects Accounts := by
  rintro ⟨e, w⟩ h
  obtain ⟨w', hrun, hconf, hclos⟩ := release_spec h e
  rw [hrun]
  exact accounts_of_closed hconf hclos (fun c hown => nomatch hown.1) h

theorem share_conserves (other : Endpoint) : (share other).Respects Accounts := by
  rintro ⟨e, w⟩ h
  obtain ⟨w', hrun, hconf, hclos⟩ := share_spec h e other
  rw [hrun]
  exact accounts_of_closed hconf hclos (fun c hown => nomatch hown.1) h

/-- What a dial hands out is owned by the endpoint that dialed. -/
theorem held_of_dialed (e : Endpoint) (address : String) (given : Option Connection)
    (c : Connection) :
    (e.bound given address).held c = handedOut (.ok given) c := by
  cases given with
  | none => simp [held, Owns, handedOut]
  | some c' => simp [held, Owns, handedOut, eq_comm]

theorem ensure_conserves (address : String) : (ensure address).Respects Accounts := by
  rintro ⟨e, w⟩ h
  by_cases hk : e.Keeps address
  · obtain ⟨w', hrun, hconf⟩ := ensure_of_keeps hk w
    rw [hrun]
    have hacc : Accounts (e, w) (e, w') :=
      conserves_of_confined hconf (by simp) (by simp) fun _ => rfl
    exact hacc h
  · obtain ⟨w₁, hconf, hclos, hrun⟩ := ensure_of_not_keeps h hk
    have hdial := e.dialer.dial_course address w₁
    have hdialed := Dialer.dial_respects (T := Topic.all) (Topic.mem_all _)
      (fun _ => Topic.mem_all _) (d := e.dialer) address w₁
    have hopened := hconf.opened_eq (by simp)
    rw [hrun]
    rcases hd : e.dialer.dial address w₁ with ⟨x | given, w₂⟩ <;> rw [hd] at hdial hdialed
    all_goals
      refine ⟨trans_of _ hconf.all hdialed, fun c => ?_⟩
      have hbal := hdial.balance c
      rw [hclos, openings_of_opened_eq hopened] at hbal
    · simpa only [held_cleared, handedOut_error] using hbal
    · simpa only [held_of_dialed] using hbal

end Endpoint

end PluginHarness
