import PluginHarness.Connection.System
import PluginHarness.Proofs.Ownership

/-!
# Endpoints that share connections

In a family of endpoints each connection has at most one owner, and its account names it: a
connection that has an owner was opened and not closed, and one without an owner was closed as
often as it was opened. The number of openings is at most one, so this says everything about the
fate of a connection.

An operation acts on one endpoint, its subject, and conserves accounts there. For the family this
is enough, whatever the other endpoints are. If the subject does not own a connection, then it
either stays with its owner or was settled, and the account of the subject alone decides whether
it was newly opened. The order of operations and the number of endpoints do not enter.

An endpoint that shares its own connection is treated apart. It releases what it owns first, so
this is a release, and nothing at all when it owns nothing.

## Main definitions

* `Endpoint.Operated`: what an operation does to its endpoint and to the world.
* `Endpoints.start`, `Endpoints.after`: a family without connections, and what calls make of it.
* `Endpoints.OwnedBy`: the account of a connection, with its owner; `Endpoints.Accounted`: every
  connection has one.

## Main results

* `Endpoints.Accounted.replace`: an operation keeps every connection accounted for.
* `Endpoints.owned_or_closed_once`: the fate of every connection, what an operation may close and
  change, and what a failed dial leaves.
-/

namespace PluginHarness

open Attempt World

/-! ### One operation -/

namespace Endpoint

/-- What an operation does to its endpoint and to the world. Apart from what a dialer of channels
closes itself, only the connection of the endpoint is closed. -/
structure Operated (s s' : Endpoint × World) : Prop where
  accounts : Accounts s s'
  dialer_eq : s'.1.dialer = s.1.dialer
  closings_le : s.1.dialer = .plain → ∀ c, s'.2.closings c ≤ s.2.closings c + s.1.held c

theorem operated_refl (s : Endpoint × World) : Operated s s :=
  ⟨refl_of _ s, rfl, fun _ _ => Nat.le_add_right _ _⟩

variable {w : World}

theorem release_operated (h : w.environment.ClosesOrdinarily) (e : Endpoint) :
    Operated (e, w) (release (e, w)).2 := by
  obtain ⟨w', hrun, -, hclos⟩ := release_spec h e
  refine ⟨release_conserves (e, w), ?_, fun _ c => ?_⟩
  · rw [hrun]
    rfl
  · rw [hrun]
    exact Nat.le_of_eq (hclos c)

theorem share_operated (h : w.environment.ClosesOrdinarily) (e other : Endpoint) :
    Operated (e, w) (share other (e, w)).2 := by
  obtain ⟨w', hrun, -, hclos⟩ := share_spec h e other
  refine ⟨share_conserves other (e, w), ?_, fun _ c => ?_⟩
  · rw [hrun]
    rfl
  · rw [hrun]
    exact Nat.le_of_eq (hclos c)

theorem ensure_operated (h : w.environment.ClosesOrdinarily) (e : Endpoint) (address : String) :
    Operated (e, w) (ensure address (e, w)).2 := by
  by_cases hk : e.Keeps address
  · obtain ⟨w', hrun, hconf⟩ := ensure_of_keeps hk w
    refine ⟨ensure_conserves address (e, w), ?_, fun _ c => ?_⟩
    · rw [hrun]
    · rw [hrun, hconf.closings_eq (by simp)]
      exact Nat.le_add_right _ _
  · obtain ⟨w₁, -, hclos, hrun⟩ := ensure_of_not_keeps h hk
    have hconf (hplain : e.dialer = .plain) : Confined [.dialing] w₁ (e.dialer.dial address w₁).2 :=
      Dialer.dial_respects (by simp) (by simp [hplain]) address w₁
    refine ⟨ensure_conserves address (e, w), ?_, fun hplain c => ?_⟩
    · rw [hrun]
      rcases e.dialer.dial address w₁ with ⟨x | given, w₂⟩ <;> rfl
    · have hclosings := (hconf hplain).closings_eq (by simp) c
      rw [hrun, ← hclos, ← hclosings]
      rcases e.dialer.dial address w₁ with ⟨x | given, w₂⟩ <;> exact Nat.le_refl _

/-- An endpoint whose dial failed is unbound. -/
theorem ensure_error (h : w.environment.ClosesOrdinarily) {e : Endpoint} {address : String}
    {x : Failure} {t : Endpoint × World} (hrun : ensure address (e, w) = (.error x, t)) :
    t.1 = e.cleared := by
  have hcourse := ensure_course e address w
  rw [hrun] at hcourse
  exact (hcourse.of_error.resolve_left (h.not_interrupts x)).1

end Endpoint

namespace Endpoints

variable {ι : Type} [DecidableEq ι]

/-- The endpoint that a call acts on. -/
def Call.subject : Call ι → ι
  | .ensure i _ | .share i _ | .close i => i

/-- A family of endpoints without connections, with one dialer for all of them. -/
def start (names : ι → String) (dialer : Dialer) : Endpoints ι :=
  fun i => Endpoint.unbound (names i) dialer

/-- The family and the world after calls, whatever the outcome of each of them. -/
def after (calls : List (Call ι)) (s : Endpoints ι × World) : Endpoints ι × World :=
  calls.foldl (fun s call => (perform call s).2) s

@[simp] theorem replace_self (s : Endpoints ι) (i : ι) : s.replace i (s i) = s := by
  funext j
  by_cases h : j = i
  · rw [h, replace_same]
  · rw [replace_of_ne s _ h]

/-- A call operates on its subject, and replaces nothing else. -/
theorem perform_operated (call : Call ι) (s : Endpoints ι × World)
    (h : s.2.environment.ClosesOrdinarily) :
    ∃ t, Endpoint.Operated (s.1 call.subject, s.2) t ∧
      (perform call s).2 = (s.1.replace call.subject t.1, t.2) := by
  cases call with
  | ensure i address => exact ⟨_, Endpoint.ensure_operated h (s.1 i) address, rfl⟩
  | close i =>
    obtain ⟨w', hrun, -⟩ := Endpoint.release_spec h (s.1 i)
    refine ⟨_, Endpoint.release_operated h (s.1 i), ?_⟩
    simp only [perform, close, onEndpoint, Endpoint.close, bind_apply, on_apply, hrun, pure_apply,
      Call.subject]
  | share i j =>
    by_cases hij : i = j
    · by_cases ho : (s.1 i).owned = true
      · obtain ⟨w', hrun, -⟩ := Endpoint.release_spec h (s.1 i)
        refine ⟨_, Endpoint.release_operated h (s.1 i), ?_⟩
        simp only [perform, share, close, onEndpoint, Endpoint.close, bind_apply, on_apply, hrun,
          state_apply, pure_apply, if_pos hij, if_pos ho, Call.subject]
      · refine ⟨_, Endpoint.operated_refl _, ?_⟩
        simp only [perform, share, bind_apply, state_apply, if_pos hij, ho, Call.subject,
          replace_self]
        rfl
    · refine ⟨_, Endpoint.share_operated h (s.1 i) (s.1 j), ?_⟩
      simp only [perform, share, bind_apply, state_apply, if_neg hij, Call.subject]
      rfl

/-! ### The ledger -/

theorem owns_replace (s : Endpoints ι) (i k : ι) (e : Endpoint) (c : Connection) :
    (s.replace i e k).Owns c ↔ k = i ∧ e.Owns c ∨ k ≠ i ∧ (s k).Owns c := by
  by_cases hk : k = i
  · subst hk
    simp
  · simp [replace_of_ne s e hk, hk]

/-- The account of a connection. It has an owner, was opened and is not closed; or it has none and
was closed as often as it was opened. -/
def OwnedBy (s : Endpoints ι × World) (c : Connection) (owner : Option ι) : Prop :=
  (∀ i, (s.1 i).Owns c ↔ owner = some i) ∧
    s.2.closings c + (if owner.isSome then 1 else 0) = s.2.openings c

/-- Each connection is accounted for. -/
def Accounted (s : Endpoints ι × World) : Prop := ∀ c, ∃ owner, OwnedBy s c owner

omit [DecidableEq ι] in
theorem accounted_start (names : ι → String) (dialer : Dialer) (env : Environment)
    (files : FileTree) : Accounted (start names dialer, World.initial env files) := by
  refine fun c => ⟨none, fun i => ?_, ?_⟩
  · simp [start, Endpoint.unbound, Endpoint.Owns]
  · rw [openings_initial]
    rfl

section Step

variable {s : Endpoints ι × World} {i : ι} {t : Endpoint × World} {c : Connection}

/-- The account of a connection of another endpoint stays as it is, and the subject cannot come to
own what is owned already. -/
theorem OwnedBy.other {j : ι} (h : OwnedBy s c (some j)) (hj : j ≠ i)
    (ht : Endpoint.Accounts (s.1 i, s.2) t) (hord : s.2.environment.ClosesOrdinarily) :
    OwnedBy (s.1.replace i t.1, t.2) c (some j) := by
  obtain ⟨howner, hledger⟩ := h
  have hacc := (ht hord).2 c
  have hle := t.2.openings_le_one c
  have hheld : (s.1 i).held c = 0 := if_neg fun hown => hj (Option.some.inj ((howner i).mp hown))
  dsimp only at hacc
  rw [hheld, Endpoint.held] at hacc
  simp only [Option.isSome_some, if_true] at hledger
  have hnot : ¬ t.1.Owns c := fun hown => by
    rw [if_pos hown] at hacc
    omega
  refine ⟨fun k => ?_, ?_⟩
  · rw [owns_replace, howner]
    refine ⟨fun hk => ?_, fun hjk => .inr ⟨fun hk => hj ?_, hjk⟩⟩
    · obtain ⟨-, hown⟩ | ⟨-, hjk⟩ := hk
      · exact absurd hown hnot
      · exact hjk
    · rw [← hk]
      exact Option.some.inj hjk
  · rw [if_neg hnot] at hacc
    simp only [Option.isSome_some, if_true]
    omega

/-- When only the subject may have owned a connection, it is the owner afterwards, or there is
none. -/
theorem OwnedBy.subject {owner : Option ι} (h : OwnedBy s c owner)
    (honly : ∀ k, k ≠ i → ¬ (s.1 k).Owns c) (ht : Endpoint.Accounts (s.1 i, s.2) t)
    (hord : s.2.environment.ClosesOrdinarily) :
    OwnedBy (s.1.replace i t.1, t.2) c (if t.1.Owns c then some i else none) := by
  obtain ⟨howner, hledger⟩ := h
  have hacc := (ht hord).2 c
  have hheld : (s.1 i).held c = if owner.isSome then 1 else 0 := by
    cases owner with
    | none => exact if_neg fun hown => Option.some_ne_none i ((howner i).mp hown).symm
    | some j =>
      obtain rfl : j = i := by_contra fun hj => honly j hj ((howner j).mpr rfl)
      exact if_pos ((howner j).mpr rfl)
  dsimp only at hacc
  rw [hheld, Endpoint.held] at hacc
  by_cases hown : t.1.Owns c
  · rw [if_pos hown] at hacc ⊢
    refine ⟨fun k => ?_, ?_⟩
    · rw [owns_replace, Option.some.injEq]
      refine ⟨fun hk => ?_, fun hk => .inl ⟨hk.symm, hown⟩⟩
      obtain ⟨hk, -⟩ | ⟨hk, hother⟩ := hk
      · exact hk.symm
      · exact absurd hother (honly k hk)
    · simp only [Option.isSome_some, if_true]
      omega
  · rw [if_neg hown] at hacc ⊢
    refine ⟨fun k => ?_, ?_⟩
    · rw [owns_replace]
      refine iff_of_false (fun hk => ?_) (Option.some_ne_none k).symm
      obtain ⟨-, hnew⟩ | ⟨hk, hother⟩ := hk
      · exact hown hnew
      · exact honly k hk hother
    · simp only [Option.isSome_none, Bool.false_eq_true, if_false]
      omega

/-- An operation on one endpoint that conserves accounts keeps every connection accounted for. -/
theorem Accounted.replace (hs : Accounted s) (ht : Endpoint.Accounts (s.1 i, s.2) t)
    (hord : s.2.environment.ClosesOrdinarily) : Accounted (s.1.replace i t.1, t.2) := by
  intro c
  obtain ⟨owner, howner⟩ := hs c
  by_cases hother : ∃ j, j ≠ i ∧ owner = some j
  · obtain ⟨j, hj, rfl⟩ := hother
    exact ⟨some j, howner.other hj ht hord⟩
  · refine ⟨_, howner.subject (fun k hk hown => hother ⟨k, hk, ?_⟩) ht hord⟩
    exact (howner.1 k).mp hown

end Step

/-! ### Runs of a system -/

/-- What holds of a family of endpoints at any time. -/
structure Sound (env : Environment) (dialer : Dialer) (s : Endpoints ι × World) : Prop where
  environment_eq : s.2.environment = env
  /-- The endpoints share their dialer. -/
  dialer_eq : ∀ i, (s.1 i).dialer = dialer
  accounted : Accounted s

section Runs

variable {env : Environment} {dialer : Dialer} {s : Endpoints ι × World}

theorem Sound.perform (hs : Sound env dialer s) (henv : env.ClosesOrdinarily) (call : Call ι) :
    Sound env dialer (perform call s).2 := by
  have hord : s.2.environment.ClosesOrdinarily := hs.environment_eq ▸ henv
  obtain ⟨t, ht, hrun⟩ := perform_operated call s hord
  rw [hrun]
  refine ⟨(ht.accounts hord).1.environment_eq.trans hs.environment_eq, fun i => ?_,
    hs.accounted.replace ht.accounts hord⟩
  show (s.1.replace call.subject t.1 i).dialer = dialer
  by_cases hi : i = call.subject
  · rw [hi, replace_same, ht.dialer_eq]
    exact hs.dialer_eq _
  · rw [replace_of_ne _ _ hi]
    exact hs.dialer_eq i

theorem Sound.after (henv : env.ClosesOrdinarily) (calls : List (Call ι)) :
    ∀ {s : Endpoints ι × World}, Sound env dialer s → Sound env dialer (after calls s) := by
  induction calls with
  | nil => exact fun hs => hs
  | cons call rest ih => exact fun hs => ih (hs.perform henv call)

omit [DecidableEq ι] in
/-- What was opened is owned by one endpoint and open, or owned by none and closed. -/
theorem Accounted.fate (hs : Accounted s) {c : Connection} (hc : s.2.HasOpened c) :
    (s.2.closings c = 0 ∧ ∃! i, (s.1 i).Owns c) ∨
      (s.2.closings c = 1 ∧ ∀ i, ¬ (s.1 i).Owns c) := by
  obtain ⟨owner, howner, hledger⟩ := hs c
  rw [openings_eq_one hc] at hledger
  cases owner with
  | none => exact .inr ⟨hledger, fun i hown => Option.some_ne_none i ((howner i).mp hown).symm⟩
  | some i =>
    simp only [Option.isSome_some, if_true] at hledger
    refine .inl ⟨by omega, i, (howner i).mpr rfl, fun j hown => ?_⟩
    exact (Option.some.inj ((howner j).mp hown)).symm

/-- A call closes only what its subject owns; a dialer of channels may close what it just opened. -/
theorem Sound.closed_le (hs : Sound env dialer s) (henv : env.ClosesOrdinarily) (call : Call ι)
    {c : Connection} (hc : s.2.HasOpened c ∨ dialer = .plain) :
    (newly Event.closed? s.2 (Endpoints.perform call s).2.2).count c ≤
      (s.1 call.subject).held c := by
  have hord : s.2.environment.ClosesOrdinarily := hs.environment_eq ▸ henv
  obtain ⟨t, ht, hrun⟩ := perform_operated call s hord
  obtain ⟨hall, hacc⟩ := ht.accounts hord
  have hcount : t.2.closings c = s.2.closings c + (newly Event.closed? s.2 t.2).count c :=
    closings_of_suffix hall.suffix c
  rw [hrun]
  show (newly Event.closed? s.2 t.2).count c ≤ _
  rcases hc with hc | hplain
  · have hbalance := hacc c
    dsimp only at hbalance
    rw [openings_eq_one hc, openings_eq_one (hc.mono hall.opened_le)] at hbalance
    omega
  · have hle : t.2.closings c ≤ s.2.closings c + (s.1 call.subject).held c :=
      ht.closings_le ((hs.dialer_eq _).trans hplain) c
    omega

end Runs

/-- **Every connection has one owner until it is closed once.** After any calls on a family of
endpoints without connections, whatever their outcomes:

* what was opened is owned by exactly one endpoint and not closed, or by none and closed once;
* a further call changes no endpoint but its subject, and closes at most what the subject owns;
* where it fails to ensure a connection, the endpoint is unbound. -/
theorem owned_or_closed_once (names : ι → String) (dialer : Dialer) (env : Environment)
    (files : FileTree) (henv : env.ClosesOrdinarily) (calls : List (Call ι)) :
    let s := after calls (start names dialer, World.initial env files)
    (∀ c, s.2.HasOpened c →
      (s.2.closings c = 0 ∧ ∃! i, (s.1 i).Owns c) ∨
        (s.2.closings c = 1 ∧ ∀ i, ¬ (s.1 i).Owns c)) ∧
    (∀ call : Call ι,
      (∀ j, j ≠ call.subject → (perform call s).2.1 j = s.1 j) ∧
      ∀ c, s.2.HasOpened c ∨ dialer = .plain →
        (newly Event.closed? s.2 (perform call s).2.2).count c ≤ (s.1 call.subject).held c) ∧
    ∀ i address e s', ensure i address s = (.error e, s') →
      (s'.1 i).connection = none ∧ (s'.1 i).address = "" ∧ (s'.1 i).owned = false := by
  intro s
  have hstart : Sound env dialer (start names dialer, World.initial env files) :=
    ⟨rfl, fun _ => rfl, accounted_start names dialer env files⟩
  have hs : Sound env dialer s := hstart.after henv calls
  have hord : s.2.environment.ClosesOrdinarily := hs.environment_eq ▸ henv
  refine ⟨fun c hc => hs.accounted.fate hc, fun call => ⟨fun j hj => ?_, fun c hc => ?_⟩, ?_⟩
  · obtain ⟨t, -, hrun⟩ := perform_operated call s hord
    rw [hrun]
    exact replace_of_ne s.1 t.1 hj
  · exact hs.closed_le henv call hc
  · intro i address e s' hrun
    rcases hone : Endpoint.ensure address (s.1 i, s.2) with ⟨r, t⟩
    simp only [ensure, onEndpoint, on_apply, hone, Prod.mk.injEq] at hrun
    obtain ⟨rfl, rfl⟩ := hrun
    show (s.1.replace i t.1 i).connection = none ∧ (s.1.replace i t.1 i).address = "" ∧
      (s.1.replace i t.1 i).owned = false
    rw [replace_same, Endpoint.ensure_error hord hone]
    exact ⟨rfl, rfl, rfl⟩

/-- An endpoint opens a connection, shares that of another one, opens a connection again and then
shares its own. -/
theorem owned_or_closed_once_self_share :
    let calls : List (Call Bool) := [.ensure true "a", .ensure false "b", .share true false,
      .ensure true "b", .share true true]
    let s := after calls (start (fun _ => "plugin") .plain, World.initial .stubborn ⟨[], []⟩)
    Environment.stubborn.ClosesOrdinarily ∧ s.2.opened = 3 ∧ s.2.HasOpened 3 ∧
      ((s.2.closings 3 = 0 ∧ ∃! i, (s.1 i).Owns 3) ∨
        (s.2.closings 3 = 1 ∧ ∀ i, ¬ (s.1 i).Owns 3)) := by
  intro calls s
  have hopened : s.2.opened = 3 := by decide +kernel
  have hthird : s.2.HasOpened 3 := ⟨by decide, Nat.le_of_eq hopened.symm⟩
  exact ⟨Environment.closesOrdinarily_stubborn, hopened, hthird,
    (owned_or_closed_once (fun _ => "plugin") .plain .stubborn ⟨[], []⟩
      Environment.closesOrdinarily_stubborn calls).1 3 hthird⟩

end Endpoints

end PluginHarness
