import PluginHarness.Proofs.Endpoint

/-!
# Connections that their caller keeps

`ensurePair` has no state of its own. The caller has the connection and its address in hand, gives
them to each call and goes on with the pair that the call returns. When a call fails there is no
such pair, and what the caller does then decides about everything that follows.

The old connection is closed before the new address is dialed. So a call that fails has closed what
its caller had in hand, and every connection that was opened so far is closed. A caller that
forgets its pair is right about this. A caller that keeps it has a closed connection in hand, and
the next call cannot tell: it returns that connection, or closes it once more. Up to then both
callers are safe, by the same balance that endpoints keep: what was opened and not closed is in
hand.

## Main definitions

* `Pair`, `Pair.Habit`, `Pair.call`: a caller of `ensurePair`, by what it does after a failure.
* `Pair.Course`: the ways in which a call can end.
* `Pair.Safe`, `Pair.SafeRun`: a call returns no closed connection and leaves none closed twice; all
  calls of a run do.
* `Pair.NeverStale`: no call but the last fails with a connection in hand.

## Main results

* `Pair.ensurePair_course`: the course of a call.
* `Pair.balance_ensurePair`: what is opened and not closed was returned.
* `Pair.safe_unless_stale`: the runs that are safe.
-/

namespace PluginHarness

open Attempt World

/-- A connection and the address that it was opened to, as a caller has them in hand. -/
abbrev Pair := Option Connection × String

namespace Connection

/-- Closing quietly closes once, also when it is interrupted. -/
theorem closings_closeQuietly (c : Connection) (description : String) (w : World)
    (c' : Connection) : (closeQuietly c description w).2.closings c' =
      w.closings c' + if c' = c then 1 else 0 := by
  rw [← closings_close c w c', closeQuietly]
  rcases hc : close c w with ⟨e | _, w'⟩
  · rw [rescue_of_error _ hc]
    split
    · rfl
    · exact (report_respects (T := []) _ _ _ w').closings_eq (by simp) c'
  · rw [rescue_of_ok _ hc]

end Connection

namespace Pair

/-- Nothing in hand. -/
def nothing : Pair := (none, "")

/-- What a caller does after a call that failed. -/
inductive Habit where
  /-- It goes on with the pair that it had. -/
  | keep
  /-- It goes on with nothing in hand. -/
  | forget
  deriving DecidableEq, Repr

/-- The pair that a caller goes on with after a call that failed. -/
def Habit.afterFailure : Habit → Pair → Pair
  | .keep, p => p
  | .forget, _ => nothing

/-- A call with what the caller has in hand, and what the caller goes on with. -/
def call (h : Habit) (d : Dialer) (wanted : String) :
    Attempt (Pair × World) (Option Connection) := fun s =>
  match ensurePair d s.1 wanted s.2 with
  | (.ok p, w) => (.ok p.1, (p, w))
  | (.error e, w) => (.error e, (h.afterFailure s.1, w))

variable {h : Habit} {d : Dialer} {p : Pair} {wanted : String} {w : World}

/-! ### One call -/

/-- How often a pair holds the connection, which is at most once. -/
def held (p : Pair) (c : Connection) : Nat := handedOut (.ok p.1) c

theorem held_of_eq_some {c : Connection} (hc : p.1 = some c) : p.held c = 1 := by
  rw [held, hc, handedOut, if_pos rfl]

/-- The ways in which a call can end. -/
inductive Course (d : Dialer) (p : Pair) (wanted : String) (w : World) :
    Except Failure Pair × World → Prop
  /-- What is in hand was opened to the address. -/
  | kept {c : Connection} (hp : p = (some c, wanted)) : Course d p wanted w (.ok p, w)
  /-- What is in hand is closed, and the dial gives what is returned. -/
  | dialed {given : Option Connection} {w₁ w₂ : World} (h : Confined [.closing] w w₁)
      (hclosed : ∀ c, w₁.closings c = w.closings c + p.held c)
      (hd : d.dial wanted w₁ = (.ok given, w₂)) : Course d p wanted w (.ok (given, wanted), w₂)
  /-- What is in hand is closed, and the dial fails. -/
  | failed {e : Failure} {w₁ w₂ : World} (h : Confined [.closing] w w₁)
      (hclosed : ∀ c, w₁.closings c = w.closings c + p.held c)
      (hd : d.dial wanted w₁ = (.error e, w₂)) : Course d p wanted w (.error e, w₂)
  /-- Closing what is in hand is interrupted. -/
  | interrupted {e : Failure} {w₁ : World} (h : Confined [.closing] w w₁)
      (hclosed : ∀ c, w₁.closings c = w.closings c + p.held c) :
      Course d p wanted w (.error e, w₁)

theorem ensurePair_of_none (d : Dialer) (address wanted : String) (w : World) :
    ensurePair d (none, address) wanted w = match d.dial wanted w with
      | (.ok given, w') => (.ok (given, wanted), w')
      | (.error e, w') => (.error e, w') := by
  rcases hd : d.dial wanted w with ⟨e | given, w'⟩
  · exact bind_of_error hd
  · exact bind_of_ok hd

theorem ensurePair_of_eq (d : Dialer) (c : Connection) (wanted : String) (w : World) :
    ensurePair d (some c, wanted) wanted w = (.ok (some c, wanted), w) := by
  simp only [ensurePair, if_true]
  rfl

theorem ensurePair_of_ne (d : Dialer) (c : Connection) {address wanted : String}
    (h : address ≠ wanted) (w : World) :
    ensurePair d (some c, address) wanted w =
      match Connection.closeQuietly c ("connection to " ++ address) w with
      | (.ok (), w₁) => ensurePair d nothing wanted w₁
      | (.error e, w₁) => (.error e, w₁) := by
  simp only [ensurePair, if_neg h]
  rcases hc : Connection.closeQuietly c ("connection to " ++ address) w with ⟨e | _, w₁⟩
  · exact bind_of_error hc
  · exact bind_of_ok hc

/-- **The course of a call.** -/
theorem ensurePair_course (d : Dialer) (p : Pair) (wanted : String) (w : World) :
    Course d p wanted w (ensurePair d p wanted w) := by
  obtain ⟨_ | c, address⟩ := p
  · rw [ensurePair_of_none]
    rcases hd : d.dial wanted w with ⟨e | given, w'⟩
    · exact .failed (refl_of _ w) (fun _ => rfl) hd
    · exact .dialed (refl_of _ w) (fun _ => rfl) hd
  by_cases ha : address = wanted
  · subst ha
    rw [ensurePair_of_eq]
    exact .kept rfl
  have hconf := Connection.closeQuietly_respects (T := [.closing]) (by simp) c
    ("connection to " ++ address) w
  have hclosed := Connection.closings_closeQuietly c ("connection to " ++ address) w
  rw [ensurePair_of_ne d c ha]
  rcases hc : Connection.closeQuietly c ("connection to " ++ address) w with ⟨e | _, w₁⟩ <;>
    rw [hc] at hconf hclosed
  · exact .interrupted hconf hclosed
  · dsimp only
    rw [nothing, ensurePair_of_none]
    rcases hd : d.dial wanted w₁ with ⟨e | given, w₂⟩
    · exact .failed hconf hclosed hd
    · exact .dialed hconf hclosed hd

/-- How a call ends for its caller. -/
theorem call_cases (h : Habit) (d : Dialer) (wanted : String) (p : Pair) (w : World) :
    (∃ p' w', ensurePair d p wanted w = (.ok p', w') ∧
        call h d wanted (p, w) = (.ok p'.1, (p', w'))) ∨
      ∃ e w', ensurePair d p wanted w = (.error e, w') ∧
        call h d wanted (p, w) = (.error e, (h.afterFailure p, w')) := by
  rcases hrun : ensurePair d p wanted w with ⟨e | p', w'⟩
  · exact .inr ⟨e, w', rfl, by simp only [call, hrun]⟩
  · exact .inl ⟨p', w', rfl, by simp only [call, hrun]⟩

theorem call_outcome (s : Pair × World) :
    (call h d wanted s).1 = (ensurePair d s.1 wanted s.2).1.map Prod.fst := by
  rcases call_cases h d wanted s.1 s.2 with ⟨p', w', hrun, hcall⟩ | ⟨e, w', hrun, hcall⟩ <;>
    rw [hcall, hrun] <;> rfl

theorem call_world (s : Pair × World) :
    (call h d wanted s).2.2 = (ensurePair d s.1 wanted s.2).2 := by
  rcases call_cases h d wanted s.1 s.2 with ⟨p', w', hrun, hcall⟩ | ⟨e, w', hrun, hcall⟩ <;>
    rw [hcall, hrun]

theorem call_respects {T : List Topic} (hd : .dialing ∈ T) (hc : .closing ∈ T) (h : Habit)
    (d : Dialer) (wanted : String) : (call h d wanted).Respects (ConfinedIn Prod.snd T) := by
  have hdial (address : String) : ((·, wanted) <$> d.dial address).Respects (Confined T) :=
    (Dialer.dial_respects hd (fun _ => hc) address).map _
  have hpair (p : Pair) : (ensurePair d p wanted).Respects (Confined T) := by
    obtain ⟨_ | c, address⟩ := p
    · exact hdial wanted
    · unfold ensurePair
      dsimp only
      split
      · exact respects_pure _
      · exact (Connection.closeQuietly_respects hc _ _).bind fun _ => hdial wanted
  rintro ⟨p, w⟩
  have hrun := hpair p w
  rcases call_cases h d wanted p w with ⟨p', w', hp, hcall⟩ | ⟨e, w', hp, hcall⟩ <;>
    rw [hp] at hrun <;> rw [hcall] <;> exact hrun

/-- A call that does not return what is in hand has closed it. -/
theorem Course.closes {r : Except Failure Pair} {w' : World}
    (hcourse : Course d p wanted w (r, w')) :
    (r = .ok p ∧ w' = w) ∨ ∀ c, w.closings c + p.held c ≤ w'.closings c := by
  have hdial {r : Except Failure (Option Connection)} {w₁ w₂ : World}
      (hd : d.dial wanted w₁ = (r, w₂)) (c : Connection) : w₁.closings c ≤ w₂.closings c := by
    have hdialed := Dialer.dial_respects (T := Topic.all) (Topic.mem_all _)
      (fun _ => Topic.mem_all _) (d := d) wanted w₁
    rw [hd] at hdialed
    rw [closings_of_suffix hdialed.suffix]
    exact Nat.le_add_right _ _
  cases hcourse with
  | kept => exact .inl ⟨rfl, rfl⟩
  | dialed _ hclosed hd => exact .inr fun c => hclosed c ▸ hdial hd c
  | failed _ hclosed hd => exact .inr fun c => hclosed c ▸ hdial hd c
  | interrupted _ hclosed => exact .inr fun c => Nat.le_of_eq (hclosed c).symm

/-! ### The balance of connections -/

/-- What was opened and not closed is in hand, and nothing else is. -/
def Balanced (s : Pair × World) : Prop := ∀ c, s.2.closings c + s.1.held c = s.2.openings c

theorem balanced_initial (env : Environment) (files : FileTree) :
    Balanced (nothing, World.initial env files) := by
  intro c
  rw [closings_initial, openings_initial]
  rfl

/-- **What is opened and not closed is returned.** After a failure everything is closed. -/
theorem balance_ensurePair (hb : Balanced (p, w)) {r : Except Failure Pair} {w' : World}
    (hrun : ensurePair d p wanted w = (r, w')) (c : Connection) :
    w'.closings c + handedOut (r.map Prod.fst) c = w'.openings c := by
  have hcourse := ensurePair_course d p wanted w
  rw [hrun] at hcourse
  have hpair : w.closings c + p.held c = w.openings c := hb c
  -- the dial gives back what it opens, or closes it
  have hdialed {x : Except Failure (Option Connection)} {w₁ w₂ : World}
      (h : Confined [.closing] w w₁) (hclosed : ∀ c, w₁.closings c = w.closings c + p.held c)
      (hd : d.dial wanted w₁ = (x, w₂)) : w₂.closings c + handedOut x c = w₂.openings c := by
    have hbal := (d.dial_course wanted w₁).balance c
    rw [hd, hclosed, openings_of_opened_eq (h.opened_eq (by simp))] at hbal
    dsimp only at hbal
    omega
  cases hcourse with
  | kept => exact hpair
  | dialed h hclosed hd => exact hdialed h hclosed hd
  | failed h hclosed hd => exact hdialed h hclosed hd
  | interrupted h hclosed =>
    rw [hclosed, openings_of_opened_eq (h.opened_eq (by simp))]
    exact hpair

/-- The same for a call and its caller. -/
theorem Balanced.balance_call {s : Pair × World} (hb : Balanced s) (h : Habit) (d : Dialer)
    (wanted : String) (c : Connection) :
    (call h d wanted s).2.2.closings c + handedOut (call h d wanted s).1 c =
      (call h d wanted s).2.2.openings c := by
  rw [call_outcome, call_world]
  exact balance_ensurePair hb rfl c

/-- A call that succeeds or finds nothing in hand keeps the balance, and so does every call of a
caller that forgets. -/
theorem Balanced.call {s : Pair × World} (hb : Balanced s)
    (hfit : (call h d wanted s).1.isOk = true ∨ s.1.1 = none ∨ h = .forget) :
    Balanced (call h d wanted s).2 := by
  intro c
  rw [← hb.balance_call h d wanted c]
  rcases call_cases h d wanted s.1 s.2 with ⟨p', w', -, hcall⟩ | ⟨e, w', -, hcall⟩
  · rw [hcall]
    rfl
  · rw [hcall] at hfit ⊢
    obtain ⟨⟨c', address⟩, w⟩ := s
    rcases hfit with hok | hnone | rfl
    · cases hok
    · obtain rfl : c' = none := hnone
      cases h <;> rfl
    · rfl

/-! ### Safe runs -/

/-- A call returns no closed connection, and after it no connection is closed twice. -/
def Safe (r : Except Failure (Option Connection) × (Pair × World)) : Prop :=
  (∀ c, r.1 = .ok (some c) → r.2.2.closings c = 0) ∧ ∀ c, r.2.2.closings c ≤ 1

theorem Balanced.safe {s : Pair × World} (hb : Balanced s) : Safe (Pair.call h d wanted s) := by
  refine ⟨fun c hc => ?_, fun c => ?_⟩
  · have hbal := hb.balance_call h d wanted c
    have hle := (Pair.call h d wanted s).2.2.openings_le_one c
    rw [hc, handedOut, if_pos rfl] at hbal
    omega
  · have hbal := hb.balance_call h d wanted c
    have hle := (Pair.call h d wanted s).2.2.openings_le_one c
    omega

/-- With a closed connection in hand no call is safe: it returns that connection or closes it once
more. -/
theorem not_safe_of_closed {s : Pair × World} {c : Connection} (hc : s.1.1 = some c)
    (hclosed : s.2.closings c ≠ 0) : ¬ Safe (call h d wanted s) := by
  rintro ⟨hopen, honce⟩
  have hcourse := ensurePair_course d s.1 wanted s.2
  rw [call_outcome, call_world] at hopen
  rw [call_world] at honce
  generalize ensurePair d s.1 wanted s.2 = result at hcourse hopen honce
  obtain ⟨r, w'⟩ := result
  rcases hcourse.closes with ⟨rfl, rfl⟩ | hmore
  · exact hclosed (hopen c (congrArg Except.ok hc))
  · have hle : s.2.closings c + s.1.held c ≤ 1 := Nat.le_trans (hmore c) (honce c)
    rw [held_of_eq_some hc] at hle
    omega

/-- A caller that keeps its pair when a call failed with a connection in hand is not safe, whatever
it wants next. -/
theorem not_safe_of_stale {s : Pair × World} {c : Connection} (hc : s.1.1 = some c)
    (hfail : (call .keep d wanted s).1.isOk = false) (next : String) :
    ¬ Safe (call .keep d next (call .keep d wanted s).2) := by
  have hcourse := ensurePair_course d s.1 wanted s.2
  rcases call_cases .keep d wanted s.1 s.2 with ⟨p', w', -, hcall⟩ | ⟨e, w', hrun, hcall⟩
  · rw [hcall] at hfail
    cases hfail
  · rw [hrun] at hcourse
    rw [hcall]
    refine not_safe_of_closed (c := c) hc ?_
    rcases hcourse.closes with ⟨hok, -⟩ | hmore
    · cases hok
    · have hle : s.2.closings c + s.1.held c ≤ w'.closings c := hmore c
      rw [held_of_eq_some hc] at hle
      have hclosed : w'.closings c ≠ 0 := by omega
      exact hclosed

/-- All calls of a run are safe. -/
def SafeRun (h : Habit) (d : Dialer) : List String → Pair × World → Prop
  | [], _ => True
  | wanted :: rest, s => Safe (call h d wanted s) ∧ SafeRun h d rest (call h d wanted s).2

/-- No call but the last fails with a connection in hand, when the caller keeps its pair. -/
def NeverStale (d : Dialer) : List String → Pair × World → Prop
  | wanted :: next :: rest, s =>
    ((call .keep d wanted s).1.isOk = true ∨ s.1.1 = none) ∧
      NeverStale d (next :: rest) (call .keep d wanted s).2
  | _, _ => True

theorem Balanced.safeRun_forget (d : Dialer) (addresses : List String) :
    ∀ {s : Pair × World}, Balanced s → SafeRun .forget d addresses s := by
  induction addresses with
  | nil => exact fun _ => trivial
  | cons wanted rest ih => exact fun hb => ⟨hb.safe, ih (hb.call (.inr (.inr rfl)))⟩

theorem Balanced.safeRun_keep_iff (d : Dialer) (addresses : List String) :
    ∀ {s : Pair × World}, Balanced s →
      (SafeRun .keep d addresses s ↔ NeverStale d addresses s) := by
  induction addresses with
  | nil => exact fun _ => Iff.rfl
  | cons wanted rest ih =>
    intro s hb
    cases rest with
    | nil => exact ⟨fun _ => trivial, fun _ => ⟨hb.safe, trivial⟩⟩
    | cons next rest =>
      constructor
      · rintro ⟨-, hrest⟩
        have hfit : (Pair.call .keep d wanted s).1.isOk = true ∨ s.1.1 = none := by
          by_contra hstale
          rw [not_or, Bool.not_eq_true] at hstale
          obtain ⟨c, hc⟩ := Option.ne_none_iff_exists'.mp hstale.2
          exact not_safe_of_stale hc hstale.1 next hrest.1
        exact ⟨hfit, (ih (hb.call (hfit.imp_right .inl))).mp hrest⟩
      · rintro ⟨hfit, hrest⟩
        exact ⟨hb.safe, (ih (hb.call (hfit.imp_right .inl))).mpr hrest⟩

/-- **A caller is safe as long as it keeps nothing that a failed call has closed.** In every run of
calls that starts with nothing in hand:

* a caller that forgets its pair when a call fails is never returned a closed connection, and none
  is closed twice;
* a caller that keeps its pair is safe in the same sense exactly when no call but the last fails
  with a connection in hand. -/
theorem safe_unless_stale (d : Dialer) (env : Environment) (files : FileTree)
    (addresses : List String) :
    let s : Pair × World := (nothing, World.initial env files)
    SafeRun .forget d addresses s ∧ (SafeRun .keep d addresses s ↔ NeverStale d addresses s) :=
  ⟨(balanced_initial env files).safeRun_forget d addresses,
    (balanced_initial env files).safeRun_keep_iff d addresses⟩

/-- When another address is not reached, a caller that keeps its pair is given the closed
connection as soon as it wants the first address again, and closes it a second time when it wants
a third one. -/
theorem keeps_closed_connection :
    let s : Pair × World := (nothing, World.initial .refusing ⟨[], []⟩)
    let s₁ := (call .keep .plain "node" s).2
    let s₂ := (call .keep .plain "gone" s₁).2
    (call .keep .plain "gone" s₁).1 = .error Environment.unreachable ∧
      (call .keep .plain "node" s₂).1 = .ok (some 1) ∧ s₂.2.closings 1 = 1 ∧
      (call .keep .plain "other" s₂).2.2.closings 1 = 2 ∧
      ¬ SafeRun .keep .plain ["node", "gone", "node"] s ∧
      ¬ SafeRun .keep .plain ["node", "gone", "other"] s := by
  intro s s₁ s₂
  have hgiven : (call .keep .plain "node" s₂).1 = .ok (some 1) := rfl
  have hclosed : s₂.2.closings 1 = 1 := by decide +kernel
  have htwice : (call .keep .plain "other" s₂).2.2.closings 1 = 2 := by decide +kernel
  refine ⟨rfl, hgiven, hclosed, htwice, ?_, ?_⟩
  · rintro ⟨-, -, ⟨hopen, -⟩, -⟩
    have h := hopen 1 hgiven
    have hsame : (call .keep .plain "node" s₂).2.2.closings 1 = 1 := by decide +kernel
    exact absurd (hsame.symm.trans h) (by decide)
  · rintro ⟨-, -, ⟨-, honce⟩, -⟩
    exact absurd (htwice ▸ honce 1) (by decide)

end Pair

end PluginHarness
