import PluginHarness.Proofs.Alike
import PluginHarness.Proofs.Pair
import PluginHarness.Proofs.Session

/-!
# A caller with a pair, and an endpoint

There are two ways to reuse a connection or dial again. `ensurePair` is given what is in hand and
returns it. An endpoint remembers it, together with a mark that says whether the connection is its
own to close. The mark makes the endpoint look richer than a pair, and the two functions are written
apart from each other.

An endpoint that shares nothing owns whatever connection it has, so its mark says nothing that the
connection does not say. Then a pair matches the endpoint when it is what the endpoint has in hand.
One call takes a match to a match: both find the same connection good enough, or both close it and
dial, in worlds that differ in their reports only. A caller that forgets its pair after a failure
does what an endpoint does, which is unbound then. This is also why the match needs that closing is
not interrupted: an interrupted endpoint keeps what it has.

## Main definitions

* `Endpoint.pair`: what an endpoint has in hand.
* `Pair.Matches`: the same in hand, in worlds that are alike.
* `Pair.Seen`, `Pair.trace`: what is seen of each call of a run.

## Main results

* `Pair.call_alike`: one call of either kind.
* `Pair.calls_agree_with_ensure`: all calls of a run.
-/

namespace PluginHarness

open Attempt World

/-- What the endpoint has in hand. -/
def Endpoint.pair (e : Endpoint) : Pair := (e.connection, e.address)

namespace Pair

variable {d : Dialer} {wanted : String}

/-- The endpoint has in hand what the caller has, and owns it. The worlds beside them are alike, and
closing is not interrupted there. -/
structure Matches (d : Dialer) (s : Pair × World) (t : Endpoint × World) : Prop where
  pair_eq : s.1 = t.1.pair
  dialer_eq : t.1.dialer = d
  owned : t.1.connection.isSome = true → t.1.owned = true
  closes : s.2.environment.ClosesOrdinarily
  alike : s.2.Alike t.2

theorem matches_unbound {w : World} (h : w.environment.ClosesOrdinarily) (name : String)
    (d : Dialer) : Matches d (nothing, w) (Endpoint.unbound name d, w) :=
  ⟨rfl, rfl, nofun, h, refl_of Alike w⟩

/-- What is in hand and not good enough is given up on both sides. -/
theorem Matches.given_up {p : Pair} {e : Endpoint} {w w' : World} (h : Matches d (p, w) (e, w'))
    (hk : ¬ e.Keeps wanted) :
    ∃ v v' : World, v.Alike v' ∧ v.environment.ClosesOrdinarily ∧
      ensurePair d p wanted w = ensurePair d nothing wanted v ∧
      Endpoint.release (e, w') = (.ok (), (e.cleared, v')) := by
  obtain rfl : p = e.pair := h.pair_eq
  cases hc : e.connection with
  | none =>
    have hnone : ∀ c, ¬ e.Owns c := fun c hown => nomatch hc.symm.trans hown.2
    refine ⟨w, w', h.alike, h.closes, ?_, Endpoint.release_of_not_owns hnone w'⟩
    rw [Endpoint.pair, hc, nothing, ensurePair_of_none, ensurePair_of_none]
  | some c =>
    have howned : e.owned = true := h.owned (hc ▸ rfl)
    have haddress : e.address ≠ wanted := fun ha => hk ⟨howned, hc ▸ rfl, ha⟩
    obtain ⟨v, hv, hconf, -⟩ := Connection.closeQuietly_spec h.closes c
      ("connection to " ++ e.address)
    -- the endpoint describes the connection in other words
    obtain ⟨hout, halike⟩ := Connection.closeQuietly_alike c ("connection to " ++ e.address)
      ("connection to " ++ e.name ++ " at " ++ e.address) w w' h.alike
    rcases hv' : Connection.closeQuietly c
      ("connection to " ++ e.name ++ " at " ++ e.address) w' with ⟨r, v'⟩
    dsimp only at hv
    rw [hv, hv'] at hout halike
    obtain rfl : _ = r := hout
    refine ⟨v, v', halike, hconf.environment_eq ▸ h.closes, ?_, ?_⟩
    · rw [Endpoint.pair, hc, ensurePair_of_ne d c haddress, hv]
    · rw [Endpoint.release_of_owns ⟨howned, hc⟩, hv']

/-- **A call and an endpoint that match do the same**, and match again. -/
theorem call_alike (d : Dialer) (wanted : String) :
    RunsAlike (Matches d) (call .forget d wanted) (Endpoint.ensure wanted) := by
  rintro ⟨p, w⟩ ⟨e, w'⟩ h
  by_cases hk : e.Keeps wanted
  · obtain ⟨v', hensure, hconf⟩ := Endpoint.ensure_of_keeps hk w'
    obtain ⟨c, hc⟩ := Option.isSome_iff_exists.mp hk.2.1
    have hcall : call .forget d wanted (p, w) = (.ok (some c), (p, w)) := by
      rw [show p = (some c, wanted) from h.pair_eq.trans (Prod.ext hc hk.2.2)]
      simp only [call, ensurePair_of_eq]
    rw [hcall, hensure, hc]
    exact ⟨rfl, { h with alike := trans_of _ h.alike hconf.alike }⟩
  obtain ⟨v, v', halike, hcloses, hpair, hrelease⟩ := h.given_up hk
  have hrep := (reportStep_respects (T := []) "connection" ("connecting to " ++ e.name) v').alike
  obtain ⟨hout, hstate⟩ := d.dial_alike wanted _ _ (trans_of _ halike hrep)
  have hconf := Dialer.dial_respects (T := Topic.all) (Topic.mem_all _)
    (fun _ => Topic.mem_all _) (d := d) wanted v
  rw [Endpoint.ensure_of_release hk hrelease, h.dialer_eq]
  rcases hd : d.dial wanted v with ⟨r, u⟩
  rcases hd' : d.dial wanted _ with ⟨r', u'⟩
  rw [hd, hd'] at hout hstate
  rw [hd] at hconf
  obtain rfl : r = r' := hout
  have hclosing : u.environment.ClosesOrdinarily := hconf.environment_eq ▸ hcloses
  cases r with
  | error x =>
    have hcall : call .forget d wanted (p, w) = (.error x, (nothing, u)) := by
      simp only [call, hpair, nothing, ensurePair_of_none, hd, Habit.afterFailure]
    rw [hcall]
    exact ⟨rfl, ⟨rfl, h.dialer_eq, fun h => absurd h Bool.false_ne_true, hclosing, hstate⟩⟩
  | ok given =>
    have hcall : call .forget d wanted (p, w) = (.ok given, ((given, wanted), u)) := by
      simp only [call, hpair, nothing, ensurePair_of_none, hd]
    rw [hcall]
    exact ⟨rfl, ⟨rfl, h.dialer_eq, fun _ => rfl, hclosing, hstate⟩⟩

/-! ### Runs -/

/-- What is seen of a call: how it ended, what it did to the outside in which order, and what is in
hand afterwards. -/
structure Seen where
  outcome : Except Failure (Option Connection)
  deeds : List Event
  pair : Pair

section Trace

variable {σ : Type}

/-- What is seen of a call from a state. -/
def seen (view : σ → Pair) (x : Attempt (σ × World) (Option Connection)) (s : σ × World) : Seen :=
  ⟨(x s).1, newly Event.deed? s.2 (x s).2.2, view (x s).2.1⟩

/-- What is seen of calls with the wanted addresses, one after the other. -/
def trace (view : σ → Pair) (x : String → Attempt (σ × World) (Option Connection)) :
    List String → σ × World → List Seen
  | [], _ => []
  | wanted :: rest, s => seen view (x wanted) s :: trace view x rest (x wanted s).2

end Trace

theorem Matches.seen_eq {s : Pair × World} {t : Endpoint × World} (h : Matches d s t)
    (wanted : String) :
    seen id (call .forget d wanted) s = seen Endpoint.pair (Endpoint.ensure wanted) t := by
  obtain ⟨hout, hmatch⟩ := call_alike d wanted s t h
  have hs : s.2.history <:+ (call .forget d wanted s).2.2.history :=
    (call_respects (T := Topic.all) (Topic.mem_all _) (Topic.mem_all _) .forget d wanted s).suffix
  have ht : t.2.history <:+ (Endpoint.ensure wanted t).2.2.history :=
    (Endpoint.ensure_within (T := Topic.all) (Topic.mem_all _) (Topic.mem_all _) wanted t).suffix
  rw [seen, seen, hout, h.alike.newly_eq hmatch.alike hs ht, id, hmatch.pair_eq]

/-- A match lasts as long as the run. -/
theorem Matches.trace_eq (addresses : List String) :
    ∀ {s : Pair × World} {t : Endpoint × World}, Matches d s t →
      trace id (call .forget d) addresses s = trace Endpoint.pair Endpoint.ensure addresses t := by
  induction addresses with
  | nil => exact fun _ => rfl
  | cons wanted rest ih =>
    intro s t h
    rw [trace, trace, h.seen_eq wanted, ih (call_alike d wanted s t h).2]

/-- **The two ways of keeping a connection agree.** Calls that start with nothing in hand, by a
caller that forgets its pair when a call fails, and an endpoint that starts unbound and is asked for
the same addresses: each time both come to the same outcome, dial and close the same in the same
order, and have the same in hand afterwards. -/
theorem calls_agree_with_ensure {w : World} (h : w.environment.ClosesOrdinarily) (name : String)
    (d : Dialer) (addresses : List String) :
    trace id (call .forget d) addresses (nothing, w) =
      trace Endpoint.pair Endpoint.ensure addresses (Endpoint.unbound name d, w) :=
  (matches_unbound h name d).trace_eq addresses

/-- A run with a connection that is reused, a dial without a connection and one that fails, where
all closing fails. -/
theorem calls_agree_with_ensure_mixed :
    let env : Environment := { Environment.refusing with
      dial := fun n address =>
        if address = "mute" then .absent else Environment.refusing.dial n address }
    let w := World.initial env ⟨[], []⟩
    let addresses := ["node", "node", "mute", "mute", "other", "gone", "other"]
    let calls := trace id (call .forget .plain) addresses (nothing, w)
    env.ClosesOrdinarily ∧
      calls = trace Endpoint.pair Endpoint.ensure addresses (Endpoint.unbound "node" .plain, w) ∧
      calls.map Seen.outcome = [.ok (some 1), .ok (some 1), .ok none, .ok none, .ok (some 2),
        .error Environment.unreachable, .ok (some 3)] ∧
      calls.map (fun s => s.deeds.filterMap Event.closed?) = [[], [], [1], [], [], [2], []] :=
  ⟨Environment.closesOrdinarily_refusing,
    calls_agree_with_ensure Environment.closesOrdinarily_refusing "node" .plain _, rfl, rfl⟩

end Pair

end PluginHarness
