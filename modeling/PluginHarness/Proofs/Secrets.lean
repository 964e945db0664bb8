import PluginHarness.Proofs.Frame
import PluginHarness.Proofs.TextEntries

/-!
# What loading credentials comes to

Loading asks for a file and reports the keys that it does not know, and all else about it is in the
files: what it gives, or how it fails, is a function of what reading the file gives
(`Secrets.load_run`). The failures are of three kinds. A file that cannot be read and a document
that is no credentials are put into a context with the path of the file, and anything else that is
wrong with the text passes as it is.

## Main definitions

* `Secrets.given`: what a file gives, by what reading it gives.

## Main results

* `Secrets.load_run`: loading gives what the file gives.
* `Secrets.newly_secretsRead_load`: loading asks for the file once.
* `Secrets.load_error_ne`: no failure of loading looks like a step of a setup.
-/

namespace PluginHarness

open Attempt World

/-- Reporting keys ends well. -/
theorem World.reportKeys_run (source : String) (level : Level) (words : String)
    (keys : List Document) (w : World) :
    ∃ w', reportKeys source level words keys w = (.ok (), w') := by
  refine forM_run (fun key w => ?_) keys w
  cases key.text? <;> exact ⟨_, rfl⟩

namespace Secrets

/-! ### Loading -/

/-- What a file gives, by what reading it gives. -/
def given (path : String) : Except Fault Document → Except Failure Secrets
  | .ok d =>
    (ofDocument d).mapError fun e =>
      if e.isSecrets then .within (.secretsMalformed path) e else e
  | .error (.system f) => .error (.within (.secretsUnreadable path) (.fault (.system f)))
  | .error .malformed => .error (.within (.secretsMalformed path) (.fault .malformed))
  | .error f => .error (.fault f)

theorem parse_run (d : Document) (w : World) : ∃ w', parse d w = (ofDocument d, w') := by
  unfold parse
  split
  · next entries =>
    obtain ⟨w', hreport⟩ := reportKeys_run "credentials" .debug "Ignoring unknown secrets key "
      (unknownKeys entries) w
    exact ⟨w', bind_of_ok hreport⟩
  · exact ⟨w, rfl⟩

/-- **Loading gives what the file gives.** -/
theorem load_run (path : String) (w : World) :
    ∃ w', load path w = (given path (readFile w.files path), w') := by
  rw [load, bind_of_ok (record_apply (.secretsRead path) w), bind_of_ok (state_apply _)]
  rcases readFile w.files path with f | d
  · cases f <;> exact ⟨_, rfl⟩
  · obtain ⟨w', hparse⟩ := parse_run d { w with history := .secretsRead path :: w.history }
    rcases hd : ofDocument d with e | secrets <;> rw [hd] at hparse
    · refine ⟨w', (handle_of_error _ hparse).trans ?_⟩
      cases he : e.isSecrets <;> simp [given, hd, he, Except.mapError]
    · refine ⟨w', (handle_of_ok _ hparse).trans ?_⟩
      rw [given, hd]
      rfl

theorem newly_secretsRead_load (path : String) (w : World) :
    newly Event.secretsRead? w (load path w).2 = [path] := by
  have hrest := load_after_asking path w
  rw [newly_append (List.suffix_cons _ _) hrest.suffix,
    hrest.newly_eq_nil Event.isAbout_secretsRead (by simp), List.append_nil,
    newly_of_history (show _ = [Event.secretsRead path] ++ w.history from rfl)]
  rfl

/-! ### Failures -/

/-- What a document is refused for: it is no credentials, or a text cannot be written. -/
def IsRefusal (e : Failure) : Prop := e = .fault .unwritable ∨ ∃ f, e = .fault (.secrets f)

theorem isRefusal_refusal (o : Operation) (key : Document) : IsRefusal (refusal o key) := by
  unfold refusal
  split
  · exact .inr ⟨_, rfl⟩
  · exact .inl rfl

theorem ofValue_error {o : Operation} {value : Document} {e : Failure}
    (h : ofValue o value = .error e) : IsRefusal e := by
  unfold ofValue at h
  split at h
  · cases h
  · rcases textEntries_error_cases h with ⟨entry, -, -, rfl⟩ | ⟨_, -, -, -, rfl⟩
    · exact isRefusal_refusal o entry.1
    · exact .inl rfl
  · cases h
    exact .inr ⟨_, rfl⟩

theorem ofEntries_error {e : Failure} :
    ∀ {entries : List (Document × Document)} {done : Secrets},
      ofEntries done entries = .error e → IsRefusal e
  | [], _, h => nomatch h
  | (key, value) :: rest, done, h => by
    rw [ofEntries] at h
    split at h
    · exact ofEntries_error h
    · split at h
      · exact ofEntries_error h
      · next hv =>
        cases h
        exact ofValue_error hv

theorem ofDocument_error {d : Document} {e : Failure} (h : ofDocument d = .error e) :
    IsRefusal e := by
  unfold ofDocument at h
  split at h
  · cases h
  · exact ofEntries_error h
  · cases h
    exact .inr ⟨_, rfl⟩

theorem given_error_ne {path : String} {read : Except Fault Document} {step : Step}
    {cause : Failure} : given path read ≠ .error (.within (.precondition step) cause) := by
  intro h
  unfold given at h
  split at h
  · next d =>
    rcases hd : ofDocument d with e | secrets <;> rw [hd] at h
    · simp only [Except.mapError, Except.error.injEq] at h
      rcases ofDocument_error hd with rfl | ⟨f, rfl⟩ <;> split at h <;> cases h
    · cases h
  all_goals cases h

/-- No failure of loading looks like a step of a setup. -/
theorem load_error_ne {path : String} {w w' : World} {step : Step} {cause : Failure} :
    load path w ≠ (.error (.within (.precondition step) cause), w') := by
  intro h
  obtain ⟨w', hrun⟩ := load_run path w
  exact given_error_ne (congrArg Prod.fst (hrun.symm.trans h))

end Secrets

end PluginHarness
