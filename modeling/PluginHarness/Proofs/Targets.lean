import PluginHarness.Proofs.Endpoint

/-!
# Addresses that share a target

An address becomes the target of a channel as it stands, or with the scheme of sockets before it.
The second happens to absolute paths, and to names without a colon that are no absolute paths. With
its scheme an address is left alone from then on, so the translation is idempotent.

Two addresses share a target only if they are one address, or one of them is the other one with its
scheme written before it (`IsShortFor`). There is nothing else, because a short form is determined
by its long form. The two schemes could only be confused if what stands before an absolute path were
read as a part of a name, and then the name would begin with a slash.

## Main definitions

* `Connection.IsShortFor`: the address stands for the other one, which names its scheme.
* `Event.channelOpened?`: the target of a channel that was opened.

## Main results

* `Connection.target_cases`, `Connection.IsShortFor.target_eq`: how an address becomes a target.
* `Connection.IsShortFor.unique`: the long form determines the short one.
* `Connection.newly_channelOpened_connect`: the channels that connecting opens.
* `Connection.target_shared_by_short_form_only`: which addresses are dialed at one target.
-/

namespace PluginHarness

open Attempt World

/-- The target of a channel that was opened. -/
def Event.channelOpened? : Event → Option String
  | .channelOpened target => some target
  | _ => none

theorem Event.isAbout_channelOpened : IsAbout channelOpened? .dialing := by
  intro e h
  cases e <;> first | rfl | cases h

namespace Connection

/-- The address is an absolute path, or a name without a colon that is no absolute path, and the
other one is the same with its scheme. -/
inductive IsShortFor : String → String → Prop
  | absolute {path : String} (hslash : "/".toList <+: path.toList) :
      IsShortFor path ("unix://" ++ path)
  | relative {name : String} (hslash : ¬ "/".toList <+: name.toList) (hcolon : ':' ∉ name.toList) :
      IsShortFor name ("unix:" ++ name)

variable {a b long : String}

/-! ### Targets -/

theorem isPrefixOf_iff {p s : String} : p.isPrefixOf s = true ↔ p.toList <+: s.toList :=
  String.startsWith_string_iff

theorem target_of_scheme (h : "unix:".toList <+: a.toList) : target a = a :=
  if_pos (isPrefixOf_iff.mpr h)

/-- An address is its own target, or it is short for its target. -/
theorem target_cases (a : String) : target a = a ∨ IsShortFor a (target a) := by
  unfold target
  split_ifs with hscheme hslash hcolon
  · exact .inl rfl
  · exact .inr (.absolute (isPrefixOf_iff.mp hslash))
  · exact .inl rfl
  · exact .inr (.relative (fun h => hslash (isPrefixOf_iff.mpr h)) (by simpa using hcolon))

/-- If the scheme of a name is that of a path, the slashes are read as the beginning of the name. -/
theorem slash_of_schemes_eq {path name : String} (h : "unix://" ++ path = "unix:" ++ name) :
    "/".toList <+: name.toList := by
  have hlists : "unix:".toList ++ ("//".toList ++ path.toList) = "unix:".toList ++ name.toList := by
    rw [← String.toList_append (t := name), ← h, String.toList_append, ← List.append_assoc]
    rfl
  rw [← List.append_cancel_left hlists]
  exact (show "/".toList <+: "//".toList by decide).trans (List.prefix_append _ _)

namespace IsShortFor

/-- A short form does not name a scheme. -/
theorem not_scheme (h : IsShortFor a long) : ¬ "unix:".toList <+: a.toList := by
  intro hscheme
  cases h with
  | absolute hslash =>
    have hfirst : "/".toList <+: "unix:".toList :=
      List.prefix_of_prefix_length_le hslash hscheme (by decide)
    exact absurd hfirst (by decide)
  | relative _ hcolon => exact hcolon (hscheme.subset (by decide))

/-- A short form has its long form as its target. -/
theorem target_eq (h : IsShortFor a long) : target a = long := by
  unfold target
  rw [if_neg fun hscheme => h.not_scheme (isPrefixOf_iff.mp hscheme)]
  cases h with
  | absolute hslash => rw [if_pos (isPrefixOf_iff.mpr hslash)]
  | relative hslash hcolon =>
    rw [if_neg fun h => hslash (isPrefixOf_iff.mp h), if_neg (by simpa using hcolon)]

/-- A long form is its own target. -/
theorem target_long (h : IsShortFor a long) : target long = long := by
  refine target_of_scheme ?_
  cases h with
  | absolute _ =>
    rw [String.toList_append]
    exact (show "unix:".toList <+: "unix://".toList by decide).trans (List.prefix_append _ _)
  | relative _ _ =>
    rw [String.toList_append]
    exact List.prefix_append _ _

theorem spelled (h : IsShortFor a long) :
    "/".toList <+: a.toList ∧ long = "unix://" ++ a ∨
      ¬ "/".toList <+: a.toList ∧ long = "unix:" ++ a := by
  cases h with
  | absolute hslash => exact .inl ⟨hslash, rfl⟩
  | relative hslash _ => exact .inr ⟨hslash, rfl⟩

/-- The long form determines the short one. -/
theorem unique (h : IsShortFor a long) (h' : IsShortFor b long) : a = b := by
  rcases h.spelled with ⟨-, heq⟩ | ⟨hslash, heq⟩ <;>
    rcases h'.spelled with ⟨-, heq'⟩ | ⟨hslash', heq'⟩
  · exact (String.append_right_inj _).mp (heq.symm.trans heq')
  · exact absurd (slash_of_schemes_eq (heq.symm.trans heq')) hslash'
  · exact absurd (slash_of_schemes_eq (heq'.symm.trans heq)) hslash
  · exact (String.append_right_inj _).mp (heq.symm.trans heq')

end IsShortFor

theorem target_target (a : String) : target (target a) = target a := by
  rcases target_cases a with h | h
  · rw [h, h]
  · exact h.target_long

theorem target_eq_target_iff :
    target a = target b ↔ a = b ∨ IsShortFor a b ∨ IsShortFor b a := by
  constructor
  · intro h
    rcases target_cases a with ha | ha <;> rcases target_cases b with hb | hb
    · exact .inl (ha.symm.trans (h.trans hb))
    · rw [← h, ha] at hb
      exact .inr (.inr hb)
    · rw [h, hb] at ha
      exact .inr (.inl ha)
    · rw [h] at ha
      exact .inl (ha.unique hb)
  · rintro (rfl | h | h)
    · rfl
    · rw [h.target_eq, h.target_long]
    · rw [h.target_eq, h.target_long]

/-! ### Channels -/

/-- Connecting opens one channel, to the target of the address, unless there is no address. -/
theorem newly_channelOpened_connect (address : String) (deadline : Deadline) (w : World) :
    newly Event.channelOpened? w (connect address deadline w).2 =
      if address = "" then [] else [target address] := by
  by_cases ha : address = ""
  · rw [connect, if_pos ha, if_pos ha]
    exact newly_self w
  · let events := channelEvents address deadline
    let w' := w.grown events (w.opened + 1)
    have hopened : newly Event.channelOpened? w w' = [target address] := newly_grown w events _
    rw [if_neg ha]
    rcases connect_of_ne ha deadline w with hrun | ⟨e, hrun⟩
    · rw [hrun]
      exact hopened
    · -- closing the channel again opens no other
      have hclose : Confined [.closing] w' (close w'.opened w').2 :=
        close_respects (List.mem_singleton_self _) w'.opened w'
      rw [hrun, newly_append (List.suffix_append events w.history) hclose.suffix, hopened,
        hclose.newly_eq_nil Event.isAbout_channelOpened (by simp), List.append_nil]

/-- **Addresses are dialed at one target only if they are one or one is short for the other.**
Translating a target changes nothing. Connecting to an address opens a channel to its target, unless
the address is empty, and channels that are opened for two addresses have one target only in the two
cases. -/
theorem target_shared_by_short_form_only (a b : String) :
    target (target a) = target a ∧
    (target a = target b ↔ a = b ∨ IsShortFor a b ∨ IsShortFor b a) ∧
    (∀ deadline w, newly Event.channelOpened? w (connect a deadline w).2 =
      if a = "" then [] else [target a]) ∧
    ∀ deadline deadline' w w' channel,
      channel ∈ newly Event.channelOpened? w (connect a deadline w).2 →
      channel ∈ newly Event.channelOpened? w' (connect b deadline' w').2 →
      a = b ∨ IsShortFor a b ∨ IsShortFor b a := by
  refine ⟨target_target a, target_eq_target_iff, newly_channelOpened_connect a,
    fun deadline deadline' w w' channel ha hb => target_eq_target_iff.mp ?_⟩
  have htarget {address : String} {deadline : Deadline} {w : World}
      (h : channel ∈ newly Event.channelOpened? w (connect address deadline w).2) :
      channel = target address := by
    rw [newly_channelOpened_connect] at h
    split at h
    · cases h
    · exact List.mem_singleton.mp h
  rw [← htarget ha, ← htarget hb]

end Connection

end PluginHarness
