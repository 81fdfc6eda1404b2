import Errand.Proofs.Config.Accepted
import Errand.Publish

/-!
# Errand — requests with every blank part filled in

A part of a discovered issue that shows something is passed on to the tracker, trimmed; a
blank one gives way to the default of the settings. So no part of a request is blank unless a
default is. The rules for settings see to the label and to the default title, and the default
priority is a number; no rule is about the default type, so this one may be blank, and the
request is then as blank as the settings are.

* `IssueRequest.Shown`        — the parts of a request that accepted settings keep from being
  blank.
* `IssueRequest.Carries`      — a request carries on what an issue shows of itself.
* `buildRequest_shown`        — the requests under accepted settings.
* `buildRequest_typeless`     — a request with a blank type under accepted settings.
-/

namespace Errand

open Text (Shows Trimmed nonBlank?)

-- ---------------------------------------------------------------------------
-- One part of a request
-- ---------------------------------------------------------------------------

section Part

variable {part : Option String} {default s t : String}

theorem bind_nonBlank?_eq_some_iff :
    part.bind nonBlank? = some t ↔ ∃ s ∈ part, Shows s ∧ Trimmed s.toList t.toList := by
  simp only [Option.bind_eq_some_iff, Text.nonBlank?_eq_some_iff, Option.mem_def]

/-- What is given and shows something is kept, trimmed. -/
theorem trimmed_bind_nonBlank? (hs : s ∈ part) (shows : Shows s) :
    ∃ t, part.bind nonBlank? = some t ∧ Trimmed s.toList t.toList :=
  ⟨Text.trim s, bind_nonBlank?_eq_some_iff.mpr ⟨s, hs, shows, Text.trimmed_trim s⟩,
    Text.trimmed_trim s⟩

/-- A part with a default shows something exactly if what is given does, or the default. -/
theorem shows_getD_iff :
    Shows ((part.bind nonBlank?).getD default) ↔ (∃ s ∈ part, Shows s) ∨ Shows default := by
  cases hPart : part.bind nonBlank? with
  | some t =>
    obtain ⟨s, hs, shows, trimmed⟩ := bind_nonBlank?_eq_some_iff.mp hPart
    exact iff_of_true (trimmed.shows_iff.mpr shows) (.inl ⟨s, hs, shows⟩)
  | none =>
    have hNone : ¬ ∃ s ∈ part, Shows s := by
      rintro ⟨s, hs, shows⟩
      obtain ⟨t, hSome, -⟩ := trimmed_bind_nonBlank? hs shows
      cases hPart.symm.trans hSome
    rw [Option.getD_none, or_iff_right hNone]

end Part

/-- A number shows something: its last digit. -/
theorem Text.shows_toString (n : Int) : Shows (toString n) := by
  have hDigits (m : Nat) : ∃ c ∈ Nat.toDigits 10 m, Text.isSpace c = false := by
    obtain ⟨c, hc⟩ := List.exists_mem_of_ne_nil _ (Nat.toDigits_ne_nil (b := 10) (n := m))
    exact ⟨c, hc, Text.isSpace_of_isDigit (Nat.isDigit_of_mem_toDigits (by decide) (by decide) hc)⟩
  rw [Shows, Int.toString_eq_repr, Int.repr_eq_if]
  split
  · rw [Nat.toList_repr]
    exact hDigits _
  · obtain ⟨c, hc, hSpace⟩ := hDigits (-n).toNat
    refine ⟨c, ?_, hSpace⟩
    rw [String.toList_append, Nat.toList_repr]
    exact List.mem_append_right _ hc

-- ---------------------------------------------------------------------------
-- Requests
-- ---------------------------------------------------------------------------

/-- The parts of a request that show something, but for its type. -/
structure IssueRequest.Shown (r : IssueRequest) : Prop where
  title : Shows r.title
  priority : Shows r.priority
  label : Shows r.label
  description : ∀ d ∈ r.description, Shows d

/-- What an issue shows of itself a request carries on: texts trimmed, a priority as it reads. -/
structure IssueRequest.Carries (issue : DiscoveredIssue) (r : IssueRequest) : Prop where
  title : ∀ s ∈ issue.title, Shows s → Trimmed s.toList r.title.toList
  issueType : ∀ s ∈ issue.issueType, Shows s → Trimmed s.toList r.issueType.toList
  description : ∀ s ∈ issue.description, Shows s →
    ∃ d ∈ r.description, Trimmed s.toList d.toList
  priority : ∀ p ∈ issue.priority, Shows p.text → r.priority = p.text

theorem buildRequest_carries (settings : TrackerSettings) (issue : DiscoveredIssue) :
    (buildRequest settings issue).Carries issue where
  title s hs shows := by
    obtain ⟨t, hSome, trimmed⟩ := trimmed_bind_nonBlank? hs shows
    simpa [buildRequest, hSome] using trimmed
  issueType s hs shows := by
    obtain ⟨t, hSome, trimmed⟩ := trimmed_bind_nonBlank? hs shows
    simpa [buildRequest, hSome] using trimmed
  description s hs shows := by
    obtain ⟨t, hSome, trimmed⟩ := trimmed_bind_nonBlank? hs shows
    exact ⟨t, hSome, trimmed⟩
  priority p hp shows := by
    have hBlank := Text.isBlank_eq_false_iff.mpr shows
    simp [buildRequest, Option.mem_def.mp hp, Option.filter, hBlank]

/-- The priority of a request is one that the issue shows, or the default. -/
theorem shows_priority (settings : TrackerSettings) (issue : DiscoveredIssue) :
    Shows (buildRequest settings issue).priority := by
  simp only [buildRequest]
  cases hPriority : (issue.priority.map Priority.text).filter fun p => !Text.isBlank p with
  | none => exact Text.shows_toString settings.defaultPriority
  | some p =>
    have hShown := (Option.filter_eq_some_iff.mp hPriority).2
    exact Text.isBlank_eq_false_iff.mp (by simpa using hShown)

/--
**Under accepted settings no part of a request is blank but the type**, and the type is
blank exactly if both the issue's and the default one are. Whatever an issue shows of itself
is carried on.
-/
theorem buildRequest_shown {c : Config} (h : c.validate = .ok ()) (issue : DiscoveredIssue) :
    let r := buildRequest c.tracker issue
    r.Shown ∧ (Shows r.issueType ↔ (∃ s ∈ issue.issueType, Shows s) ∨ Shows c.tracker.defaultType) ∧
      r.Carries issue := by
  intro r
  refine ⟨?_, shows_getD_iff, buildRequest_carries c.tracker issue⟩
  exact {
    title := shows_getD_iff.mpr (.inr (Config.shows_defaultTitle h))
    priority := shows_priority c.tracker issue
    label := Config.shows_label h
    description := by
      intro d hd
      obtain ⟨s, -, shows, trimmed⟩ := bind_nonBlank?_eq_some_iff.mp hd
      exact trimmed.shows_iff.mpr shows }

/-- Of an issue with nothing but a type in white space, under the stock settings. -/
theorem buildRequest_shown_stock :
    let issue : DiscoveredIssue :=
      { title := some " ", issueType := some "\tbug\u3000", priority := some (.label "\u00a0") }
    let r := buildRequest ({} : Config).tracker issue
    ({} : Config).validate = .ok () ∧ r.Shown ∧ Shows r.issueType ∧ r.Carries issue ∧
      r = { title := "Discovered issue", issueType := "bug", priority := "2",
            label := "discovered:related" } := by
  intro issue r
  obtain ⟨shown, hType, carries⟩ := buildRequest_shown Config.validate_stock issue
  exact ⟨Config.validate_stock, shown, hType.mpr (.inr (by decide +kernel)), carries,
    by decide +kernel⟩

/-- No rule is about the default type. Under accepted settings with a blank one, an issue
without a type is filed with a blank type. -/
theorem buildRequest_typeless :
    let c : Config := { tracker := { defaultType := " " } }
    let r := buildRequest c.tracker { title := some "Flaky test" }
    c.validate = .ok () ∧ r.issueType = " " ∧ ¬ Shows r.issueType := by
  intro c r
  have hValid : c.validate = .ok () :=
    (Config.validate_defaultType {} " ").trans Config.validate_stock
  exact ⟨hValid, by decide +kernel, by decide +kernel⟩

end Errand
