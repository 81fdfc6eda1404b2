import Errand.Notify
import Errand.Proofs.Template.Holes
import Errand.Proofs.Text.Trimming

/-!
# Errand — what a reply says

A template of text and holes makes a reply that says what it is given, to the letter: the values
are put out as they are and never read as a template. The stock template is one of these, so it
makes the stock wording, which also stands in for every template that fails.

A template loses a carriage return at its very end, as it would lose a line feed; so what is
dropped is put back before the two sides are compared.

* `summaryOrNote_eq`    — a summary is shown as it is, if it shows anything.
* `replyText_segments`  — the reply of a template of text and holes.
* `replyText_stock`     — the reply of the stock template.
* `replyText_verbatim`  — what replies say, for every template of text and holes.
-/

namespace Errand

open Template
open Text (Shows)

theorem summaryOrNote_eq (summary : String) :
    summaryOrNote summary = if Shows summary then summary else "No summary available" := by
  by_cases hShows : Shows summary
  · rw [if_pos hShows, summaryOrNote, Text.isBlank_eq_false_iff.mpr hShows]
    rfl
  · rw [if_neg hShows, summaryOrNote,
      Bool.eq_true_of_not_eq_false (mt Text.isBlank_eq_false_iff.mp hShows)]
    rfl

theorem replyText_marks {template : String} {marks : List Mark} (hMarks : Tagless marks)
    (hTemplate : dropFinalNewline template.toList = marks.flatMap Mark.source)
    (success : Bool) (summary : String) :
    replyText template success summary = String.ofList
      (marks.flatMap (Mark.filled (statusWord success) (summaryOrNote summary))) := by
  simp [replyText, render?_marks hMarks hTemplate]

/-- What is dropped at the end of a template that does not end in a line feed. -/
def droppedEnd (template : String) : String :=
  if template.toList.getLast? = some '\r' then "\r" else ""

theorem replyText_segments {segments : List Segment} (hPlain : ∀ g ∈ segments, g.Plain)
    (hEnd : (sourceOf segments).toList.getLast? ≠ some '\n') (success : Bool) (summary : String) :
    replyText (sourceOf segments) success summary ++ droppedEnd (sourceOf segments) =
      filledIn (statusWord success) (summaryOrNote summary) segments := by
  have hMarks := Segment.Plain.tagless hPlain
  have hSource := toList_sourceOf segments
  rw [← String.toList_inj, String.toList_append, toList_filledIn]
  by_cases hReturn : (sourceOf segments).toList.getLast? = some '\r'
  case neg =>
    -- The template is read as it stands.
    rw [droppedEnd, if_neg hReturn,
      replyText_marks hMarks ((dropFinalNewline_of_ne hEnd hReturn).trans hSource)]
    simp
  case pos =>
    -- The return is the last mark, so what is read are the marks before it.
    obtain ⟨init, hInit⟩ := exists_return (hSource ▸ hReturn)
    rw [hInit] at hMarks hSource ⊢
    have hDropped : dropFinalNewline (sourceOf segments).toList = init.flatMap Mark.source := by
      rw [hSource, List.flatMap_append]
      exact dropFinalNewline_return _
    rw [droppedEnd, if_pos hReturn, replyText_marks hMarks.front hDropped]
    simp [Mark.filled]

/-- The stock template in its segments. -/
def stockSegments : List Segment :=
  [.literal "Task ", .hole .status, .literal ": ", .hole .summary]

theorem replyText_stock (success : Bool) (summary : String) :
    replyText ({} : NotifySettings).template success summary =
      stockReply (statusWord success) (summaryOrNote summary) := by
  have hSource : ({} : NotifySettings).template = sourceOf stockSegments := by decide
  have hPlain : ∀ g ∈ stockSegments, g.Plain := by simp [stockSegments, Segment.Plain]
  have hFilled := replyText_segments hPlain (by decide) success summary
  have hDropped : droppedEnd (sourceOf stockSegments) = "" := by decide
  rw [hDropped, String.append_empty] at hFilled
  rw [hSource, hFilled]
  simp [filledIn, stockSegments, Segment.filled, Hole.filled, stockReply, String.append_assoc]

/-- What a reply says, if these are the words for the status and for the summary. -/
structure Verbatim (success : Bool) (summary status shown : String) : Prop where
  /-- Of text and holes the reply is the text with the holes filled, to the letter. -/
  filled : ∀ segments, (∀ g ∈ segments, g.Plain) →
    (sourceOf segments).toList.getLast? ≠ some '\n' →
    replyText (sourceOf segments) success summary ++ droppedEnd (sourceOf segments) =
      filledIn status shown segments
  /-- The stock template makes the stock wording. -/
  stock : replyText ({} : NotifySettings).template success summary = stockReply status shown
  /-- So does every template that fails. -/
  failing : ∀ template, render? template (replyNames status shown) = none →
    replyText template success summary =
      replyText ({} : NotifySettings).template success summary

/-- **A reply says what it is given, to the letter**, whatever the summary looks like; a template
that fails makes the same reply as the stock template. -/
theorem replyText_verbatim (success : Bool) (summary : String) :
    Verbatim success summary (if success then "completed" else "failed")
      (if Shows summary then summary else "No summary available") := by
  rw [← summaryOrNote_eq]
  exact {
    filled := fun segments hPlain hEnd => replyText_segments hPlain hEnd success summary
    stock := replyText_stock success summary
    failing := by
      intro template hFails
      rw [replyText_stock, replyText]
      exact congrArg (Option.getD · _) hFails }

/-- A summary that looks like a template, with quotes, markup and line breaks. -/
def wildSummary : String :=
  "\x7b\x7b status \x7d\x7d <b>\"it's\"</b>\r\n \x7b% if %\x7d "

/-- A template with white space around its holes. -/
def spacedSegments : List Segment :=
  [.literal " [", .hole .status, .literal "] ", .hole .summary, .literal " "]

theorem replyText_verbatim_wild :
    (∀ g ∈ spacedSegments, g.Plain) ∧ (sourceOf spacedSegments).toList.getLast? ≠ some '\n' ∧
      replyText (sourceOf spacedSegments) false wildSummary =
        " [failed] " ++ wildSummary ++ " " := by
  have hPlain : ∀ g ∈ spacedSegments, g.Plain := by simp [spacedSegments, Segment.Plain]
  have hEnd : (sourceOf spacedSegments).toList.getLast? ≠ some '\n' := by decide
  have hFilled := (replyText_verbatim false wildSummary).filled spacedSegments hPlain hEnd
  have hDropped : droppedEnd (sourceOf spacedSegments) = "" := by decide
  have hShows : Shows wildSummary := by decide
  rw [hDropped, String.append_empty, if_pos hShows] at hFilled
  exact ⟨hPlain, hEnd, hFilled.trans (by decide)⟩

/-- The reply of a template that ends in a carriage return is not the text with the hole filled. -/
theorem replyText_return :
    (∀ g ∈ [Segment.hole .summary, .literal "\r"], g.Plain) ∧
      (sourceOf [.hole .summary, .literal "\r"]).toList.getLast? ≠ some '\n' ∧
      replyText (sourceOf [.hole .summary, .literal "\r"]) true "ok" = "ok" ∧
      replyText (sourceOf [.hole .summary, .literal "\r"]) true "ok" ≠
        filledIn "completed" "ok" [.hole .summary, .literal "\r"] := by
  have hMarks : Tagless [.hole .summary] := by simp [Tagless]
  have hDropped : dropFinalNewline (sourceOf [.hole .summary, .literal "\r"]).toList =
      [Mark.hole .summary].flatMap Mark.source := by decide
  have hText : replyText (sourceOf [.hole .summary, .literal "\r"]) true "ok" = "ok" :=
    (replyText_marks hMarks hDropped true "ok").trans (by decide)
  refine ⟨by simp [Segment.Plain], by decide, hText, ?_⟩
  rw [hText]
  decide

end Errand
