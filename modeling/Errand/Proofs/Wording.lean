import Errand.Mode
import Errand.Proofs.Text.Lowering

/-!
# Errand — the mode that a wording asks for

The words that decide how thorough a run is are looked for in the lowered text, and the
length of the text is counted in the text itself. Every one of these words is sturdy, so a
word counts exactly if a stretch of the text is that word in some case of its ASCII letters,
whatever stands around it. A text keeps its mode in any other case of its ASCII letters.

* `Mode.Mentions`       — a text has one of some words in it, in any case.
* `Mode.mentions_iff`   — exactly those are found in the lowered text.
* `Mode.select_wording` — the mode of every text.
-/

namespace Errand.Mode

open Text (Spells)

variable {text : String} {words : List String}

/-- The words that decide about the mode. -/
def keywords : List String := trivialWords ++ demandingWords

/-- The text has one of the words in it, in any case of its ASCII letters. -/
def Mentions (text : String) (words : List String) : Prop := ∃ w ∈ words, Spells text w

/-- None of the words is made or broken by lowering a text. -/
theorem sturdy_of_mem_keywords : ∀ w ∈ keywords, Text.Sturdy w.toList := by
  decide +kernel

/-- The words are found in the lowered text exactly if they are in the text. -/
theorem mentions_iff (h : words ⊆ keywords) (text : String) :
    mentions (Text.lowercase text).toList words = true ↔ Mentions text words := by
  rw [mentions, List.any_eq_true]
  refine exists_congr fun w => and_congr_right fun hw => ?_
  exact Text.contains_lowercase_iff (sturdy_of_mem_keywords w (h hw))

theorem mentions_trivial_iff (text : String) :
    mentions (Text.lowercase text).toList trivialWords = true ↔ Mentions text trivialWords :=
  mentions_iff (List.subset_append_left _ _) text

theorem mentions_demanding_iff (text : String) :
    mentions (Text.lowercase text).toList demandingWords = true ↔ Mentions text demandingWords :=
  mentions_iff (List.subset_append_right _ _) text

/-- The two texts differ in the case of ASCII letters at most. -/
def SameButCase (text other : String) : Prop :=
  text.toList.map Text.lowerAscii = other.toList.map Text.lowerAscii

theorem SameButCase.mentions_iff {other : String} (h : SameButCase text other) :
    Mentions text words ↔ Mentions other words := by
  refine exists_congr fun w => and_congr_right fun _ => ?_
  have hSpells : ∀ t : String, Spells t w ↔ w.toList <:+: t.toList.map Text.lowerAscii := by
    intro t
    rw [List.infix_map_iff]
    exact exists_congr fun stretch => and_congr_right fun _ => eq_comm
  rw [hSpells, hSpells, h]

theorem SameButCase.length_eq {other : String} (h : SameButCase text other) :
    text.length = other.length := by
  have hLength := congrArg List.length h
  rwa [List.length_map, List.length_map, String.length_toList, String.length_toList] at hLength

-- ---------------------------------------------------------------------------
-- The choice
-- ---------------------------------------------------------------------------

theorem select_of_trivial (h : Mentions text trivialWords) : select text = .lite := by
  rw [select, if_pos ((mentions_trivial_iff text).mpr h)]

/-- Without a word of small edits a text asks for the full mode if it is long or names
demanding work. -/
theorem select_eq_full_iff (h : ¬ Mentions text trivialWords) :
    select text = .full ↔ 50 ≤ text.toList.length ∨ Mentions text demandingWords := by
  have hShort : text.length < shortLength ↔ ¬ 50 ≤ text.toList.length := by
    rw [String.length_toList, Nat.not_le]
    exact Iff.rfl
  rw [select, if_neg (mt (mentions_trivial_iff text).mp h), ← mentions_demanding_iff]
  by_cases hLong : 50 ≤ text.toList.length
  · rw [if_neg (mt hShort.mp (not_not_intro hLong))]
    exact iff_of_true rfl (.inl hLong)
  · rw [if_pos (hShort.mpr hLong), or_iff_right hLong]
    split
    · rename_i hDemanding
      exact iff_of_true rfl hDemanding
    · rename_i hPlain
      exact iff_of_false nofun hPlain

theorem ne_full_iff {m : Mode} : m ≠ .full ↔ m = .lite := by
  cases m <;> decide

/-- How the wording of a text decides. -/
structure Wording (text : String) : Prop where
  /-- A word is found exactly if the text has it in some case of its ASCII letters. -/
  found : ∀ w ∈ keywords, Text.contains (Text.lowercase text).toList w.toList = true ↔
    ∃ before stretch after, text.toList = before ++ stretch ++ after ∧
      stretch.map Text.lowerAscii = w.toList
  /-- A word of small edits means a single pass. -/
  trivial : Mentions text trivialWords → select text = .lite
  /-- Without one, the full mode is for long texts and for those that name demanding work, -/
  full_iff : ¬ Mentions text trivialWords →
    (select text = .full ↔ 50 ≤ text.toList.length ∨ Mentions text demandingWords)
  /-- and a single pass for the others. -/
  lite_iff : ¬ Mentions text trivialWords →
    (select text = .lite ↔ text.toList.length < 50 ∧ ¬ Mentions text demandingWords)
  /-- The case of ASCII letters makes no difference. -/
  caseBlind : ∀ other, SameButCase text other → select other = select text

/-- **The mode of every text**, by the words that stand in it and by its length. -/
theorem select_wording (text : String) : Wording text where
  found := by
    intro w hw
    rw [Text.contains_lowercase_iff (sturdy_of_mem_keywords w hw)]
    constructor
    · rintro ⟨stretch, ⟨before, after, hText⟩, hWord⟩
      exact ⟨before, stretch, after, hText.symm, hWord⟩
    · rintro ⟨before, stretch, after, hText, hWord⟩
      exact ⟨stretch, ⟨before, after, hText.symm⟩, hWord⟩
  trivial := select_of_trivial
  full_iff := select_eq_full_iff
  lite_iff := by
    intro h
    rw [← ne_full_iff, ne_eq, select_eq_full_iff h, not_or, Nat.not_le]
  caseBlind := by
    intro other hSame
    by_cases h : Mentions text trivialWords
    · rw [select_of_trivial h, select_of_trivial (hSame.mentions_iff.mp h)]
    · have hFull : select other = .full ↔ select text = .full := by
        rw [select_eq_full_iff h, select_eq_full_iff (mt hSame.mentions_iff.mpr h),
          hSame.mentions_iff, String.length_toList, String.length_toList, hSame.length_eq]
      cases hText : select text with
      | full => exact hFull.mpr hText
      | lite => exact ne_full_iff.mp (mt hFull.mp (by rw [hText]; nofun))

/-- A long text with half of a word in it: the dotted capital does not count as an `I`. -/
theorem select_wording_dotted :
    let text := "Leave the word capİtalize as it stands in both of the examples"
    ¬ Mentions text trivialWords ∧ 50 ≤ text.toList.length ∧ select text = .full := by
  intro text
  have hNone : ¬ Mentions text trivialWords := by
    rw [← mentions_trivial_iff]
    decide +kernel
  exact ⟨hNone, by decide, ((select_wording text).full_iff hNone).mpr (.inl (by decide))⟩

end Errand.Mode
