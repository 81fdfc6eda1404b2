import Mathlib
import Errand.Text.Blank
import Errand.Text.Letters

/-!
# Errand — words in lowered text

To look for a word in any case, a text is lowered and the word looked for in what comes
out. Lowering is not letter by letter, though: a capital sigma looks at its neighbours, the
dotted capital I becomes two characters, and the Kelvin sign becomes an ASCII letter. None
of that makes or breaks a word of ASCII letters that has no `k` and does not end in `i`. Such
a **sturdy** word is in the lowered text exactly if some stretch of the text itself is the
word once its capital ASCII letters are lowered.

* `Lowers`              — what one character of a text becomes.
* `Sturdy`              — the words that lowering neither makes nor breaks.
* `contains_lowercase_iff` — where such a word is found.
-/

namespace Errand.Text

variable {text word : List Char} {c : Char}

/-- To contain a text is to have it as a stretch of neighbouring characters. -/
theorem contains_iff_stretch {s sub : List Char} : contains s sub = true ↔ sub <:+: s := by
  induction s with
  | nil => rw [contains, List.isEmpty_iff, List.infix_nil]
  | cons c rest ih =>
    rw [contains, Bool.or_eq_true, List.isPrefixOf_iff_prefix, ih, List.infix_cons_iff]

-- ---------------------------------------------------------------------------
-- Single characters
-- ---------------------------------------------------------------------------

/-- An ASCII character that only itself and its capital become. The Kelvin sign becomes
a `k`. -/
def IsPlain (c : Char) : Prop := c.toNat < 128 ∧ c ≠ 'k'

instance : DecidablePred IsPlain := fun c => inferInstanceAs (Decidable (c.toNat < 128 ∧ c ≠ 'k'))

/-- What a character of a text can become when the text is lowered. -/
inductive Lowers : Char → List Char → Prop
  | ascii {c : Char} (h : c.toNat < 128) : Lowers c [lowerAscii c]
  | foreign {c d : Char} (h : 128 ≤ c.toNat) (hd : ¬ IsPlain d) : Lowers c [d]
  | dotted {c : Char} (h : 128 ≤ c.toNat) : Lowers c ['i', Char.ofNat 0x307]

/-- In the table of small letters the ASCII letters are a run of their own. -/
theorem map_lowerRanges_ascii : ∀ code < 128, CaseRange.map lowerRanges code =
    if 65 ≤ code ∧ code ≤ 90 then code + 32 else code := by
  decide +kernel

/-- The other runs lead from characters to characters beyond ASCII, but for one character
that leads to a `k`. -/
theorem lowerRanges_foreign : ∀ r ∈ lowerRanges, r.last < 128 ∨
    r.first = r.last ∧ Char.ofNat (r.first + r.delta).toNat = 'k' ∨
    128 ≤ r.first + r.delta ∧ (r.last + r.delta < 0xD800 ∨
      0xE000 ≤ r.first + r.delta ∧ r.last + r.delta < 0x110000) := by
  decide +kernel

theorem lowerChar_of_ascii (h : c.toNat < 128) : lowerChar c = [lowerAscii c] := by
  have hCapital : 'A' ≤ c ∧ c ≤ 'Z' ↔ 65 ≤ c.toNat ∧ c.toNat ≤ 90 := Iff.rfl
  have hDotless : ¬ c.toNat = 0x130 := by omega
  rw [lowerChar, if_neg hDotless, map_lowerRanges_ascii _ h, lowerAscii]
  by_cases hc : 65 ≤ c.toNat ∧ c.toNat ≤ 90
  · rw [if_pos hc, if_pos (hCapital.mpr hc)]
  · rw [if_neg hc, if_neg (mt hCapital.mp hc), Char.ofNat_toNat]

theorem lowerAscii_of_foreign (h : 128 ≤ c.toNat) : lowerAscii c = c := by
  refine if_neg fun hCapital => ?_
  have hLast : c.toNat ≤ 90 := hCapital.2
  omega

/-- What is beyond ASCII becomes no plain character. -/
theorem not_isPlain_map (h : 128 ≤ c.toNat) :
    ¬ IsPlain (Char.ofNat (CaseRange.map lowerRanges c.toNat)) := by
  rw [CaseRange.map]
  split
  case h_2 => exact fun hPlain => absurd hPlain.1 (by rw [Char.ofNat_toNat]; omega)
  case h_1 r hFound =>
    have hRun := List.find?_some hFound
    simp only [Bool.and_eq_true, decide_eq_true_eq] at hRun
    obtain ⟨⟨hFirst, hLast⟩, -⟩ := hRun
    rintro ⟨hAscii, hNotK⟩
    rcases lowerRanges_foreign r (List.mem_of_find?_eq_some hFound) with
      hSmall | ⟨hOne, hK⟩ | ⟨hLow, hHigh⟩
    · omega
    · have hCode : c.toNat = r.first := by omega
      exact hNotK (hCode ▸ hK)
    · have hValid : (c.toNat + r.delta).toNat.isValidChar := by
        rcases hHigh with hHigh | ⟨hLow', hHigh⟩
        · exact .inl (by omega)
        · exact .inr (by omega)
      rw [Char.toNat_ofNat, if_pos hValid] at hAscii
      omega

/-- **What one character becomes**, whatever stands around it. -/
theorem lowerFrom_cons (before : List Char) (c : Char) (rest : List Char) :
    ∃ here, lowerFrom before (c :: rest) = here ++ lowerFrom (c :: before) rest ∧
      Lowers c here := by
  refine ⟨_, rfl, ?_⟩
  by_cases hAscii : c.toNat < 128
  · have hSigma : ¬ c.toNat = 0x3A3 := by omega
    simp only [hSigma, decide_false, Bool.false_and, Bool.false_eq_true, if_false]
    rw [lowerChar_of_ascii hAscii]
    exact .ascii hAscii
  · rw [Nat.not_lt] at hAscii
    split
    · exact .foreign hAscii (by decide)
    · rw [lowerChar]
      split
      · exact .dotted hAscii
      · exact .foreign hAscii (not_isPlain_map hAscii)

-- ---------------------------------------------------------------------------
-- Words
-- ---------------------------------------------------------------------------

/-- A word that lowering neither makes nor breaks: plain characters, of which the last is no
`i`, since that may be half of a dotted one. -/
def Sturdy (word : List Char) : Prop :=
  word ≠ [] ∧ (∀ c ∈ word, IsPlain c) ∧ word.getLast? ≠ some 'i'

instance : DecidablePred Sturdy := fun word => decidable_of_iff
  (word ≠ [] ∧ word.all (fun c => decide (IsPlain c)) = true ∧ word.getLast? ≠ some 'i')
  (by simp only [Sturdy, List.all_eq_true, decide_eq_true_eq])

/-- What the lowered text starts with. The word may have been used up already. -/
theorem prefix_lowerFrom_iff (hPlain : ∀ c ∈ word, IsPlain c) (hLast : word.getLast? ≠ some 'i')
    (before : List Char) : word <+: lowerFrom before text ↔ word <+: text.map lowerAscii := by
  induction text generalizing word before with
  | nil => rfl
  | cons c rest ih =>
    cases word with
    | nil => exact iff_of_true List.nil_prefix List.nil_prefix
    | cons x word =>
      obtain ⟨hx, hTail⟩ := List.forall_mem_cons.mp hPlain
      obtain ⟨here, hHere, hLowers⟩ := lowerFrom_cons before c rest
      rw [hHere, List.map_cons, List.cons_prefix_cons]
      -- a plain character is none from beyond ASCII
      have hApart : 128 ≤ c.toNat → x ≠ lowerAscii c := by
        intro hc hEq
        rw [lowerAscii_of_foreign hc] at hEq
        exact absurd (hEq ▸ hx).1 (by omega)
      cases hLowers with
      | ascii h =>
        have hRest : word.getLast? ≠ some 'i' := by
          cases word with
          | nil => nofun
          | cons y word => rwa [List.getLast?_cons_cons] at hLast
        rw [List.singleton_append, List.cons_prefix_cons, ih hTail hRest]
      | foreign h hd =>
        rw [List.singleton_append, List.cons_prefix_cons]
        exact iff_of_false (fun hBoth => hd (hBoth.1 ▸ hx)) fun hBoth => hApart h hBoth.1
      | dotted h =>
        refine iff_of_false (fun hWord => ?_) fun hBoth => hApart h hBoth.1
        obtain ⟨hI, hMark⟩ := List.cons_prefix_cons.mp hWord
        cases word with
        | nil => exact hLast (hI ▸ rfl)
        | cons y word =>
          have hMarkPlain := (List.cons_prefix_cons.mp hMark).1 ▸ (List.forall_mem_cons.mp hTail).1
          exact absurd hMarkPlain (by decide)

/-- **Lowering neither makes nor breaks a sturdy word.** -/
theorem infix_lowerFrom_iff (hWord : Sturdy word) (before : List Char) :
    word <:+: lowerFrom before text ↔ word <:+: text.map lowerAscii := by
  obtain ⟨hNonempty, hPlain, hLast⟩ := hWord
  induction text generalizing before with
  | nil => rfl
  | cons c rest ih =>
    have hStart : word <+: lowerFrom before (c :: rest) ↔ word <+: (c :: rest).map lowerAscii :=
      prefix_lowerFrom_iff hPlain hLast before
    obtain ⟨here, hHere, hLowers⟩ := lowerFrom_cons before c rest
    rw [hHere] at hStart ⊢
    rw [List.map_cons] at hStart ⊢
    rw [List.infix_cons_iff, ← hStart, ← ih (c :: before)]
    cases hLowers with
    | ascii h => exact List.infix_cons_iff
    | foreign h hd => exact List.infix_cons_iff
    | dotted h =>
      -- the word cannot start in the middle of the two characters
      have hMiddle : ¬ word <+: Char.ofNat 0x307 :: lowerFrom (c :: before) rest := by
        intro hPrefix
        obtain ⟨x, word, rfl⟩ := List.exists_cons_of_ne_nil hNonempty
        have hMarkPlain := (List.cons_prefix_cons.mp hPrefix).1 ▸ (List.forall_mem_cons.mp hPlain).1
        exact absurd hMarkPlain (by decide)
      rw [List.cons_append, List.singleton_append, List.infix_cons_iff, List.infix_cons_iff,
        or_iff_right hMiddle]

/-- A stretch of the text is the word, once its capital ASCII letters are lowered. -/
def Spells (text : String) (word : String) : Prop :=
  ∃ stretch, stretch <:+: text.toList ∧ stretch.map lowerAscii = word.toList

/-- Where a sturdy word is found. -/
theorem contains_lowercase_iff {text word : String} (h : Sturdy word.toList) :
    contains (lowercase text).toList word.toList = true ↔ Spells text word := by
  rw [contains_iff_stretch, lowercase, String.toList_ofList, infix_lowerFrom_iff h,
    List.infix_map_iff]
  simp only [Spells, eq_comm]

end Errand.Text
