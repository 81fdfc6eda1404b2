import Errand.Text.Blank

/-!
# Errand — texts cut into pieces

A text is cut at every character of a kind, and the pieces are what stands between the cuts.
Nothing is lost but the characters that it was cut at: what holds of all characters of the text
holds of all pieces, and pieces that are put together with a cut between them come out again.

* `all_splitOn`   — what holds of the characters of a text holds of its pieces.
* `splitOn_lines` — lines put under each other come out again.
-/

namespace Errand.Text

variable {p q : Char → Bool} {cs : List Char}

/-- All of a text is of a kind exactly if its pieces are, where what it is cut at is too. -/
theorem all_splitOn (hpq : ∀ c, p c = true → q c = true) (cs : List Char) :
    cs.all q = true ↔ ∀ piece ∈ splitOn p cs, piece.all q = true := by
  induction cs with
  | nil => simp [splitOn]
  | cons c rest ih =>
    rw [List.all_cons, Bool.and_eq_true, ih, splitOn]
    by_cases hp : p c = true
    · simp [hp, hpq c hp]
    · rw [if_neg hp]
      cases splitOn p rest with
      | nil => simp
      | cons piece pieces => simp [and_assoc]

/-- A text with nothing to cut it at is one piece. -/
theorem splitOn_of_forall (h : ∀ c ∈ cs, p c = false) : splitOn p cs = [cs] := by
  induction cs with
  | nil => rfl
  | cons c rest ih =>
    rw [List.forall_mem_cons] at h
    rw [splitOn, h.1, ih h.2]
    rfl

/-- What stands before the first cut is the first piece. -/
theorem splitOn_append (h : ∀ c ∈ cs, p c = false) {mark : Char} (hMark : p mark = true)
    (rest : List Char) : splitOn p (cs ++ mark :: rest) = cs :: splitOn p rest := by
  induction cs with
  | nil => rw [List.nil_append, splitOn, if_pos hMark]
  | cons c cs ih =>
    rw [List.forall_mem_cons] at h
    rw [List.cons_append, splitOn, h.1, ih h.2]
    rfl

/-- **Lines put under each other** come out again. -/
theorem splitOn_lines {first : List Char} {lines : List (List Char)} (hFirst : '\n' ∉ first)
    (h : ∀ line ∈ lines, '\n' ∉ line) :
    splitOn (· = '\n') (first ++ lines.flatMap fun line => '\n' :: line) = first :: lines := by
  have hWhole : ∀ cs : List Char, '\n' ∉ cs → ∀ c ∈ cs, decide (c = '\n') = false := by
    rintro cs hcs c hc
    exact decide_eq_false fun hEq => hcs (hEq ▸ hc)
  induction lines generalizing first with
  | nil => simpa using splitOn_of_forall (hWhole first hFirst)
  | cons line lines ih =>
    rw [List.forall_mem_cons] at h
    rw [List.flatMap_cons, List.cons_append, splitOn_append (hWhole first hFirst) (by decide),
      ih h.1 h.2]

end Errand.Text
