import Errand.Json.Printer

/-!
# Errand — compact text is one line

The compact layout puts nothing between the tokens, a number has no line feed in any of its
spellings, and inside a string a line feed stands as its escape. So whatever a value holds, a
report that quotes it by its compact text stays on one line.

* `Number.Double.newline_not_mem_compactText` — the text of a double has no line feed.
* `Json.newline_not_mem_compact`              — the compact text of a value has none.
-/

namespace Errand

-- ---------------------------------------------------------------------------
-- Numbers
-- ---------------------------------------------------------------------------

namespace Number

theorem newline_not_mem_toDigits (n : Nat) : '\n' ∉ Nat.toDigits 10 n := fun h =>
  absurd (Nat.isDigit_of_mem_toDigits (by decide) (by decide) h) (by decide)

theorem Decimal.newline_not_mem_positional (x : Decimal) :
    '\n' ∉ x.positional.1 ∧ '\n' ∉ x.positional.2 := by
  have hDigits : '\n' ∉ digitText x.digits := newline_not_mem_toDigits x.digits
  unfold positional
  dsimp only
  split
  · simp [hDigits]
  · split
    · exact ⟨fun h => hDigits (List.mem_of_mem_take h), fun h => hDigits (List.mem_of_mem_drop h)⟩
    · simp [hDigits]

theorem Decimal.newline_not_mem_scientific (x : Decimal) : '\n' ∉ x.scientific := by
  have hDigits : '\n' ∉ digitText x.digits := newline_not_mem_toDigits x.digits
  have hPower : '\n' ∉ digitText x.leading.natAbs := newline_not_mem_toDigits _
  have hTake : '\n' ∉ (digitText x.digits).take 1 := fun h => hDigits (List.mem_of_mem_take h)
  have hDrop : '\n' ∉ (digitText x.digits).drop 1 := fun h => hDigits (List.mem_of_mem_drop h)
  unfold scientific
  dsimp only
  simp only [List.mem_append, List.mem_cons, hTake, hPower, false_or, or_false]
  split <;> split <;> simp_all

theorem Double.newline_not_mem_compactText (d : Double) : '\n' ∉ d.compactText.toList := by
  have hPositional := (Decimal.shortest d).newline_not_mem_positional
  have hScientific := (Decimal.shortest d).newline_not_mem_scientific
  unfold compactText Decimal.compact
  simp only [String.toList_ofList, List.mem_append]
  rintro (h | h)
  · split at h <;> simp at h
  · split at h
    · rcases List.mem_append.mp h with h | h
      · exact hPositional.1 h
      · split at h <;> simp_all
    · exact hScientific h

end Number

-- ---------------------------------------------------------------------------
-- Values
-- ---------------------------------------------------------------------------

namespace Json

theorem newline_not_mem_text (n : Number) : '\n' ∉ n.text.toList := by
  cases n with
  | int n =>
    rw [Number.text, Int.toString_eq_repr, Int.repr_eq_if]
    split
    · rw [Nat.toList_repr]
      exact Number.newline_not_mem_toDigits _
    · rw [String.toList_append, Nat.toList_repr]
      simpa using Number.newline_not_mem_toDigits _
  | double d => exact d.newline_not_mem_compactText

theorem newline_ne_hexDigit (n : Nat) : '\n' ≠ hexDigit n := by
  have hAll : ∀ m < 16, '\n' ≠ (Nat.toDigits 16 m).headD '0' := by decide
  exact hAll (n % 16) (Nat.mod_lt n (by decide))

/-- A line feed stands as its escape, so that no character leaves one. -/
theorem newline_not_mem_escapeChar (c : Char) : '\n' ∉ escapeChar c := by
  unfold escapeChar
  split
  · simp
  split
  · simp
  split
  · simp
  case isFalse hFeed =>
    repeat' split
    all_goals simp [newline_ne_hexDigit, Ne.symm hFeed]

theorem newline_not_mem_quotedChars (s : String) : '\n' ∉ quotedChars s := by
  simp [quotedChars, newline_not_mem_escapeChar]

mutual
theorem newline_not_mem_compactChars : ∀ v : Json, '\n' ∉ compactChars v
  | .null => by simp [compactChars]
  | .bool true => by simp [compactChars]
  | .bool false => by simp [compactChars]
  | .number n => by simpa only [compactChars] using newline_not_mem_text n
  | .string s => by simpa only [compactChars] using newline_not_mem_quotedChars s
  | .array items => by simp [compactChars, newline_not_mem_compactItems items]
  | .object members => by simp [compactChars, newline_not_mem_compactMembers members]

theorem newline_not_mem_compactItems : ∀ items : List Json, '\n' ∉ compactItems items
  | [] => by simp [compactItems]
  | [item] => by simpa only [compactItems] using newline_not_mem_compactChars item
  | item :: next :: rest => by
    simp [compactItems, newline_not_mem_compactChars item,
      newline_not_mem_compactItems (next :: rest)]

theorem newline_not_mem_compactMembers :
    ∀ members : List (String × Json), '\n' ∉ compactMembers members
  | [] => by simp [compactMembers]
  | [(name, value)] => by
    simp [compactMembers, newline_not_mem_quotedChars, newline_not_mem_compactChars value]
  | (name, value) :: next :: rest => by
    simp [compactMembers, newline_not_mem_quotedChars, newline_not_mem_compactChars value,
      newline_not_mem_compactMembers (next :: rest)]
end

/-- **The compact text of a value is one line.** -/
theorem newline_not_mem_compact (v : Json) : '\n' ∉ v.compact.toList := by
  rw [compact, String.toList_ofList]
  exact newline_not_mem_compactChars v

end Json

end Errand
