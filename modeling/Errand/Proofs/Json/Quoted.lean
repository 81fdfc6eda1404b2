import Errand.Proofs.Json.Grammar

/-!
# Errand — reading a string

The reader of the inside of a string against its grammar, in both directions. A
string ends at the first quote that is not behind a backslash, so nothing need be
asked of the text after it.

* `escape_eq_some_iff`  — a character behind a backslash is read exactly from its spellings.
* `stringBody_sound`    — what is read up to the closing quote is a spelling.
* `stringBody_complete` — a spelling is read.
-/

namespace Errand

open Number (natural? digitIn? digitValue?)

namespace Json

open Reader

-- ---------------------------------------------------------------------------
-- Hexadecimal digits
-- ---------------------------------------------------------------------------

theorem le_iff_toNat {a b : Char} : a ≤ b ↔ a.toNat ≤ b.toNat := by
  rw [Char.le_def, UInt32.le_iff_toNat_le]; rfl

/-- The two readings of a hexadecimal digit agree. -/
theorem hexValue?_eq (c : Char) : hexValue? c = digitIn? 16 c := by
  have hd : c.isDigit = true ↔ '0' ≤ c ∧ c ≤ '9' := by
    simp [Char.isDigit, Char.le_def]
  have hl : c.isLower = true ↔ 'a' ≤ c ∧ c ≤ 'z' := by
    simp [Char.isLower, Char.le_def]
  have hu : c.isUpper = true ↔ 'A' ≤ c ∧ c ≤ 'Z' := by
    simp [Char.isUpper, Char.le_def]
  simp only [hexValue?, digitIn?, digitValue?, hd, hl, hu, le_iff_toNat, Char.reduceToNat]
  grind

theorem hexFour_cons (a b c d : Char) (rest : List Char) :
    hexFour (a :: b :: c :: d :: rest) = (natural? 16 [a, b, c, d]).map (·, rest) := by
  simp only [hexFour, hexValue?_eq, natural?, List.mapM_cons, List.mapM_nil]
  rcases digitIn? 16 a with _ | a
  · rfl
  rcases digitIn? 16 b with _ | b
  · rfl
  rcases digitIn? 16 c with _ | c
  · rfl
  rcases digitIn? 16 d with _ | d
  · rfl
  simp

theorem hexFour_eq_some_iff {cs rest : List Char} {n : Nat} :
    hexFour cs = some (n, rest) ↔ ∃ hex, cs = hex ++ rest ∧ HexText hex n := by
  constructor
  · intro h
    match cs, h with
    | a :: b :: c :: d :: r, h =>
      rw [hexFour_cons] at h
      obtain ⟨_, hn, hEq⟩ := Option.map_eq_some_iff.mp h
      cases hEq
      exact ⟨[a, b, c, d], rfl, rfl, hn⟩
  · rintro ⟨hex, rfl, hLen, h⟩
    match hex, hLen with
    | [a, b, c, d], _ => exact (hexFour_cons a b c d rest).trans (by rw [h]; rfl)

theorem HexText.hexFour_append {hex : List Char} {n : Nat} (h : HexText hex n)
    (rest : List Char) : hexFour (hex ++ rest) = some (n, rest) :=
  hexFour_eq_some_iff.mpr ⟨hex, rfl, h⟩

-- ---------------------------------------------------------------------------
-- Escapes
-- ---------------------------------------------------------------------------

theorem unicodeEscape_sound {cs rest : List Char} {c : Char}
    (h : unicodeEscape cs = some (c, rest)) :
    ∃ e, cs = e ++ rest ∧ EscapeText ('u' :: e) c := by
  obtain ⟨⟨n, r⟩, hn, hc⟩ := Option.bind_eq_some_iff.mp h
  obtain ⟨hex, rfl, hHex⟩ := hexFour_eq_some_iff.mp hn
  simp only at hc
  split at hc
  · rename_i high
    split at hc
    · obtain ⟨⟨n', r'⟩, hn', hSecond⟩ := Option.bind_eq_some_iff.mp hc
      obtain ⟨hex', rfl, hHex'⟩ := hexFour_eq_some_iff.mp hn'
      split at hSecond
      · rename_i low
        simp only [Option.some.injEq, Prod.mk.injEq] at hSecond
        obtain ⟨rfl, rfl⟩ := hSecond
        exact ⟨_, by simp, .pair hHex hHex' high low⟩
      · cases hSecond
    · cases hc
  · rename_i high
    split at hc
    · cases hc
    · rename_i low
      cases hc
      exact ⟨hex, rfl, .unit hHex high low⟩

theorem escape_eq_some_iff {cs rest : List Char} {c : Char} :
    escape cs = some (c, rest) ↔ ∃ e, cs = e ++ rest ∧ EscapeText e c := by
  constructor
  · intro h
    unfold escape at h
    split at h
    case h_9 => 
      obtain ⟨e, rfl, he⟩ := unicodeEscape_sound h
      exact ⟨_, rfl, he⟩
    case h_10 => cases h
    all_goals
      cases h
      exact ⟨_, (List.singleton_append).symm, by constructor⟩
  · rintro ⟨e, rfl, he⟩
    cases he with
    | @unit hex _ h high low =>
      show unicodeEscape (hex ++ rest) = _
      simp only [unicodeEscape, h.hexFour_append, Option.bind_eq_bind, Option.bind_some]
      exact (if_neg high).trans (if_neg low)
    | @pair hex hex' _ _ h h' high low =>
      show unicodeEscape (hex ++ '\\' :: 'u' :: hex' ++ rest) = _
      simp only [unicodeEscape, List.append_assoc, List.cons_append, h.hexFour_append,
        h'.hexFour_append, Option.bind_eq_bind, Option.bind_some]
      exact (if_pos high).trans (if_pos low)
    | _ => rfl

-- ---------------------------------------------------------------------------
-- The inside of a string
-- ---------------------------------------------------------------------------

theorem stringBody_sound {fuel : Nat} {read cs rest : List Char} {s : String}
    (h : stringBody fuel read cs = some (s, rest)) :
    ∃ body out, cs = body ++ '"' :: rest ∧ StringText body out ∧
      s = String.ofList (read.reverse ++ out) := by
  induction fuel generalizing read cs with
  | zero => cases cs <;> cases h
  | succ fuel ih =>
    rcases cs with _ | ⟨c, cs⟩
    · cases h
    simp only [stringBody] at h
    split at h
    · rename_i hc
      subst hc
      cases h
      exact ⟨[], [], rfl, .nil, by simp⟩
    · rename_i quote
      split at h
      · rename_i hc
        subst hc
        split at h
        · rename_i e r he
          obtain ⟨text, rfl, hText⟩ := escape_eq_some_iff.mp he
          obtain ⟨body, out, rfl, hBody, rfl⟩ := ih h
          exact ⟨'\\' :: (text ++ body), e :: out, by simp, .escape hText hBody, by simp⟩
        · cases h
      · rename_i backslash
        split at h
        · cases h
        · rename_i control
          obtain ⟨body, out, rfl, hBody, rfl⟩ := ih h
          exact ⟨c :: body, c :: out, rfl, .plain quote backslash control hBody, by simp⟩

theorem stringBody_complete {body out : List Char} (h : StringText body out)
    (rest : List Char) : ∀ (fuel : Nat) (read : List Char), body.length < fuel →
      stringBody fuel read (body ++ '"' :: rest) =
        some (String.ofList (read.reverse ++ out), rest) := by
  induction h with
  | nil =>
    intro fuel read hFuel
    cases fuel with
    | zero => cases hFuel
    | succ fuel => simp [stringBody]
  | @plain c cs s quote backslash control _ ih =>
    intro fuel read hFuel
    cases fuel with
    | zero => cases hFuel
    | succ fuel =>
      have := ih fuel (c :: read) (Nat.lt_of_succ_lt_succ hFuel)
      simpa [stringBody, quote, backslash, control] using this
  | @escape e cs s c h _ ih =>
    intro fuel read hFuel
    cases fuel with
    | zero => cases hFuel
    | succ fuel =>
      have hRead : escape (e ++ (cs ++ '"' :: rest)) = some (c, cs ++ '"' :: rest) :=
        escape_eq_some_iff.mpr ⟨e, rfl, h⟩
      have hLen : cs.length < fuel := by
        simp only [List.length_cons, List.length_append] at hFuel
        omega
      simpa [stringBody, hRead] using ih fuel (c :: read) hLen

end Json

end Errand
