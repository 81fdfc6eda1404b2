import Errand.Json.Printer
import Errand.Proofs.Json.Exact

/-!
# Errand — what is printed is read back

The pretty layout writes one of the spellings of a value, so the reader gives the value back.
It puts the members of objects in order and keeps one of a name, which is all that it changes.
A number beyond 64 bits would come back as another one and a deeper value not at all, so both
are bounded; a value that is laid out holds no double.

* `Plain`                    — no doubles, and so many containers inside each other.
* `sorted`                   — the value as it is read back.
* `stringText_escaped`       — the escapes of a text spell it.
* `numberText_int`           — the digits of an integer spell it.
* `Plain.written`            — the layout of a value spells it.
* `parse?_pretty`            — the reader on the layout of a value.
-/

namespace Errand

open Number (decimalValue)

namespace Json

-- ---------------------------------------------------------------------------
-- What is printed
-- ---------------------------------------------------------------------------

/-- The numbers of a value are integers that fit, and at most `depth` containers stand inside
each other. -/
inductive Plain (fits : Int → Prop) : Nat → Json → Prop
  | null {depth : Nat} : Plain fits depth .null
  | bool {depth : Nat} {b : Bool} : Plain fits depth (.bool b)
  | number {depth : Nat} {n : Int} (h : fits n) : Plain fits depth (.number (.int n))
  | string {depth : Nat} {s : String} : Plain fits depth (.string s)
  | array {depth : Nat} {items : List Json} (h : ∀ v ∈ items, Plain fits depth v) :
      Plain fits (depth + 1) (.array items)
  | object {depth : Nat} {ms : List (String × Json)} (h : ∀ m ∈ ms, Plain fits depth m.2) :
      Plain fits (depth + 1) (.object ms)

/-- 64 bits hold the integer, with a sign or without. -/
def IsWord (n : Int) : Prop := FitsWord (decide (n < 0)) n.natAbs

mutual
/-- The value with the members of its objects in order and without duplicates. -/
def sorted : Json → Json
  | .array items => .array (sortedItems items)
  | .object ms => ofMembers (sortedMembers ms)
  | .null => .null
  | .bool b => .bool b
  | .number n => .number n
  | .string s => .string s

/-- The items of an array, each of them sorted. -/
def sortedItems : List Json → List Json
  | [] => []
  | v :: vs => v.sorted :: sortedItems vs

/-- The members of an object as they come, each of them sorted. -/
def sortedMembers : List (String × Json) → List (String × Json)
  | [] => []
  | (name, v) :: ms => (name, v.sorted) :: sortedMembers ms
end

-- ---------------------------------------------------------------------------
-- Strings
-- ---------------------------------------------------------------------------

/-- The code of a control in four digits. -/
theorem hexText_control :
    ∀ n < 0x20, HexText ['0', '0', hexDigit (n / 16), hexDigit n] n := by
  unfold HexText
  decide

theorem ofNat_toNat_eq {c : Char} {n : Nat} (h : c.toNat = n) : Char.ofNat n = c := by
  rw [← h, Char.ofNat_toNat]

/-- The escape of a character spells it. -/
theorem stringText_escapeChar (c : Char) {cs s : List Char} (rest : StringText cs s) :
    StringText (escapeChar c ++ cs) (c :: s) := by
  unfold escapeChar
  split
  · subst c
    exact .escape .quote rest
  split
  · subst c
    exact .escape .backslash rest
  split
  · subst c
    exact .escape .lineFeed rest
  split
  · subst c
    exact .escape .carriageReturn rest
  split
  · subst c
    exact .escape .tab rest
  split
  · rename_i hCode
    rw [← ofNat_toNat_eq hCode]
    exact .escape .backspace rest
  split
  · rename_i hCode
    rw [← ofNat_toNat_eq hCode]
    exact .escape .formFeed rest
  split
  · rename_i hControl
    have hHex := hexText_control c.toNat hControl
    have hEscape := EscapeText.unit hHex (by unfold IsHighHalf; omega) (by unfold IsLowHalf; omega)
    rw [Char.ofNat_toNat] at hEscape
    exact .escape hEscape rest
  · rename_i hQuote hBackslash _ _ _ _ _ hControl
    exact .plain hQuote hBackslash hControl rest

/-- **The escapes of a text spell it.** -/
theorem stringText_escaped (s : List Char) : StringText (s.flatMap escapeChar) s := by
  induction s with
  | nil => exact .nil
  | cons c s ih =>
    rw [List.flatMap_cons]
    exact stringText_escapeChar c ih

theorem written_quoted (depth : Nat) (s : String) : Written depth (quotedChars s) (.string s) := by
  have hText : Written depth (quotedChars s) (.string (String.ofList s.toList)) :=
    .string (stringText_escaped s.toList)
  rwa [String.ofList_toList] at hText

-- ---------------------------------------------------------------------------
-- Integers
-- ---------------------------------------------------------------------------

/-- The digits of a number have its value. -/
theorem decimalValue_toDigits (n : Nat) : decimalValue (Nat.toDigits 10 n) = n := by
  have hDigits : Nat.ofDigitChars 10 (Nat.toDigits 10 n) 0 = n := Nat.ofDigitChars_ten_toDigits
  rw [Nat.ofDigitChars_eq_foldl] at hDigits
  simpa only [decimalValue, Nat.mul_comm, show '0'.toNat = 48 from rfl] using hDigits

/-- Only of zero the digits start with a zero. -/
theorem head?_toDigits (n : Nat) : (Nat.toDigits 10 n).head? = some '0' → n = 0 := by
  induction n using Nat.strongRecOn with
  | ind n ih =>
    intro hHead
    by_cases hLess : n < 10
    · rw [Nat.toDigits_of_lt_base hLess] at hHead
      have hAll : ∀ d < 10, [d.digitChar].head? = some '0' → d = 0 := by decide
      exact hAll n hLess hHead
    · rw [Nat.toDigits_of_base_le (by decide) (Nat.not_lt.mp hLess),
        List.head?_append_of_ne_nil _ Nat.toDigits_ne_nil] at hHead
      have hZero := ih (n / 10) (by omega) hHead
      omega

theorem isWhole_toDigits (n : Nat) : IsWhole (Nat.toDigits 10 n) := by
  have hDigit {c : Char} (hc : c ∈ Nat.toDigits 10 n) : c.isDigit = true :=
    Nat.isDigit_of_mem_toDigits (by decide) (by decide) hc
  refine ⟨⟨Nat.toDigits_ne_nil, fun c hc => hDigit hc⟩, fun hHead => ?_⟩
  rw [head?_toDigits n hHead]
  exact Nat.toDigits_zero 10

/-- The text of an integer is its sign and its digits. -/
theorem toList_toString_int (n : Int) :
    (toString n).toList = signText (decide (n < 0)) ++ Nat.toDigits 10 n.natAbs := by
  rw [Int.toString_eq_repr, Int.repr_eq_if]
  by_cases hSign : n < 0
  · have hAbs : (-n).toNat = n.natAbs := by omega
    rw [if_neg (by omega), hAbs, String.toList_append, Nat.toList_repr]
    simp [signText, hSign]
  · have hAbs : n.toNat = n.natAbs := by omega
    rw [if_pos (by omega), hAbs, Nat.toList_repr]
    simp [signText, hSign]

/-- **The digits of an integer spell it**, if 64 bits hold it. -/
theorem numberText_int {n : Int} (h : IsWord n) : NumberText (toString n).toList (.int n) := by
  have hValue := decimalValue_toDigits n.natAbs
  have hSign : withSign (decide (n < 0)) n.natAbs = n := by
    by_cases hNegative : n < 0
    · rw [withSign, decide_eq_true hNegative, if_pos rfl]
      omega
    · rw [withSign, decide_eq_false hNegative, if_neg Bool.false_ne_true]
      omega
  have hFits : FitsWord (decide (n < 0)) (decimalValue (Nat.toDigits 10 n.natAbs)) := by
    rwa [hValue]
  have hText := NumberText.integer (isWhole_toDigits n.natAbs) hFits
  rwa [hValue, hSign, ← toList_toString_int] at hText

-- ---------------------------------------------------------------------------
-- Layouts
-- ---------------------------------------------------------------------------

theorem blanks_newline (level : Nat) : Blanks (newline level) := by
  intro c hc
  rcases List.mem_cons.mp hc with rfl | hc
  · simp
  · simp [List.eq_of_mem_replicate hc]

section Layout

variable {depth level : Nat} {w : List Char}

/-- Items that are spelled are spelled one a line, and the line after them belongs to the last. -/
theorem items_pretty (hw : Blanks w) {v : Json} {vs : List Json}
    (h : ∀ u ∈ v :: vs, Written depth (prettyChars level u) u.sorted) :
    Items depth (prettyItems level (v :: vs) ++ w) (sortedItems (v :: vs)) := by
  induction vs generalizing v with
  | nil =>
    have hOne := Items.one (.mk (blanks_newline level) (h v List.mem_cons_self) hw)
    simpa [prettyItems, sortedItems] using hOne
  | cons u us ih =>
    have hMore := Items.more (.mk (blanks_newline level) (h v List.mem_cons_self) blanks_nil)
      (ih fun x hx => h x (List.mem_cons_of_mem v hx))
    simpa [prettyItems, sortedItems] using hMore

/-- A member is spelled on a line of its own. -/
theorem member_pretty (hw : Blanks w) (name : String) {v : Json}
    (h : Written depth (prettyChars level v) v.sorted) :
    Member depth (newline level ++ quotedChars name ++ ':' :: ' ' :: (prettyChars level v ++ w))
      (name, v.sorted) := by
  have hSpace : Blanks [' '] := by simp [Blanks]
  have hMember := Member.mk (blanks_newline level) (stringText_escaped name.toList) blanks_nil
    (.mk hSpace h hw)
  rw [String.ofList_toList] at hMember
  simpa [quotedChars] using hMember

theorem members_pretty (hw : Blanks w) {name : String} {v : Json} {ms : List (String × Json)}
    (h : ∀ m ∈ (name, v) :: ms, Written depth (prettyChars level m.2) m.2.sorted) :
    Members depth (prettyMembers level ((name, v) :: ms) ++ w)
      (sortedMembers ((name, v) :: ms)) := by
  induction ms generalizing name v with
  | nil =>
    have hOne := Members.one (member_pretty hw name (h _ List.mem_cons_self))
    simpa [prettyMembers, sortedMembers] using hOne
  | cons m ms ih =>
    have hMore := Members.more (member_pretty blanks_nil name (h _ List.mem_cons_self))
      (ih fun x hx => h x (List.mem_cons_of_mem _ hx))
    simpa [prettyMembers, sortedMembers] using hMore

end Layout

/-- **The layout of a value spells it**, at whatever level it stands. -/
theorem Plain.written {depth : Nat} {v : Json} (h : Plain IsWord depth v) (level : Nat) :
    Written depth (prettyChars level v) v.sorted := by
  induction h generalizing level with
  | null => exact .null
  | @bool depth b =>
    cases b with
    | true => exact .truth
    | false => exact .falsehood
  | number h => exact .number (numberText_int h)
  | string => exact written_quoted _ _
  | @array depth items h ih =>
    cases items with
    | nil => exact .emptyArray blanks_nil
    | cons v vs =>
      have hItems := items_pretty (blanks_newline level) fun u hu => ih u hu (level + 1)
      simpa [prettyChars, sorted] using Written.array hItems
  | @object depth ms h ih =>
    cases ms with
    | nil => exact .emptyObject blanks_nil
    | cons m ms =>
      have hMembers := members_pretty (blanks_newline level) fun u hu => ih u hu (level + 1)
      simpa [prettyChars, sorted] using Written.object hMembers

/-- **The reader gives a printed value back**, its members in order. -/
theorem parse?_pretty {v : Json} (h : Plain IsWord 127 v) :
    parse? v.pretty = some v.sorted := by
  refine parse?_eq_some_iff.mpr ?_
  have hSpaced := Spaced.mk blanks_nil (h.written 0) blanks_nil
  rw [Acceptable, pretty, String.toList_ofList]
  simpa using hSpaced

end Json

end Errand
