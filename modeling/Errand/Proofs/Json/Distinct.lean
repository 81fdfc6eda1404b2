import Errand.Proofs.Json.Printed

/-!
# Errand — no two values print alike

A value can be told from its layout, also where more text follows: the first character says
what kind of value it is, a string ends with its quote, an integer where its digits do, and
behind every item stands a comma or the line break before the closing bracket. No bound on
the numbers is needed, since no reader is.

* `Form`                    — the kinds of values.
* `Apart`, `Distinct`       — what can be told from its text.
* `listed_distinct`         — lists whose entries can be told can be told.
* `Plain.distinct`          — the layout of a value is that of no other.
* `pretty_injective`        — two values with one pretty text are the same.
-/

namespace Errand.Json

open Reader

variable {fits : Int → Prop}

-- ---------------------------------------------------------------------------
-- What is meant
-- ---------------------------------------------------------------------------

/-- The kinds of values. -/
inductive Form where
  | null
  | bool
  | number
  | string
  | array
  | object

/-- The kind of a value. -/
def form : Json → Form
  | .null => .null
  | .bool _ => .bool
  | .number _ => .number
  | .string _ => .string
  | .array _ => .array
  | .object _ => .object

/-- The kind of a value whose text starts with a character. -/
def Form.ofHead (c : Char) : Form :=
  if c = 'n' then .null
  else if c = 't' ∨ c = 'f' then .bool
  else if c = '"' then .string
  else if c = '[' then .array
  else if c = '\x7b' then .object
  else .number

/-- Texts that go on start alike only where they are of one thing and go on alike. -/
def Apart {α : Type} (text : α → List Char) (x x' : α) : Prop :=
  ∀ ⦃rest rest' : List Char⦄, EndsNumber rest → EndsNumber rest' →
    text x ++ rest = text x' ++ rest' → x = x' ∧ rest = rest'

/-- The layout of a value can be told from that of any other. -/
def Distinct (fits : Int → Prop) (v : Json) : Prop :=
  ∀ ⦃level depth : Nat⦄ ⦃v' : Json⦄, Plain fits depth v' → Apart (prettyChars level) v v'

-- ---------------------------------------------------------------------------
-- Integers and strings
-- ---------------------------------------------------------------------------

theorem isDigits_toDigits (n : Nat) : IsDigits (Nat.toDigits 10 n) := (isWhole_toDigits n).1

theorem toDigits_distinct {n n' : Nat} {rest rest' : List Char} (hRest : NoDigit rest)
    (hRest' : NoDigit rest')
    (hSame : Nat.toDigits 10 n ++ rest = Nat.toDigits 10 n' ++ rest') : n = n' ∧ rest = rest' := by
  have hRead := (isDigits_toDigits n).digits_append hRest
  rw [hSame, (isDigits_toDigits n').digits_append hRest'] at hRead
  obtain ⟨hDigits, hSameRest⟩ := Prod.mk.inj hRead
  refine ⟨?_, hSameRest.symm⟩
  rw [← decimalValue_toDigits n, ← hDigits, decimalValue_toDigits]

/-- The digits of a number start without a minus. -/
theorem toDigits_append_ne (n : Nat) (rest more : List Char) :
    Nat.toDigits 10 n ++ rest ≠ '-' :: more := by
  obtain ⟨d, ds, hDigits, hDigit⟩ := (isDigits_toDigits n).exists_cons
  rw [hDigits]
  intro hSame
  obtain rfl : d = '-' := List.head_eq_of_cons_eq hSame
  exact absurd hDigit (by decide)

theorem signed_distinct {b b' : Bool} {n n' : Nat} {rest rest' : List Char}
    (hRest : NoDigit rest) (hRest' : NoDigit rest')
    (hSame : signText b ++ (Nat.toDigits 10 n ++ rest) =
      signText b' ++ (Nat.toDigits 10 n' ++ rest')) :
    b = b' ∧ n = n' ∧ rest = rest' := by
  cases b with
  | false =>
    cases b' with
    | false => exact ⟨rfl, toDigits_distinct hRest hRest' hSame⟩
    | true => exact absurd hSame (toDigits_append_ne _ _ _)
  | true =>
    cases b' with
    | false => exact absurd hSame.symm (toDigits_append_ne _ _ _)
    | true => exact ⟨rfl, toDigits_distinct hRest hRest' (List.cons.inj hSame).2⟩

theorem int_distinct {n n' : Int} {rest rest' : List Char} (hRest : NoDigit rest)
    (hRest' : NoDigit rest')
    (hSame : (toString n).toList ++ rest = (toString n').toList ++ rest') :
    n = n' ∧ rest = rest' := by
  rw [toList_toString_int, toList_toString_int, List.append_assoc, List.append_assoc] at hSame
  obtain ⟨hSign, hAbs, hSameRest⟩ := signed_distinct hRest hRest' hSame
  have hSign' : n < 0 ↔ n' < 0 := decide_eq_decide.mp hSign
  exact ⟨by omega, hSameRest⟩

theorem quoted_distinct {s s' : String} {rest rest' : List Char}
    (hSame : quotedChars s ++ rest = quotedChars s' ++ rest') : s = s' ∧ rest = rest' := by
  have hBoth := (written_quoted 0 s).unique_of_append (written_quoted 0 s') hSame nofun nofun
  simpa using hBoth

-- ---------------------------------------------------------------------------
-- Lists
-- ---------------------------------------------------------------------------

/-- Texts with a comma between them. -/
def listed {α : Type} (text : α → List Char) : List α → List Char
  | [] => []
  | [x] => text x
  | x :: y :: xs => text x ++ ',' :: listed text (y :: xs)

/-- The line of an item. -/
def itemLine (level : Nat) (v : Json) : List Char := newline level ++ prettyChars level v

/-- The line of a member. -/
def memberLine (level : Nat) (m : String × Json) : List Char :=
  newline level ++ (quotedChars m.1 ++ ':' :: ' ' :: prettyChars level m.2)

theorem itemLine_head (level : Nat) (v : Json) : ∃ more, itemLine level v = '\n' :: more :=
  ⟨_, rfl⟩

theorem memberLine_head (level : Nat) (m : String × Json) :
    ∃ more, memberLine level m = '\n' :: more := ⟨_, rfl⟩

theorem prettyItems_eq_listed (level : Nat) (vs : List Json) :
    prettyItems level vs = listed (itemLine level) vs := by
  induction vs with
  | nil => rfl
  | cons v vs ih =>
    cases vs with
    | nil => rfl
    | cons u us => simp only [prettyItems, listed, ih, itemLine]

theorem prettyMembers_eq_listed (level : Nat) (ms : List (String × Json)) :
    prettyMembers level ms = listed (memberLine level) ms := by
  induction ms with
  | nil => rfl
  | cons m ms ih =>
    cases ms with
    | nil => simp [prettyMembers, listed, memberLine]
    | cons u us => simp [prettyMembers, listed, ih, memberLine]

/-- **Lists whose entries can be told can be told**, where a line break follows them. -/
theorem listed_distinct {α : Type} {text : α → List Char} {x x' : α} {xs xs' : List α}
    {stop stop' : List Char}
    (h : ∀ y ∈ x :: xs, ∀ y' ∈ x' :: xs', Apart text y y')
    (hSame : listed text (x :: xs) ++ '\n' :: stop = listed text (x' :: xs') ++ '\n' :: stop') :
    x :: xs = x' :: xs' ∧ stop = stop' := by
  have hBreak (rest : List Char) : EndsNumber ('\n' :: rest) := endsNumber_cons.mpr (by decide)
  have hComma (rest : List Char) : EndsNumber (',' :: rest) := endsNumber_cons.mpr (by decide)
  have hFirst : Apart text x x' := h x (by simp) x' (by simp)
  induction xs generalizing x x' xs' with
  | nil =>
    cases xs' with
    | nil =>
      obtain ⟨rfl, hStop⟩ := hFirst (hBreak _) (hBreak _) hSame
      exact ⟨rfl, (List.cons.inj hStop).2⟩
    | cons y' ys' =>
      rw [listed, listed, List.append_assoc] at hSame
      have hStop := (hFirst (hBreak _) (hComma _) hSame).2
      exact absurd (List.cons.inj hStop).1 (by decide)
  | cons y ys ih =>
    cases xs' with
    | nil =>
      rw [listed, listed, List.append_assoc] at hSame
      have hStop := (hFirst (hComma _) (hBreak _) hSame).2
      exact absurd (List.cons.inj hStop).1 (by decide)
    | cons y' ys' =>
      rw [listed, listed, List.append_assoc, List.append_assoc] at hSame
      obtain ⟨rfl, hMore⟩ := hFirst (hComma _) (hComma _) hSame
      obtain ⟨hSameRest, hStop⟩ := ih
        (fun z hz z' hz' => h z (List.mem_cons_of_mem _ hz) z' (List.mem_cons_of_mem _ hz'))
        (List.cons.inj hMore).2 (h y (by simp) y' (by simp))
      exact ⟨by rw [hSameRest], hStop⟩

/-- Entries between brackets, one a line. -/
def block {α : Type} (text : α → List Char) (first last : Char) (level : Nat) :
    List α → List Char
  | [] => [first, last]
  | x :: xs => first :: (listed text (x :: xs) ++ (newline level ++ [last]))

theorem prettyChars_array (level : Nat) (items : List Json) :
    prettyChars level (.array items) = block (itemLine (level + 1)) '[' ']' level items := by
  cases items with
  | nil => simp [prettyChars, block]
  | cons v vs => simp [prettyChars, block, prettyItems_eq_listed]

theorem prettyChars_object (level : Nat) (ms : List (String × Json)) :
    prettyChars level (.object ms) =
      block (memberLine (level + 1)) '\x7b' '\x7d' level ms := by
  cases ms with
  | nil => simp [prettyChars, block]
  | cons m ms => simp [prettyChars, block, prettyMembers_eq_listed]

/-- An entry starts with the line break in front of it. -/
theorem listed_head {α : Type} {text : α → List Char}
    (hLine : ∀ x, ∃ more, text x = '\n' :: more) (x : α) (xs : List α) :
    ∃ more, listed text (x :: xs) = '\n' :: more := by
  obtain ⟨more, hMore⟩ := hLine x
  cases xs with
  | nil => exact ⟨more, hMore⟩
  | cons y ys => exact ⟨_, by rw [listed, hMore, List.cons_append]⟩

theorem block_distinct {α : Type} {text : α → List Char} {first last : Char} {level : Nat}
    {xs xs' : List α} {rest rest' : List Char} (hLine : ∀ x, ∃ more, text x = '\n' :: more)
    (hLast : last ≠ '\n')
    (h : ∀ y ∈ xs, ∀ y' ∈ xs', Apart text y y')
    (hSame : block text first last level xs ++ rest = block text first last level xs' ++ rest') :
    xs = xs' ∧ rest = rest' := by
  match xs, xs' with
  | [], [] => exact ⟨rfl, by simpa [block] using hSame⟩
  | [], x' :: xs' =>
    obtain ⟨more, hMore⟩ := listed_head hLine x' xs'
    simp [block, hMore, hLast] at hSame
  | x :: xs, [] =>
    obtain ⟨more, hMore⟩ := listed_head hLine x xs
    simp [block, hMore, Ne.symm hLast] at hSame
  | x :: xs, x' :: xs' =>
    simp only [block, List.cons_append, List.append_assoc, newline, List.cons.injEq,
      true_and] at hSame
    obtain ⟨hSameEntries, hStop⟩ := listed_distinct h hSame
    exact ⟨hSameEntries, by simpa using hStop⟩

-- ---------------------------------------------------------------------------
-- Values
-- ---------------------------------------------------------------------------

theorem Form.ofHead_of_isDigit {c : Char} (h : c.isDigit = true) : ofHead c = .number := by
  have hNot {d : Char} (hd : d.isDigit = false) : c ≠ d := by
    rintro rfl
    exact Bool.noConfusion (h.symm.trans hd)
  simp [ofHead, hNot (d := 'n') (by decide), hNot (d := 't') (by decide),
    hNot (d := 'f') (by decide), hNot (d := '"') (by decide), hNot (d := '[') (by decide),
    hNot (d := '\x7b') (by decide)]

/-- The first character of a layout says what kind of value it is. -/
theorem Plain.head {depth : Nat} {v : Json} (h : Plain fits depth v) (level : Nat) :
    ∃ c rest, prettyChars level v = c :: rest ∧ Form.ofHead c = v.form := by
  cases h with
  | null => exact ⟨_, _, rfl, rfl⟩
  | @bool _ b => cases b <;> exact ⟨_, _, rfl, rfl⟩
  | string => exact ⟨_, _, rfl, rfl⟩
  | @number _ n fits =>
    have hText : prettyChars level (.number (.int n)) = (toString n).toList := rfl
    obtain ⟨d, ds, hDigits, hDigit⟩ := (isDigits_toDigits n.natAbs).exists_cons
    rw [hText, toList_toString_int, hDigits]
    cases decide (n < 0) with
    | true => exact ⟨_, _, rfl, rfl⟩
    | false => exact ⟨_, _, rfl, Form.ofHead_of_isDigit hDigit⟩
  | @array depth items h => cases items <;> exact ⟨_, _, rfl, rfl⟩
  | @object depth ms h => cases ms <;> exact ⟨_, _, rfl, rfl⟩

theorem Plain.form_eq {depth depth' level : Nat} {v v' : Json} {rest rest' : List Char}
    (h : Plain fits depth v) (h' : Plain fits depth' v')
    (hSame : prettyChars level v ++ rest = prettyChars level v' ++ rest') : v.form = v'.form := by
  obtain ⟨c, more, hText, hForm⟩ := h.head level
  obtain ⟨c', more', hText', hForm'⟩ := h'.head level
  rw [hText, hText'] at hSame
  rw [← hForm, ← hForm', List.head_eq_of_cons_eq hSame]

/-- The lines of items can be told if the items can. -/
theorem Distinct.itemLine {depth level : Nat} {v v' : Json} (h : Distinct fits v)
    (h' : Plain fits depth v') : Apart (Json.itemLine level) v v' := by
  intro rest rest' hRest hRest' hSame
  simp only [Json.itemLine, List.append_assoc, List.append_cancel_left_eq] at hSame
  exact h h' hRest hRest' hSame

/-- The lines of members can be told if the values of the members can. -/
theorem Distinct.memberLine {depth level : Nat} {m m' : String × Json} (h : Distinct fits m.2)
    (h' : Plain fits depth m'.2) : Apart (Json.memberLine level) m m' := by
  intro rest rest' hRest hRest' hSame
  simp only [Json.memberLine, List.append_assoc, List.append_cancel_left_eq] at hSame
  obtain ⟨hName, hValue⟩ := quoted_distinct hSame
  simp only [List.cons_append, List.cons.injEq, true_and] at hValue
  obtain ⟨hSameValue, hSameRest⟩ := h h' hRest hRest' hValue
  exact ⟨Prod.ext hName hSameValue, hSameRest⟩

/-- **The layout of a value is that of no other value**, whatever follows it. -/
theorem Plain.distinct {depth : Nat} {v : Json} (h : Plain fits depth v) : Distinct fits v := by
  intro level depth' v' h' rest rest' hRest hRest' hSame
  -- the induction is on the one value; the other one has the same form each time
  have hForm := h.form_eq h' hSame
  induction h generalizing level depth' v' rest rest' with
  | null =>
    cases h' with
    | null => exact ⟨rfl, List.append_cancel_left hSame⟩
    | _ => cases hForm
  | @bool _ b =>
    cases h' with
    | @bool _ b' => cases b <;> cases b' <;> simp_all [prettyChars]
    | _ => cases hForm
  | string =>
    cases h' with
    | string =>
      obtain ⟨rfl, hRest⟩ := quoted_distinct hSame
      exact ⟨rfl, hRest⟩
    | _ => cases hForm
  | number fits =>
    cases h' with
    | number fits' =>
      obtain ⟨rfl, hRest⟩ := int_distinct hRest.noDigit hRest'.noDigit hSame
      exact ⟨rfl, hRest⟩
    | _ => cases hForm
  | @array _ items h ih =>
    cases h' with
    | array h' =>
      rw [prettyChars_array, prettyChars_array] at hSame
      have hItems : ∀ u ∈ items, Distinct fits u := fun u hu _ _ _ hu' _ _ hEnds hEnds' hText =>
        ih u hu hu' hEnds hEnds' hText ((h u hu).form_eq hu' hText)
      obtain ⟨rfl, hSameRest⟩ := block_distinct (itemLine_head _) (by decide)
        (fun u hu u' hu' => Distinct.itemLine (hItems u hu) (h' u' hu')) hSame
      exact ⟨rfl, hSameRest⟩
    | _ => cases hForm
  | @object _ ms h ih =>
    cases h' with
    | object h' =>
      rw [prettyChars_object, prettyChars_object] at hSame
      have hMembers : ∀ m ∈ ms, Distinct fits m.2 := fun m hm _ _ _ hm' _ _ hEnds hEnds' hText =>
        ih m hm hm' hEnds hEnds' hText ((h m hm).form_eq hm' hText)
      obtain ⟨rfl, hSameRest⟩ := block_distinct (memberLine_head _) (by decide)
        (fun m hm m' hm' => Distinct.memberLine (hMembers m hm) (h' m' hm')) hSame
      exact ⟨rfl, hSameRest⟩
    | _ => cases hForm

/-- **Two values with the same pretty text are the same.** -/
theorem pretty_injective {depth depth' : Nat} {v v' : Json} (h : Plain fits depth v)
    (h' : Plain fits depth' v') (hSame : v.pretty = v'.pretty) : v = v' := by
  have hChars : prettyChars 0 v ++ [] = prettyChars 0 v' ++ [] := by
    simpa [pretty, String.ofList_inj] using hSame
  exact (h.distinct h' endsNumber_nil endsNumber_nil hChars).1

end Errand.Json
