import Errand.Proofs.Json.Grammar

/-!
# Errand — reading a number

The reader of numbers against their grammar. What is read is a spelling of its
value, and what follows is left alone; and a spelling is read whole, if the rest
does not go on with it: a digit more, a point or an exponent mark would make it
another number.

* `gather_eq_iff`           — the digits that are gathered are as many as 64 bits hold.
* `numberValue_eq_some_iff` — which number the parts of a spelling make.
* `number_sound`            — what is read is a spelling.
* `number_complete`         — a spelling is read.
-/

namespace Errand

open Number (decimalValue signed)

namespace Json

open Reader

-- ---------------------------------------------------------------------------
-- Digits
-- ---------------------------------------------------------------------------

/-- The first character, if there is one, is no digit. -/
def NoDigit (cs : List Char) : Prop := ∀ c ∈ cs.head?, c.isDigit = false

theorem noDigit_cons {c : Char} {cs : List Char} : NoDigit (c :: cs) ↔ c.isDigit = false := by
  simp [NoDigit]

/-- The digits in front of a text are all there are. -/
theorem digits_eq_iff {cs ds rest : List Char} :
    digits cs = (ds, rest) ↔ cs = ds ++ rest ∧ (∀ c ∈ ds, c.isDigit = true) ∧ NoDigit rest := by
  rw [digits, List.span_eq_takeWhile_dropWhile]
  constructor
  · rintro ⟨⟩
    refine ⟨List.takeWhile_append_dropWhile.symm, List.all_eq_true.mp List.all_takeWhile, ?_⟩
    intro c hc
    have := List.head?_dropWhile_not Char.isDigit cs
    rw [Option.mem_def.mp hc] at this
    simpa using this
  · rintro ⟨rfl, hds, hRest⟩
    rw [List.takeWhile_append_of_pos hds, List.dropWhile_append_of_pos hds]
    cases rest with
    | nil => simp
    | cons c cs => simp [noDigit_cons.mp hRest]

theorem IsDigits.exists_cons {ds : List Char} (h : IsDigits ds) :
    ∃ d rest, ds = d :: rest ∧ d.isDigit = true := by
  obtain ⟨hNe, hAll⟩ := h
  cases ds with
  | nil => exact absurd rfl hNe
  | cons d rest => exact ⟨d, rest, rfl, hAll d List.mem_cons_self⟩

/-- Some digits in front of a text are what is read when no digit follows. -/
theorem IsDigits.digits_append {ds rest : List Char} (h : IsDigits ds) (hRest : NoDigit rest) :
    digits (ds ++ rest) = (ds, rest) :=
  digits_eq_iff.mpr ⟨rfl, h.2, hRest⟩

/-- What `digits` finds, if it finds anything. -/
theorem isDigits_of_digits {cs ds rest : List Char} (h : digits cs = (ds, rest)) (hNe : ds ≠ []) :
    cs = ds ++ rest ∧ IsDigits ds := by
  obtain ⟨hcs, hds, -⟩ := digits_eq_iff.mp h
  exact ⟨hcs, hNe, hds⟩

-- ---------------------------------------------------------------------------
-- The parts of a number
-- ---------------------------------------------------------------------------

theorem wholePart_sound {cs whole rest : List Char} (h : wholePart cs = some (whole, rest)) :
    cs = whole ++ rest ∧ IsWhole whole := by
  unfold wholePart at h
  split at h
  · cases h
  · cases h
  · rename_i hEmpty hZero
    injection h with h
    obtain ⟨hcs, hds, -⟩ := digits_eq_iff.mp h
    refine ⟨hcs, ⟨?_, hds⟩, fun hHead => ?_⟩
    · rintro rfl
      exact hEmpty _ h
    · rcases whole with _ | ⟨d, _ | ⟨c, ds⟩⟩
      · cases hHead
      · cases hHead
        rfl
      · cases hHead
        exact (hZero _ _ _ h).elim

theorem wholePart_complete {whole rest : List Char} (h : IsWhole whole) (hRest : NoDigit rest) :
    wholePart (whole ++ rest) = some (whole, rest) := by
  obtain ⟨hds, hZero⟩ := h
  rw [wholePart, hds.digits_append hRest]
  split
  · rename_i hEq
    cases hEq
    exact absurd rfl hds.1
  · rename_i hEq
    cases hEq
    exact absurd (hZero rfl) (by simp)
  · rfl

theorem fractionPart_sound {cs rest : List Char} {f : Option (List Char)}
    (h : fractionPart cs = some (f, rest)) : ∃ ft, cs = ft ++ rest ∧ FractionText ft f := by
  unfold fractionPart at h
  split at h
  · split at h
    · cases h
    · rename_i hNe hd
      cases h
      obtain ⟨rfl, hds⟩ := isDigits_of_digits hd hNe
      exact ⟨_, rfl, .places hds⟩
  · cases h
    exact ⟨[], rfl, .absent⟩

theorem fractionPart_complete {ft rest : List Char} {f : Option (List Char)}
    (h : FractionText ft f) (hRest : NoDigit rest) (hPoint : rest.head? ≠ some '.') :
    fractionPart (ft ++ rest) = some (f, rest) := by
  cases h with
  | absent =>
    unfold fractionPart
    split
    · rename_i hEq
      rw [List.nil_append] at hEq
      exact (hPoint (by rw [hEq]; rfl)).elim
    · rfl
  | places hds =>
    simp only [List.cons_append, fractionPart, hds.digits_append hRest]
    split
    · rename_i hEq
      cases hEq
      exact absurd rfl hds.1
    · rename_i hEq
      cases hEq
      rfl

/-- Behind its mark an exponent is a sign, which may be absent, and digits. -/
theorem exponentPart_cons {mark : Char} (h : mark = 'e' ∨ mark = 'E') (cs : List Char) :
    exponentPart (mark :: cs) =
      match digits (signed cs).2 with
      | ([], _) => none
      | (ds, rest) =>
        let n : Int := decimalValue ds
        some (some (if (signed cs).1 then -n else n), rest) := by
  -- the reader looks for a plus first and `signed` for a minus, so they are compared by cases
  rcases cs with _ | ⟨c, cs⟩
  · simp only [exponentPart, if_pos h]
    rfl
  · by_cases hp : c = '+'
    · subst hp
      simp only [exponentPart, if_pos h]
      rfl
    · by_cases hm : c = '-'
      · subst hm
        simp only [exponentPart, if_pos h]
        rfl
      · simp only [exponentPart, if_pos h, signed, List.cons.injEq, hp, hm, false_and, imp_self,
          implies_true]
        rfl

theorem exponentPart_sound {cs rest : List Char} {e : Option Int}
    (h : exponentPart cs = some (e, rest)) : ∃ et, cs = et ++ rest ∧ ExponentText et e := by
  rcases cs with _ | ⟨mark, cs⟩
  · cases h
    exact ⟨[], rfl, .absent⟩
  by_cases hMark : mark = 'e' ∨ mark = 'E'
  · rw [exponentPart_cons hMark] at h
    split at h
    · cases h
    · rename_i hNe hd
      cases h
      obtain ⟨hcs, hds⟩ := isDigits_of_digits hd hNe
      unfold signed at hcs ⊢
      split at hcs <;> simp only at hcs <;> subst hcs
      · exact ⟨_, rfl, .minus hMark hds⟩
      · exact ⟨_, rfl, .plus hMark hds⟩
      · exact ⟨_, rfl, .bare hMark hds⟩
  · simp only [exponentPart, if_neg hMark] at h
    cases h
    exact ⟨[], rfl, .absent⟩

/-- The digits behind a mark and a sign are read whole. -/
theorem exponentPart_signed {mark : Char} (hm : mark = 'e' ∨ mark = 'E') {cs ds rest : List Char}
    (hcs : (signed cs).2 = ds ++ rest) (h : IsDigits ds) (hRest : NoDigit rest) :
    exponentPart (mark :: cs) =
      some (some (if (signed cs).1 then -(decimalValue ds : Int) else decimalValue ds), rest) := by
  rw [exponentPart_cons hm, hcs, h.digits_append hRest]
  obtain ⟨d, ds, rfl, -⟩ := h.exists_cons
  rfl

/-- Digits have no sign in front. -/
theorem IsDigits.signed_append {ds : List Char} (h : IsDigits ds) (rest : List Char) :
    signed (ds ++ rest) = (false, ds ++ rest) := by
  obtain ⟨d, ds, rfl, hd⟩ := h.exists_cons
  unfold signed
  split
  · rename_i hEq
    cases hEq
    exact absurd hd (by decide)
  · rename_i hEq
    cases hEq
    exact absurd hd (by decide)
  · rfl

theorem exponentPart_complete {et rest : List Char} {e : Option Int} (h : ExponentText et e)
    (hRest : NoDigit rest) (hMark : ∀ c ∈ rest.head?, ¬ (c = 'e' ∨ c = 'E')) :
    exponentPart (et ++ rest) = some (e, rest) := by
  cases h with
  | absent =>
    cases rest with
    | nil => rfl
    | cons c rest => simp only [List.nil_append, exponentPart, if_neg (hMark c rfl)]
  | bare hm hds =>
    have hSigned := hds.signed_append rest
    simpa [hSigned] using exponentPart_signed hm (congrArg Prod.snd hSigned) hds hRest
  | plus hm hds => exact exponentPart_signed hm rfl hds hRest
  | minus hm hds => exact exponentPart_signed hm rfl hds hRest

-- ---------------------------------------------------------------------------
-- Digits that are kept
-- ---------------------------------------------------------------------------

theorem maxWord_eq : maxWord = 2 ^ 64 - 1 := rfl

theorem decimalValue_concat (ds : List Char) (c : Char) :
    decimalValue (ds ++ [c]) = decimalValue ds * 10 + digitValue c := by
  simp only [decimalValue, List.foldl_append, List.foldl_cons, List.foldl_nil]
  rfl

/-- A number with more digits is not smaller. -/
theorem decimalValue_le_append (ds more : List Char) :
    decimalValue ds ≤ decimalValue (ds ++ more) := by
  induction more generalizing ds with
  | nil => simp
  | cons c more ih =>
    calc decimalValue ds ≤ decimalValue (ds ++ [c]) := by
          rw [decimalValue_concat]
          omega
      _ ≤ decimalValue (ds ++ [c] ++ more) := ih _
      _ = decimalValue (ds ++ c :: more) := by simp

/-- The digits that are gathered are those that are kept. -/
theorem gather_eq_iff {before ds dropped : List Char} {n : Nat}
    (h : decimalValue before < 2 ^ 64) : gather (decimalValue before) ds = (n, dropped) ↔
      ∃ kept, Kept before ds kept dropped ∧ n = decimalValue (before ++ kept) := by
  induction ds generalizing before with
  | nil =>
    simp only [gather, Prod.mk.injEq]
    constructor
    · rintro ⟨rfl, rfl⟩
      exact ⟨[], ⟨rfl, by simpa using h, by simp⟩, by simp⟩
    · rintro ⟨kept, ⟨hSplit, -, -⟩, rfl⟩
      obtain ⟨rfl, rfl⟩ := List.append_eq_nil_iff.mp hSplit.symm
      simp
  | cons c ds ih =>
    rw [gather, ← decimalValue_concat]
    have hWord : maxWord < decimalValue (before ++ [c]) ↔
        2 ^ 64 ≤ decimalValue (before ++ [c]) := by
      rw [maxWord_eq]
      omega
    simp only [hWord]
    split
    · rename_i hFull
      constructor
      · rintro ⟨⟩
        exact ⟨[], ⟨rfl, by simpa using h, by simpa using hFull⟩, by simp⟩
      · rintro ⟨kept, ⟨hSplit, hFits, -⟩, rfl⟩
        cases kept with
        | nil => simpa using hSplit
        | cons c' kept =>
          cases hSplit
          have := decimalValue_le_append (before ++ [c]) kept
          simp only [List.append_assoc, List.singleton_append] at this
          omega
    · rename_i hRoom
      rw [ih (Nat.not_le.mp hRoom)]
      constructor
      · rintro ⟨kept, ⟨rfl, hFits, hFull⟩, rfl⟩
        exact ⟨c :: kept, ⟨rfl, by simpa using hFits, by simpa using hFull⟩, by simp⟩
      · rintro ⟨kept, ⟨hSplit, hFits, hFull⟩, rfl⟩
        cases kept with
        | nil =>
          rw [List.nil_append] at hSplit
          subst hSplit
          exact absurd (by simpa using hFull c rfl) hRoom
        | cons c' kept =>
          cases hSplit
          exact ⟨kept, ⟨rfl, by simpa using hFits, by simpa using hFull⟩, by simp⟩

/-- The digits that are kept are gathered. -/
theorem Kept.gather_eq {before ds kept dropped : List Char} (h : Kept before ds kept dropped) :
    gather (decimalValue before) ds = (decimalValue (before ++ kept), dropped) :=
  (gather_eq_iff (Nat.lt_of_le_of_lt (decimalValue_le_append before kept) h.fits)).mpr
    ⟨kept, h, rfl⟩

/-- Some of the digits behind others are kept. -/
theorem exists_kept {before : List Char} (h : decimalValue before < 2 ^ 64) (ds : List Char) :
    ∃ kept dropped, Kept before ds kept dropped := by
  obtain ⟨kept, hKept, -⟩ := (gather_eq_iff h).mp (Prod.eta (gather (decimalValue before) ds)).symm
  exact ⟨kept, _, hKept⟩

/-- All digits are kept of a number that fits. -/
theorem Kept.dropped_eq_nil {ds kept dropped : List Char} (h : Kept [] ds kept dropped)
    (hFits : decimalValue ds < 2 ^ 64) : dropped = [] := by
  obtain ⟨rfl, -, hFull⟩ := h
  cases dropped with
  | nil => rfl
  | cons c dropped =>
    have hc := hFull c rfl
    have := decimalValue_le_append (kept ++ [c]) dropped
    simp only [List.nil_append, List.append_assoc, List.singleton_append] at hc this
    omega

-- ---------------------------------------------------------------------------
-- The values of numbers
-- ---------------------------------------------------------------------------

theorem FitsWord.lt {negative : Bool} {n : Nat} (h : FitsWord negative n) : n < 2 ^ 64 := by
  cases negative with
  | false => exact h
  | true => exact Nat.lt_of_le_of_lt h.2 (by decide)

/-- A number without fraction and exponent is an integer if it fits, and else a double. -/
theorem integer_eq {negative : Bool} {whole kept dropped : List Char}
    (h : Kept [] whole kept dropped) : integer negative whole =
      if FitsWord negative (decimalValue whole) then
        some (.int (withSign negative (decimalValue whole)))
      else (fromParts negative (decimalValue kept) dropped.length).map .double := by
  have hGather : gather 0 whole = (decimalValue kept, dropped) := h.gather_eq
  rw [integer, hGather]
  cases dropped with
  | nil =>
    obtain rfl : whole = kept := by simpa using h.split
    cases negative with
    | false =>
      have hWord : FitsWord false (decimalValue whole) := h.fits
      simp [withSign, hWord]
    | true =>
      have hWord : FitsWord true (decimalValue whole) ↔
          0 < decimalValue whole ∧ decimalValue whole ≤ Nat.pow 2 63 := Iff.rfl
      simp [withSign, hWord]
  | cons c dropped =>
    have hWide : ¬ FitsWord negative (decimalValue whole) := fun hFits =>
      List.cons_ne_nil c dropped (h.dropped_eq_nil hFits.lt)
    rw [if_neg hWide]

/-- A number with a fraction or an exponent is a double. -/
theorem numberValue_eq {negative : Bool} {whole kept dropped kept' dropped' : List Char}
    {f : Option (List Char)} {e : Option Int} (hParts : ¬ (f = none ∧ e = none))
    (h : Kept [] whole kept dropped) (h' : Kept kept (f.getD []) kept' dropped') :
    numberValue negative whole f e = (fromParts negative (decimalValue (kept ++ kept'))
      (dropped.length - kept'.length + e.getD 0)).map .double := by
  have hGather : gather 0 whole = (decimalValue kept, dropped) := h.gather_eq
  have hSplit : (f.getD []).length - dropped'.length = kept'.length := by
    rw [h'.split, List.length_append, Nat.add_sub_cancel]
  have hFalse : (f.isNone && e.isNone) = false := by
    simpa only [Bool.eq_false_iff, ne_eq, Bool.and_eq_true, Option.isNone_iff_eq_none] using hParts
  simp only [numberValue, hFalse, Bool.false_eq_true, if_false, hGather, h'.gather_eq, hSplit]

theorem Kept.eq_nil {before kept dropped : List Char} (h : Kept before [] kept dropped) :
    kept = [] ∧ dropped = [] :=
  List.append_eq_nil_iff.mp h.split.symm

/-- The value of a number is told by the digits that are kept. -/
theorem numberValue_eq_some_iff {negative : Bool} {whole kept dropped kept' dropped' : List Char}
    {f : Option (List Char)} {e : Option Int} (h : Kept [] whole kept dropped)
    (h' : Kept kept (f.getD []) kept' dropped') {n : Json.Number} :
    numberValue negative whole f e = some n ↔
      (f = none ∧ e = none ∧ FitsWord negative (decimalValue whole) ∧
        n = .int (withSign negative (decimalValue whole))) ∨
      ((f = none → e = none → ¬ FitsWord negative (decimalValue whole)) ∧
        ∃ d, fromParts negative (decimalValue (kept ++ kept'))
          (dropped.length - kept'.length + e.getD 0) = some d ∧ n = .double d) := by
  by_cases hParts : f = none ∧ e = none
  · obtain ⟨rfl, rfl⟩ := hParts
    obtain ⟨rfl, rfl⟩ := h'.eq_nil
    have hInteger : numberValue negative whole none none = integer negative whole := rfl
    rw [hInteger, integer_eq h]
    split
    · rename_i hFits
      simp [hFits, eq_comm]
    · rename_i hWide
      rw [Option.map_eq_some_iff]
      constructor
      · rintro ⟨d, hd, rfl⟩
        exact .inr ⟨fun _ _ => hWide, d, by simpa using hd, rfl⟩
      · rintro (⟨-, -, hFits, -⟩ | ⟨-, d, hd, rfl⟩)
        · exact absurd hFits hWide
        · exact ⟨d, by simpa using hd, rfl⟩
  · rw [numberValue_eq hParts h h', Option.map_eq_some_iff]
    constructor
    · rintro ⟨d, hd, rfl⟩
      exact .inr ⟨fun hf he => absurd ⟨hf, he⟩ hParts, d, hd, rfl⟩
    · rintro (⟨hf, he, -⟩ | ⟨-, d, hd, rfl⟩)
      · exact absurd ⟨hf, he⟩ hParts
      · exact ⟨d, hd, rfl⟩

/-- The spellings of a number are put together from a sign and three parts. -/
theorem numberText_iff {cs : List Char} {n : Json.Number} :
    NumberText cs n ↔ ∃ negative whole ft et f e, cs = signText negative ++ (whole ++ (ft ++ et)) ∧
      IsWhole whole ∧ FractionText ft f ∧ ExponentText et e ∧
      numberValue negative whole f e = some n := by
  have hEmpty : decimalValue [] < 2 ^ 64 := by decide
  have hFits : ∀ {whole kept dropped}, Kept [] whole kept dropped → decimalValue kept < 2 ^ 64 :=
    fun h => h.fits
  constructor
  · intro h
    cases h with
    | @integer negative whole h fits =>
      obtain ⟨kept, dropped, first⟩ := exists_kept hEmpty whole
      obtain ⟨kept', dropped', places⟩ := exists_kept (hFits first) (Option.getD none [])
      exact ⟨negative, whole, [], [], none, none, by simp, h, .absent, .absent,
        (numberValue_eq_some_iff first places).mpr (.inl ⟨rfl, rfl, fits, rfl⟩)⟩
    | double h hf he wide first places value =>
      exact ⟨_, _, _, _, _, _, rfl, h, hf, he,
        (numberValue_eq_some_iff first places).mpr (.inr ⟨wide, _, value, rfl⟩)⟩
  · rintro ⟨negative, whole, ft, et, f, e, rfl, hw, hf, he, hValue⟩
    obtain ⟨kept, dropped, first⟩ := exists_kept hEmpty whole
    obtain ⟨kept', dropped', places⟩ := exists_kept (hFits first) (f.getD [])
    rcases (numberValue_eq_some_iff first places).mp hValue with
      ⟨rfl, rfl, fits, rfl⟩ | ⟨wide, d, value, rfl⟩
    · cases hf
      cases he
      simpa only [List.append_nil] using NumberText.integer hw fits
    · exact .double hw hf he wide first places value

-- ---------------------------------------------------------------------------
-- Numbers
-- ---------------------------------------------------------------------------

/-- A number behind its sign, and the text after it. -/
def unsigned (negative : Bool) (cs : List Char) : Option (Json.Number × List Char) := do
  let (whole, rest) ← wholePart cs
  let (fraction, rest) ← fractionPart rest
  let (exponent, rest) ← exponentPart rest
  let n ← numberValue negative whole fraction exponent
  some (n, rest)

/-- The sign in front of a number is read off. -/
theorem number_signText (negative : Bool) {cs : List Char}
    (h : negative = false → cs.head? ≠ some '-') :
    Reader.number (signText negative ++ cs) = unsigned negative cs := by
  cases negative with
  | true => rfl
  | false =>
    rcases cs with _ | ⟨c, cs⟩
    · rfl
    · have hc : c ≠ '-' := fun hc => h rfl (by rw [hc]; rfl)
      unfold Reader.number
      split
      rename_i hEq
      split at hEq
      · rename_i hcs
        cases hcs
        exact absurd rfl hc
      · cases hEq
        rfl

/-- Every text has a sign in front, if only the absent one. -/
theorem exists_signText (cs : List Char) : ∃ negative rest, cs = signText negative ++ rest ∧
    (negative = false → rest.head? ≠ some '-') := by
  by_cases h : cs.head? = some '-'
  · obtain ⟨rest, rfl⟩ := List.head?_eq_some_iff.mp h
    exact ⟨true, rest, rfl, fun h => Bool.noConfusion h⟩
  · exact ⟨false, cs, rfl, fun _ => h⟩

theorem unsigned_eq_some_iff {negative : Bool} {cs rest : List Char} {n : Json.Number} :
    unsigned negative cs = some (n, rest) ↔ ∃ whole r f r' e, wholePart cs = some (whole, r) ∧
      fractionPart r = some (f, r') ∧ exponentPart r' = some (e, rest) ∧
      numberValue negative whole f e = some n := by
  simp only [unsigned, Option.bind_eq_bind, Option.bind_eq_some_iff, Prod.exists, Option.some.injEq,
    Prod.mk.injEq]
  constructor
  · rintro ⟨whole, r, hw, f, r', hf, e, _, he, _, hn, rfl, rfl⟩
    exact ⟨whole, r, f, r', e, hw, hf, he, hn⟩
  · rintro ⟨whole, r, f, r', e, hw, hf, he, hn⟩
    exact ⟨whole, r, hw, f, r', hf, e, rest, he, n, hn, rfl, rfl⟩

theorem number_sound {cs rest : List Char} {n : Json.Number}
    (h : Reader.number cs = some (n, rest)) : ∃ pre, cs = pre ++ rest ∧ NumberText pre n := by
  obtain ⟨negative, behind, rfl, hSign⟩ := exists_signText cs
  rw [number_signText negative hSign, unsigned_eq_some_iff] at h
  obtain ⟨whole, r, f, r', e, hw, hf, he, hn⟩ := h
  obtain ⟨rfl, hWhole⟩ := wholePart_sound hw
  obtain ⟨ft, rfl, hft⟩ := fractionPart_sound hf
  obtain ⟨et, rfl, het⟩ := exponentPart_sound he
  exact ⟨signText negative ++ (whole ++ (ft ++ et)), by simp only [List.append_assoc],
    numberText_iff.mpr ⟨negative, whole, ft, et, f, e, rfl, hWhole, hft, het, hn⟩⟩

/-- The character can go on with a number. -/
def goesOn (c : Char) : Bool := c.isDigit || c = '.' || c = 'e' || c = 'E'

/-- The rest of a text does not go on with a number that stands in front of it. -/
def EndsNumber (cs : List Char) : Prop := ∀ c ∈ cs.head?, goesOn c = false

theorem endsNumber_nil : EndsNumber [] := by simp [EndsNumber]

theorem endsNumber_cons {c : Char} {cs : List Char} : EndsNumber (c :: cs) ↔ goesOn c = false := by
  simp [EndsNumber]

theorem EndsNumber.noDigit {cs : List Char} (h : EndsNumber cs) : NoDigit cs := fun c hc => by
  have := h c hc
  simp only [goesOn, Bool.or_eq_false_iff] at this
  exact this.1.1.1

theorem EndsNumber.no_point {cs : List Char} (h : EndsNumber cs) : cs.head? ≠ some '.' :=
  fun hc => absurd (h _ hc) (by decide)

theorem EndsNumber.no_mark {cs : List Char} (h : EndsNumber cs) :
    ∀ c ∈ cs.head?, ¬ (c = 'e' ∨ c = 'E') := by
  rintro c hc (rfl | rfl)
  · exact absurd (h _ hc) (by decide)
  · exact absurd (h _ hc) (by decide)

/-- An exponent starts with its mark. -/
theorem ExponentText.head {et : List Char} {e : Option Int} (h : ExponentText et e) :
    et = [] ∨ et.head? = some 'e' ∨ et.head? = some 'E' := by
  cases h with
  | absent => exact .inl rfl
  | bare hm | plus hm | minus hm => exact .inr (hm.imp (congrArg some) (congrArg some))

/-- An exponent is neither a digit more nor a point. -/
theorem ExponentText.endsFraction {et rest : List Char} {e : Option Int} (h : ExponentText et e)
    (hRest : EndsNumber rest) : NoDigit (et ++ rest) ∧ (et ++ rest).head? ≠ some '.' := by
  rcases h.head with rfl | h | h
  · exact ⟨hRest.noDigit, hRest.no_point⟩
  all_goals
    obtain ⟨ds, rfl⟩ := List.head?_eq_some_iff.mp h
    exact ⟨noDigit_cons.mpr (by decide), by simp⟩

/-- A fraction is no digit more. -/
theorem FractionText.noDigit {ft rest : List Char} {f : Option (List Char)}
    (h : FractionText ft f) (hRest : NoDigit rest) : NoDigit (ft ++ rest) := by
  cases h with
  | absent => exact hRest
  | places => exact noDigit_cons.mpr (by decide)

/-- A number starts with a digit behind its sign. -/
theorem IsWhole.no_minus {whole : List Char} (h : IsWhole whole) (rest : List Char) :
    (whole ++ rest).head? ≠ some '-' := by
  obtain ⟨d, ds, rfl, hd⟩ := h.1.exists_cons
  intro hMinus
  cases hMinus
  exact absurd hd (by decide)

theorem number_complete {pre rest : List Char} {n : Json.Number} (h : NumberText pre n)
    (hRest : EndsNumber rest) : Reader.number (pre ++ rest) = some (n, rest) := by
  obtain ⟨negative, whole, ft, et, f, e, rfl, hw, hf, he, hn⟩ := numberText_iff.mp h
  obtain ⟨hDigit, hPoint⟩ := he.endsFraction hRest
  simp only [List.append_assoc]
  rw [number_signText negative fun _ => hw.no_minus _, unsigned_eq_some_iff]
  exact ⟨whole, ft ++ (et ++ rest), f, et ++ rest, e, wholePart_complete hw (hf.noDigit hDigit),
    fractionPart_complete hf hDigit hPoint,
    exponentPart_complete he hRest.noDigit hRest.no_mark, hn⟩

end Json

end Errand
