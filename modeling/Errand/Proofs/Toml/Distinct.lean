import Mathlib
import Errand.Toml.Reader

/-!
# Errand — every table names its members once

A document is built up one value and one header at a time, and a name that is taken is refused
or descended into. So however a table came about, by headers, by dotted keys or between braces,
it has at most one member of a name, and it does not matter in which order its members stand.

* `Toml.Distinct`    — every table of a value, however deep, names each member once.
* `Members.Clear`    — the same of the members of a table.
* `Clear.alter`, `Clear.insertPath` — growing a document keeps it so.
* `clear_of_read?`   — every document that is read is so.
-/

namespace Errand.Toml

-- ---------------------------------------------------------------------------
-- Tables that name each member once
-- ---------------------------------------------------------------------------

/-- Every table of a value, however deep, names each member once. -/
inductive Distinct : Toml → Prop
  | string (s : String) : Distinct (.string s)
  | integer (n : Int) : Distinct (.integer n)
  | real (d : Number.Double) : Distinct (.real d)
  | bool (b : Bool) : Distinct (.bool b)
  | moment : Distinct .moment
  | array {items : List Toml} (h : ∀ v ∈ items, Distinct v) : Distinct (.array items)
  | table {origin : Origin} {members : List (String × Toml)}
      (names : (members.map Prod.fst).Nodup) (values : ∀ e ∈ members, Distinct e.2) :
      Distinct (.table origin members)
  | rows {tables : List (List (String × Toml))} (names : ∀ m ∈ tables, (m.map Prod.fst).Nodup)
      (values : ∀ m ∈ tables, ∀ e ∈ m, Distinct e.2) : Distinct (.rows tables)

/-- The members of a table have different names, and so on in every one of them. -/
structure Members.Clear (m : Members) : Prop where
  names : (m.map Prod.fst).Nodup
  values : ∀ e ∈ m, Distinct e.2

open Members (Clear)

variable {m m' inner inner' : Members} {others : List Members} {name last : String} {v w : Toml}
  {origin : Origin}

theorem distinct_table_iff : Distinct (.table origin m) ↔ Clear m :=
  ⟨fun h => by cases h with | table names values => exact ⟨names, values⟩,
    fun h => .table h.names h.values⟩

theorem distinct_rows_cons_iff :
    Distinct (.rows (m :: others)) ↔ Clear m ∧ Distinct (.rows others) := by
  constructor
  · intro h
    cases h with
    | rows names values =>
      rw [List.forall_mem_cons] at names values
      exact ⟨⟨names.1, values.1⟩, .rows names.2 values.2⟩
  · rintro ⟨hm, h⟩
    cases h with
    | rows names values =>
      exact .rows (List.forall_mem_cons.mpr ⟨hm.names, names⟩)
        (List.forall_mem_cons.mpr ⟨hm.values, values⟩)

theorem clear_nil : Clear [] := ⟨List.nodup_nil, nofun⟩

-- ---------------------------------------------------------------------------
-- Members
-- ---------------------------------------------------------------------------

theorem mem_of_member? (h : member? name m = some v) : (name, v) ∈ m := by
  obtain ⟨entry, hFound, rfl⟩ := Option.map_eq_some_iff.mp h
  have hName : entry.1 = name := by simpa using List.find?_some hFound
  exact hName ▸ List.mem_of_find?_eq_some hFound

theorem not_mem_of_member? (h : member? name m = none) : name ∉ m.map Prod.fst := by
  rw [member?, Option.map_eq_none_iff, List.find?_eq_none] at h
  intro hName
  obtain ⟨entry, hEntry, rfl⟩ := List.mem_map.mp hName
  exact h entry hEntry (by simp)

/-- Among members of different names the look-up finds exactly those that are there. -/
theorem Members.Clear.member?_eq_some_iff (h : Clear m) :
    member? name m = some v ↔ (name, v) ∈ m := by
  refine ⟨mem_of_member?, fun hMem => ?_⟩
  cases hFound : member? name m with
  | none => exact absurd (List.mem_map_of_mem hMem) (not_mem_of_member? hFound)
  | some w =>
    have hEntry := List.inj_on_of_nodup_map h.names (mem_of_member? hFound) hMem rfl
    rw [(Prod.mk.inj hEntry).2]

theorem map_fst_setMember (h : name ∈ m.map Prod.fst) :
    (setMember name v m).map Prod.fst = m.map Prod.fst := by
  induction m with
  | nil => simp at h
  | cons entry rest ih =>
    rw [setMember]
    split
    · rename_i hName
      simp [hName]
    · rename_i hOther
      have hRest : name ∈ rest.map Prod.fst := by
        simpa [Ne.symm hOther] using h
      simp [ih hRest]

theorem mem_setMember {e : String × Toml} (h : e ∈ setMember name v m) :
    e = (name, v) ∨ e ∈ m := by
  induction m with
  | nil => exact .inl (List.mem_singleton.mp h)
  | cons entry rest ih =>
    rw [setMember] at h
    split at h
    · exact (List.mem_cons.mp h).imp_right (List.mem_cons_of_mem _)
    · rcases List.mem_cons.mp h with rfl | h
      · exact .inr List.mem_cons_self
      · exact (ih h).imp_right (List.mem_cons_of_mem _)

namespace Members.Clear

theorem distinct (h : Clear m) (hFound : member? name m = some v) : v.Distinct :=
  h.values _ (mem_of_member? hFound)

/-- One more member of a name that is free. -/
theorem append (h : Clear m) (hFree : member? name m = none) (hv : v.Distinct) :
    Clear (m ++ [(name, v)]) where
  names := by
    rw [List.map_append]
    refine List.nodup_append.mpr ⟨h.names, List.nodup_singleton _, ?_⟩
    rintro other hOther _ hName rfl
    rw [List.mem_singleton.mp hName] at hOther
    exact not_mem_of_member? hFree hOther
  values := by
    intro e he
    rcases List.mem_append.mp he with he | he
    · exact h.values e he
    · rw [List.mem_singleton.mp he]
      exact hv

/-- Another value for a member that is there. -/
theorem setMember (h : Clear m) (hFound : member? name m = some w) (hv : v.Distinct) :
    Clear (setMember name v m) where
  names := by
    rw [map_fst_setMember (List.mem_map_of_mem (mem_of_member? hFound))]
    exact h.names
  values := by
    intro e he
    rcases mem_setMember he with rfl | he
    · exact hv
    · exact h.values e he

theorem addMember (h : Clear m) (hv : v.Distinct) (hAdd : addMember name v m = some m') :
    Clear m' := by
  rw [Toml.addMember] at hAdd
  split at hAdd
  · cases hAdd
  · cases hAdd
    exact h.append ‹_› hv

theorem table (h : Clear m) (hFound : member? name m = some (.table origin inner)) :
    Clear inner := distinct_table_iff.mp (h.distinct hFound)

/-- A table in the place of one that is there. -/
theorem setTable (h : Clear m) (hFound : member? name m = some w) (hInner : Clear inner) :
    Clear (Toml.setMember name (.table origin inner) m) :=
  h.setMember hFound (distinct_table_iff.mpr hInner)

/-- The table that a repeated header opened last in place of another. -/
theorem setRow (h : Clear m) (hFound : member? name m = some (.rows (inner :: others)))
    (hInner : Clear inner') : Clear (Toml.setMember name (.rows (inner' :: others)) m) :=
  h.setMember hFound
    (distinct_rows_cons_iff.mpr ⟨hInner, (distinct_rows_cons_iff.mp (h.distinct hFound)).2⟩)

-- ---------------------------------------------------------------------------
-- Keys and headers
-- ---------------------------------------------------------------------------

/-- A value put under a dotted key. -/
theorem insertPath {path : List String} (h : Clear m) (hv : v.Distinct)
    (hInsert : insertPath v last m path = some m') : Clear m' := by
  induction path generalizing m m' with
  | nil => exact h.addMember hv hInsert
  | cons name path ih =>
    cases path with
    | nil =>
      rw [Toml.insertPath] at hInsert
      split at hInsert
      · cases hInsert
        exact h.append ‹_› (distinct_table_iff.mpr (clear_nil.append rfl hv))
      · rename_i hFound
        obtain ⟨inner', hAdd, hSet⟩ := Option.bind_eq_some_iff.mp hInsert
        cases hSet
        exact h.setTable hFound ((h.table hFound).addMember hv hAdd)
      · cases hInsert
    | cons next path =>
      rw [Toml.insertPath] at hInsert
      split at hInsert
      · obtain ⟨inner', hInner, hSet⟩ := Option.bind_eq_some_iff.mp hInsert
        cases hSet
        exact h.append ‹_› (distinct_table_iff.mpr (ih clear_nil hInner))
      · rename_i hFound
        split at hInsert
        · cases hInsert
        · obtain ⟨inner', hInner, hSet⟩ := Option.bind_eq_some_iff.mp hInsert
          cases hSet
          exact h.setTable hFound (ih (h.table hFound) hInner)
      · rename_i hFound
        obtain ⟨inner', hInner, hSet⟩ := Option.bind_eq_some_iff.mp hInsert
        cases hSet
        exact h.setRow hFound (ih (distinct_rows_cons_iff.mp (h.distinct hFound)).1 hInner)
      · cases hInsert

theorem insertDotted {keys : List String} (h : Clear m) (hv : v.Distinct)
    (hInsert : insertDotted keys v m = some m') : Clear m' := by
  obtain ⟨⟨path, last⟩, -, hPath⟩ := Option.bind_eq_some_iff.mp hInsert
  exact h.insertPath hv hPath

/-- A change of the table at the end of a path of headers. -/
theorem alter {change : Members → Option Members} {path : List String} (h : Clear m)
    (hChange : ∀ {n n'}, Clear n → change n = some n' → Clear n')
    (hAlter : alter change m path = some m') : Clear m' := by
  induction path generalizing m m' with
  | nil => exact hChange h hAlter
  | cons name path ih =>
    rw [Toml.alter] at hAlter
    split at hAlter
    · obtain ⟨inner', hInner, hSet⟩ := Option.bind_eq_some_iff.mp hAlter
      cases hSet
      exact h.append ‹_› (distinct_table_iff.mpr (ih clear_nil hInner))
    · rename_i hFound
      split at hAlter
      · cases hAlter
      · obtain ⟨inner', hInner, hSet⟩ := Option.bind_eq_some_iff.mp hAlter
        cases hSet
        exact h.setTable hFound (ih (h.table hFound) hInner)
    · rename_i hFound
      obtain ⟨inner', hInner, hSet⟩ := Option.bind_eq_some_iff.mp hAlter
      cases hSet
      exact h.setRow hFound (ih (distinct_rows_cons_iff.mp (h.distinct hFound)).1 hInner)
    · cases hAlter

theorem openTable {keys : List String} (h : Clear m) (hOpen : openTable keys m = some m') :
    Clear m' := by
  obtain ⟨⟨path, last⟩, -, hAlter⟩ := Option.bind_eq_some_iff.mp hOpen
  refine h.alter (fun {n n'} hn hChange => ?_) hAlter
  split at hChange
  · cases hChange
    exact hn.append ‹_› (distinct_table_iff.mpr clear_nil)
  · rename_i hFound
    cases hChange
    exact hn.setTable hFound (hn.table hFound)
  · cases hChange

theorem openRow {keys : List String} (h : Clear m) (hOpen : openRow keys m = some m') :
    Clear m' := by
  obtain ⟨⟨path, last⟩, -, hAlter⟩ := Option.bind_eq_some_iff.mp hOpen
  refine h.alter (fun {n n'} hn hChange => ?_) hAlter
  split at hChange
  · cases hChange
    exact hn.append ‹_› (distinct_rows_cons_iff.mpr ⟨clear_nil, .rows nofun nofun⟩)
  · rename_i hFound
    cases hChange
    exact hn.setMember hFound (distinct_rows_cons_iff.mpr ⟨clear_nil, hn.distinct hFound⟩)
  · cases hChange

end Members.Clear

-- ---------------------------------------------------------------------------
-- Values
-- ---------------------------------------------------------------------------

theorem distinct_fitsWide {n : Int}
    (h : (if fitsWide n then some (Toml.integer n) else none) = some v) : v.Distinct := by
  split at h
  · cases h
    exact .integer n
  · cases h

theorem distinct_integer {cs : List Char} (h : integer? cs = some v) : v.Distinct := by
  unfold integer? at h
  simp only [Option.bind_eq_bind, Option.bind_assoc] at h
  split at h
  all_goals
    obtain ⟨digits, -, h⟩ := Option.bind_eq_some_iff.mp h
    obtain ⟨n, -, h⟩ := Option.bind_eq_some_iff.mp h
    exact distinct_fitsWide h

theorem distinct_real {cs : List Char} (h : real? cs = some v) : v.Distinct := by
  unfold real? at h
  simp only [Option.bind_eq_bind, Option.bind_some] at h
  split at h
  · cases h
  -- Whichever of its parts the number has, the last step is the double.
  obtain ⟨whole, -, h⟩ := Option.bind_eq_some_iff.mp h
  split at h
  · split at h
    · obtain ⟨d, -, h⟩ := Option.bind_eq_some_iff.mp h
      cases h
      exact .real d
    · obtain ⟨digits, -, h⟩ := Option.bind_eq_some_iff.mp h
      obtain ⟨d, -, h⟩ := Option.bind_eq_some_iff.mp h
      cases h
      exact .real d
  · obtain ⟨places, -, h⟩ := Option.bind_eq_some_iff.mp h
    split at h
    · obtain ⟨d, -, h⟩ := Option.bind_eq_some_iff.mp h
      cases h
      exact .real d
    · obtain ⟨digits, -, h⟩ := Option.bind_eq_some_iff.mp h
      obtain ⟨d, -, h⟩ := Option.bind_eq_some_iff.mp h
      cases h
      exact .real d

theorem distinct_unusual {cs : List Char} (h : unusual? cs = some v) : v.Distinct := by
  unfold unusual? at h
  dsimp only at h
  split at h
  · cases h
    exact .real _
  · split at h
    · cases h
      exact .real _
    · cases h

theorem distinct_moment {cs : List Char} (h : moment? cs = some v) : v.Distinct := by
  obtain ⟨-, -, rfl⟩ := Option.map_eq_some_iff.mp h
  exact .moment

theorem distinct_scalar {cs : List Char} (h : scalar? cs = some v) : v.Distinct := by
  rw [scalar?] at h
  split at h
  · cases h
    exact .bool _
  split at h
  · cases h
    exact .bool _
  obtain ⟨read, hRead, h⟩ := List.exists_of_findSome?_eq_some h
  simp only [List.mem_cons, List.not_mem_nil, or_false] at hRead
  rcases hRead with rfl | rfl | rfl | rfl
  · exact distinct_integer h
  · exact distinct_real h
  · exact distinct_unusual h
  · exact distinct_moment h

namespace Reader

/-- What holds of the values that are read with some fuel. -/
structure Reads (fuel : Nat) : Prop where
  value : ∀ {depth cs v rest}, value fuel depth cs = some (v, rest) → v.Distinct
  items : ∀ {depth read cs v rest}, (∀ w ∈ read, Distinct w) →
    items fuel depth read cs = some (v, rest) → v.Distinct
  members : ∀ {depth read cs v rest}, Clear read →
    members fuel depth read cs = some (v, rest) → v.Distinct

theorem reads (fuel : Nat) : Reads fuel := by
  induction fuel with
  | zero =>
    exact {
      value := fun h => by simp [Reader.value] at h
      items := fun _ h => by simp [Reader.items] at h
      members := fun _ h => by simp [Reader.members] at h }
  | succ fuel ih =>
    refine { value := ?value, items := ?items, members := ?members }
    case value =>
      intro depth cs v rest h
      unfold Reader.value at h
      split at h
      · split at h
        · cases h
        · exact ih.items (List.forall_mem_nil _) h
      · split at h
        · cases h
        · exact ih.members clear_nil h
      · split at h
        · cases h
          exact .string _
        · obtain ⟨w, hWord, hEq⟩ := Option.map_eq_some_iff.mp h
          cases hEq
          exact distinct_scalar hWord
    case items =>
      intro depth read cs v rest hRead h
      rw [Reader.items] at h
      obtain ⟨found, -, h⟩ := Option.bind_eq_some_iff.mp h
      split at h
      · cases h
        exact .array (by simpa using hRead)
      obtain ⟨⟨item, rest'⟩, hItem, h⟩ := Option.bind_eq_some_iff.mp h
      have hMore : ∀ w ∈ item :: read, Distinct w :=
        List.forall_mem_cons.mpr ⟨ih.value hItem, hRead⟩
      obtain ⟨next, -, h⟩ := Option.bind_eq_some_iff.mp h
      split at h
      · exact ih.items hMore h
      · cases h
        exact .array (by simpa [or_imp, forall_and, and_comm] using hMore)
      · cases h
    case members =>
      intro depth read cs v rest hRead h
      rw [Reader.members] at h
      obtain ⟨found, -, h⟩ := Option.bind_eq_some_iff.mp h
      split at h
      · cases h
        exact distinct_table_iff.mpr hRead
      obtain ⟨⟨keys, rest⟩, -, h⟩ := Option.bind_eq_some_iff.mp h
      obtain ⟨rest, -, h⟩ := Option.bind_eq_some_iff.mp h
      obtain ⟨⟨w, rest⟩, hValue, h⟩ := Option.bind_eq_some_iff.mp h
      obtain ⟨read', hInsert, h⟩ := Option.bind_eq_some_iff.mp h
      have hMore : Clear read' := hRead.insertDotted (ih.value hValue) hInsert
      obtain ⟨next, -, h⟩ := Option.bind_eq_some_iff.mp h
      split at h
      · exact ih.members hMore h
      · cases h
        exact distinct_table_iff.mpr hMore
      · cases h

-- ---------------------------------------------------------------------------
-- Documents
-- ---------------------------------------------------------------------------

variable {d d' : Document} {cs rest : List Char}

theorem statement_clear (hd : Clear d.members) (h : statement d cs = some (d', rest)) :
    Clear d'.members := by
  unfold statement at h
  split at h
  · obtain ⟨⟨keys, rest⟩, -, h⟩ := Option.bind_eq_some_iff.mp h
    obtain ⟨rest, -, h⟩ := Option.bind_eq_some_iff.mp h
    obtain ⟨rest, -, h⟩ := Option.bind_eq_some_iff.mp h
    obtain ⟨m', hOpen, h⟩ := Option.bind_eq_some_iff.mp h
    cases h
    exact hd.openRow hOpen
  · obtain ⟨⟨keys, rest⟩, -, h⟩ := Option.bind_eq_some_iff.mp h
    obtain ⟨rest, -, h⟩ := Option.bind_eq_some_iff.mp h
    obtain ⟨m', hOpen, h⟩ := Option.bind_eq_some_iff.mp h
    cases h
    exact hd.openTable hOpen
  · obtain ⟨⟨keys, rest⟩, -, h⟩ := Option.bind_eq_some_iff.mp h
    obtain ⟨rest, -, h⟩ := Option.bind_eq_some_iff.mp h
    obtain ⟨⟨v, rest⟩, hValue, h⟩ := Option.bind_eq_some_iff.mp h
    obtain ⟨m', hAlter, h⟩ := Option.bind_eq_some_iff.mp h
    cases h
    exact hd.alter (fun hn hInsert => hn.insertDotted ((reads _).value hValue) hInsert) hAlter

theorem lines_clear {fuel : Nat} (hd : Clear d.members) (h : lines fuel d cs = some d') :
    Clear d'.members := by
  induction fuel generalizing d cs with
  | zero => cases h
  | succ fuel ih =>
    rw [lines] at h
    obtain ⟨found, -, h⟩ := Option.bind_eq_some_iff.mp h
    split at h
    · cases h
      exact hd
    obtain ⟨⟨next, rest⟩, hStatement, h⟩ := Option.bind_eq_some_iff.mp h
    obtain ⟨rest, -, h⟩ := Option.bind_eq_some_iff.mp h
    exact ih (statement_clear hd hStatement) h

end Reader

/-- **Every table of a document names each member once.** -/
theorem clear_of_read? {text : String} (h : read? text = some m) : Clear m := by
  obtain ⟨d, hLines, rfl⟩ := Option.map_eq_some_iff.mp h
  exact Reader.lines_clear clear_nil hLines

end Errand.Toml
