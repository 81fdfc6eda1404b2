import Errand.Proofs.Json.OneLine
import Errand.Proofs.Result.Reading
import Errand.Proofs.Text.Pieces

/-!
# Errand — the report on a value that is no result

The format does not stop at the first fault. What it reports of an object is what it reports of
each known field alone, one after the other by name; of a list what it reports of each item
alone, and of an issue what it reports of each known member alone. So nothing that is wrong is
hidden by anything else, and what is right or unknown adds nothing. A scalar that is wrong has
one line, or two if it is a number below its bound and of a wrong kind as well. Only with
nothing to report are the fields read.

* `tabled`            — the faults of an object, in the order of a table of names.
* `Reports`           — a value that is right is not reported, and any other just once.
* `Lone`              — what is reported of each field, item and member that stands alone.
* `splitOn_illFormed` — the reason for a refusal has a line for each fault.
* `Itemized`          — the report on a text as a whole, and the error that carries it.
* `AgentResult.read_itemized` — every text that spells a value is reported on like that.
-/

namespace Errand

open ResultFormat

namespace ResultFormat

-- ---------------------------------------------------------------------------
-- Tables of names
-- ---------------------------------------------------------------------------

/-- Where only one item of a list yields anything, the list yields what that item does. -/
theorem flatMap_eq_of_forall_ne {α β : Type} {f : α → List β} {as : List α} {a : α}
    (hNodup : as.Nodup) (ha : a ∈ as) (h : ∀ b ∈ as, b ≠ a → f b = []) : as.flatMap f = f a := by
  obtain ⟨before, after, rfl⟩ := List.append_of_mem ha
  obtain ⟨-, hAfter, hApart⟩ := List.nodup_append.mp hNodup
  have hBefore : before.flatMap f = [] := List.flatMap_eq_nil_iff.mpr fun b hb =>
    h b (by simp [hb]) (hApart b hb a List.mem_cons_self)
  have hRest : after.flatMap f = [] := List.flatMap_eq_nil_iff.mpr fun b hb =>
    h b (by simp [hb]) fun hEq => (List.nodup_cons.mp hAfter).1 (hEq ▸ hb)
  rw [List.flatMap_append, List.flatMap_cons, hBefore, hRest, List.nil_append, List.append_nil]

section Tables

variable {F : Type} {table : List (String × F)} {check : F → Json → List Violation}

/-- The faults of some members, name by name in the order of a table. -/
def tabled (table : List (String × F)) (check : F → Json → List Violation)
    (members : List (String × Json)) : List Violation :=
  table.flatMap fun (name, format) =>
    match Json.member? name members with
    | some v => check format v
    | none => []

/-- A member that stands alone has the faults that its own format finds. -/
theorem tabled_single (hNodup : (table.map Prod.fst).Nodup) {entry : String × F}
    (h : entry ∈ table) (v : Json) : tabled table check [(entry.1, v)] = check entry.2 v := by
  have hOthers : ∀ other ∈ table, other ≠ entry → (match Json.member? other.1 [(entry.1, v)] with
      | some v => check other.2 v
      | none => []) = [] := by
    intro other hOther hNe
    have hName : entry.1 ≠ other.1 := fun hEq =>
      hNe (List.inj_on_of_nodup_map hNodup h hOther hEq).symm
    simp [Json.member?, hName]
  rw [tabled, flatMap_eq_of_forall_ne hNodup.of_map h hOthers]
  simp [Json.member?]

/-- A member that the table does not name has none. -/
theorem tabled_unknown {name : String} (h : name ∉ table.map Prod.fst) (v : Json) :
    tabled table check [(name, v)] = [] := by
  refine List.flatMap_eq_nil_iff.mpr fun entry hEntry => ?_
  have hName : name ≠ entry.1 := fun hEq => h (hEq ▸ List.mem_map_of_mem hEntry)
  simp [Json.member?, hName]

/-- **Faults do not meddle**: members have the faults that each has alone, name by name. -/
theorem tabled_eq (hNodup : (table.map Prod.fst).Nodup) (members : List (String × Json)) :
    tabled table check members = (table.map Prod.fst).flatMap fun name =>
      ((Json.member? name members).map fun v => tabled table check [(name, v)]).getD [] := by
  rw [List.flatMap_map]
  refine List.flatMap_congr ?_
  rintro ⟨name, format⟩ hEntry
  dsimp only
  cases Json.member? name members with
  | none => rfl
  | some v => exact (tabled_single hNodup hEntry v).symm

end Tables

-- ---------------------------------------------------------------------------
-- Single values
-- ---------------------------------------------------------------------------

/-- Some faults are the report on a value: none if it is right, and this one alone if not. -/
def Reports (faults : List Violation) (right : Prop) (fault : Violation) : Prop :=
  (right → faults = []) ∧ (¬ right → faults = [fault])

/-- A number that stands for an integer. -/
def IsInteger (v : Json) : Prop := ∃ n k, v = .number n ∧ n.Denotes k

/-- A number below zero. -/
def IsNegative (v : Json) : Prop := ∃ n, v = .number n ∧ ¬ n.AtLeastZero

variable {v : Json} {kinds : List Kind} {right : Prop}

/-- A format without a bound reports a value of a wrong kind, once. -/
theorem Scalar.reports (h : Scalar.violations ⟨kinds, false⟩ v = [] ↔ right) :
    Reports (Scalar.violations ⟨kinds, false⟩ v) right (.wrongKind v kinds) := by
  rw [Reports, ← h]
  refine ⟨id, fun hSome => ?_⟩
  simp only [Scalar.violations, Bool.false_and, Bool.false_eq_true, if_false,
    List.nil_append] at hSome ⊢
  split at hSome
  · exact absurd rfl hSome
  · exact if_neg ‹_›

/-- A format with a bound reports a value below it as well, before its kind. -/
theorem Scalar.reports_bounded (h : Scalar.violations ⟨kinds, false⟩ v = [] ↔ right) :
    ∃ bound kind, Scalar.violations ⟨kinds, true⟩ v = bound ++ kind ∧
      Reports bound (¬ IsNegative v) (.belowZero v) ∧
      Reports kind right (.wrongKind v kinds) := by
  refine ⟨if isBelowZero v then [.belowZero v] else [], _, ?_, ?_, Scalar.reports h⟩
  · simp [Scalar.violations]
  · have hNegative : isBelowZero v = true ↔ IsNegative v := by
      cases v with
      | number n => simp [IsNegative, ← isBelowZero_number]
      | _ => simp [IsNegative, isBelowZero]
    rw [Reports, not_not, ← hNegative]
    exact ⟨fun hRight => if_neg hRight, fun hBelow => if_pos hBelow⟩

theorem list_violations : Scalar.violations ⟨listKinds, false⟩ v = [] ↔
    v = .null ∨ ∃ items, v = .array items := by
  cases v <;> simp [Scalar.violations_eq_nil_iff, listKinds, Kind.admits]

theorem text_violations : Scalar.violations ⟨[.string], false⟩ v = [] ↔ IsText v := by
  cases v <;> simp [Scalar.violations_eq_nil_iff, Kind.admits, IsText]

theorem integer_violations : Scalar.violations ⟨[.integer, .null], false⟩ v = [] ↔
    v = .null ∨ IsInteger v := by
  cases v <;> simp [Scalar.violations_eq_nil_iff, Kind.admits, IsInteger, ← admits_integer]

theorem number_violations : Scalar.violations ⟨[.null, .number], false⟩ v = [] ↔
    v = .null ∨ ∃ n, v = .number n := by
  cases v <;> simp [Scalar.violations_eq_nil_iff, Kind.admits]

theorem priority_violations : Scalar.violations ⟨[.integer, .null, .string], false⟩ v = [] ↔
    v = .null ∨ IsText v ∨ IsInteger v := by
  cases v <;>
    simp [Scalar.violations_eq_nil_iff, Kind.admits, IsText, IsInteger, ← admits_integer]

-- ---------------------------------------------------------------------------
-- Values that stand alone
-- ---------------------------------------------------------------------------

/-- The faults of an object with this field alone. -/
def alone (name : String) (v : Json) : List Violation := violations (.object [(name, v)])

/-- The faults of an object with one issue alone, which has this member alone. -/
def aloneInIssue (name : String) (v : Json) : List Violation :=
  alone "discovered_issues" (.array [.object [(name, v)]])

theorem nodup_resultNames : (resultFields.map Prod.fst).Nodup := by decide

theorem nodup_issueNames : (issueMembers.map Prod.fst).Nodup := by decide

theorem alone_eq {name : String} {format : FieldFormat} (h : (name, format) ∈ resultFields)
    (v : Json) : alone name v = format.violations v :=
  tabled_single nodup_resultNames h v

/-- A list of issues has the faults of its items. -/
theorem alone_issues (items : List Json) :
    alone "discovered_issues" (.array items) = items.flatMap (objectViolations issueMembers) := by
  have hEntry : ("discovered_issues", .arrayOfObjects issueMembers) ∈ resultFields := by
    simp [resultFields]
  rw [alone_eq hEntry, FieldFormat.violations]

theorem aloneInIssue_tabled (name : String) :
    aloneInIssue name = fun v => tabled issueMembers Scalar.violations [(name, v)] := by
  funext v
  rw [aloneInIssue, alone_issues, List.flatMap_singleton]
  rfl

theorem aloneInIssue_eq {name : String} {format : Scalar} (h : (name, format) ∈ issueMembers)
    (v : Json) : aloneInIssue name v = format.violations v := by
  rw [aloneInIssue_tabled]
  exact tabled_single nodup_issueNames h v

/-- What is reported of a value that stands alone: as a field, as an item of a list, and as a
member of an issue. -/
structure Lone (v : Json) : Prop where
  /-- Nothing is reported of a field that the format does not name, or that may be anything. -/
  unknown : ∀ name, name ∉ resultNames ∨ name = "decomposition" → alone name v = []
  texts : ∀ name ∈ ["error", "message", "status", "summary"],
    Reports (alone name v) (v = .null ∨ IsText v) (.wrongKind v [.null, .string])
  flags : ∀ name ∈ ["converged", "success"],
    Reports (alone name v) (v = .null ∨ IsFlag v) (.wrongKind v [.boolean, .null])
  gates : Reports (alone "quality_gates" v) (v = .null ∨ IsRecord v)
    (.wrongKind v [.null, .object])
  /-- A number is held against its bound and against its kind. -/
  count : ∃ bound kind, alone "iterations" v = bound ++ kind ∧
    Reports bound (¬ IsNegative v) (.belowZero v) ∧
    Reports kind (v = .null ∨ IsInteger v) (.wrongKind v [.integer, .null])
  duration : ∃ bound kind, alone "duration_seconds" v = bound ++ kind ∧
    Reports bound (¬ IsNegative v) (.belowZero v) ∧
    Reports kind (v = .null ∨ ∃ n, v = .number n) (.wrongKind v [.null, .number])
  /-- A list is reported item by item, and what is no list as a whole. -/
  items : ∀ name ∈ ["discovered_issues", "files_modified", "punted_items"], ∀ items,
    v = .array items → alone name v = items.flatMap fun item => alone name (.array [item])
  lists : ∀ name ∈ ["discovered_issues", "files_modified", "punted_items"],
    (∀ items, v ≠ .array items) →
      Reports (alone name v) (v = .null) (.wrongKind v [.array, .null])
  textItem : ∀ name ∈ ["files_modified", "punted_items"],
    Reports (alone name (.array [v])) (IsText v) (.wrongKind v [.string])
  /-- An issue is reported member by member in alphabetical order, and what is none as a whole. -/
  issue : ∀ members, v = .object members → alone "discovered_issues" (.array [v]) =
    issueNames.flatMap fun name => ((Json.member? name members).map (aloneInIssue name)).getD []
  noIssue : (∀ members, v ≠ .object members) →
    alone "discovered_issues" (.array [v]) = [.wrongKind v [.object]]
  unknownMember : ∀ name ∉ issueNames, aloneInIssue name v = []
  memberTexts : ∀ name ∈ ["description", "title", "type"],
    Reports (aloneInIssue name v) (v = .null ∨ IsText v) (.wrongKind v [.null, .string])
  priority : Reports (aloneInIssue "priority" v) (v = .null ∨ IsText v ∨ IsInteger v)
    (.wrongKind v [.integer, .null, .string])

/-- A format for the items of a list. -/
def FieldFormat.IsList : FieldFormat → Prop
  | .arrayOf _ | .arrayOfObjects _ => True
  | .anything | .scalar _ => False

/-- A list has the faults that each item has alone, -/
theorem FieldFormat.IsList.violations_array {format : FieldFormat} (h : format.IsList)
    (items : List Json) : format.violations (.array items) =
      items.flatMap fun item => format.violations (.array [item]) := by
  cases format with
  | anything | scalar => exact h.elim
  | arrayOf | arrayOfObjects => simp only [FieldFormat.violations, List.flatMap_singleton]

/-- and what is no list has to be null. -/
theorem FieldFormat.IsList.violations_other {format : FieldFormat} (h : format.IsList)
    (hv : ∀ items, v ≠ .array items) :
    format.violations v = Scalar.violations ⟨listKinds, false⟩ v := by
  cases v with
  | array items => exact absurd rfl (hv items)
  | _ =>
    cases format with
    | anything | scalar => exact h.elim
    | arrayOf | arrayOfObjects => rfl

/-- The fields that hold lists. -/
theorem exists_list {name : String}
    (h : name ∈ ["discovered_issues", "files_modified", "punted_items"]) :
    ∃ format, (name, format) ∈ resultFields ∧ format.IsList := by
  simp only [List.mem_cons, List.not_mem_nil, or_false] at h
  rcases h with rfl | rfl | rfl
  · exact ⟨.arrayOfObjects issueMembers, by simp [resultFields], trivial⟩
  · exact ⟨.arrayOf ⟨[.string], false⟩, by simp [resultFields], trivial⟩
  · exact ⟨.arrayOf ⟨[.string], false⟩, by simp [resultFields], trivial⟩

/-- **What stands alone is reported exactly.** -/
theorem lone (v : Json) : Lone v where
  unknown := by
    rintro name (hName | rfl)
    · exact tabled_unknown hName v
    · have hEntry : ("decomposition", .anything) ∈ resultFields := by simp [resultFields]
      rw [alone_eq hEntry, FieldFormat.violations]
  texts name hName := by
    have hEntries : ∀ name ∈ ["error", "message", "status", "summary"],
        (name, .scalar optionalText) ∈ resultFields := by simp [resultFields]
    rw [alone_eq (hEntries name hName)]
    exact Scalar.reports optionalText_violations
  flags name hName := by
    have hEntries : ∀ name ∈ ["converged", "success"],
        (name, .scalar optionalFlag) ∈ resultFields := by simp [resultFields]
    rw [alone_eq (hEntries name hName)]
    exact Scalar.reports optionalFlag_violations
  gates := by
    have hEntry : ("quality_gates", .scalar ⟨[.null, .object], false⟩) ∈ resultFields := by
      simp [resultFields]
    rw [alone_eq hEntry]
    exact Scalar.reports record_violations
  count := by
    have hEntry : ("iterations", .scalar ⟨[.integer, .null], true⟩) ∈ resultFields := by
      simp [resultFields]
    rw [alone_eq hEntry]
    exact Scalar.reports_bounded integer_violations
  duration := by
    have hEntry : ("duration_seconds", .scalar ⟨[.null, .number], true⟩) ∈ resultFields := by
      simp [resultFields]
    rw [alone_eq hEntry]
    exact Scalar.reports_bounded number_violations
  items name hName items hv := by
    obtain ⟨format, hEntry, hList⟩ := exists_list hName
    simp only [hv, alone_eq hEntry]
    exact hList.violations_array items
  lists name hName hv := by
    obtain ⟨format, hEntry, hList⟩ := exists_list hName
    rw [alone_eq hEntry, hList.violations_other hv]
    refine Scalar.reports (list_violations.trans (or_iff_left ?_))
    rintro ⟨items, rfl⟩
    exact hv items rfl
  textItem name hName := by
    have hEntries : ∀ name ∈ ["files_modified", "punted_items"],
        (name, .arrayOf ⟨[.string], false⟩) ∈ resultFields := by simp [resultFields]
    rw [alone_eq (hEntries name hName), FieldFormat.violations, List.flatMap_singleton]
    exact Scalar.reports text_violations
  issue := by
    rintro members rfl
    simp only [alone_issues, List.flatMap_singleton, aloneInIssue_tabled]
    exact tabled_eq nodup_issueNames members
  noIssue hv := by
    rw [alone_issues, List.flatMap_singleton]
    cases v with
    | object members => exact absurd rfl (hv members)
    | _ => rfl
  unknownMember name hName := by
    rw [aloneInIssue_tabled]
    exact tabled_unknown hName v
  memberTexts name hName := by
    have hEntries : ∀ name ∈ ["description", "title", "type"],
        (name, optionalText) ∈ issueMembers := by simp [issueMembers]
    rw [aloneInIssue_eq (hEntries name hName)]
    exact Scalar.reports optionalText_violations
  priority := by
    have hEntry : ("priority", ⟨[.integer, .null, .string], false⟩) ∈ issueMembers := by
      simp [issueMembers]
    rw [aloneInIssue_eq hEntry]
    exact Scalar.reports priority_violations

-- ---------------------------------------------------------------------------
-- Lines
-- ---------------------------------------------------------------------------

/-- The value that a fault is about. -/
def Violation.value : Violation → Json
  | .belowZero v | .wrongKind v _ => v

/-- The line of a fault quotes the value. -/
theorem Violation.message_quotes (x : Violation) : ∃ tail, x.message = x.value.compact ++ tail := by
  cases x with
  | belowZero v => exact ⟨_, rfl⟩
  | wrongKind v kinds =>
    rcases kinds with _ | ⟨kind, _ | ⟨next, kinds⟩⟩ <;> exact ⟨_, String.append_assoc⟩

theorem newline_not_mem_quoted (kind : Kind) : '\n' ∉ kind.quoted.toList := by
  cases kind <;> decide

theorem newline_not_mem_kinds (kinds : List Kind) :
    '\n' ∉ (String.intercalate ", " (kinds.map Kind.quoted)).toList := by
  induction kinds with
  | nil => simp
  | cons kind kinds ih =>
    cases kinds with
    | nil => simpa using newline_not_mem_quoted kind
    | cons next kinds =>
      rw [List.map_cons, List.map_cons, String.intercalate_cons_cons, ← List.map_cons]
      simp only [String.toList_append, List.mem_append, not_or]
      exact ⟨⟨newline_not_mem_quoted kind, by decide⟩, ih⟩

/-- And it is one line. -/
theorem Violation.newline_not_mem_message (x : Violation) : '\n' ∉ x.message.toList := by
  cases x with
  | belowZero v => simp [message, v.newline_not_mem_compact]
  | wrongKind v kinds =>
    rcases kinds with _ | ⟨kind, _ | ⟨next, kinds⟩⟩
    · simp [message, v.newline_not_mem_compact]
    · simp [message, v.newline_not_mem_compact, newline_not_mem_quoted]
    · simp only [message, String.toList_append, List.mem_append, not_or]
      exact ⟨⟨v.newline_not_mem_compact, by decide⟩, newline_not_mem_kinds _⟩

end ResultFormat

/-- Texts with a line break and a mark between them, and before the first, are marked lines. -/
theorem toList_marked (text : String) (texts : List String) :
    ("\n- " ++ String.intercalate "\n- " (text :: texts)).toList =
      ((text :: texts).map fun text => ("- " ++ text).toList).flatMap fun line => '\n' :: line := by
  induction texts generalizing text with
  | nil => simp
  | cons next texts ih =>
    rw [String.intercalate_cons_cons, List.map_cons, List.flatMap_cons, ← ih next]
    simp

/-- **The reason for a refusal** is a heading, and under it the line of each fault. -/
theorem splitOn_illFormed {faults : List Violation} (h : faults ≠ []) :
    Text.splitOn (· = '\n') (OutputFault.illFormed faults).message.toList =
      "schema validation failed:".toList ::
        faults.map fun x => ("- " ++ x.message).toList := by
  obtain ⟨x, rest, rfl⟩ := List.exists_cons_of_ne_nil h
  have hHeading : "schema validation failed:\n- " = "schema validation failed:" ++ "\n- " := by
    decide
  have hMessage : (OutputFault.illFormed (x :: rest)).message = "schema validation failed:" ++
      ("\n- " ++ String.intercalate "\n- " ((x :: rest).map Violation.message)) :=
    (congrArg (· ++ _) hHeading).trans String.append_assoc
  have hText : (OutputFault.illFormed (x :: rest)).message.toList =
      "schema validation failed:".toList ++
        ((x :: rest).map fun x => ("- " ++ x.message).toList).flatMap fun line =>
          '\n' :: line := by
    rw [hMessage, String.toList_append, List.map_cons, toList_marked, ← List.map_cons,
      List.map_map]
    rfl
  have hLines : ∀ line ∈ (x :: rest).map fun x => ("- " ++ x.message).toList, '\n' ∉ line := by
    intro line hLine
    obtain ⟨x, -, rfl⟩ := List.mem_map.mp hLine
    simp [x.newline_not_mem_message]
  rw [hText, Text.splitOn_lines (by decide) hLines]

-- ---------------------------------------------------------------------------
-- Reading fields
-- ---------------------------------------------------------------------------

theorem exists_error_of_mapM {α β ε : Type} {f : α → Except ε β} {as : List α} {e : ε}
    (h : as.mapM f = .error e) : ∃ a ∈ as, f a = .error e := by
  induction as with
  | nil => cases h
  | cons a as ih =>
    rw [List.mapM_cons] at h
    cases ha : f a with
    | error e' =>
      rw [ha] at h
      cases h
      exact ⟨a, List.mem_cons_self, ha⟩
    | ok b =>
      cases has : as.mapM f with
      | error e' =>
        rw [ha, has] at h
        cases h
        obtain ⟨a', ha', hError⟩ := ih has
        exact ⟨a', List.mem_cons_of_mem a ha', hError⟩
      | ok bs =>
        rw [ha, has] at h
        cases h

theorem DiscoveredIssue.ofFields_ne_illFormed (members : List (String × Json))
    (faults : List Violation) : DiscoveredIssue.ofFields members ≠ .error (.illFormed faults) := by
  have hPriority : ∀ v, Priority.ofJson v ≠ .error (.illFormed faults) := by
    intro v
    unfold Priority.ofJson
    split
    · split <;> simp
    · split <;> simp
    · simp
    · simp
  unfold DiscoveredIssue.ofFields
  cases hp : Priority.ofJson (field members "priority") with
  | error e =>
    rintro ⟨⟩
    exact hPriority _ hp
  | ok p => simp [bind, Except.bind]

/-- Reading the fields finds no fault of the format. -/
theorem AgentResult.ofFields_ne_illFormed (fields : List (String × Json))
    (faults : List Violation) : AgentResult.ofFields fields ≠ .error (.illFormed faults) := by
  have hCount : ∀ v, iterationsOf v ≠ .error (.illFormed faults) := by
    intro v
    unfold iterationsOf
    split
    · split <;> simp
    · simp
  unfold AgentResult.ofFields
  dsimp only
  cases hIssues : List.mapM DiscoveredIssue.ofFields _ with
  | error e =>
    rintro ⟨⟩
    obtain ⟨members, -, hError⟩ := exists_error_of_mapM hIssues
    exact DiscoveredIssue.ofFields_ne_illFormed members faults hError
  | ok issues =>
    cases hIterations : iterationsOf (field fields "iterations") with
    | error e =>
      rintro ⟨⟩
      exact hCount _ hIterations
    | ok n => simp [bind, Except.bind]

-- ---------------------------------------------------------------------------
-- Whole reports
-- ---------------------------------------------------------------------------

/-- The report on a text that spells this value. -/
structure Itemized (raw : String) (v : Json) : Prop where
  /-- An object is reported field by field, in alphabetical order, each as if it stood alone. -/
  fields : ∀ fields, v = .object fields → violations v = resultNames.flatMap fun name =>
    ((Json.member? name fields).map (alone name)).getD []
  /-- What is no object is reported once, as a whole. -/
  root : (∀ fields, v ≠ .object fields) → violations v = [.wrongKind v [.object]]
  /-- The fields are read exactly if there is nothing to report. -/
  read_iff : (∀ faults, AgentResult.parse raw ≠ .error (.illFormed faults)) ↔ violations v = []
  read : ∀ fields, v = .object fields → violations v = [] →
    AgentResult.parse raw = AgentResult.ofFields fields
  /-- Otherwise the reason for the refusal has a line for each fault, in their order. -/
  refused : violations v ≠ [] → ∃ reason,
    AgentResult.read raw = .error (.invalidOutput reason (String.ofList (raw.toList.take 500))) ∧
      Text.splitOn (· = '\n') reason.toList = "schema validation failed:".toList ::
        (violations v).map fun x => ("- " ++ x.message).toList
  /-- Each line quotes the value that is at fault. -/
  quotes : ∀ x ∈ violations v, ∃ tail, x.message = x.value.compact ++ tail

/--
**Faults are reported completely, and each for itself.** Of every text that spells a value the
report is put together from those on its fields, in alphabetical order, and these from those on
their items and on the members of issues; and what is reported of each of them alone is
settled by its kind and its bound.
-/
theorem AgentResult.read_itemized :
    (resultNames.Pairwise (· < ·) ∧ issueNames.Pairwise (· < ·)) ∧ (∀ v, Lone v) ∧
      ∀ raw v, Json.Acceptable raw v → Itemized raw v := by
  refine ⟨⟨by decide, by decide⟩, lone, fun raw v hRaw => ?_⟩
  have hParse := parse_of_acceptable hRaw
  have hRefused : violations v ≠ [] → parse raw = .error (.illFormed (violations v)) := by
    intro hSome
    obtain ⟨x, rest, hFaults⟩ := List.exists_cons_of_ne_nil hSome
    rw [hParse, AgentResult.ofJson, hFaults]
  have hRead : violations v = [] → parse raw = AgentResult.ofFields (v.asObject?.getD []) := by
    intro hNone
    rw [hParse, AgentResult.ofJson, hNone]
  refine ⟨?_, ?_, ⟨?_, ?_⟩, ?_, ?_, fun x _ => x.message_quotes⟩
  · rintro fields rfl
    exact tabled_eq nodup_resultNames fields
  · intro hOther
    cases v with
    | object fields => exact absurd rfl (hOther fields)
    | _ => rfl
  · intro hOther
    by_contra hSome
    exact hOther _ (hRefused hSome)
  · intro hNone faults
    rw [hRead hNone]
    exact ofFields_ne_illFormed _ faults
  · rintro fields rfl hNone
    exact hRead hNone
  · intro hSome
    exact ⟨_, read_eq_error (hRefused hSome), splitOn_illFormed hSome⟩

/-- A report on a text with faults of every sort: an item that is no issue, an issue with two
members of a wrong kind, an item that is no text, and a count that is below zero and no integer. -/
theorem AgentResult.read_itemized_many :
    let issues := "\"discovered_issues\":[3,\x7b\"type\":4,\"priority\":[]\x7d]"
    let raw := "\x7b\"iterations\":-1.5,\"x\":1," ++ issues ++ ",\"files_modified\":[\"a\",7]\x7d"
    ∃ v, Json.Acceptable raw v ∧ Itemized raw v ∧ ∃ reason,
      AgentResult.read raw = .error (.invalidOutput reason (String.ofList (raw.toList.take 500))) ∧
        Text.splitOn (· = '\n') reason.toList =
          ["schema validation failed:",
            "- 3 is not of type \"object\"",
            "- [] is not of types \"integer\", \"null\", \"string\"",
            "- 4 is not of types \"null\", \"string\"",
            "- 7 is not of type \"string\"",
            "- -1.5 is less than the minimum of 0",
            "- -1.5 is not of types \"integer\", \"null\""].map String.toList := by
  intro issues raw
  have hLines : ((Json.parse? raw).map fun v => (violations v).map fun x => "- " ++ x.message) =
      some ["- 3 is not of type \"object\"",
        "- [] is not of types \"integer\", \"null\", \"string\"",
        "- 4 is not of types \"null\", \"string\"",
        "- 7 is not of type \"string\"",
        "- -1.5 is less than the minimum of 0",
        "- -1.5 is not of types \"integer\", \"null\""] := by decide +kernel
  obtain ⟨v, hValue, hLines⟩ := Option.map_eq_some_iff.mp hLines
  have hRaw : Json.Acceptable raw v := Json.parse?_eq_some_iff.mp hValue
  have hItemized : Itemized raw v := AgentResult.read_itemized.2.2 raw v hRaw
  have hFaults : violations v ≠ [] := by
    intro hNone
    rw [hNone] at hLines
    cases hLines
  obtain ⟨reason, hRead, hReason⟩ := hItemized.refused hFaults
  refine ⟨v, hRaw, hItemized, reason, hRead, ?_⟩
  rw [hReason, List.map_cons, ← hLines, List.map_map]
  rfl

end Errand
