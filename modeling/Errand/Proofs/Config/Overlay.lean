import Mathlib
import Errand.Config.Load
import Errand.Proofs.Config.Accepted
import Errand.Proofs.Toml.Distinct

/-!
# Errand — settings laid over the stock configuration

The readers of the four tables have one shape: a key, the kind of its values, the place it
fills. So the configuration is told by a list of settings, and a document is compared with it
setting by setting. What a document says of a setting does not depend on where it says it; this
carries the order of tables and keys, the names that are not known, and that a change of some
keys leaves the others as they are.

* `settings`             — every key that the configuration has a place for.
* `ofMembers?_eq_some_iff` — a document is read setting by setting.
* `Has`, `LaidBy`        — what a document says, and the configuration that it leads to.
* `acceptable_iff`       — settings of the right kinds, and only these, lead to one.
* `Restyled`             — a document written in another way.
* `DifferOnly`           — documents that differ in the values under some keys at most.
* `Overlay`, `load_laid` — what comes of a file.
-/

namespace Errand.Config

open Toml (Members member?)
open Toml.Members (Clear)
open Relation (EqvGen)

-- ---------------------------------------------------------------------------
-- Settings
-- ---------------------------------------------------------------------------

/-- The kinds of settings. -/
inductive SettingKind where
  | texts
  | text
  | truth
  | count
  | level
  | seconds

/-- What a setting of a kind is set to. -/
abbrev SettingKind.Value : SettingKind → Type
  | .texts => List String
  | .text => String
  | .truth => Bool
  | .count => Nat
  | .level => Int
  | .seconds => Option Nat

/-- A value of a document stands for this value of a setting. -/
def SettingKind.Says : (kind : SettingKind) → Toml → kind.Value → Prop
  | .texts, v, ss => v = .array (ss.map .string)
  | .text, v, s => v = .string s
  | .truth, v, b => v = .bool b
  | .count, v, n => v = .integer n ∧ n < 2 ^ 64
  | .level, v, n => v = .integer n ∧ -2 ^ 63 ≤ n ∧ n < 2 ^ 63
  | .seconds, v, limit => ∃ n : Nat, limit = some n ∧ v = .integer n ∧ n < 2 ^ 64

/-- A key of a table that the configuration has a place for. -/
structure Setting where
  table : String
  key : String
  kind : SettingKind
  get : Config → kind.Value

/-- The settings on the agent. -/
def agentSettings : List Setting :=
  [⟨"agent", "command", .texts, fun c => c.agent.command⟩,
   ⟨"agent", "timeout_secs", .seconds, fun c => c.agent.timeoutSecs⟩,
   ⟨"agent", "output_limit_bytes", .count, fun c => c.agent.outputLimit⟩]

/-- The settings on the tracker. -/
def trackerSettings : List Setting :=
  [⟨"tracker", "command", .texts, fun c => c.tracker.command⟩,
   ⟨"tracker", "label", .text, fun c => c.tracker.label⟩,
   ⟨"tracker", "default_title", .text, fun c => c.tracker.defaultTitle⟩,
   ⟨"tracker", "default_type", .text, fun c => c.tracker.defaultType⟩,
   ⟨"tracker", "default_priority", .level, fun c => c.tracker.defaultPriority⟩,
   ⟨"tracker", "id_pattern", .text, fun c => c.tracker.idPattern⟩,
   ⟨"tracker", "json_output", .truth, fun c => c.tracker.jsonOutput⟩,
   ⟨"tracker", "timeout_secs", .seconds, fun c => c.tracker.timeoutSecs⟩]

/-- The settings on merging. -/
def gitSettings : List Setting :=
  [⟨"git", "integration_branch", .text, fun c => c.git.integrationBranch⟩,
   ⟨"git", "remote", .text, fun c => c.git.remote⟩,
   ⟨"git", "push", .truth, fun c => c.git.push⟩,
   ⟨"git", "commit_prefix", .text, fun c => c.git.commitLead⟩]

/-- The settings on the reply. -/
def notifySettings : List Setting :=
  [⟨"notify", "command", .texts, fun c => c.notify.command⟩,
   ⟨"notify", "template", .text, fun c => c.notify.template⟩,
   ⟨"notify", "timeout_secs", .seconds, fun c => c.notify.timeoutSecs⟩]

/-- The tables of settings. -/
def tableNames : List String := ["agent", "tracker", "git", "notify"]

/-- All settings. -/
def settings : List Setting :=
  agentSettings ++ (trackerSettings ++ (gitSettings ++ notifySettings))

-- ---------------------------------------------------------------------------
-- Reading one value
-- ---------------------------------------------------------------------------

/-- The reader of values of a kind. -/
def SettingKind.read : (kind : SettingKind) → Toml → Option kind.Value
  | .texts => textsOf
  | .text => textOf
  | .truth => truthOf
  | .count => countOf
  | .level => levelOf
  | .seconds => fun v => (countOf v).map some

theorem textOf_eq_some_iff {v : Toml} {s : String} : textOf v = some s ↔ v = .string s := by
  cases v <;> simp [textOf]

theorem mapM_textOf_eq_some_iff {items : List Toml} {ss : List String} :
    items.mapM textOf = some ss ↔ items = ss.map .string := by
  induction items generalizing ss with
  | nil => cases ss <;> simp
  | cons v rest ih =>
    cases ss with
    | nil => simp [Option.bind_eq_some_iff]
    | cons s ss => simp [Option.bind_eq_some_iff, textOf_eq_some_iff, ih]

theorem countOf_eq_some_iff {v : Toml} {n : Nat} :
    countOf v = some n ↔ v = .integer n ∧ n < 2 ^ 64 := by
  cases v with
  | integer i =>
    have hPow : Nat.pow 2 64 = 2 ^ 64 := rfl
    simp only [countOf, Toml.integer.injEq, Option.ite_none_right_eq_some, Option.some.injEq, hPow]
    omega
  | _ => simp [countOf]

theorem levelOf_eq_some_iff {v : Toml} {n : Int} :
    levelOf v = some n ↔ v = .integer n ∧ -2 ^ 63 ≤ n ∧ n < 2 ^ 63 := by
  cases v with
  | integer i =>
    have hPow : Nat.pow 2 63 = 2 ^ 63 := rfl
    simp only [levelOf, Toml.integer.injEq, Option.ite_none_right_eq_some, Option.some.injEq, hPow]
    omega
  | _ => simp [levelOf]

/-- The readers find exactly the values that are stood for. -/
theorem SettingKind.read_eq_some_iff {kind : SettingKind} {v : Toml} {x : kind.Value} :
    kind.read v = some x ↔ kind.Says v x := by
  cases kind with
  | texts =>
    cases v with
    | array items => simp [read, Says, textsOf, mapM_textOf_eq_some_iff]
    | _ => simp [read, Says, textsOf]
  | text => exact textOf_eq_some_iff
  | truth => cases v <;> simp [read, Says, truthOf]
  | count => exact countOf_eq_some_iff
  | level => exact levelOf_eq_some_iff
  | seconds =>
    simp only [read, Says, Option.map_eq_some_iff, countOf_eq_some_iff]
    refine exists_congr fun n => ?_
    rw [and_comm, @eq_comm _ (some n)]

-- ---------------------------------------------------------------------------
-- Reading a table
-- ---------------------------------------------------------------------------

/-- The value of a setting among the members of its table, or the stock one. -/
def Setting.readIn (k : Setting) (inner : Members) : Option k.kind.Value :=
  field inner k.key k.kind.read (k.get {})

section Tables

variable {origin : Toml.Origin} {inner : Members} {c : Config}

theorem agentOf_eq_some_iff :
    agentOf (.table origin inner) = some c.agent ↔
      ∀ k ∈ agentSettings, k.readIn inner = some (k.get c) := by
  simp only [agentOf, sectionMembers, Option.bind_eq_bind, Option.bind_some,
    Option.bind_eq_some_iff, Option.some.injEq, agentSettings, List.forall_mem_cons,
    List.not_mem_nil, false_imp_iff, implies_true, and_true, Setting.readIn, SettingKind.read]
  constructor
  · rintro ⟨_, h₁, _, h₂, _, h₃, h⟩
    rw [← h]
    exact ⟨h₁, h₂, h₃⟩
  · rintro ⟨h₁, h₂, h₃⟩
    exact ⟨_, h₁, _, h₂, _, h₃, rfl⟩

theorem trackerOf_eq_some_iff :
    trackerOf (.table origin inner) = some c.tracker ↔
      ∀ k ∈ trackerSettings, k.readIn inner = some (k.get c) := by
  simp only [trackerOf, sectionMembers, Option.bind_eq_bind, Option.bind_some,
    Option.bind_eq_some_iff, Option.some.injEq, trackerSettings, List.forall_mem_cons,
    List.not_mem_nil, false_imp_iff, implies_true, and_true, Setting.readIn, SettingKind.read]
  constructor
  · rintro ⟨_, h₁, _, h₂, _, h₃, _, h₄, _, h₅, _, h₆, _, h₇, _, h₈, h⟩
    rw [← h]
    exact ⟨h₁, h₂, h₃, h₄, h₅, h₆, h₇, h₈⟩
  · rintro ⟨h₁, h₂, h₃, h₄, h₅, h₆, h₇, h₈⟩
    exact ⟨_, h₁, _, h₂, _, h₃, _, h₄, _, h₅, _, h₆, _, h₇, _, h₈, rfl⟩

theorem gitOf_eq_some_iff :
    gitOf (.table origin inner) = some c.git ↔
      ∀ k ∈ gitSettings, k.readIn inner = some (k.get c) := by
  simp only [gitOf, sectionMembers, Option.bind_eq_bind, Option.bind_some,
    Option.bind_eq_some_iff, Option.some.injEq, gitSettings, List.forall_mem_cons,
    List.not_mem_nil, false_imp_iff, implies_true, and_true, Setting.readIn, SettingKind.read]
  constructor
  · rintro ⟨_, h₁, _, h₂, _, h₃, _, h₄, h⟩
    rw [← h]
    exact ⟨h₁, h₂, h₃, h₄⟩
  · rintro ⟨h₁, h₂, h₃, h₄⟩
    exact ⟨_, h₁, _, h₂, _, h₃, _, h₄, rfl⟩

theorem notifyOf_eq_some_iff :
    notifyOf (.table origin inner) = some c.notify ↔
      ∀ k ∈ notifySettings, k.readIn inner = some (k.get c) := by
  simp only [notifyOf, sectionMembers, Option.bind_eq_bind, Option.bind_some,
    Option.bind_eq_some_iff, Option.some.injEq, notifySettings, List.forall_mem_cons,
    List.not_mem_nil, false_imp_iff, implies_true, and_true, Setting.readIn, SettingKind.read]
  constructor
  · rintro ⟨_, h₁, _, h₂, _, h₃, h⟩
    rw [← h]
    exact ⟨h₁, h₂, h₃⟩
  · rintro ⟨h₁, h₂, h₃⟩
    exact ⟨_, h₁, _, h₂, _, h₃, rfl⟩

end Tables

-- ---------------------------------------------------------------------------
-- Reading a document
-- ---------------------------------------------------------------------------

/-- The members of the table of a name; one that is not there is as good as empty. -/
def tableOf (m : Members) (name : String) : Members :=
  match member? name m with
  | some (.table _ inner) => inner
  | _ => []

/-- Whatever stands under the name of a table of settings is a table. -/
def MadeOfTables (m : Members) : Prop :=
  ∀ e ∈ m, e.1 ∈ tableNames → ∃ origin inner, e.2 = .table origin inner

variable {m m' inner : Members} {c c' : Config} {name key : String} {v : Toml} {k : Setting}
  {bytes : Text.Bytes}

theorem MadeOfTables.field_eq {α : Type} {read : Toml → Option α} {stock : α}
    (hTables : MadeOfTables m) (hName : name ∈ tableNames)
    (hStock : read (.table .header []) = some stock)
    (hOrigin : ∀ origin inner, read (.table origin inner) = read (.table .header inner)) :
    field m name read stock = read (.table .header (tableOf m name)) := by
  rw [field, tableOf]
  cases hFound : member? name m with
  | none => exact hStock.symm
  | some v =>
    obtain ⟨origin, inner, rfl⟩ := hTables _ (Toml.mem_of_member? hFound) hName
    exact hOrigin origin inner

theorem forall_tableOf_iff {list : List Setting} (name : String) (h : ∀ k ∈ list, k.table = name) :
    (∀ k ∈ list, k.readIn (tableOf m k.table) = some (k.get c)) ↔
      ∀ k ∈ list, k.readIn (tableOf m name) = some (k.get c) :=
  forall₂_congr fun k hk => by rw [h k hk]

/-- A document made of tables is read setting by setting. -/
theorem ofMembers?_eq_some_iff (hTables : MadeOfTables m) :
    ofMembers? m = some c ↔ ∀ k ∈ settings, k.readIn (tableOf m k.table) = some (k.get c) := by
  have hAgent : field m "agent" agentOf {} = agentOf (.table .header (tableOf m "agent")) :=
    hTables.field_eq (by decide) rfl fun _ _ => rfl
  have hTracker :
      field m "tracker" trackerOf {} = trackerOf (.table .header (tableOf m "tracker")) :=
    hTables.field_eq (by decide) rfl fun _ _ => rfl
  have hGit : field m "git" gitOf {} = gitOf (.table .header (tableOf m "git")) :=
    hTables.field_eq (by decide) rfl fun _ _ => rfl
  have hNotify : field m "notify" notifyOf {} = notifyOf (.table .header (tableOf m "notify")) :=
    hTables.field_eq (by decide) rfl fun _ _ => rfl
  have hTablewise : ofMembers? m = some c ↔
      agentOf (.table .header (tableOf m "agent")) = some c.agent ∧
        trackerOf (.table .header (tableOf m "tracker")) = some c.tracker ∧
        gitOf (.table .header (tableOf m "git")) = some c.git ∧
        notifyOf (.table .header (tableOf m "notify")) = some c.notify := by
    simp only [ofMembers?, hAgent, hTracker, hGit, hNotify, Option.bind_eq_bind,
      Option.bind_eq_some_iff, Option.some.injEq]
    constructor
    · rintro ⟨_, h₁, _, h₂, _, h₃, _, h₄, rfl⟩
      exact ⟨h₁, h₂, h₃, h₄⟩
    · rintro ⟨h₁, h₂, h₃, h₄⟩
      exact ⟨_, h₁, _, h₂, _, h₃, _, h₄, rfl⟩
  rw [hTablewise, agentOf_eq_some_iff, trackerOf_eq_some_iff, gitOf_eq_some_iff,
    notifyOf_eq_some_iff, settings, List.forall_mem_append, List.forall_mem_append,
    List.forall_mem_append, forall_tableOf_iff "agent" (by decide),
    forall_tableOf_iff "tracker" (by decide),
    forall_tableOf_iff "git" (by decide),
    forall_tableOf_iff "notify" (by decide)]

/-- If every setting can be read, there is a configuration with all of these values. -/
theorem exists_config (h : ∀ k ∈ settings, ∃ x, k.readIn (tableOf m k.table) = some x) :
    ∃ c : Config, ∀ k ∈ settings, k.readIn (tableOf m k.table) = some (k.get c) := by
  simp only [settings, agentSettings, trackerSettings, gitSettings, notifySettings,
    List.cons_append, List.nil_append, List.forall_mem_cons] at h ⊢
  obtain ⟨⟨a₁, h₁⟩, ⟨a₂, h₂⟩, ⟨a₃, h₃⟩, ⟨t₁, h₄⟩, ⟨t₂, h₅⟩, ⟨t₃, h₆⟩, ⟨t₄, h₇⟩, ⟨t₅, h₈⟩, ⟨t₆, h₉⟩,
    ⟨t₇, h₁₀⟩, ⟨t₈, h₁₁⟩, ⟨g₁, h₁₂⟩, ⟨g₂, h₁₃⟩, ⟨g₃, h₁₄⟩, ⟨g₄, h₁₅⟩, ⟨n₁, h₁₆⟩, ⟨n₂, h₁₇⟩,
    ⟨n₃, h₁₈⟩, -⟩ := h
  exact ⟨⟨⟨a₁, a₂, a₃⟩, ⟨t₁, t₂, t₃, t₄, t₅, t₆, t₇, t₈⟩, ⟨g₁, g₂, g₃, g₄⟩, ⟨n₁, n₂, n₃⟩⟩,
    h₁, h₂, h₃, h₄, h₅, h₆, h₇, h₈, h₉, h₁₀, h₁₁, h₁₂, h₁₃, h₁₄, h₁₅, h₁₆, h₁₇, h₁₈,
    List.forall_mem_nil _⟩

/-- A value that is neither a table nor a list of any kind. -/
def IsScalar : Toml → Prop
  | .string _ | .integer _ | .real _ | .bool _ => True
  | _ => False

/-- A scalar in the place of a table of settings spoils the document. -/
theorem ofMembers?_eq_none_of_scalar (hFound : member? name m = some v) (hName : name ∈ tableNames)
    (hScalar : IsScalar v) : ofMembers? m = none := by
  have hMembers (names : List String) : sectionMembers names v = none := by
    cases v <;> first | rfl | exact hScalar.elim
  simp only [tableNames, List.mem_cons, List.not_mem_nil, or_false] at hName
  rcases hName with rfl | rfl | rfl | rfl
  · simp [ofMembers?, field, hFound, agentOf, hMembers]
  · simp [ofMembers?, field, hFound, trackerOf, hMembers]
  · simp [ofMembers?, field, hFound, gitOf, hMembers]
  · simp [ofMembers?, field, hFound, notifyOf, hMembers]

-- ---------------------------------------------------------------------------
-- What a document says
-- ---------------------------------------------------------------------------

/-- A document has this value under a key of a table. -/
def Has (m : Members) (table key : String) (v : Toml) : Prop :=
  ∃ origin inner, (table, .table origin inner) ∈ m ∧ (key, v) ∈ inner

theorem has_iff (hm : Clear m) : Has m name key v ↔ member? key (tableOf m name) = some v := by
  rw [tableOf]
  constructor
  · rintro ⟨origin, inner, hTable, hKey⟩
    have hFound := hm.member?_eq_some_iff.mpr hTable
    rw [hFound]
    exact (hm.table hFound).member?_eq_some_iff.mpr hKey
  · intro h
    split at h
    · rename_i origin inner hFound
      exact ⟨origin, inner, Toml.mem_of_member? hFound, Toml.mem_of_member? h⟩
    · cases h

/-- Two values of a setting that one value of a document stands for are the same. -/
theorem SettingKind.Says.unique {kind : SettingKind} {x y : kind.Value} (hx : kind.Says v x)
    (hy : kind.Says v y) : x = y :=
  Option.some.inj ((read_eq_some_iff.mpr hx).symm.trans (read_eq_some_iff.mpr hy))

/-- Of a setting the configuration has the document's value, or else the stock one. -/
structure Setting.Laid (k : Setting) (m : Members) (c : Config) : Prop where
  given : ∀ v, Has m k.table k.key v → k.kind.Says v (k.get c)
  stock : (∀ v, ¬ Has m k.table k.key v) → k.get c = k.get {}

/-- The configuration is the document laid over the stock one. -/
def LaidBy (m : Members) (c : Config) : Prop := ∀ k ∈ settings, k.Laid m c

/-- Every setting that the document has is of its kind. -/
def Acceptable (m : Members) : Prop :=
  ∀ k ∈ settings, ∀ v, Has m k.table k.key v → ∃ x, k.kind.Says v x

theorem readIn_eq_some_iff {x : k.kind.Value} (hm : Clear m) :
    k.readIn (tableOf m k.table) = some x ↔
      (∀ v, Has m k.table k.key v → k.kind.Says v x) ∧
        ((∀ v, ¬ Has m k.table k.key v) → x = k.get {}) := by
  simp only [has_iff hm, Setting.readIn, field]
  cases member? k.key (tableOf m k.table) with
  | none => simp [eq_comm]
  | some v => simp [SettingKind.read_eq_some_iff]

theorem readIn_get_iff (hm : Clear m) :
    k.readIn (tableOf m k.table) = some (k.get c) ↔ k.Laid m c := by
  rw [readIn_eq_some_iff hm]
  exact ⟨fun ⟨given, stock⟩ => ⟨given, stock⟩, fun ⟨given, stock⟩ => ⟨given, stock⟩⟩

/-- What is made of a document is the document laid over the stock configuration. -/
theorem ofMembers?_eq_some_iff_laidBy (hm : Clear m) (hTables : MadeOfTables m) :
    ofMembers? m = some c ↔ LaidBy m c := by
  rw [ofMembers?_eq_some_iff hTables]
  exact forall₂_congr fun k _ => readIn_get_iff hm

/-- Settings of the right kinds, and only these, can be laid over the stock configuration. -/
theorem acceptable_iff (hm : Clear m) : Acceptable m ↔ ∃ c, LaidBy m c := by
  constructor
  · intro h
    have hRead : ∀ k ∈ settings, ∃ x, k.readIn (tableOf m k.table) = some x := by
      intro k hk
      simp only [readIn_eq_some_iff hm]
      by_cases hGiven : ∃ v, Has m k.table k.key v
      · obtain ⟨v, hv⟩ := hGiven
        obtain ⟨x, hx⟩ := h k hk v hv
        refine ⟨x, fun w hw => ?_, fun hNone => absurd hv (hNone v)⟩
        rw [has_iff hm] at hv hw
        exact Option.some.inj (hv.symm.trans hw) ▸ hx
      · exact ⟨k.get {}, fun v hv => absurd ⟨v, hv⟩ hGiven, fun _ => rfl⟩
    obtain ⟨c, hc⟩ := exists_config hRead
    exact ⟨c, fun k hk => (readIn_get_iff hm).mp (hc k hk)⟩
  · rintro ⟨c, hc⟩ k hk v hv
    exact ⟨_, (hc k hk).given v hv⟩

/-- A setting that two documents have alike is the same in both configurations. -/
theorem Setting.Laid.get_eq (h : k.Laid m c) (h' : k.Laid m' c')
    (hSame : ∀ v, Has m k.table k.key v ↔ Has m' k.table k.key v) : k.get c' = k.get c := by
  by_cases hGiven : ∃ v, Has m k.table k.key v
  · obtain ⟨v, hv⟩ := hGiven
    exact (h'.given v ((hSame v).mp hv)).unique (h.given v hv)
  · rw [not_exists] at hGiven
    rw [h.stock hGiven, h'.stock fun v hv => hGiven v ((hSame v).mpr hv)]

-- ---------------------------------------------------------------------------
-- Other ways to write a document
-- ---------------------------------------------------------------------------

/-- Documents that differ in the values under some keys at most. -/
def DifferOnly (touched : String → String → Prop) (m m' : Members) : Prop :=
  ∀ table key v, ¬ touched table key → (Has m table key v ↔ Has m' table key v)

/-- One change of a document that its settings have no part in. -/
inductive Restyled : Members → Members → Prop
  /-- The tables in another order. -/
  | tables {m m' : Members} (h : m.Perm m') : Restyled m m'
  /-- The keys of a table in another order, or the table written in another way. -/
  | keys {before after : Members} {name : String} {origin origin' : Toml.Origin}
      {inner inner' : Members} (h : inner.Perm inner') :
      Restyled (before ++ (name, .table origin inner) :: after)
        (before ++ (name, .table origin' inner') :: after)
  /-- A table, or anything else, of a name that no table of settings has. -/
  | otherTable {before after : Members} {name : String} {v : Toml} (h : name ∉ tableNames) :
      Restyled (before ++ (name, v) :: after) (before ++ after)
  /-- A key of a name that no setting of the table has. -/
  | otherKey {before after front back : Members} {name key : String} {origin : Toml.Origin}
      {v : Toml} (h : ∀ k ∈ settings, k.table = name → k.key ≠ key) :
      Restyled (before ++ (name, .table origin (front ++ (key, v) :: back)) :: after)
        (before ++ (name, .table origin (front ++ back)) :: after)

theorem table_mem : ∀ k ∈ settings, k.table ∈ tableNames := by decide

theorem has_append {m n : Members} :
    Has (m ++ n) name key v ↔ Has m name key v ∨ Has n name key v := by
  simp only [Has, List.mem_append, or_and_right, exists_or]

theorem has_cons {e : String × Toml} :
    Has (e :: m) name key v ↔
      (∃ origin inner, e = (name, .table origin inner) ∧ (key, v) ∈ inner) ∨ Has m name key v := by
  simp only [Has, List.mem_cons, or_and_right, exists_or, @eq_comm _ _ e]

theorem has_cons_table {table : String} {origin : Toml.Origin} :
    Has ((table, .table origin inner) :: m) name key v ↔
      (table = name ∧ (key, v) ∈ inner) ∨ Has m name key v := by
  rw [has_cons]
  refine or_congr_left ⟨?_, ?_⟩
  · rintro ⟨_, _, hEntry, hKey⟩
    cases hEntry
    exact ⟨rfl, hKey⟩
  · rintro ⟨rfl, hKey⟩
    exact ⟨_, _, rfl, hKey⟩

theorem has_cons_of_ne {e : String × Toml} (h : e.1 ≠ name) :
    Has (e :: m) name key v ↔ Has m name key v := by
  rw [has_cons, or_iff_right]
  rintro ⟨_, _, rfl, -⟩
  exact h rfl

theorem LaidBy.congr (h : ∀ k ∈ settings, ∀ v, Has m k.table k.key v ↔ Has m' k.table k.key v)
    (hLaid : LaidBy m c) : LaidBy m' c := fun k hk => {
  given := fun v hv => (hLaid k hk).given v ((h k hk v).mpr hv)
  stock := fun hNone => (hLaid k hk).stock fun v hv => hNone v ((h k hk v).mp hv) }

theorem Restyled.has_iff (h : Restyled m m') (hk : k ∈ settings) :
    Has m k.table k.key v ↔ Has m' k.table k.key v := by
  cases h with
  | tables h => simp only [Has, h.mem_iff]
  | keys h => simp only [has_append, has_cons_table, h.mem_iff]
  | @otherTable before after name w h =>
    have hName : name ≠ k.table := fun hName => h (hName ▸ table_mem k hk)
    rw [has_append, has_append, has_cons_of_ne hName]
  | @otherKey before after front back name key origin w h =>
    have hKey (hName : name = k.table) : (k.key, v) ≠ (key, w) :=
      fun hEntry => h k hk hName.symm (Prod.mk.inj hEntry).1
    simp only [has_append, has_cons_table, List.mem_append, List.mem_cons]
    refine or_congr_right (or_congr_left (and_congr_right fun hName => or_congr_right ?_))
    exact or_iff_right (hKey hName)

theorem Restyled.madeOfTables_iff (h : Restyled m m') : MadeOfTables m ↔ MadeOfTables m' := by
  have hTable (name : String) (origin : Toml.Origin) (inner : Members) (h : name ∈ tableNames) :
      ∃ origin' inner', Toml.table origin inner = .table origin' inner' := ⟨origin, inner, rfl⟩
  cases h with
  | tables h => simp only [MadeOfTables, h.mem_iff]
  | keys h =>
    simp only [MadeOfTables, List.forall_mem_append, List.forall_mem_cons]
    exact and_congr_right fun _ => and_congr_left fun _ => iff_of_true (hTable _ _ _) (hTable _ _ _)
  | otherTable h =>
    simp only [MadeOfTables, List.forall_mem_append, List.forall_mem_cons]
    exact and_congr_right fun _ => and_iff_right fun hName => absurd hName h
  | otherKey h =>
    simp only [MadeOfTables, List.forall_mem_append, List.forall_mem_cons]
    exact and_congr_right fun _ => and_congr_left fun _ => iff_of_true (hTable _ _ _) (hTable _ _ _)

theorem eqvGen_restyled_has_iff (h : EqvGen Restyled m m') (hk : k ∈ settings) :
    Has m k.table k.key v ↔ Has m' k.table k.key v := by
  induction h with
  | rel _ _ h => exact h.has_iff hk
  | refl _ => rfl
  | symm _ _ _ ih => exact ih.symm
  | trans _ _ _ _ _ ih₁ ih₂ => exact ih₁.trans ih₂

theorem eqvGen_restyled_madeOfTables_iff (h : EqvGen Restyled m m') :
    MadeOfTables m ↔ MadeOfTables m' := by
  induction h with
  | rel _ _ h => exact h.madeOfTables_iff
  | refl _ => rfl
  | symm _ _ _ ih => exact ih.symm
  | trans _ _ _ _ _ ih₁ ih₂ => exact ih₁.trans ih₂

-- ---------------------------------------------------------------------------
-- Files
-- ---------------------------------------------------------------------------

/-- These bytes are a document with these members. -/
def Written (bytes : Text.Bytes) (m : Members) : Prop :=
  ∃ text, Text.decode? bytes = some text ∧ Toml.read? text = some m

/-- The configuration that a file describes, accepted or not. -/
def described (bytes : Text.Bytes) : Option Config := (Text.decode? bytes).bind ofToml?

theorem Written.clear (h : Written bytes m) : Clear m := by
  obtain ⟨text, -, hRead⟩ := h
  exact Toml.clear_of_read? hRead

theorem Written.described_eq (h : Written bytes m) : described bytes = ofMembers? m := by
  obtain ⟨text, hText, hRead⟩ := h
  simp [described, ofToml?, hText, hRead]

theorem Written.load_eq (h : Written bytes m) (path : String) :
    load path (.contents bytes) =
      match ofMembers? m with
      | none => .error (.malformed path)
      | some c =>
        match c.validate with
        | .ok () => .ok c
        | .error fault => .error (.invalid path fault) := by
  obtain ⟨text, hText, hRead⟩ := h
  have hDocument : ofToml? text = ofMembers? m := by simp [ofToml?, hRead]
  cases hMembers : ofMembers? m with
  | none => simp [load, hText, hDocument, hMembers]
  | some c => cases hValid : c.validate <;> simp [load, hText, hDocument, hMembers, hValid]

/-- What a file comes to whose document is read as this configuration. -/
theorem Written.load_eq_ok_iff (h : Written bytes m) (hRead : ofMembers? m = some c)
    (path : String) : load path (.contents bytes) = .ok c' ↔ c' = c ∧ c.validate = .ok () := by
  rw [h.load_eq, hRead]
  dsimp only
  cases c.validate with
  | ok _ => simp [eq_comm]
  | error fault => simp

theorem Written.load_eq_malformed (h : Written bytes m) (hRead : ofMembers? m = none)
    (path : String) : load path (.contents bytes) = .error (.malformed path) := by
  rw [h.load_eq, hRead]

/-- What comes of a file. -/
structure Overlay (bytes : Text.Bytes) (m : Members) : Prop where
  /-- Settings of the right kinds are laid over the stock configuration, in one way only; this is
  what the file describes, and it is loaded exactly if no rule is broken. -/
  laid : Acceptable m → ∃ c, LaidBy m c ∧ (∀ c', LaidBy m c' → c' = c) ∧
    described bytes = some c ∧ ∀ path,
      (∀ c', load path (.contents bytes) = .ok c' ↔ c' = c ∧ c.validate = .ok ()) ∧
      ∀ fault, c.validate = .error fault →
        load path (.contents bytes) = .error (.invalid path fault)
  /-- One setting of a wrong kind spoils the whole file. -/
  spoiled : ¬ Acceptable m → described bytes = none ∧
    ∀ path, load path (.contents bytes) = .error (.malformed path)
  /-- The order of tables and of keys makes no difference, nor does a name that is not known. -/
  restyled : ∀ bytes' m', Written bytes' m' → EqvGen Restyled m m' →
    described bytes' = described bytes ∧
      ∀ path, load path (.contents bytes') = load path (.contents bytes)
  /-- A change of some keys leaves every other setting as it is. -/
  framed : ∀ bytes' m', Written bytes' m' → MadeOfTables m' → ∀ touched, DifferOnly touched m m' →
    ∀ c c', described bytes = some c → described bytes' = some c' →
      ∀ k ∈ settings, ¬ touched k.table k.key → k.get c' = k.get c

theorem overlay (hWritten : Written bytes m) (hTables : MadeOfTables m) : Overlay bytes m := by
  have hLaid {c : Config} : ofMembers? m = some c ↔ LaidBy m c :=
    ofMembers?_eq_some_iff_laidBy hWritten.clear hTables
  exact {
    laid := by
      intro hAcceptable
      obtain ⟨c, hc⟩ := (acceptable_iff hWritten.clear).mp hAcceptable
      have hRead := hLaid.mpr hc
      refine ⟨c, hc, fun c' hc' => ?unique, hWritten.described_eq.trans hRead, fun path =>
        ⟨fun c' => hWritten.load_eq_ok_iff hRead path, ?broken⟩⟩
      case unique => exact Option.some.inj ((hLaid.mpr hc').symm.trans hRead)
      case broken =>
        intro fault hFault
        rw [hWritten.load_eq, hRead]
        dsimp only
        rw [hFault]
    spoiled := by
      intro hSpoiled
      have hRead : ofMembers? m = none := by
        rw [Option.eq_none_iff_forall_ne_some]
        intro c hc
        exact hSpoiled ((acceptable_iff hWritten.clear).mpr ⟨c, hLaid.mp hc⟩)
      exact ⟨hWritten.described_eq.trans hRead, hWritten.load_eq_malformed hRead⟩
    restyled := by
      intro bytes' m' hWritten' hStyle
      have hTables' := (eqvGen_restyled_madeOfTables_iff hStyle).mp hTables
      have hRead : ofMembers? m' = ofMembers? m := by
        refine Option.ext fun c => ?_
        rw [ofMembers?_eq_some_iff_laidBy hWritten'.clear hTables', hLaid]
        exact ⟨LaidBy.congr fun k hk v => (eqvGen_restyled_has_iff hStyle hk).symm,
          LaidBy.congr fun k hk v => eqvGen_restyled_has_iff hStyle hk⟩
      refine ⟨?_, fun path => ?_⟩
      · rw [hWritten'.described_eq, hWritten.described_eq, hRead]
      · rw [hWritten'.load_eq, hWritten.load_eq, hRead]
    framed := by
      intro bytes' m' hWritten' hTables' touched hDiffer c c' hc hc' k hk hUntouched
      rw [hWritten.described_eq] at hc
      rw [hWritten'.described_eq] at hc'
      have hLaid' := (ofMembers?_eq_some_iff_laidBy hWritten'.clear hTables').mp hc'
      exact (hLaid.mp hc k hk).get_eq (hLaid' k hk) fun v => hDiffer _ _ v hUntouched }

/-- **A file is laid over the stock configuration, setting by setting**, if whatever it has under
the names of tables of settings are tables; and it is refused if there is a scalar. -/
theorem load_laid (hWritten : Written bytes m) :
    (MadeOfTables m → Overlay bytes m) ∧
      ((∃ e ∈ m, e.1 ∈ tableNames ∧ IsScalar e.2) →
        ∀ path, load path (.contents bytes) = .error (.malformed path)) := by
  refine ⟨overlay hWritten, ?_⟩
  rintro ⟨e, he, hName, hScalar⟩
  have hFound := hWritten.clear.member?_eq_some_iff.mpr he
  exact hWritten.load_eq_malformed (ofMembers?_eq_none_of_scalar hFound hName hScalar)

/-- Without pushing and with any output of the tracker, accepted settings stay accepted. -/
theorem validate_unpushed (h : c.validate = .ok ()) (json : Bool) :
    Config.validate { c with
      tracker := { c.tracker with jsonOutput := json }
      git := { c.git with push := false } } = .ok () := by
  rw [validate_eq_ok_iff] at h ⊢
  simp only [rules, List.forall_mem_cons, Bool.not_false, Bool.true_or, true_and] at h ⊢
  tauto

/-- A file with a table and a key that are not known, and tables in an order of its own. -/
def sparseText : String :=
  "[later]\nx = true\n[git]\nnote = []\npush = false\n[tracker]\njson_output = true\n"

/-- The members of that file. -/
def sparseMembers : Members :=
  [("later", .table .header [("x", .bool true)]),
   ("git", .table .header [("note", .array []), ("push", .bool false)]),
   ("tracker", .table .header [("json_output", .bool true)])]

/-- The configuration that it describes. -/
def sparseConfig : Config := { tracker := { jsonOutput := true }, git := { push := false } }

theorem load_laid_sparse :
    Written (Text.encode sparseText) sparseMembers ∧ MadeOfTables sparseMembers ∧
      Overlay (Text.encode sparseText) sparseMembers ∧ LaidBy sparseMembers sparseConfig ∧
      ∀ path, load path (.contents (Text.encode sparseText)) = .ok sparseConfig := by
  have hWritten : Written (Text.encode sparseText) sparseMembers :=
    ⟨sparseText, by decide +kernel, by cbv⟩
  have hTables : MadeOfTables sparseMembers := by simp [MadeOfTables, sparseMembers]
  have hRead : ofMembers? sparseMembers = some sparseConfig := by cbv
  have hLaid := (ofMembers?_eq_some_iff_laidBy hWritten.clear hTables).mp hRead
  have hValid : sparseConfig.validate = .ok () := validate_unpushed validate_stock true
  exact ⟨hWritten, hTables, (load_laid hWritten).1 hTables, hLaid,
    fun path => (hWritten.load_eq_ok_iff hRead path).mpr ⟨rfl, hValid⟩⟩

end Errand.Config
