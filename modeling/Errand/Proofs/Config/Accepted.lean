import Mathlib
import Errand.Config.Validate
import Errand.Proofs.Text.Trimming

/-!
# Errand — accepted settings

Settings are accepted exactly if every rule is kept, so each rule is a fact about them. The
stock settings are accepted, and so are all that differ from accepted ones in a part that no
rule is about.

* `validate_eq_ok_iff`   — settings are accepted exactly if they keep every rule.
* `shows_label`, `shows_defaultTitle` — what the rules say of the texts that requests need.
* `exists_pattern`       — the expression for ids in accepted settings can be read.
* `validate_defaultType` — no rule is about the default type.
* `read?_stock`          — the expression for ids in the stock settings.
* `validate_stock`       — the stock settings are accepted.
-/

namespace Errand

open Text (Shows)

namespace Config

-- ---------------------------------------------------------------------------
-- Rules
-- ---------------------------------------------------------------------------

/-- Settings are accepted exactly if they keep every rule. -/
theorem validate_eq_ok_iff {c : Config} :
    c.validate = .ok () ↔ ∀ rule ∈ c.rules, rule.1 = true := by
  have hFaults : c.faults = [] ↔ ∀ rule ∈ c.rules, rule.1 = true := by
    rw [faults, List.filterMap_eq_nil_iff]
    refine forall₂_congr fun ⟨kept, fault⟩ _ => ?_
    cases kept <;> simp
  rw [← hFaults, validate]
  cases c.faults with
  | nil => simp
  | cons fault rest => simp

theorem shows_label {c : Config} (h : c.validate = .ok ()) : Shows c.tracker.label := by
  have hRule := validate_eq_ok_iff.mp h (!Text.isBlank c.tracker.label, .blank "tracker.label")
    (by simp [rules])
  exact Text.isBlank_eq_false_iff.mp (by simpa using hRule)

theorem shows_defaultTitle {c : Config} (h : c.validate = .ok ()) :
    Shows c.tracker.defaultTitle := by
  have hRule := validate_eq_ok_iff.mp h
    (!Text.isBlank c.tracker.defaultTitle, .blank "tracker.default_title") (by simp [rules])
  exact Text.isBlank_eq_false_iff.mp (by simpa using hRule)

/-- The expression for ids in accepted settings can be read. -/
theorem exists_pattern {c : Config} (h : c.validate = .ok ()) :
    ∃ pattern, Pattern.read? c.tracker.idPattern = some pattern := by
  have hRule := validate_eq_ok_iff.mp h
    ((Pattern.read? c.tracker.idPattern).isSome, .badPattern c.tracker.idPattern) (by simp [rules])
  exact Option.isSome_iff_exists.mp hRule

/-- No rule is about the default type. -/
theorem validate_defaultType (c : Config) (type : String) :
    validate { c with tracker := { c.tracker with defaultType := type } } = c.validate := rfl

end Config

-- ---------------------------------------------------------------------------
-- The stock settings
-- ---------------------------------------------------------------------------

/-- The expression for ids in the stock settings, as it is written. -/
def stockTree : Pattern.Tree :=
  .group (some 1) (.row [.one (.single 'v') 0, .one (.single 'c') 0, .one (.single '-') 0,
    .many (.one ⟨[(48, 57), (97, 122)]⟩ 2) 1 none true])

/-- The expression for ids in the stock settings. -/
def stockPattern : Pattern :=
  .group 1 (.seq (.one (.single 'v')) (.seq (.one (.single 'c')) (.seq (.one (.single '-'))
    (.many (.one ⟨[(48, 57), (97, 122)]⟩) 1 none true))))

theorem read?_stock : Pattern.read? ({} : TrackerSettings).idPattern = some stockPattern := by
  have hTree : Pattern.Tree.read? ({} : TrackerSettings).idPattern = some stockTree := by cbv
  have hDepth : stockTree.depth ≤ Pattern.maxDepth := by decide
  have hFits : stockTree.fits = true := by decide +kernel
  simp only [Pattern.read?, hTree, Option.bind_eq_bind, Option.bind_some, hDepth, hFits, and_self,
    if_true]
  rfl

/-- The stock settings are accepted. -/
theorem Config.validate_stock : ({} : Config).validate = .ok () := by
  refine validate_eq_ok_iff.mpr ?_
  have hPattern : (Pattern.read? ({} : Config).tracker.idPattern).isSome = true := by
    rw [show ({} : Config).tracker = {} from rfl, read?_stock]
    rfl
  have hTemplate : Template.isWellFormed ({} : Config).notify.template = true := by cbv
  simp only [rules, List.forall_mem_cons, hPattern, hTemplate]
  decide +kernel

end Errand
