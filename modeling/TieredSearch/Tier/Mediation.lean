import TieredSearch.Aggregation.Numeric
import TieredSearch.Aggregation.Terms
import TieredSearch.Search.Retrieval
import TieredSearch.Tier.Decision
import TieredSearch.Tier.Redaction

/-!
# Mediated queries

Every operation of a caller goes through a decision. Where counts are suppressed, the operation
runs twice, under the restriction of the decision and under that of its shadow, and the first
result is redacted by the second. Both runs together are subject to one time limit.
-/

namespace TieredSearch

/-- A caller's view of the data. -/
structure Mediation where
  /-- What every operation works with. -/
  ctx : Context
  /-- The scope of the caller. -/
  scope : Scope

namespace Mediation

variable {R α : Type} [Scalar R]

/-- The rule counts are suppressed by. -/
def redaction (m : Mediation) : Redaction := .ofConfig m.ctx.config

/-- Runs an operation under the restriction of a decision, and beside it under that of the
shadow. -/
def pair (decision : Decision R) (operation : Option (Filter R) → Dialogue R α) :
    Dialogue R (α × Option α) :=
  match decision.shadowFilter with
  | some shadow =>
    ((operation decision.scopeFilter).both (operation (some shadow))).bind fun (primary, shadow) =>
      .done (.value (primary, some shadow))
  | none => (operation decision.scopeFilter).bind fun primary => .done (.value (primary, none))

/-- The first result, redacted by its shadow if there is one. -/
def redacted (redact : α → α → α) (results : α × Option α) : α :=
  match results with
  | (primary, some shadow) => redact primary shadow
  | (primary, none) => primary

/-- The decision on an aggregation. -/
def decideAggregation (m : Mediation) (index : String) (req : AggregationRequest R)
    (accessibility : Accessibility) : Dialogue R (Decision R) :=
  Decision.make m.ctx m.scope index {
    filter := req.filter
    excludeField := some req.field
    filterSelf := req.filterSelf
    accessibility := accessibility
    rawData := false }

/-- Term counts as the caller may see them. -/
def terms (m : Mediation) (index : String) (req : AggregationRequest R)
    (accessibility : Accessibility) : Dialogue R (List TermBucket) :=
  (m.decideAggregation index req accessibility).bind fun decision =>
    ((pair decision fun scope => (req.restricted scope).terms m.ctx index).bounded
        m.ctx.timeLimit .mediationTimedOut).bind fun results =>
      .done (.value (redacted m.redaction.terms results))

/-- Statistics or a histogram as the caller may see them. The shadow has the layout of the first
run. -/
def numeric (m : Mediation) (index : String) (req : AggregationRequest R)
    (accessibility : Accessibility) : Dialogue R (List (StatBucket R)) :=
  (Dialogue.ofExcept req.validate).bind fun _ =>
    (m.decideAggregation index req accessibility).bind fun decision =>
      ((((req.restricted decision.scopeFilter).plan m.ctx index).bind fun plan =>
          pair decision fun scope => (req.restricted scope).runPlan m.ctx index plan).bounded
        m.ctx.timeLimit .mediationTimedOut).bind fun results =>
        .done (.value (redacted m.redaction.stats results))

/-- A total as the caller may see it. -/
def total (m : Mediation) (index : String) (filter : Option (Filter R))
    (accessibility : Accessibility) : Dialogue R Int :=
  (Decision.make m.ctx m.scope index ⟨filter, none, true, accessibility, false⟩).bind fun decision =>
    ((pair decision fun scope => totalCount m.ctx index filter scope).bounded
        m.ctx.timeLimit .mediationTimedOut).bind fun results =>
      .done (.value (redacted m.redaction.count results))

/-- Rows as the caller may see them: all that match or none. -/
def rows (m : Mediation) (index : String) (req : RowRequest R) (accessibility : Accessibility) :
    Dialogue R (List (Json R)) :=
  (Decision.make m.ctx m.scope index ⟨req.filter, none, true, accessibility, true⟩).bind
    fun decision =>
      { req with scope := Filter.both req.scope decision.scopeFilter }.run m.ctx index

end Mediation

end TieredSearch
