import TieredSearch.Number.Rational
import TieredSearch.Proofs.Scope.Resolution
import TieredSearch.Proofs.Search.Run
import TieredSearch.Proofs.Tier.Call

/-!
# Calls that never end

A search may stay without a reply for ever, and then only a time limit ends the operation that asked
for it. Every listing has a limit of its own and so has everything that is computed from counts, the
layout of bins included. The search for rows has none: `Mediation.waits_answer_iff` finds in it the
one way for a mediated call to go on for ever.
-/

namespace TieredSearch

variable {R : Type} [Scalar R] {σ : Type} {serve : Search R → σ → Reply R × σ} {state : σ}

namespace Decision

/-- A decision comes, whatever the backend: the listing it may ask for has a limit. -/
theorem not_waits_make (ctx : Context) (scope : Scope) (index : String) (req : TierRequest R) :
    ¬(make ctx scope index req).Waits serve state := by
  rw [make, Dialogue.waits_bind, not_or]
  refine ⟨Dialogue.not_waits_ofExcept _, ?_⟩
  have listing : ∀ between : σ, ¬((scope.outOfScope ctx index req.filter req.excludeField
      req.filterSelf).bind fun paths => Dialogue.ofExcept (regular ctx scope req paths)).Waits
        serve between := by
    intro between
    rw [Dialogue.waits_bind, not_or]
    constructor
    · intro waits
      exact Dialogue.not_waits_bounded _ _ _ (Dialogue.waits_map.mp waits)
    · rintro ⟨paths, after, -, waits⟩
      exact Dialogue.not_waits_ofExcept _ waits
  rintro ⟨level, between, -, waits⟩
  cases level with
  | libre => exact Dialogue.not_waits_value _ waits
  | restricted => exact Dialogue.not_waits_value _ waits
  | regular => exact listing between waits
  | granular => exact listing between waits

end Decision

/-- Rows are waited for exactly when their search gets no reply. -/
theorem RowRequest.waits_run_iff {ctx : Context} {index : String} {req : RowRequest R} :
    (req.run ctx index).Waits serve state ↔
      ∃ search, req.search ctx index = .ok search ∧ (serve search state).1 = .silence := by
  rw [RowRequest.run, Dialogue.waits_bind, or_iff_right (Dialogue.not_waits_ofExcept _)]
  cases req.search ctx index with
  | ok search => simp [Dialogue.waits_searchReading]
  | error e => simp

namespace Mediation

/-- Once it is decided on, only a call for rows can go on for ever. -/
theorem waits_act_iff {m : Mediation} {index : String} {decision : Decision R} {call : Call R} :
    (m.act index decision call).Waits serve state ↔
      ∃ req search, call = .rows req ∧
        { req with scope := Filter.both req.scope decision.scopeFilter }.search m.ctx index =
          .ok search ∧
        (serve search state).1 = .silence := by
  cases call with
  | terms req => simp [act, Dialogue.waits_map, Dialogue.not_waits_bounded]
  | numeric req => simp [act, Dialogue.waits_map, Dialogue.not_waits_bounded]
  | total filter => simp [act, Dialogue.waits_map, Dialogue.not_waits_bounded]
  | rows req =>
    rw [act, Dialogue.waits_map, RowRequest.waits_run_iff]
    constructor
    · rintro ⟨search, searched, silent⟩
      exact ⟨req, search, rfl, searched, silent⟩
    · rintro ⟨_, search, ⟨⟩, searched, silent⟩
      exact ⟨search, searched, silent⟩

/-- A mediated call never ends exactly when it asks for rows, is decided on, and the search for the
rows gets no reply. Counts always end, with an answer or with an error. -/
theorem waits_answer_iff (m : Mediation) (index : String) (accessibility : Accessibility)
    (call : Call R) (serve : Search R → σ → Reply R × σ) (state : σ) :
    ((m.answer index accessibility call).run serve state).outcome.conclusion? = none ↔
      ∃ req search decision between, call = .rows req ∧
        (Decision.make m.ctx m.scope index (call.tierRequest accessibility)).Yields serve state
          decision between ∧
        { req with scope := Filter.both req.scope decision.scopeFilter }.search m.ctx index =
          .ok search ∧
        (serve search between).1 = .silence := by
  show (m.answer index accessibility call).Waits serve state ↔ _
  rw [answer_eq, Dialogue.waits_bind, or_iff_right (Dialogue.not_waits_ofExcept _)]
  constructor
  · rintro ⟨valid, unasked, checked, waits⟩
    rw [Dialogue.waits_bind, or_iff_right (Decision.not_waits_make _ _ _ _)] at waits
    obtain ⟨decision, between, made, waits⟩ := waits
    obtain ⟨req, search, rfl, searched, silent⟩ := waits_act_iff.mp waits
    -- a call for rows has nothing to check, so that nothing has been asked before the decision
    obtain ⟨-, rfl⟩ := checked
    exact ⟨req, search, decision, between, rfl, made, searched, silent⟩
  · rintro ⟨req, search, decision, between, rfl, made, searched, silent⟩
    refine ⟨(), state, ⟨rfl, rfl⟩, ?_⟩
    rw [Dialogue.waits_bind]
    exact .inr ⟨decision, between, made, waits_act_iff.mpr ⟨req, search, rfl, searched, silent⟩⟩

end Mediation

/-- Rows of subjects that are never given. -/
theorem subject_rows_never_given :
    (Sample.context .restricted).config.validate = .ok () ∧
    (((Mediation.mk (Sample.context .restricted) (Sample.scope ["/a"] [])).answer "subject" .all
        (.rows ⟨none, [], .null, 0, none, none⟩)).run Backend.serve
          (.script [.silence] : Backend Rat)).outcome.conclusion? = none :=
  ⟨rfl, rfl⟩

end TieredSearch
