import TieredSearch.Proofs.Tier.Call

/-!
# Time limits on a store

A store answers every search, so that nothing but an enumeration without end waits for a time limit, and
that has one of its own. The limit around a mediated call is therefore not felt
(`Call.limited_onStore`).
-/

namespace TieredSearch

variable {R : Type} [Scalar R] {ctx : Context} {index : String} {st : Store R}

/-! ### Outcomes that do not wait -/

namespace Outcome

variable {α β : Type}

/-- The outcome does not wait for a time limit. -/
def Prompt (o : Outcome α) : Prop := ∀ limit, o ≠ .stuck limit

theorem prompt_value (a : α) : (Outcome.value a).Prompt := by
  rintro limit ⟨⟩

theorem prompt_ofExcept (x : Except QueryError α) : (ofExcept x).Prompt := by
  cases x <;> rintro limit ⟨⟩

theorem Prompt.bind {o : Outcome α} {f : α → Outcome β} (first : o.Prompt)
    (second : ∀ a, (f a).Prompt) : (o.bind f).Prompt := by
  cases o with
  | value a => exact second a
  | failed e => rintro limit ⟨⟩
  | stuck limit => exact absurd rfl (first limit)

theorem Prompt.bounded_eq {o : Outcome α} (h : o.Prompt) (seconds : Nat) (fault : BackendFault) :
    o.bounded seconds fault = o := by
  cases o with
  | stuck limit => exact absurd rfl (h limit)
  | _ => rfl

/-- Of two equal time limits, the inner one decides. -/
theorem bounded_bounded (o : Outcome α) (seconds : Nat) (fault fault' : BackendFault) :
    (o.bounded seconds fault).bounded seconds fault' = o.bounded seconds fault := by
  cases o with
  | stuck limit =>
    by_cases none : seconds = 0
    · simp [bounded, none]
    · simp [bounded, none]
  | _ => rfl

end Outcome

namespace AggregationRequest

variable (req : AggregationRequest R)

theorem prompt_stats : ((req.stats ctx index).onStore st).Prompt := by
  rw [stats, Dialogue.onStore_bind, Dialogue.onStore_ofExcept]
  refine (Outcome.prompt_ofExcept _).bind fun found => ?_
  rw [Dialogue.onStore_searchReading]
  exact Outcome.prompt_ofExcept _

theorem prompt_numeric : ((req.numeric ctx index).onStore st).Prompt := by
  rw [numeric, Dialogue.onStore_bind, plan, Dialogue.onStore_bind, Dialogue.onStore_ofExcept]
  refine ((Outcome.prompt_ofExcept _).bind fun _ => ?_).bind fun plan => ?_
  · split
    · exact Outcome.prompt_value _
    · rw [Dialogue.onStore_bind]
      exact req.prompt_stats.bind fun overall => Outcome.prompt_value _
    · exact Outcome.prompt_value _
  · cases plan with
    | stats =>
      rw [runPlan, Dialogue.onStore_bind]
      exact req.prompt_stats.bind fun bucket => Outcome.prompt_value _
    | histogram start step =>
      rw [runPlan, histogram, Dialogue.onStore_bind, Dialogue.onStore_ofExcept]
      refine (Outcome.prompt_ofExcept _).bind fun found => ?_
      rw [Dialogue.onStore_searchReading]
      exact Outcome.prompt_ofExcept _
    | empty => exact Outcome.prompt_value _

end AggregationRequest

/-! ### Calls -/

/-- On a store, the time limit of a mediated call is not felt: what an enumeration waits for ends with
its own. -/
theorem Call.limited_onStore (call : Call R) (x : Option (Filter R)) :
    (call.limited ctx index x).onStore st = (call.under ctx index x).onStore st := by
  cases call with
  | terms req =>
    show (((_ : Dialogue R _).bounded _ _).map _ |>.bounded _ _).onStore st = _
    rw [← Dialogue.bounded_map, Dialogue.onStore_bounded, Dialogue.onStore_bounded,
      Outcome.bounded_bounded, ← Dialogue.onStore_bounded, Dialogue.bounded_map]
    rfl
  | numeric req =>
    show (Dialogue.bounded _ _ (Dialogue.map _ _)).onStore st = (Dialogue.map _ _).onStore st
    rw [Dialogue.onStore_bounded, Dialogue.onStore_map]
    exact ((AggregationRequest.prompt_numeric _).bind fun _ => Outcome.prompt_value _).bounded_eq _ _
  | total filter =>
    show (Dialogue.bounded _ _ (Dialogue.map _ _)).onStore st = (Dialogue.map _ _).onStore st
    rw [Dialogue.onStore_bounded, Dialogue.onStore_map, totalCount, Dialogue.onStore_bind,
      Dialogue.onStore_ofExcept]
    refine Outcome.Prompt.bounded_eq ?_ _ _
    refine ((Outcome.prompt_ofExcept _).bind fun query => ?_).bind fun _ => Outcome.prompt_value _
    rw [Dialogue.onStore_searchReading]
    exact Outcome.prompt_ofExcept _
  | rows req => rfl

/-- What is refused for its arguments is refused without mediation too. -/
theorem Call.under_onStore_of_invalid {call : Call R} {e : QueryError}
    (invalid : call.validate = .error e) (x : Option (Filter R)) :
    (call.under ctx index x).onStore st = .failed e := by
  cases call with
  | numeric req =>
    have invalid : (req.restricted x).validate = .error e := invalid
    rw [under, AggregationRequest.numeric, AggregationRequest.plan, invalid]
    rfl
  | _ => cases invalid

end TieredSearch
