import Mathlib.Data.List.Nodup
import TieredSearch.Number.Rational
import TieredSearch.Proofs.Tier.Shadow

/-!
# Suppressed counts

Which counts of terms and which totals are suppressed when all of a regular index is asked for. Main
statement (`counts_suppressed_by_shadow`): against any backend, the answer has the buckets of a first
run in their order, and a bucket is suppressed exactly when a second run, restricted in addition to
the documents out of reach, reports its key with a small count and the key is not exempt. Totals go
the same way. Whether the listing that comes before both runs names a path makes no difference.
-/

namespace TieredSearch

variable {R : Type} [Scalar R]

namespace Redaction

/-- In buckets without a repeated key, the count found for a key is that of the bucket with it. -/
theorem countOf?_eq_some_iff {key : String} {buckets : List TermBucket}
    (distinct : (buckets.map (·.key)).Nodup) {n : Int} :
    countOf? key buckets = some n ↔ ∃ b ∈ buckets, b.key = key ∧ b.count = n := by
  constructor
  · exact exists_of_countOf?
  · rintro ⟨b, hb, rfl, rfl⟩
    obtain ⟨n, found⟩ := exists_countOf?_of_mem hb
    obtain ⟨b', hb', named, counted⟩ := exists_of_countOf? found
    have same : b' = b := List.inj_on_of_nodup_map distinct hb' hb named
    rw [found, ← counted, same]

/-- A bucket is suppressed when the shadow reports its key with a small count. -/
theorem term_eq {r : Redaction} {shadow : List TermBucket} (distinct : (shadow.map (·.key)).Nodup)
    (bucket : TermBucket) :
    r.term shadow bucket =
      if bucket.key ∉ r.whitelist ∧
          ∃ s ∈ shadow, s.key = bucket.key ∧ 0 < s.count ∧ s.count < r.limit then
        ⟨bucket.key, suppressedCount⟩
      else bucket := by
  have small : (countOf? bucket.key shadow).any r.suppresses = true ↔
      ∃ s ∈ shadow, s.key = bucket.key ∧ 0 < s.count ∧ s.count < r.limit := by
    rw [Option.any_eq_true]
    constructor
    · rintro ⟨n, found, suppressed⟩
      obtain ⟨s, hs, named, rfl⟩ := exists_of_countOf? found
      exact ⟨s, hs, named, suppresses_iff.mp suppressed⟩
    · rintro ⟨s, hs, named, few⟩
      exact ⟨s.count, (countOf?_eq_some_iff distinct).mpr ⟨s, hs, named, rfl⟩, suppresses_iff.mpr few⟩
  rw [term]
  refine if_congr ?_ rfl rfl
  rw [Bool.and_eq_true, small, isWhitelisted]
  simp

end Redaction

/-- Asked for all of a regular index, whatever the backend replies: the paths out of scope
are listed first; then the request runs under its own restriction and the sensitive exclusion, and
once more with the restriction to documents out of reach besides. Term counts are those of the first run, except
that a bucket is suppressed if its key is not exempt and the second run reports it with a
count above zero and below the limit. A total is that of the first run, unless the second one
is above zero and below the limit. On an index whose paths lie outside nested objects, the
second run admits what the first one admits and the restriction selects. -/
theorem counts_suppressed_by_shadow {ctx : Context} {index : String} {scope : Scope}
    (served : ctx.config.effectiveLevel index = some .regular) (whole : scope.isDegraded = false) :
    (∀ {σ : Type} (serve : Search R → σ → Reply R × σ) (state after : σ) (req : AggregationRequest R)
        (answer : List TermBucket),
      ((Mediation.mk ctx scope).terms index req .all).Yields serve state answer after →
      ∃ paths listed primary between shadow,
        (scope.outOfScope ctx index req.filter (some req.field) req.filterSelf).Yields serve state paths listed ∧
        ({ req with authFilter := Filter.both req.authFilter (Decision.sensitiveExclusion ctx scope) }.terms
          ctx index).Yields serve listed primary between ∧
        ({ req with authFilter := Filter.both req.authFilter (some (Filter.narrowedBy
          (Decision.sensitiveExclusion ctx scope) scope.unaccessibleMembership)) }.terms
          ctx index).Yields serve between shadow after ∧
        ((shadow.map (·.key)).Nodup → answer = primary.map fun bucket =>
          if bucket.key ∉ (Redaction.ofConfig ctx.config).whitelist ∧ ∃ s ∈ shadow, s.key = bucket.key ∧
              0 < s.count ∧ s.count < ctx.config.tier.limit.getD 0 then
            ⟨bucket.key, suppressedCount⟩
          else bucket)) ∧
    (∀ {σ : Type} (serve : Search R → σ → Reply R × σ) (state after : σ) (filter : Option (Filter R))
        (answer : Int),
      ((Mediation.mk ctx scope).total index filter .all).Yields serve state answer after →
      ∃ paths listed primary between shadow,
        (scope.outOfScope ctx index filter none true).Yields serve state paths listed ∧
        (totalCount ctx index filter (Decision.sensitiveExclusion ctx scope)).Yields serve listed
          primary between ∧
        (totalCount ctx index filter (some (Filter.narrowedBy (Decision.sensitiveExclusion ctx scope)
          scope.unaccessibleMembership))).Yields serve between shadow after ∧
        answer = if 0 < shadow ∧ shadow < ctx.config.tier.limit.getD 0 then suppressedCount else primary) ∧
    (ctx.Rooted index → scope.authField = ctx.config.aggregation.authField →
      ∀ (user : Option (Filter R)) excludeField filterSelf (own : Option (Filter R)),
        Agree (fun before after => ∀ doc, Query.admits after doc = (Query.admits before doc &&
            (scope.membershipClause ctx.missingAlias scope.unaccessible : Query R).selects doc))
          (ctx.compileFilter index user excludeField filterSelf
            (Filter.both own (Decision.sensitiveExclusion ctx scope)))
          (ctx.compileFilter index user excludeField filterSelf (Filter.both own
            (some (Filter.narrowedBy (Decision.sensitiveExclusion ctx scope)
              scope.unaccessibleMembership))))) := by
  refine ⟨?_, ?_, fun rooted auth => Decision.compileFilter_shadow rooted auth⟩
  · intro σ serve state after req answer h
    rw [Mediation.terms_eq] at h
    obtain ⟨paths, listed, -, laid, primary, between, shadow, listing, ⟨-, rfl⟩, first, second, rfl⟩ :=
      Mediation.exists_runs_of_yields served whole rfl rfl h
    refine ⟨paths, listed, primary, between, shadow, listing, first, second, fun distinct => ?_⟩
    exact List.map_congr_left fun bucket _ => Redaction.term_eq distinct bucket
  · intro σ serve state after filter answer h
    rw [Mediation.total_eq] at h
    obtain ⟨paths, listed, -, laid, primary, between, shadow, listing, ⟨-, rfl⟩, first, second, rfl⟩ :=
      Mediation.exists_runs_of_yields served whole rfl rfl h
    refine ⟨paths, listed, primary, between, shadow, listing, first, second, ?_⟩
    exact if_congr Redaction.suppresses_iff rfl rfl

namespace Sample

/-- A reply that lists paths and how many subjects hold each. -/
def listing (counts : List (String × Int)) : Reply Rat :=
  .body (.obj [("aggregations", .obj [(termsName, .obj [("buckets",
    .arr (counts.map fun (path, count) =>
      .obj [("key", .obj [(termSourceName, .str path)]), ("doc_count", .int count)]))])])])

/-- A backend that counts three subjects out of reach among many. -/
def crowd : Backend Rat :=
  .script [listing [("/b", 3)], listing [("/a", 30), ("/b", 3)], listing [("/b", 3)]]

/-- The subjects of each path. -/
def paths : AggregationRequest Rat := ⟨"auth_resource_path", none, true, none, none, none, none, none⟩

end Sample

/-- Of two paths, the one that few subjects out of reach hold is suppressed. -/
theorem few_subjects_suppressed :
    ((Mediation.mk (Sample.context .regular) (Sample.scope ["/a"] ["/b"])).terms "subject" Sample.paths
        .all).Yields Backend.serve Sample.crowd [⟨"/a", 30⟩, ⟨"/b", suppressedCount⟩] (.script []) ∧
    ∃ primary shadow : List TermBucket, [⟨"/a", 30⟩, ⟨"/b", suppressedCount⟩] = primary.map fun bucket =>
      if bucket.key ∉ (Redaction.ofConfig (Sample.context .regular).config).whitelist ∧
          ∃ s ∈ shadow, s.key = bucket.key ∧ 0 < s.count ∧ s.count < 20 then
        ⟨bucket.key, suppressedCount⟩
      else bucket := by
  have answered : ((Mediation.mk (Sample.context .regular) (Sample.scope ["/a"] ["/b"])).terms "subject"
      Sample.paths .all).Yields Backend.serve Sample.crowd [⟨"/a", 30⟩, ⟨"/b", suppressedCount⟩] (.script []) := by
    exact ⟨by rfl, by rfl⟩
  obtain ⟨paths, listed, primary, between, shadow, listing, first, second, answer⟩ :=
    (counts_suppressed_by_shadow rfl rfl).1 _ _ _ _ _ answered
  refine ⟨answered, primary, shadow, answer ?_⟩
  cases listing.2
  cases first.2
  have single : ((Mediation.shadowRequest (Sample.context .regular) (Sample.scope ["/a"] ["/b"])
      Sample.paths).terms (Sample.context .regular) "subject").Yields Backend.serve
        (.script [Sample.listing [("/b", 3)]]) [⟨"/b", 3⟩] (.script []) := ⟨by rfl, by rfl⟩
  cases single.1.symm.trans second.1
  decide

end TieredSearch
