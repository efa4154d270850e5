import TieredSearch.Filter.Meaning
import TieredSearch.Filter.Writing
import TieredSearch.Main
import TieredSearch.Number.Rational
import TieredSearch.Proofs.Aggregation.Agreement
import TieredSearch.Proofs.Aggregation.Bins
import TieredSearch.Proofs.Aggregation.Buckets
import TieredSearch.Proofs.Aggregation.Cursor
import TieredSearch.Proofs.Aggregation.Grouping
import TieredSearch.Proofs.Aggregation.Listing
import TieredSearch.Proofs.Aggregation.Nothing
import TieredSearch.Proofs.Aggregation.Numeric
import TieredSearch.Proofs.Aggregation.Paging
import TieredSearch.Proofs.Aggregation.SubRange
import TieredSearch.Proofs.Aggregation.Tally
import TieredSearch.Proofs.Aggregation.Tiling
import TieredSearch.Proofs.Filter.Absence
import TieredSearch.Proofs.Filter.Beside
import TieredSearch.Proofs.Filter.Clauses
import TieredSearch.Proofs.Filter.Combinations
import TieredSearch.Proofs.Filter.Exclusion
import TieredSearch.Proofs.Filter.Faults
import TieredSearch.Proofs.Filter.Meaning
import TieredSearch.Proofs.Filter.Refusal
import TieredSearch.Proofs.Filter.Restriction
import TieredSearch.Proofs.Filter.Rooted
import TieredSearch.Proofs.Filter.SameElement
import TieredSearch.Proofs.Filter.Scopes
import TieredSearch.Proofs.Filter.Writing
import TieredSearch.Proofs.Number.Laws
import TieredSearch.Proofs.Number.Numeral
import TieredSearch.Proofs.Schema.Refresh
import TieredSearch.Proofs.Schema.Walk
import TieredSearch.Proofs.Scope.Application
import TieredSearch.Proofs.Scope.Membership
import TieredSearch.Proofs.Scope.Paths
import TieredSearch.Proofs.Scope.Resolution
import TieredSearch.Proofs.Scope.Unresolved
import TieredSearch.Proofs.Search.Answered
import TieredSearch.Proofs.Search.Blame
import TieredSearch.Proofs.Search.Exchange
import TieredSearch.Proofs.Search.Run
import TieredSearch.Proofs.Search.SortOrder
import TieredSearch.Proofs.Sorting
import TieredSearch.Proofs.Store.Sections
import TieredSearch.Proofs.Store.Size
import TieredSearch.Proofs.Store.TermCounts
import TieredSearch.Proofs.Tier.AccessibleView
import TieredSearch.Proofs.Tier.BareShadow
import TieredSearch.Proofs.Tier.Call
import TieredSearch.Proofs.Tier.Completeness
import TieredSearch.Proofs.Tier.FailClosed
import TieredSearch.Proofs.Tier.FullAccess
import TieredSearch.Proofs.Tier.Levels
import TieredSearch.Proofs.Tier.NumericShadow
import TieredSearch.Proofs.Tier.RawRows
import TieredSearch.Proofs.Tier.SameView
import TieredSearch.Proofs.Tier.Sensitive
import TieredSearch.Proofs.Tier.SharedLayout
import TieredSearch.Proofs.Tier.SuppressedBins
import TieredSearch.Proofs.Tier.Suppression
import TieredSearch.Proofs.Tier.TimeLimit
import TieredSearch.Proofs.Tier.UnaccessibleView
import TieredSearch.Proofs.Tier.Unowned
import TieredSearch.Proofs.Tier.Waiting
import TieredSearch.Query.Nesting
import TieredSearch.Schema.Declaration
import TieredSearch.Store.Sections
