import TieredSearch.Filter.Operator
import TieredSearch.Schema.Field
import TieredSearch.Text.Quoted

/-!
# What can go wrong

A query fails for a cause. Each cause belongs to one `ErrorKind`, which decides the heading of
its message, its transport status and whether the caller is to blame; the wording of a cause is
its `detail`.
-/

namespace TieredSearch

/-! ### Kinds -/

/-- The class of an error. -/
inductive ErrorKind where
  /-- The filter cannot be read or compiled. -/
  | invalidFilter
  /-- The sort order cannot be compiled. -/
  | invalidSort
  /-- The arguments of an aggregation contradict each other or the field. -/
  | invalidAggregation
  /-- The caller may not see what was asked for. -/
  | forbidden
  /-- The search backend does not answer. -/
  | backendUnavailable
  /-- The policy service does not answer. -/
  | policyUnavailable
  /-- An answer or a configuration the library cannot work with. -/
  | internal
  deriving DecidableEq, Repr

namespace ErrorKind

/-- How a message of this kind begins. -/
def heading : ErrorKind → String
  | .invalidFilter => "Invalid filter"
  | .invalidSort => "Invalid sort"
  | .invalidAggregation => "Invalid aggregation arguments"
  | .forbidden => "Forbidden"
  | .backendUnavailable => "Search backend unavailable"
  | .policyUnavailable => "Policy service unavailable"
  | .internal => "Internal error"

/-- The status a transport answers with. -/
def status : ErrorKind → Nat
  | .invalidFilter | .invalidSort | .invalidAggregation => 400
  | .forbidden => 403
  | .backendUnavailable | .policyUnavailable => 503
  | .internal => 500

/-- Caused by the caller's input. -/
def isUserError : ErrorKind → Bool
  | .invalidFilter | .invalidSort | .invalidAggregation => true
  | _ => false

/-- A whole message: heading and detail. -/
def message (kind : ErrorKind) (detail : String) : String := kind.heading ++ ": " ++ detail

end ErrorKind

/-! ### Causes -/

/-- Why a filter is invalid. Values are given by their JSON text. -/
inductive FilterFault where
  /-- A filter that is no object. -/
  | notAnObject (shown : String)
  /-- A node with several operators. -/
  | severalOperators
  /-- A combinator whose body is no list. -/
  | childrenNotAList (key : String)
  /-- A keyword search without a keyword. -/
  | keywordMissing
  /-- A keyword search over something that is no field name. -/
  | searchFieldNotText
  /-- A keyword search whose fields are neither a name nor a list. -/
  | searchFieldsNotAList
  /-- An operator that does not exist. -/
  | unknownOperator (name : String)
  /-- A comparison whose body is no object. -/
  | operandNotAnObject (key : String)
  /-- A comparison of several fields, or of none. -/
  | operandNotOneField (key : String) (count : Nat)
  /-- An index that is not configured. -/
  | unknownIndex (index : String)
  /-- A field the index does not have. -/
  | unknownField (field index : String)
  /-- An operator the field's kind does not support. -/
  | unsupportedOperator (op : Operator) (kind : FieldKind) (field : String)
  /-- A membership test without a list. -/
  | membersNotAList (field : String)
  /-- An operand that is no text. -/
  | textOperand (shown field : String)
  /-- An operand that is no number. -/
  | numericOperand (shown field : String)
  /-- A text that does not write a number. -/
  | numericText (text field : String)
  /-- A field without an analyzed form. -/
  | notSearchable (field : String)
  /-- An index without any analyzed field. -/
  | nothingSearchable (index : String)
  deriving DecidableEq, Repr

/-- Why a sort order is invalid. -/
inductive SortFault where
  /-- A sort order that is neither an object nor a list. -/
  | notAList (shown : String)
  /-- An entry that is no object of one member. -/
  | entryNotSingle (shown : String)
  /-- A field the index does not have. -/
  | unknownField (field index : String)
  /-- A direction that does not exist. -/
  | unknownDirection (field shown : String)
  deriving DecidableEq, Repr

/-- Why the arguments of an aggregation are invalid. Numbers are given by their text. -/
inductive AggregationFault where
  /-- Both a step and a number of bins. -/
  | stepAndBins
  /-- A step that is not positive. -/
  | stepNotPositive (shown : String)
  /-- A number of bins that is not positive. -/
  | binsNotPositive (bins : Int)
  /-- A range that ends before it starts. -/
  | boundsReversed (start stop : String)
  /-- A field the index does not have. -/
  | unknownField (field index : String)
  /-- A text field where numbers are needed. -/
  | textField (field : String)
  deriving DecidableEq, Repr

/-- What an answer of the search backend lacks. -/
inductive Malformation where
  /-- The section of aggregations. -/
  | aggregations
  /-- A nested scope. -/
  | nestedScope
  /-- The aggregation of a name. -/
  | aggregation (name : String)
  /-- The bins of a histogram. -/
  | histogramBuckets
  /-- The lower bound of a bin. -/
  | histogramKey
  /-- The statistics of a bin. -/
  | histogramStats
  /-- The count of statistics. -/
  | statsCount
  /-- The page of terms. -/
  | termBuckets
  /-- The count of a bucket. -/
  | bucketCount
  /-- The list of hits. -/
  | hits
  /-- The total. -/
  | total
  /-- A number in the total. -/
  | numericTotal
  deriving DecidableEq, Repr

/-- Why the search backend counts as unavailable. -/
inductive BackendFault where
  /-- A search failed, for reasons given outermost first. -/
  | failed (reasons : List String)
  /-- An enumeration of terms ran out of time. -/
  | enumerationTimedOut (field : String)
  /-- A mediated query ran out of time. -/
  | mediationTimedOut
  deriving DecidableEq, Repr

/-- What the library itself cannot resolve. -/
inductive InternalFault where
  /-- The mapping of a configured index has not been loaded. -/
  | mappingNotLoaded (index : String)
  /-- No access level applies to an index. -/
  | noAccessLevel (index : String)
  /-- An answer lacks what is read from it. -/
  | malformed (what : Malformation)
  deriving DecidableEq, Repr

/-- The failure of a query. -/
inductive QueryError where
  /-- The filter is invalid. -/
  | invalidFilter (fault : FilterFault)
  /-- The sort order is invalid. -/
  | invalidSort (fault : SortFault)
  /-- The aggregation's arguments are invalid. -/
  | invalidAggregation (fault : AggregationFault)
  /-- Raw rows would disclose resources out of the caller's scope. -/
  | forbidden
  /-- The search backend does not answer. -/
  | backendUnavailable (fault : BackendFault)
  /-- The policy service does not answer, for reasons given outermost first. -/
  | policyUnavailable (reasons : List String)
  /-- The library cannot go on. -/
  | internal (fault : InternalFault)
  deriving DecidableEq, Repr

/-! ### Wording -/

/-- Reasons as one text, outermost first. -/
def chainText (reasons : List String) : String := ": ".intercalate reasons

/-- The wording of a filter's fault. -/
def FilterFault.detail : FilterFault → String
  | .notAnObject shown => "Filter must be an object, got " ++ shown
  | .severalOperators => "Filter node must have exactly one operator"
  | .childrenNotAList key => key ++ " expects an array of filters"
  | .keywordMissing => "search requires a keyword"
  | .searchFieldNotText => "search fields must be strings"
  | .searchFieldsNotAList => "search fields must be a string or an array"
  | .unknownOperator name => "Unknown operator: " ++ name
  | .operandNotAnObject key => "Operator " ++ key ++ " expects a \x7bfield: value\x7d object"
  | .operandNotOneField key count =>
    "Operator " ++ key ++ " expects exactly one field, got " ++ toString count
  | .unknownIndex index => "Unknown index " ++ index
  | .unknownField field index => "Unknown field " ++ field ++ " for index " ++ index
  | .unsupportedOperator op kind field =>
    "Operator " ++ op.name ++ " is not supported for " ++ kind.title ++ " field " ++ field
  | .membersNotAList field => "Operator in on " ++ field ++ " expects an array"
  | .textOperand shown field => "Invalid value " ++ shown ++ " for text field " ++ field
  | .numericOperand shown field => "Invalid value " ++ shown ++ " for numeric field " ++ field
  | .numericText text field =>
    "Invalid numeric value " ++ Text.quoted text ++ " for field " ++ field
  | .notSearchable field => "Field " ++ field ++ " is not text-searchable"
  | .nothingSearchable index => "Index " ++ index ++ " has no text-searchable fields"

/-- The wording of a sort order's fault. -/
def SortFault.detail : SortFault → String
  | .notAList shown => "Sort must be an object or an array, got " ++ shown
  | .entryNotSingle shown =>
    "Each sort entry must be a single \x7bfield: direction\x7d object, got " ++ shown
  | .unknownField field index => "Unknown field " ++ field ++ " for index " ++ index
  | .unknownDirection field shown =>
    "Sort direction for " ++ field ++ " must be asc or desc, got " ++ shown

/-- The wording of an aggregation's fault. -/
def AggregationFault.detail : AggregationFault → String
  | .stepAndBins => "rangeStep and binCount cannot be used together"
  | .stepNotPositive shown => "rangeStep must be positive, got " ++ shown
  | .binsNotPositive bins => "binCount must be positive, got " ++ toString bins
  | .boundsReversed start stop => "rangeStart " ++ start ++ " is greater than rangeEnd " ++ stop
  | .unknownField field index => "Unknown field " ++ field ++ " for index " ++ index
  | .textField field => "Numeric aggregation needs a numeric field, " ++ field ++ " is text"

/-- The wording of a malformed answer. -/
def Malformation.detail : Malformation → String
  | .aggregations => "missing aggregations"
  | .nestedScope => "missing nested aggregation scope"
  | .aggregation name => "missing aggregation " ++ name
  | .histogramBuckets => "histogram without buckets"
  | .histogramKey => "histogram bucket without key"
  | .histogramStats => "histogram bucket without stats"
  | .statsCount => "stats without count"
  | .termBuckets => "composite aggregation without buckets"
  | .bucketCount => "bucket without doc_count"
  | .hits => "search response without hits"
  | .total => "search response without total"
  | .numericTotal => "non-numeric total"

/-- The wording of an unavailable backend. -/
def BackendFault.detail : BackendFault → String
  | .failed reasons => chainText reasons
  | .enumerationTimedOut field => "Text aggregation on " ++ field ++ " timed out"
  | .mediationTimedOut => "Mediated query timed out"

/-- The wording of an internal fault. -/
def InternalFault.detail : InternalFault → String
  | .mappingNotLoaded index => "Mapping for index " ++ index ++ " is not loaded"
  | .noAccessLevel index => "No access level for " ++ index
  | .malformed what => "Malformed search backend response: " ++ what.detail

namespace QueryError

/-- The kind of an error. -/
def kind : QueryError → ErrorKind
  | .invalidFilter _ => .invalidFilter
  | .invalidSort _ => .invalidSort
  | .invalidAggregation _ => .invalidAggregation
  | .forbidden => .forbidden
  | .backendUnavailable _ => .backendUnavailable
  | .policyUnavailable _ => .policyUnavailable
  | .internal _ => .internal

/-- The wording of an error, without its heading. -/
def detail : QueryError → String
  | .invalidFilter fault => fault.detail
  | .invalidSort fault => fault.detail
  | .invalidAggregation fault => fault.detail
  | .forbidden =>
    "You don't have access to all the data you are querying. " ++
      "Try using 'accessibility: accessible' in your query"
  | .backendUnavailable fault => fault.detail
  | .policyUnavailable reasons => chainText reasons
  | .internal fault => fault.detail

/-- The message of an error. -/
def message (e : QueryError) : String := e.kind.message e.detail

/-- Caused by the caller's input. -/
def isUserError (e : QueryError) : Bool := e.kind.isUserError

/-- An answer of the search backend lacks what is read from it. -/
def malformed (what : Malformation) : QueryError := .internal (.malformed what)

end QueryError

end TieredSearch
