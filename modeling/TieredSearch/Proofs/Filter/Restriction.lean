import TieredSearch.Filter.Compile
import TieredSearch.Proofs.Query.Selection
import TieredSearch.Proofs.Search.Dialogue
import Mathlib.Logic.Basic
import Mathlib.Tactic.ByContra
import Mathlib.Tactic.SplitIfs

/-!
# Compiling a filter under a restriction

A restriction is compiled beside the caller's filter and holds in addition to it. The restrictions
of a scope are lists of resource paths; what such a list compiles to is `membership`, and which
documents that selects is `selects_membership_iff`.

* `compile_both`: a restriction outside nested objects narrows what a filter admits, and makes no
  difference to whether the filter compiles.
* `not_lacks_of_compile_both`: under a list of texts without the alias of missing values, only
  documents that have the field are admitted, nested or not.
-/

namespace TieredSearch

open Document (valuesAt narrowings lacks)

/-- The field that is found has the name it was looked up by. -/
theorem Schema.name_of_field? {s : Schema} {name : String} {f : Field}
    (h : s.field? name = some f) :
    f.name = name := by
  simpa using List.find?_some h

namespace Filter

variable {R : Type} [Scalar R]

/-! ### Lists of texts -/

theorem textOperands_texts (field : String) (texts : List String) :
    textOperands field (texts.map .str : List (Json R)) = .ok texts := by
  induction texts with
  | nil => rfl
  | cons s rest ih =>
    simp only [List.map_cons, textOperands, textOperand, ih]
    rfl

theorem Target.field_eq_ok {t : Target} {name : String} {f : Field}
    (h : t.schema.field? name = some f) :
    t.field name = .ok f := by
  simp only [Target.field, h]

/-- A list of texts on a text field compiles to a membership test. -/
theorem compileWithin_isIn {t : Target} {name : String} {f : Field}
    (found : t.schema.field? name = some f)
    (text : f.kind = .text) (texts : List String) (opened : List String) :
    compileWithin t none (isIn name texts : Filter R) opened =
      .ok (some (membership t.missingAlias (unopened f.nestedPath opened) name texts)) := by
  have named := Schema.name_of_field? found
  simp only [isIn, compileWithin, Target.field_eq_ok found, compileCompare, text, Json.texts,
    listedOperands, textOperands_texts, named, bind, Except.bind, pure, Except.pure]
  simp

/-- A list of texts compiles on a text field only. -/
theorem kind_of_compileWithin_isIn {t : Target} {name : String} {f : Field}
    (found : t.schema.field? name = some f)
    {texts : List String} {opened : List String} {q : Option (Query R)}
    (compiled : compileWithin t none (isIn name texts : Filter R) opened = .ok q) :
    f.kind = .text := by
  cases kind : f.kind with
  | text => rfl
  | numeric =>
    simp only [isIn, compileWithin, Target.field_eq_ok found, compileCompare, kind, bind,
      Except.bind] at compiled
    cases compiled

/-- A list of texts compiles on a field of the schema only. -/
theorem exists_text_of_compileWithin_isIn {t : Target} {name : String} {texts : List String}
    {opened : List String} {q : Option (Query R)}
    (compiled : compileWithin t none (isIn name texts : Filter R) opened = .ok q) :
    ∃ f, t.schema.field? name = some f ∧ f.kind = .text := by
  cases found : t.schema.field? name with
  | some f => exact ⟨f, rfl, kind_of_compileWithin_isIn found compiled⟩
  | none => simp [isIn, compileWithin, Target.field, found, bind, Except.bind] at compiled

omit [Scalar R] in
theorem nestedScopes_isIn {t : Target} {name : String} {f : Field}
    (found : t.schema.field? name = some f) (texts : List String) :
    nestedScopes t none (isIn name texts : Filter R) = some f.nestedPath := by
  simp [isIn, nestedScopes, Schema.nestedPath, found]

/-- A membership test selects the documents with one of the texts, and those without a value when
the alias of missing values is one of the texts. -/
theorem selects_membership_iff (missingAlias : Option String) (scopes : List String) (name : String)
    (texts : List String) (doc : Json R) :
    (membership missingAlias scopes name texts : Query R).selects doc = true ↔
      (∃ view ∈ narrowings scopes doc, ∃ v ∈ valuesAt view name, ∃ s ∈ texts,
        missingAlias ≠ some s ∧ v.equalsOperand (.str s) = true) ∨
      (∃ a ∈ texts, missingAlias = some a) ∧
        ∀ view ∈ narrowings scopes doc, valuesAt view name = [] := by
  have listed : (Query.nestedIn scopes
      (.terms name (texts.filter fun s => missingAlias ≠ some s) : Query R)).selects doc = true ↔
      ∃ view ∈ narrowings scopes doc, ∃ v ∈ valuesAt view name, ∃ s ∈ texts,
        missingAlias ≠ some s ∧ v.equalsOperand (.str s) = true := by
    simp [Query.selects_nestedIn]
  have absent : (Query.noneOf (.nestedIn scopes (.present name)) : Query R).selects doc = true ↔
      ∀ view ∈ narrowings scopes doc, valuesAt view name = [] := by
    simp [Query.selects_nestedIn]
  unfold membership
  dsimp only
  split_ifs with whole bare
  · -- the alias is not listed
    rw [listed]
    have free := List.length_filter_eq_length_iff.mp whole
    refine ⟨.inl, Or.rec id ?_⟩
    rintro ⟨⟨a, ha, aliased⟩, -⟩
    exact absurd aliased (by simpa using free a ha)
  · -- nothing but the alias is listed
    rw [absent]
    have only : ∀ s ∈ texts, missingAlias = some s := by
      simpa [List.filter_eq_nil_iff] using bare
    obtain ⟨a, ha⟩ : ∃ a, a ∈ texts := by
      refine List.exists_mem_of_ne_nil _ fun empty => ?_
      exact whole (by simp [empty])
    constructor
    · exact fun h => .inr ⟨⟨a, ha, only a ha⟩, h⟩
    · rintro (⟨view, -, v, -, s, hs, hne, -⟩ | h)
      · exact absurd (only s hs) hne
      · exact h.2
  · rw [Query.selects_anyOf]
    have aliased : ∃ a ∈ texts, missingAlias = some a := by
      by_contra free
      refine whole (List.length_filter_eq_length_iff.mpr fun s hs => ?_)
      simpa using fun listed => free ⟨s, hs, listed⟩
    simp only [List.isEmpty_cons, Bool.false_or, List.any_cons, List.any_nil, Bool.or_false,
      Bool.or_eq_true, listed, absent]
    exact or_congr_right (iff_and_self.mpr fun _ => aliased)

omit [Scalar R] in
/-- Without the alias among the texts, a membership test outside nested objects is a list of
terms. -/
theorem membership_eq_terms {missingAlias : Option String} {texts : List String}
    (free : ∀ a, missingAlias = some a → a ∉ texts) (name : String) :
    (membership missingAlias [] name texts : Query R) = .terms name texts := by
  have stored : texts.filter (fun s => missingAlias ≠ some s) = texts :=
    List.filter_eq_self.mpr fun s hs => by simpa using fun listed => free s listed hs
  unfold membership
  simp only [stored, if_pos, Query.nestedIn, List.foldr_nil]

/-! ### Beside a filter -/

omit [Scalar R] in
@[simp] theorem both_none (own : Option (Filter R)) : both own none = own := by
  cases own <;> rfl

/-- What a filter and a restriction compile to together. -/
def joined : Option (Query R) → Option (Query R) → Option (Query R)
  | some user, some scope => some (.allOf [user, scope])
  | some clause, none => some clause
  | none, clause => clause

theorem admits_joined (user scope : Option (Query R)) (doc : Json R) :
    Query.admits (joined user scope) doc = (Query.admits user doc && Query.admits scope doc) := by
  cases user <;> cases scope <;> simp [joined]

theorem compile_eq (t : Target) (user : Option (Filter R)) (excludeField : Option String)
    (filterSelf : Bool) (extra : Option (Filter R)) :
    compile t user excludeField filterSelf extra =
      (compileOptional t (if filterSelf then none else excludeField) user >>= fun user =>
        compileOptional t none extra >>= fun scope => .ok (joined user scope)) := by
  refine bind_congr fun user => bind_congr fun scope => ?_
  cases user <;> cases scope <;> rfl

/-- A filter and a restriction compile when each of them does. -/
theorem compile_eq_ok_iff {t : Target} {user : Option (Filter R)} {excludeField : Option String}
    {filterSelf : Bool} {extra : Option (Filter R)} {q : Option (Query R)} :
    compile t user excludeField filterSelf extra = .ok q ↔
      ∃ u s, compileOptional t (if filterSelf then none else excludeField) user = .ok u ∧
        compileOptional t none extra = .ok s ∧ joined u s = q := by
  rw [compile_eq]
  cases compileOptional t (if filterSelf then none else excludeField) user <;>
    cases compileOptional t none extra <;> simp [bind, Except.bind]

/-- A restriction only takes away from what the caller's filter admits. -/
theorem admits_of_compile {t : Target} {user extra : Option (Filter R)}
    {excludeField : Option String} {filterSelf : Bool} {plain q : Option (Query R)}
    (unrestricted : compile t user excludeField filterSelf none = .ok plain)
    (compiled : compile t user excludeField filterSelf extra = .ok q) {doc : Json R}
    (admitted : Query.admits q doc = true) : Query.admits plain doc = true := by
  obtain ⟨u, s, hu, hs, rfl⟩ := compile_eq_ok_iff.mp unrestricted
  obtain ⟨u', s', hu', -, rfl⟩ := compile_eq_ok_iff.mp compiled
  cases hu.symm.trans hu'
  cases hs
  rw [admits_joined, Bool.and_eq_true] at admitted ⊢
  exact ⟨admitted.1, rfl⟩

/-- The restriction of a scope outside nested objects narrows a restriction that was there
before. -/
theorem compileOptional_both {t : Target} {restriction : Filter R} {clause : Query R}
    (compiled : compileWithin t none restriction [] = .ok (some clause))
    (root : nestedScopes t none restriction = some []) (auth : Option (Filter R)) :
    Agree (fun before after => ∀ doc, Query.admits after doc = (Query.admits before doc && clause.selects doc))
      (compileOptional t none auth) (compileOptional t none (both auth (some restriction))) := by
  cases auth with
  | none =>
    rw [both, compileOptional, compileOptional, compiled]
    exact .ok fun doc => by simp
  | some auth =>
    have scopes : scopesFor (nestedScopesAll t none [auth, restriction]) [] = [] := by
      simp only [nestedScopesAll, root, sharedScopes]
      cases nestedScopes t none auth with
      | none => rfl
      | some path => cases path <;> rfl
    simp only [both, compileOptional, compileWithin, scopes, compileEach, compiled]
    cases compileWithin t none auth [] with
    | error e => exact .error e
    | ok before =>
      refine .ok fun doc => ?_
      simp [unopened, Query.nestedIn, List.all_append]

/-- A restriction outside nested objects narrows what a filter admits; whether the filter compiles
does not depend on it. -/
theorem compile_both {t : Target} {restriction : Filter R} {clause : Query R}
    (compiled : compileWithin t none restriction [] = .ok (some clause))
    (root : nestedScopes t none restriction = some []) (user : Option (Filter R))
    (excludeField : Option String) (filterSelf : Bool) (auth : Option (Filter R)) :
    Agree (fun before after => ∀ doc, Query.admits after doc = (Query.admits before doc && clause.selects doc))
      (compile t user excludeField filterSelf auth)
      (compile t user excludeField filterSelf (both auth (some restriction))) := by
  rw [compile_eq, compile_eq]
  refine (Agree.refl (fun _ => rfl) _).bind fun u u' hu => ?_
  subst hu
  refine (compileOptional_both compiled root auth).bind fun before after h => .ok fun doc => ?_
  rw [admits_joined, admits_joined, h, Bool.and_assoc]

/-! ### Restrictions inside nested objects -/

omit [Scalar R] in
theorem sharedStart_append (ps qs : List String) : ∃ rest, qs = sharedStart ps qs ++ rest := by
  induction ps generalizing qs with
  | nil => exact ⟨qs, rfl⟩
  | cons p ps ih =>
    cases qs with
    | nil => exact ⟨[], rfl⟩
    | cons q qs =>
      rw [sharedStart]
      split_ifs with h
      · obtain ⟨rest, hrest⟩ := ih qs
        exact ⟨rest, by rw [List.cons_append, ← hrest, h]⟩
      · exact ⟨q :: qs, rfl⟩

omit [Scalar R] in
/-- A restriction to listed texts, beside another one, works in scopes that its field's path
begins with. -/
theorem scopesFor_isIn {t : Target} {name : String} {f : Field}
    (found : t.schema.field? name = some f) (auth : Filter R) (texts : List String) :
    ∃ rest, f.nestedPath =
      scopesFor (nestedScopesAll t none [auth, isIn name texts]) [] ++ rest := by
  have scopes (path : List String) : scopesFor (some path) [] = path := by
    cases path <;> simp [scopesFor]
  simp only [nestedScopesAll, nestedScopes_isIn found, sharedScopes]
  cases nestedScopes t none auth with
  | none => exact ⟨[], by rw [scopes, List.append_nil]⟩
  | some path =>
    obtain ⟨rest, hrest⟩ := sharedStart_append path f.nestedPath
    exact ⟨rest, by rw [scopes, ← hrest]⟩

/-- A document that a list of texts without the alias selects has the field. -/
theorem exists_value_of_membership {missingAlias : Option String} {texts : List String}
    (free : ∀ a, missingAlias = some a → a ∉ texts) {scopes : List String} {name : String}
    {doc : Json R} (h : (membership missingAlias scopes name texts : Query R).selects doc = true) :
    ∃ view ∈ narrowings scopes doc, valuesAt view name ≠ [] := by
  rcases (selects_membership_iff missingAlias scopes name texts doc).mp h with
    ⟨view, hview, v, hv, -⟩ | ⟨⟨a, ha, listed⟩, -⟩
  · exact ⟨view, hview, List.ne_nil_of_mem hv⟩
  · exact absurd ha (free a listed)

/-- Under a restriction to listed texts, beside another one or not, some view of a document that is
admitted passes the membership test. -/
theorem exists_selects_of_compileOptional_both {t : Target} {name : String} {f : Field}
    (found : t.schema.field? name = some f) {texts : List String} {auth : Option (Filter R)}
    {q : Option (Query R)}
    (compiled : compileOptional t none (both auth (some (isIn name texts))) = .ok q) {doc : Json R}
    (admitted : Query.admits q doc = true) :
    ∃ opened rest, f.nestedPath = opened ++ rest ∧ ∃ outer ∈ narrowings opened doc,
      (membership t.missingAlias rest name texts : Query R).selects outer = true := by
  cases auth with
  | none =>
    rw [both, compileOptional] at compiled
    rw [compileWithin_isIn found (kind_of_compileWithin_isIn found compiled)] at compiled
    cases compiled
    exact ⟨[], f.nestedPath, rfl, doc, List.mem_singleton.mpr rfl, admitted⟩
  | some auth =>
    obtain ⟨rest, path⟩ := scopesFor_isIn (R := R) found auth texts
    simp only [both, compileOptional, compileWithin, compileEach] at compiled
    generalize scopesFor (nestedScopesAll t none [auth, isIn name texts]) [] = scopes at compiled path
    cases before' : compileWithin t none auth scopes with
    | error e =>
      rw [before'] at compiled
      cases compiled
    | ok before =>
      cases listed : compileWithin t none (isIn name texts : Filter R) scopes with
      | error e =>
        rw [before', listed] at compiled
        cases compiled
      | ok clause =>
        rw [before', compileWithin_isIn found (kind_of_compileWithin_isIn found listed)] at compiled
        cases compiled
        simp only [unopened, List.length_nil, List.drop_zero] at admitted
        rw [if_neg (by simp), Query.admits_some, Query.selects_nestedIn,
          List.any_eq_true] at admitted
        obtain ⟨outer, houter, both⟩ := admitted
        simp only [Query.selects_allOf, List.all_append, Bool.and_eq_true] at both
        have inside : rest = f.nestedPath.drop scopes.length := by rw [path, List.drop_left]
        exact ⟨scopes, rest, path, outer, houter, by simpa [inside] using both.2⟩

/-- Under a restriction to no text at all, nothing is admitted. -/
theorem not_admits_of_compile_isIn_nil {t : Target} {name : String} {f : Field}
    (found : t.schema.field? name = some f) {user auth : Option (Filter R)}
    {excludeField : Option String} {filterSelf : Bool} {q : Option (Query R)}
    (compiled : compile t user excludeField filterSelf (both auth (some (isIn name []))) = .ok q)
    (doc : Json R) : Query.admits q doc = false := by
  refine Bool.eq_false_iff.mpr fun admitted => ?_
  obtain ⟨u, s, -, hs, rfl⟩ := compile_eq_ok_iff.mp compiled
  rw [admits_joined, Bool.and_eq_true] at admitted
  obtain ⟨opened, rest, -, outer, -, member⟩ :=
    exists_selects_of_compileOptional_both found hs admitted.2
  rcases (selects_membership_iff _ _ _ _ _).mp member with ⟨_, _, _, _, s, hs, -⟩ | ⟨⟨a, ha, -⟩, -⟩
  · cases hs
  · cases ha

/-- Under a restriction to listed texts without the alias, a filter admits only documents that have
the field. -/
theorem not_lacks_of_compile_both {t : Target} {name : String} {f : Field}
    (found : t.schema.field? name = some f) {texts : List String}
    (free : ∀ a, t.missingAlias = some a → a ∉ texts) {user auth : Option (Filter R)}
    {excludeField : Option String} {filterSelf : Bool} {q : Option (Query R)}
    (compiled : compile t user excludeField filterSelf (both auth (some (isIn name texts))) = .ok q)
    {doc : Json R} (admitted : Query.admits q doc = true) : lacks f doc = false := by
  obtain ⟨u, s, -, hs, rfl⟩ := compile_eq_ok_iff.mp compiled
  rw [admits_joined, Bool.and_eq_true] at admitted
  obtain ⟨opened, rest, path, outer, houter, member⟩ :=
    exists_selects_of_compileOptional_both found hs admitted.2
  obtain ⟨view, hview, hv⟩ := exists_value_of_membership free member
  rw [lacks, Bool.and_eq_false_iff]
  refine .inr (List.all_eq_false.mpr ⟨view, ?_, ?_⟩)
  · rw [path, Document.narrowings_append]
    exact List.mem_flatMap.mpr ⟨outer, houter, hview⟩
  · simpa [Schema.name_of_field? found] using hv

end Filter

end TieredSearch
