import Mathlib.Data.List.Nodup
import TieredSearch.Number.Rational
import TieredSearch.Schema.Declaration

/-!
# What the walk of a mapping records

The walk goes down a mapping with a name to put in front and the nested objects it has entered. A node can be
told without either, by the way to it: `Leads properties above name node` says that `above` are the nodes passed,
outermost first, before a property `name` that is `node`. The dotted path (`pathTo`), the nested objects around
it (`nestedAbove`) and the field it stands for (`Describes`) are read off the way alone.

The walk declares what the relation `Declares` says (`mem_declaredIn_iff`), whose rules carry the two along; and
what is declared below a list of properties are the fields at the ends of the ways from there, with the name and
the nested objects put in front (`declares_iff`). Main statement (`fields_are_nodes_described`): where no two
fields of a mapping have one dotted name, the schema has a field for each node that is to have one, as the way to
it describes it, and no other field.
-/

namespace TieredSearch

namespace Schema

variable {R : Type}

/-! ### Ways into a mapping -/

/-- The node at a name has the type of nested objects. -/
def IsNested : Json R → Prop
  | .obj node => nodeType? node = some "nested"
  | _ => False

instance : DecidablePred (IsNested (R := R))
  | .obj node => inferInstanceAs (Decidable (nodeType? node = some "nested"))
  | .null | .bool _ | .int _ | .real _ | .str _ | .arr _ => inferInstanceAs (Decidable False)

/-- `Leads properties above name node`: a list of properties leads, through the nodes `above`, each a property of
the one before, to the property `name`, which is `node`. -/
inductive Leads :
    List (String × Json R) → List (String × Json R) → String → List (String × Json R) → Prop where
  /-- The properties have it. -/
  | here {properties : List (String × Json R)} {name : String} {node : List (String × Json R)}
      (member : (name, .obj node) ∈ properties) : Leads properties [] name node
  /-- The properties of one of them lead to it. -/
  | through {properties children above : List (String × Json R)} {outer name : String}
      {node inner : List (String × Json R)} (member : (outer, .obj node) ∈ properties)
      (within : children? node = some children) (leads : Leads children above name inner) :
      Leads properties ((outer, .obj node) :: above) name inner

/-- The name of a property, dotted through the nodes above it. -/
def pathTo (above : List (String × Json R)) (name : String) : String :=
  above.foldr (fun outer path => outer.1 ++ "." ++ path) name

/-- Nodes that lie one in the other, each with its dotted path. -/
def dotted : List (String × Json R) → List (String × Json R)
  | [] => []
  | (name, node) :: rest => (name, node) :: (dotted rest).map fun (path, inner) => (name ++ "." ++ path, inner)

/-- The dotted paths of the nested objects among nodes that lie one in the other. -/
def nestedAbove (above : List (String × Json R)) : List String :=
  ((dotted above).filter fun node => IsNested node.2).map Prod.fst

/-- The kind of field that a node is to be: its type is supported, and it has no properties. -/
def fieldKind? (node : List (String × Json R)) : Option FieldKind :=
  if (children? node).isSome then none else (nodeType? node).bind FieldKind.ofMappingType?

/-- The field that a node is to have, by the way to it. -/
structure Describes (w : Walk) (above : List (String × Json R)) (name : String)
    (node : List (String × Json R)) (f : Field) : Prop where
  /-- It has the dotted name. -/
  name : f.name = pathTo above name
  /-- It has the kind of the type. -/
  kind : fieldKind? node = some f.kind
  /-- The nested objects around it are those on the way. -/
  nestedPath : f.nestedPath = nestedAbove above
  /-- It is searched for keywords if it is a text outside of nested objects and has an analyzed form. -/
  searchable_iff : f.searchable = true ↔ f.kind = .text ∧ (∀ outer ∈ above, ¬IsNested outer.2) ∧
    ∃ forms analyzed, Json.lookup "fields" node = some forms ∧ forms.get? w.analyzedSuffix = some analyzed
  /-- It holds several values if it is configured to. -/
  isArray_iff : f.isArray = true ↔ f.name ∈ w.arrayFields

/-- No two fields of a mapping have one dotted name. -/
def NamesApart (properties : List (String × Json R)) : Prop :=
  ∀ above name node above' name' node', Leads properties above name node →
    Leads properties above' name' node' → (fieldKind? node).isSome → (fieldKind? node').isSome →
    pathTo above name = pathTo above' name' → above = above' ∧ name = name' ∧ node = node'

/-- A path goes on from another one after a dot. -/
def DottedPrefix (outer path : String) : Prop := ∃ rest, path = outer ++ "." ++ rest

/-! ### Names and nested objects on a way -/

theorem isNested_obj (node : List (String × Json R)) :
    IsNested (.obj node) ↔ nodeType? node = some "nested" := Iff.rfl

theorem pathTo_cons (outer : String) (node : Json R) (above : List (String × Json R)) (name : String) :
    pathTo ((outer, node) :: above) name = outer ++ "." ++ pathTo above name := rfl

theorem nestedAbove_cons (outer : String) (node : Json R) (above : List (String × Json R)) :
    nestedAbove ((outer, node) :: above) =
      (if IsNested node then [outer] else []) ++ (nestedAbove above).map (outer ++ "." ++ ·) := by
  rw [nestedAbove, nestedAbove, dotted, List.filter_cons, List.filter_map, List.map_map]
  split <;> simp_all [Function.comp_def]

theorem nestedAbove_eq_nil_iff (above : List (String × Json R)) :
    nestedAbove above = [] ↔ ∀ outer ∈ above, ¬IsNested outer.2 := by
  induction above with
  | nil => simp [nestedAbove, dotted]
  | cons outer above ih =>
    obtain ⟨name, node⟩ := outer
    rw [nestedAbove_cons, List.append_eq_nil_iff, List.map_eq_nil_iff, ih, List.forall_mem_cons]
    simp

theorem DottedPrefix.append {outer path : String} (within : DottedPrefix outer path) (lead : String) :
    DottedPrefix (lead ++ outer) (lead ++ path) := by
  obtain ⟨rest, rfl⟩ := within
  exact ⟨rest, by simp only [String.append_assoc]⟩

/-- Of the nested objects around a node, each is within those before it, and the node within all of them. -/
theorem pairwise_nestedAbove (above : List (String × Json R)) (name : String) :
    (nestedAbove above ++ [pathTo above name]).Pairwise DottedPrefix := by
  induction above with
  | nil => exact List.pairwise_singleton _ _
  | cons outer above ih =>
    obtain ⟨outer, node⟩ := outer
    have inside : ((nestedAbove above ++ [pathTo above name]).map (outer ++ "." ++ ·)).Pairwise DottedPrefix :=
      ih.map _ fun p q within => within.append _
    rw [List.map_append, List.map_singleton] at inside
    rw [nestedAbove_cons, pathTo_cons, List.append_assoc]
    split
    · refine List.pairwise_cons.mpr ⟨fun path member => ?_, inside⟩
      rw [← List.map_singleton, ← List.map_append] at member
      obtain ⟨rest, -, rfl⟩ := List.mem_map.mp member
      exact ⟨rest, rfl⟩
    · exact inside

/-! ### The walk and the declarations -/

variable {w : Walk} {scopes : List String} {lead path : String} {f : Field}

theorem declares_iff_leaf {node : List (String × Json R)} (bare : children? node = none) :
    Declares w scopes path (.obj node) f ↔ leafField? w scopes path node = some f := by
  constructor
  · intro declares
    cases declares with
    | leaf _ field => exact field
    | child inner _ _ => cases bare.symm.trans inner
  · exact .leaf bare

theorem declares_iff_child {node children : List (String × Json R)} (inner : children? node = some children) :
    Declares w scopes path (.obj node) f ↔
      ∃ name v, (name, v) ∈ children ∧
        Declares w (scopesInside scopes path node) (path ++ "." ++ name) v f := by
  constructor
  · intro declares
    cases declares with
    | leaf bare _ => cases bare.symm.trans inner
    | child inner' member declared =>
      cases inner.symm.trans inner'
      exact ⟨_, _, member, declared⟩
  · rintro ⟨name, v, member, declared⟩
    exact .child inner member declared

theorem children?_cons (key : String) (v : Json R) (rest : List (String × Json R)) :
    children? ((key, v) :: rest) = if key = "properties" then v.members? else children? rest := by
  rw [children?, Json.lookup]
  split
  · rfl
  · rfl

theorem declaredBelow?_cons_of_ne {key : String} (other : key ≠ "properties") (v : Json R)
    (rest : List (String × Json R)) :
    declaredBelow? w scopes lead ((key, v) :: rest) = declaredBelow? w scopes lead rest := by
  cases v <;> simp [declaredBelow?, other]

mutual

/-- The fields of a list of properties are those that one of them declares. -/
theorem mem_declaredIn_iff (w : Walk) (scopes : List String) (lead : String) (f : Field) :
    ∀ properties : List (String × Json R), f ∈ declaredIn w scopes lead properties ↔
      ∃ name v, (name, v) ∈ properties ∧ Declares w scopes (lead ++ name) v f
  | [] => by simp [declaredIn]
  | (name, v) :: rest => by
    rw [declaredIn, List.mem_append, mem_declaredAt_iff w scopes (lead ++ name) f v,
      mem_declaredIn_iff w scopes lead f rest]
    simp only [List.mem_cons, Prod.mk.injEq, or_and_right, exists_or]
    refine or_congr ⟨fun declares => ⟨name, v, ⟨rfl, rfl⟩, declares⟩, ?_⟩ Iff.rfl
    rintro ⟨_, _, ⟨rfl, rfl⟩, declares⟩
    exact declares

theorem mem_declaredAt_iff (w : Walk) (scopes : List String) (path : String) (f : Field) :
    ∀ v : Json R, f ∈ declaredAt w scopes path v ↔ Declares w scopes path v f
  | .obj node => by
    have below := declaredBelow?_spec w (scopesInside scopes path node) (path ++ ".") f node
    rw [declaredAt]
    cases inner : children? node with
    | none =>
      rw [inner] at below
      rw [below, declares_iff_leaf inner, Option.mem_toList]
    | some children =>
      rw [inner] at below
      obtain ⟨fields, found, declared⟩ := below
      rw [found, declares_iff_child inner]
      exact declared
  | .null | .bool _ | .int _ | .real _ | .str _ | .arr _ => by
    refine ⟨fun member => ?_, fun declares => ?_⟩
    · rw [declaredAt] at member
      · cases member
      · rintro _ ⟨⟩
    · cases declares

/-- There are fields to read below a node if it has properties, and they are those that one of these
declares. -/
theorem declaredBelow?_spec (w : Walk) (scopes : List String) (lead : String) (f : Field) :
    ∀ node : List (String × Json R), match children? node with
      | none => declaredBelow? w scopes lead node = none
      | some children => ∃ fields, declaredBelow? w scopes lead node = some fields ∧
          (f ∈ fields ↔ ∃ name v, (name, v) ∈ children ∧ Declares w scopes (lead ++ name) v f)
  | [] => rfl
  | (key, v) :: rest => by
    by_cases own : key = "properties"
    · rw [children?_cons, if_pos own]
      cases v with
      | obj children =>
        exact ⟨_, by rw [declaredBelow?, if_pos own], mem_declaredIn_iff w scopes lead f children⟩
      | null | bool _ | int _ | real _ | str _ | arr _ => simp [Json.members?, declaredBelow?, own]
    · rw [children?_cons, if_neg own, declaredBelow?_cons_of_ne own]
      exact declaredBelow?_spec w scopes lead f rest

end

/-! ### Declarations and ways -/

/-- What is around the nodes of a way, seen from one node further out. -/
theorem scopesInside_append (scopes : List String) (lead outer : String) (node above : List (String × Json R)) :
    scopesInside scopes (lead ++ outer) node ++ (nestedAbove above).map (lead ++ outer ++ "." ++ ·) =
      scopes ++ (nestedAbove ((outer, .obj node) :: above)).map (lead ++ ·) := by
  have inside : (nestedAbove above).map (lead ++ outer ++ "." ++ ·) =
      ((nestedAbove above).map (outer ++ "." ++ ·)).map (lead ++ ·) := by
    rw [List.map_map]
    refine List.map_congr_left fun path _ => ?_
    simp only [Function.comp_apply, String.append_assoc]
  rw [inside, nestedAbove_cons, scopesInside]
  simp only [isNested_obj]
  split
  · simp
  · simp

theorem pathTo_append (lead outer : String) (node above : List (String × Json R)) (name : String) :
    lead ++ outer ++ "." ++ pathTo above name = lead ++ pathTo ((outer, .obj node) :: above) name := by
  rw [pathTo_cons]
  simp only [String.append_assoc]

/-- The field that a property declares is at the end of a way that begins with the property. -/
theorem Declares.exists_leads {v : Json R} (declares : Declares w scopes path v f)
    {properties : List (String × Json R)} {name : String} (member : (name, v) ∈ properties)
    (named : path = lead ++ name) :
    ∃ above leaf node, Leads properties above leaf node ∧ children? node = none ∧
      leafField? w (scopes ++ (nestedAbove above).map (lead ++ ·)) (lead ++ pathTo above leaf) node = some f := by
  induction declares generalizing properties lead name with
  | leaf bare field =>
    refine ⟨[], name, _, .here member, bare, ?_⟩
    rw [nestedAbove, dotted, List.filter_nil, List.map_nil, List.map_nil, List.append_nil, pathTo,
      List.foldr_nil, ← named]
    exact field
  | child inner member' declared ih =>
    subst named
    obtain ⟨above, leaf, node, leads, bare, field⟩ := ih member' rfl
    refine ⟨_ :: above, leaf, node, .through member inner leads, bare, ?_⟩
    rw [← scopesInside_append, ← pathTo_append]
    exact field

/-- The field at the end of a way is declared by the property that the way begins with. -/
theorem Leads.exists_declares {properties above node : List (String × Json R)} {leaf : String}
    (leads : Leads properties above leaf node) (bare : children? node = none)
    (field : leafField? w (scopes ++ (nestedAbove above).map (lead ++ ·)) (lead ++ pathTo above leaf) node =
      some f) :
    ∃ name v, (name, v) ∈ properties ∧ Declares w scopes (lead ++ name) v f := by
  induction leads generalizing scopes lead with
  | here member =>
    rw [nestedAbove, dotted, List.filter_nil, List.map_nil, List.map_nil, List.append_nil, pathTo,
      List.foldr_nil] at field
    exact ⟨_, _, member, .leaf bare field⟩
  | through member inner _ ih =>
    rw [← scopesInside_append, ← pathTo_append] at field
    obtain ⟨name, v, member', declared⟩ := ih bare field
    exact ⟨_, _, member, .child inner member' declared⟩

theorem fieldKind?_eq_some_iff {node : List (String × Json R)} {kind : FieldKind} :
    fieldKind? node = some kind ↔
      children? node = none ∧ (nodeType? node).bind FieldKind.ofMappingType? = some kind := by
  rw [fieldKind?]
  cases children? node <;> simp

/-- A node without properties has the field that the way to it describes. -/
theorem leafField?_eq_some_iff {above node : List (String × Json R)} {name : String} :
    children? node = none ∧ leafField? w (nestedAbove above) (pathTo above name) node = some f ↔
      Describes w above name node f := by
  have analyzed : ((Json.lookup "fields" node).bind (·.get? w.analyzedSuffix)).isSome = true ↔
      ∃ forms analyzed, Json.lookup "fields" node = some forms ∧ forms.get? w.analyzedSuffix = some analyzed := by
    simp only [Option.isSome_iff_exists, Option.bind_eq_some_iff]
    exact exists_comm
  constructor
  · rintro ⟨bare, field⟩
    obtain ⟨kind, supported, same⟩ := Option.bind_eq_some_iff.mp field
    cases same
    refine ⟨rfl, fieldKind?_eq_some_iff.mpr ⟨bare, supported⟩, rfl, ?_, List.contains_iff_mem⟩
    simp only [Bool.and_eq_true, decide_eq_true_eq, List.isEmpty_iff, analyzed, nestedAbove_eq_nil_iff, and_assoc]
  · rintro ⟨named, kind, nested, searchable, isArray⟩
    obtain ⟨bare, supported⟩ := fieldKind?_eq_some_iff.mp kind
    refine ⟨bare, Option.bind_eq_some_iff.mpr ⟨f.kind, supported, ?_⟩⟩
    obtain ⟨fieldName, fieldKind, fieldPath, fieldArray, fieldSearchable⟩ := f
    subst named nested
    refine congrArg some (Field.mk.injEq .. |>.mpr ⟨rfl, rfl, rfl, ?_, ?_⟩)
    · rw [Bool.eq_iff_iff, isArray]
      exact List.contains_iff_mem
    · rw [Bool.eq_iff_iff, searchable, ← analyzed, ← nestedAbove_eq_nil_iff]
      simp only [Bool.and_eq_true, decide_eq_true_eq, List.isEmpty_iff, and_assoc]

/-- The walk finds the fields that are described by the ways to them. -/
theorem mem_declaredIn_iff_describes (w : Walk) (properties : List (String × Json R)) (f : Field) :
    f ∈ declaredIn w [] "" properties ↔
      ∃ above name node, Leads properties above name node ∧ Describes w above name node f := by
  have outermost (above : List (String × Json R)) (name : String) :
      [] ++ (nestedAbove above).map ("" ++ ·) = nestedAbove above ∧
        "" ++ pathTo above name = pathTo above name := by
    simp
  rw [mem_declaredIn_iff]
  constructor
  · rintro ⟨name, v, member, declares⟩
    obtain ⟨above, leaf, node, leads, bare, field⟩ := declares.exists_leads member rfl
    rw [(outermost above leaf).1, (outermost above leaf).2] at field
    exact ⟨above, leaf, node, leads, leafField?_eq_some_iff.mp ⟨bare, field⟩⟩
  · rintro ⟨above, leaf, node, leads, describes⟩
    obtain ⟨bare, field⟩ := leafField?_eq_some_iff.mpr describes
    rw [← (outermost above leaf).1, ← (outermost above leaf).2] at field
    exact leads.exists_declares bare field

/-! ### One field for each name -/

theorem lastDeclared_sublist : ∀ fields : List Field, (lastDeclared fields).Sublist fields
  | [] => .slnil
  | f :: rest => by
    rw [lastDeclared]
    split
    · exact (lastDeclared_sublist rest).cons f
    · exact (lastDeclared_sublist rest).cons_cons f

theorem nodup_names_lastDeclared : ∀ fields : List Field, ((lastDeclared fields).map (·.name)).Nodup
  | [] => List.nodup_nil
  | f :: rest => by
    rw [lastDeclared]
    split
    · exact nodup_names_lastDeclared rest
    next last =>
      refine List.nodup_cons.mpr ⟨fun again => last ?_, nodup_names_lastDeclared rest⟩
      obtain ⟨g, member, same⟩ := List.mem_map.mp again
      exact List.any_eq_true.mpr ⟨g, (lastDeclared_sublist rest).mem member, decide_eq_true same⟩

/-- No field is lost where a name stands for one field. -/
theorem mem_lastDeclared_iff {fields : List Field}
    (unique : ∀ f ∈ fields, ∀ g ∈ fields, f.name = g.name → f = g) (f : Field) :
    f ∈ lastDeclared fields ↔ f ∈ fields := by
  refine ⟨fun member => (lastDeclared_sublist fields).mem member, fun member => ?_⟩
  induction fields with
  | nil => cases member
  | cons g rest ih =>
    have unique' : ∀ f ∈ rest, ∀ g ∈ rest, f.name = g.name → f = g := fun f hf g hg =>
      unique f (List.mem_cons_of_mem _ hf) g (List.mem_cons_of_mem _ hg)
    rw [lastDeclared]
    split
    next again =>
      obtain ⟨h, later, same⟩ := List.any_eq_true.mp again
      have itself : h = g := unique h (List.mem_cons_of_mem _ later) g List.mem_cons_self (of_decide_eq_true same)
      rcases List.mem_cons.mp member with rfl | member
      · exact ih unique' (itself ▸ later)
      · exact ih unique' member
    next =>
      rcases List.mem_cons.mp member with rfl | member
      · exact List.mem_cons_self
      · exact List.mem_cons_of_mem _ (ih unique' member)

theorem field?_eq_some_of_mem {s : Schema} (names : (s.fields.map (·.name)).Nodup) (member : f ∈ s.fields) :
    s.field? f.name = some f := by
  have found : (s.fields.find? (·.name = f.name)).isSome := List.find?_isSome.mpr ⟨f, member, decide_eq_true rfl⟩
  obtain ⟨g, found⟩ := Option.isSome_iff_exists.mp found
  have named : g.name = f.name := by simpa using List.find?_some found
  rw [field?, found, List.inj_on_of_nodup_map names (List.mem_of_find?_eq_some found) member named]

/-- Two ways to fields that are told by one name describe one field. -/
theorem NamesApart.unique {properties : List (String × Json R)} (apart : NamesApart properties) :
    ∀ f ∈ declaredIn w [] "" properties, ∀ g ∈ declaredIn w [] "" properties, f.name = g.name → f = g := by
  intro f hf g hg same
  obtain ⟨above, name, node, leads, describes⟩ := (mem_declaredIn_iff_describes w properties f).mp hf
  obtain ⟨above', name', node', leads', describes'⟩ := (mem_declaredIn_iff_describes w properties g).mp hg
  obtain ⟨rfl, rfl, rfl⟩ := apart above name node above' name' node' leads leads'
    (Option.isSome_of_eq_some describes.kind) (Option.isSome_of_eq_some describes'.kind)
    (describes.name.symm.trans (same.trans describes'.name))
  have field := (leafField?_eq_some_iff.mpr describes).2
  exact Option.some_inj.mp (field.symm.trans (leafField?_eq_some_iff.mpr describes').2)

/-- A node that is to be a field has one that the way to it describes. -/
theorem exists_describes {node : List (String × Json R)} (field : (fieldKind? node).isSome) (w : Walk)
    (above : List (String × Json R)) (name : String) : ∃ f, Describes w above name node f := by
  obtain ⟨kind, found⟩ := Option.isSome_iff_exists.mp field
  obtain ⟨bare, supported⟩ := fieldKind?_eq_some_iff.mp found
  exact ⟨_, leafField?_eq_some_iff.mp ⟨bare, Option.bind_eq_some_iff.mpr ⟨kind, supported, rfl⟩⟩⟩

/-- If a mapping has properties, and no two of the nodes with a supported type and no properties have one dotted
name, the mapping has a schema. For each such node there is a field of the dotted name, with the kind of the type,
with the dotted paths of the nested objects the node is in, and searchable if it is a text in none of them that
has an analyzed form. There is no other field, and none twice. Of the nested objects around a field, outermost
first, each path goes on from those before it, and the name from all of them. -/
theorem fields_are_nodes_described [Scalar R] {docType : Option String} {mapping : Json R}
    {properties : List (String × Json R)} (read : properties? docType mapping = .ok properties)
    (apart : NamesApart properties) (index : String) (w : Walk) :
    ∃ s, ofMapping index docType w mapping = .ok s ∧
      (∀ above name node, Leads properties above name node → (fieldKind? node).isSome →
        ∃ f, s.field? (pathTo above name) = some f ∧ Describes w above name node f) ∧
      (∀ f ∈ s.fields, ∃ above name node,
        Leads properties above name node ∧ Describes w above name node f) ∧
      (s.fields.map (·.name)).Nodup ∧
      ∀ f ∈ s.fields, (f.nestedPath ++ [f.name]).Pairwise DottedPrefix := by
  have built : ofMapping index docType w mapping =
      .ok ⟨index, contentHashOf mapping, lastDeclared (declaredIn w [] "" properties)⟩ := by
    rw [ofMapping, read]
    rfl
  have names := nodup_names_lastDeclared (declaredIn w [] "" properties)
  have described (f : Field) : f ∈ lastDeclared (declaredIn w [] "" properties) ↔
      ∃ above name node, Leads properties above name node ∧ Describes w above name node f :=
    (mem_lastDeclared_iff apart.unique f).trans (mem_declaredIn_iff_describes w properties f)
  refine ⟨_, built, ?_, fun f member => (described f).mp member, names, ?_⟩
  · intro above name node leads field
    obtain ⟨f, describes⟩ := exists_describes field w above name
    refine ⟨f, ?_, describes⟩
    rw [← describes.name]
    exact field?_eq_some_of_mem names ((described f).mpr ⟨above, name, node, leads, describes⟩)
  · intro f member
    obtain ⟨above, name, node, -, describes⟩ := (described f).mp member
    rw [describes.name, describes.nestedPath]
    exact pairwise_nestedAbove above name

end Schema

namespace Sample

/-- A property of the subjects that has an analyzed form. -/
def gender : List (String × Json Rat) :=
  [("type", .str "keyword"), ("fields", .obj [("analyzed", .obj [("type", .str "text")])])]

/-- A result of the laboratory. -/
def labResult : List (String × Json Rat) := [("type", .str "double")]

/-- The results at a visit. -/
def visitLabs : List (String × Json Rat) :=
  [("type", .str "nested"), ("properties", .obj [("result", .obj labResult)])]

/-- The visits of a subject. -/
def subjectVisits : List (String × Json Rat) :=
  [("type", .str "nested"), ("properties", .obj [("labs", .obj visitLabs)])]

/-- The properties of subjects. Dates are of a type that is not supported. -/
def subjectProperties : List (String × Json Rat) :=
  [("visits", .obj subjectVisits), ("gender", .obj gender), ("created", .obj [("type", .str "date")])]

/-- The mapping of subjects. -/
def subjectMapping : Json Rat :=
  .obj [("subject", .obj [("mappings", .obj [("properties", .obj subjectProperties)])])]

/-- The two ways to fields of the subjects. -/
theorem leads_to_subject_field {above node : List (String × Json Rat)} {name : String}
    (leads : Schema.Leads subjectProperties above name node) (field : (Schema.fieldKind? node).isSome) :
    above = [] ∧ name = "gender" ∧ node = gender ∨
      above = [("visits", .obj subjectVisits), ("labs", .obj visitLabs)] ∧
        name = "result" ∧ node = labResult := by
  have among {v : List (String × Json Rat)} {outer : String} (member : (outer, .obj v) ∈ subjectProperties) :
      outer = "visits" ∧ v = subjectVisits ∨ outer = "gender" ∧ v = gender ∨
        outer = "created" ∧ v = [("type", .str "date")] := by
    simpa [subjectProperties] using member
  cases leads with
  | here member =>
    rcases among member with ⟨rfl, rfl⟩ | ⟨rfl, rfl⟩ | ⟨rfl, rfl⟩
    · exact absurd field (by decide)
    · exact .inl ⟨rfl, rfl, rfl⟩
    · exact absurd field (by decide)
  | through member within leads =>
    rcases among member with ⟨rfl, rfl⟩ | ⟨rfl, rfl⟩ | ⟨rfl, rfl⟩
    · cases within
      cases leads with
      | here member =>
        cases List.mem_singleton.mp member
        exact absurd field (by decide)
      | through member within leads =>
        cases List.mem_singleton.mp member
        cases within
        cases leads with
        | here member =>
          cases List.mem_singleton.mp member
          exact .inr ⟨rfl, rfl, rfl⟩
        | through member within leads =>
          cases List.mem_singleton.mp member
          cases within
    · cases within
    · cases within

theorem namesApart_subjectProperties : Schema.NamesApart subjectProperties := by
  intro above name node above' name' node' leads leads' field field' same
  rcases leads_to_subject_field leads field with ⟨rfl, rfl, rfl⟩ | ⟨rfl, rfl, rfl⟩
  · rcases leads_to_subject_field leads' field' with ⟨rfl, rfl, rfl⟩ | ⟨rfl, rfl, rfl⟩
    · exact ⟨rfl, rfl, rfl⟩
    · exact absurd same (by decide)
  · rcases leads_to_subject_field leads' field' with ⟨rfl, rfl, rfl⟩ | ⟨rfl, rfl, rfl⟩
    · exact absurd same (by decide)
    · exact ⟨rfl, rfl, rfl⟩

end Sample

/-- The results are a field within the visits and the laboratory. The gender, which comes after the visits, is
outside of them and can be searched. -/
theorem results_within_visits_and_labs :
    ∃ s, Schema.ofMapping "subject" none ⟨[], "analyzed"⟩ Sample.subjectMapping = .ok s ∧
      s.field? "gender" = some ⟨"gender", .text, [], false, true⟩ ∧
      s.field? "visits.labs.result" =
        some ⟨"visits.labs.result", .numeric, ["visits", "visits.labs"], false, false⟩ ∧
      s.field? "created" = none := by
  have read : Schema.properties? none Sample.subjectMapping = .ok Sample.subjectProperties := rfl
  obtain ⟨s, built, found, described, -⟩ :=
    Schema.fields_are_nodes_described read Sample.namesApart_subjectProperties "subject" ⟨[], "analyzed"⟩
  have toGender : Schema.Leads Sample.subjectProperties [] "gender" Sample.gender :=
    .here (List.mem_cons_of_mem _ List.mem_cons_self)
  have toResult : Schema.Leads Sample.subjectProperties
      [("visits", .obj Sample.subjectVisits), ("labs", .obj Sample.visitLabs)] "result" Sample.labResult :=
    .through List.mem_cons_self rfl (.through List.mem_cons_self rfl (.here List.mem_cons_self))
  refine ⟨s, built, ?_, ?_, ?_⟩
  · obtain ⟨f, held, describes⟩ := found _ _ _ toGender rfl
    rw [Option.some_inj.mp ((Schema.leafField?_eq_some_iff.mpr describes).2.symm)] at held
    exact held
  · obtain ⟨f, held, describes⟩ := found _ _ _ toResult rfl
    rw [Option.some_inj.mp ((Schema.leafField?_eq_some_iff.mpr describes).2.symm)] at held
    exact held
  · refine Option.eq_none_iff_forall_ne_some.mpr fun f held => ?_
    obtain ⟨above, name, node, leads, describes⟩ := described f (List.mem_of_find?_eq_some held)
    have named : Schema.pathTo above name = "created" := by
      rw [← describes.name]
      simpa using List.find?_some held
    rcases Sample.leads_to_subject_field leads (Option.isSome_of_eq_some describes.kind) with
      ⟨rfl, rfl, rfl⟩ | ⟨rfl, rfl, rfl⟩
    · exact absurd named (by decide)
    · exact absurd named (by decide)

end TieredSearch
