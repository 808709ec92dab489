import Mathlib.Algebra.GroupWithZero.Nat
import ModelCodegen.Proofs.Schema.Groups
import ModelCodegen.Proofs.Schema.Loaded

/-!
# Sets in groups

The groups of a set share out its schemas: every schema stands in one group, that of its
application, and the groups stand in the order in which their applications first occur. There is
one list of groups like that. Within a set a schema is found under its two names.
-/

namespace ModelCodegen.SchemaSet

/-- The place of the first schema of an application. -/
def firstOf (schemas : List ModelSchema) (application : String) : Nat :=
  (schemas.map (·.applicationName)).idxOf application

/-- The groups share out the schemas by application. -/
structure IsGrouping (schemas : List ModelSchema) (groups : List ApplicationGroup) : Prop where
  /-- No two groups are of one application. -/
  distinct : (groups.map (·.name)).Nodup
  /-- Groups stand in the order of the first schemas of their applications. -/
  ordered : groups.Pairwise fun group later =>
    firstOf schemas group.name < firstOf schemas later.name
  /-- A group has the schemas of its application, in their order. -/
  models : ∀ group ∈ groups, group.models = schemas.filter (·.applicationName == group.name)
  /-- There is something in every group. -/
  inhabited : ∀ group ∈ groups, group.models ≠ []
  /-- All groups together have every schema as often as it is there. -/
  complete : (groups.flatMap (·.models)).Perm schemas

/-! ## Order -/

/-- Without repetitions, names stand in the order in which they first occur. -/
theorem pairwise_idxOf_eraseDups (names : List String) :
    names.eraseDups.Pairwise fun name later => names.idxOf name < names.idxOf later := by
  induction names using List.reverseRecOn with
  | nil => exact List.Pairwise.nil
  | append_singleton names last ih =>
    -- The places of the names so far stay, and a new name comes behind all of them.
    have hplace : ∀ name ∈ names.eraseDups,
        (names ++ [last]).idxOf name = names.idxOf name := fun name hname =>
      List.idxOf_append_of_mem (List.mem_eraseDups.mp hname)
    have hfront : names.eraseDups.Pairwise fun name later =>
        (names ++ [last]).idxOf name < (names ++ [last]).idxOf later :=
      ih.imp_of_mem fun hname hlater hlt => by rwa [hplace _ hname, hplace _ hlater]
    rw [eraseDups_concat]
    split
    · exact hfront
    · next hnew =>
      refine List.pairwise_append.mpr ⟨hfront, List.pairwise_singleton .., fun name hname later
        hlater => ?_⟩
      rw [List.mem_singleton.mp hlater, hplace name hname, List.idxOf_append_of_notMem hnew]
      exact Nat.lt_of_lt_of_le (List.idxOf_lt_length_iff.mpr (List.mem_eraseDups.mp hname))
        (Nat.le_add_right ..)

/-- Applications come in the order of their first schemas. -/
theorem pairwise_firstOf_applications (set : SchemaSet) :
    set.applications.Pairwise fun group later =>
      firstOf set.schemas group.name < firstOf set.schemas later.name := by
  have hnames := pairwise_idxOf_eraseDups (set.schemas.map (·.applicationName))
  rw [← names_applications, List.pairwise_map] at hnames
  exact hnames

/-! ## Completeness -/

/-- With a schema the groups have one schema more. -/
private theorem flatMap_models_addToGroups (schema : ModelSchema)
    (groups : List ApplicationGroup) :
    ((addToGroups schema groups).flatMap (·.models)).Perm
      (schema :: groups.flatMap (·.models)) := by
  induction groups with
  | nil => exact List.Perm.refl _
  | cons group rest ih =>
    rw [addToGroups]
    split
    · simp only [List.flatMap_cons, List.append_assoc, List.singleton_append]
      exact List.perm_middle
    · rw [List.flatMap_cons, List.flatMap_cons]
      exact (ih.append_left group.models).trans List.perm_middle

/-- The groups have all schemas of the set. -/
theorem flatMap_models_applications (set : SchemaSet) :
    (set.applications.flatMap (·.models)).Perm set.schemas := by
  have hfold : ∀ (schemas : List ModelSchema) (groups : List ApplicationGroup),
      ((schemas.foldl (fun groups schema => addToGroups schema groups) groups).flatMap
        (·.models)).Perm (schemas ++ groups.flatMap (·.models)) := by
    intro schemas
    induction schemas with
    | nil => exact fun groups => List.Perm.refl _
    | cons schema rest ih =>
      intro groups
      refine (ih (addToGroups schema groups)).trans ?_
      exact ((flatMap_models_addToGroups schema groups).append_left rest).trans List.perm_middle
  simpa [applications] using hfold set.schemas []

/-! ## The grouping -/

/-- The applications of a set share out its schemas. -/
theorem isGrouping_applications (set : SchemaSet) : IsGrouping set.schemas set.applications where
  distinct := nodup_names_applications set
  ordered := pairwise_firstOf_applications set
  models _ hg := models_of_mem_group hg
  inhabited _ hg := (mem_applications_iff.mp hg).2
  complete := flatMap_models_applications set

namespace IsGrouping

variable {schemas : List ModelSchema} {groups others : List ApplicationGroup}

/-- There is a group just for those applications that have schemas. -/
theorem mem_names_iff (h : IsGrouping schemas groups) {name : String} :
    name ∈ groups.map (·.name) ↔ name ∈ schemas.map (·.applicationName) := by
  constructor
  · intro hname
    obtain ⟨group, hg, rfl⟩ := List.mem_map.mp hname
    obtain ⟨schema, hs⟩ := List.exists_mem_of_ne_nil _ (h.inhabited group hg)
    rw [h.models group hg, List.mem_filter, beq_iff_eq] at hs
    exact List.mem_map.mpr ⟨schema, hs⟩
  · intro hname
    obtain ⟨schema, hs, rfl⟩ := List.mem_map.mp hname
    obtain ⟨group, hg, hin⟩ := List.mem_flatMap.mp (h.complete.mem_iff.mpr hs)
    rw [h.models group hg, List.mem_filter, beq_iff_eq] at hin
    exact List.mem_map.mpr ⟨group, hg, hin.2.symm⟩

/-- The names of the groups say which groups they are. -/
theorem eq_map_names (h : IsGrouping schemas groups) :
    groups = (groups.map (·.name)).map fun name =>
      ⟨name, schemas.filter (·.applicationName == name)⟩ := by
  rw [List.map_map]
  refine (List.map_id' groups).symm.trans (List.map_congr_left fun group hg => ?_)
  rw [Function.comp_apply, ← h.models group hg]

/-- Schemas can be shared out in one way only. -/
theorem unique (h : IsGrouping schemas groups) (ho : IsGrouping schemas others) :
    groups = others := by
  have hordered : ∀ {groups}, IsGrouping schemas groups → (groups.map (·.name)).Pairwise
      fun name later => firstOf schemas name < firstOf schemas later :=
    fun h => List.pairwise_map.mpr h.ordered
  have hperm : (groups.map (·.name)).Perm (others.map (·.name)) :=
    (List.perm_ext_iff_of_nodup h.distinct ho.distinct).mpr fun name =>
      h.mem_names_iff.trans ho.mem_names_iff.symm
  have hnames : groups.map (·.name) = others.map (·.name) :=
    hperm.eq_of_pairwise (fun _ _ _ _ hlt hgt => absurd hgt (Nat.lt_asymm hlt)) (hordered h)
      (hordered ho)
  rw [h.eq_map_names, ho.eq_map_names, hnames]

/-- A schema stands in the group of its application and in no other. -/
theorem existsUnique_group (h : IsGrouping schemas groups) {schema : ModelSchema}
    (hs : schema ∈ schemas) : ∃! group, group ∈ groups ∧ schema ∈ group.models := by
  obtain ⟨group, hg, hin⟩ := List.mem_flatMap.mp (h.complete.mem_iff.mpr hs)
  have hname : ∀ group ∈ groups, schema ∈ group.models → group.name = schema.applicationName := by
    intro group hg hin
    rw [h.models group hg, List.mem_filter, beq_iff_eq] at hin
    exact hin.2.symm
  refine ⟨group, ⟨hg, hin⟩, fun other ⟨ho, hino⟩ => ?_⟩
  exact List.inj_on_of_nodup_map h.distinct ho hg
    ((hname other ho hino).trans (hname group hg hin).symm)

/-- The sizes of the groups add up to the number of schemas. -/
theorem sum_length_models (h : IsGrouping schemas groups) :
    (groups.map (·.models.length)).sum = schemas.length := by
  rw [← List.length_flatMap, h.complete.length_eq]

end IsGrouping

/-! ## Look-up -/

/-- Among schemas with different keys a schema is found under its names. -/
theorem get?_eq_some_iff {set : SchemaSet} (hkeys : (set.schemas.map ModelSchema.key).Nodup)
    {application model : String} {schema : ModelSchema} :
    set.get? application model = some schema ↔
      schema ∈ set.schemas ∧ schema.applicationName = application ∧ schema.modelName = model := by
  rw [get?]
  constructor
  · intro h
    exact ⟨List.mem_of_find?_eq_some h, by simpa using List.find?_some h⟩
  · rintro ⟨hs, rfl, rfl⟩
    cases hfound : set.schemas.find? fun other =>
        other.applicationName == schema.applicationName && other.modelName == schema.modelName with
    | none => exact absurd (List.find?_eq_none.mp hfound schema hs) (by simp)
    | some found =>
      have hnames : found.applicationName = schema.applicationName ∧
          found.modelName = schema.modelName := by simpa using List.find?_some hfound
      have hkey : found.key = schema.key := by
        rw [ModelSchema.key, ModelSchema.key, hnames.1, hnames.2]
      rw [List.inj_on_of_nodup_map hkeys (List.mem_of_find?_eq_some hfound) hs hkey]

/-- A model is not found just if no schema has its names. -/
theorem get?_eq_none_iff {set : SchemaSet} {application model : String} :
    set.get? application model = none ↔ ∀ schema ∈ set.schemas,
      ¬ (schema.applicationName = application ∧ schema.modelName = model) := by
  simp [get?]

/-! ## Accepted sets -/

/-- The groups of an accepted set are the one way to share out its schemas by application: every
schema stands in one group, and the sizes of the groups add up to that of the set. What is found
under two names is the one schema of these names, or nothing if there is none. -/
theorem applications_share_out {schemas : List ModelSchema} {set : SchemaSet}
    (h : ofList schemas = .ok set) :
    set.schemas = schemas ∧
    (∀ groups, IsGrouping schemas groups ↔ groups = set.applications) ∧
    (∀ schema ∈ schemas, ∃! group, group ∈ set.applications ∧ schema ∈ group.models) ∧
    (set.applications.map (·.models.length)).sum = set.size ∧
    ∀ application model,
      (∀ schema, set.get? application model = some schema ↔
        schema ∈ schemas ∧ schema.applicationName = application ∧ schema.modelName = model) ∧
      (set.get? application model = none ↔ ∀ schema ∈ schemas,
        ¬ (schema.applicationName = application ∧ schema.modelName = model)) := by
  obtain ⟨hkeys, rfl⟩ := ofList_eq_ok_iff.mp h
  have hgrouping := isGrouping_applications set
  refine ⟨rfl, fun groups => ⟨fun hg => hg.unique hgrouping, fun hg => hg ▸ hgrouping⟩,
    fun schema hs => hgrouping.existsUnique_group hs, hgrouping.sum_length_models, ?_⟩
  exact fun application model => ⟨fun schema => get?_eq_some_iff hkeys, get?_eq_none_iff⟩

/-- Models of two applications that take turns. -/
def shopModels : List ModelSchema :=
  [.bare "shop" "product" "products", .bare "blog" "post" "posts",
    .bare "shop" "category" "categories"]

/-- Applications that take turns are put together, each with its models in order. -/
theorem applications_share_out_shopModels : ∃ set, ofList shopModels = .ok set ∧
    set.applications.map (fun group => (group.name, group.models.map (·.modelName))) =
      [("shop", ["product", "category"]), ("blog", ["post"])] ∧
    IsGrouping shopModels set.applications ∧
    set.get? "shop" "category" = some (.bare "shop" "category" "categories") ∧
    set.get? "blog" "category" = none := by
  have hset : ofList shopModels = .ok ⟨shopModels⟩ := by rfl
  obtain ⟨-, hgrouping, -, -, hget⟩ := applications_share_out hset
  refine ⟨⟨shopModels⟩, hset, by decide +kernel, (hgrouping _).mpr rfl,
    ((hget _ _).1 _).mpr ⟨by simp [shopModels], rfl, rfl⟩, (hget _ _).2.mpr ?_⟩
  simp [shopModels, ModelSchema.bare]

end ModelCodegen.SchemaSet
