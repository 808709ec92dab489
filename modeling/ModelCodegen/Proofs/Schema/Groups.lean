import Mathlib.Data.List.Induction
import Mathlib.Data.List.Nodup
import ModelCodegen.Schema.Set

/-!
# The groups of a schema set

Every application that has models has one group, and the groups hold the models of
the set and no others.
-/

namespace ModelCodegen.SchemaSet

private theorem names_addToGroups (schema : ModelSchema) (groups : List ApplicationGroup) :
    (addToGroups schema groups).map (·.name) =
      if schema.applicationName ∈ groups.map (·.name) then groups.map (·.name)
      else groups.map (·.name) ++ [schema.applicationName] := by
  induction groups with
  | nil => simp [addToGroups]
  | cons group rest ih =>
    rw [addToGroups]
    split
    · next he => simp [he]
    · next hne =>
      rw [List.map_cons, ih]
      simp only [List.map_cons, List.mem_cons, Ne.symm hne, false_or, List.cons_append]
      split <;> rfl

private theorem mem_names_addToGroups {schema : ModelSchema} {groups : List ApplicationGroup}
    {name : String} :
    name ∈ (addToGroups schema groups).map (·.name) ↔
      name = schema.applicationName ∨ name ∈ groups.map (·.name) := by
  rw [names_addToGroups]
  split
  · next hin => exact (or_iff_right_of_imp fun he => he ▸ hin).symm
  · rw [List.mem_append, List.mem_singleton, or_comm]

private theorem mem_names_foldl {schemas : List ModelSchema} {groups : List ApplicationGroup}
    {name : String} :
    name ∈ (schemas.foldl (fun groups schema => addToGroups schema groups) groups).map (·.name) ↔
      name ∈ schemas.map (·.applicationName) ∨ name ∈ groups.map (·.name) := by
  induction schemas generalizing groups with
  | nil => simp
  | cons schema rest ih =>
    rw [List.foldl_cons, ih, mem_names_addToGroups, List.map_cons, List.mem_cons, or_left_comm,
      or_assoc]

/-- The groups are those of the applications that have models. -/
theorem exists_group_iff {set : SchemaSet} {name : String} :
    (∃ group ∈ set.applications, group.name = name) ↔
      ∃ schema ∈ set.schemas, schema.applicationName = name := by
  have hnames := @mem_names_foldl set.schemas [] name
  rw [List.map_nil, List.mem_nil_iff, or_false] at hnames
  simpa only [applications, List.mem_map] using hnames

/-- A name at the end of a list counts if it was not there before. -/
theorem eraseDups_concat (names : List String) (name : String) :
    (names ++ [name]).eraseDups =
      if name ∈ names then names.eraseDups else names.eraseDups ++ [name] := by
  rw [List.eraseDups_append, List.removeAll]
  by_cases hin : name ∈ names
  · simp [hin]
  · simp [hin, List.eraseDups_cons]

/-- Groups are in the order in which their applications first occur. -/
theorem names_applications (set : SchemaSet) :
    set.applications.map (·.name) = (set.schemas.map (·.applicationName)).eraseDups := by
  obtain ⟨schemas⟩ := set
  simp only [applications]
  induction schemas using List.reverseRecOn with
  | nil => rfl
  | append_singleton schemas schema ih =>
    rw [List.foldl_append, List.foldl_cons, List.foldl_nil, names_addToGroups, ih, List.map_append,
      List.map_singleton, eraseDups_concat]
    simp only [List.mem_eraseDups]

private theorem nodup_names_addToGroups {schema : ModelSchema} {groups : List ApplicationGroup}
    (h : (groups.map (·.name)).Nodup) : ((addToGroups schema groups).map (·.name)).Nodup := by
  rw [names_addToGroups]
  split
  · exact h
  · next hnew =>
    rw [← List.concat_eq_append]
    exact h.concat hnew

/-- An application has one group. -/
theorem nodup_names_applications (set : SchemaSet) : (set.applications.map (·.name)).Nodup := by
  have hfold : ∀ {schemas : List ModelSchema} {groups : List ApplicationGroup},
      (groups.map (·.name)).Nodup →
      ((schemas.foldl (fun groups schema => addToGroups schema groups) groups).map
        (·.name)).Nodup := by
    intro schemas
    induction schemas with
    | nil => exact id
    | cons schema rest ih => exact fun h => ih (nodup_names_addToGroups h)
  exact hfold List.nodup_nil

/-- A schema comes last in the group of its application, which may be new; the other groups stay. -/
private theorem mem_addToGroups {schema : ModelSchema} {groups : List ApplicationGroup}
    (hn : (groups.map (·.name)).Nodup) {group : ApplicationGroup}
    (hg : group ∈ addToGroups schema groups) :
    group.name ≠ schema.applicationName ∧ group ∈ groups ∨
      group.name = schema.applicationName ∧
        ((∃ old ∈ groups, old.name = group.name ∧ group.models = old.models ++ [schema]) ∨
          group.name ∉ groups.map (·.name) ∧ group.models = [schema]) := by
  induction groups with
  | nil =>
    rw [addToGroups, List.mem_singleton] at hg
    subst hg
    exact Or.inr ⟨rfl, Or.inr ⟨by simp, rfl⟩⟩
  | cons first rest ih =>
    obtain ⟨hfirst, hrest⟩ := List.nodup_cons.mp hn
    rw [addToGroups] at hg
    split at hg
    · next he =>
      rcases List.mem_cons.mp hg with rfl | hg
      · exact Or.inr ⟨he, Or.inl ⟨first, List.mem_cons_self .., rfl, rfl⟩⟩
      · refine Or.inl ⟨fun heq => hfirst ?_, List.mem_cons_of_mem _ hg⟩
        exact List.mem_map.mpr ⟨group, hg, heq.trans he.symm⟩
    · next hne =>
      rcases List.mem_cons.mp hg with rfl | hg
      · exact Or.inl ⟨hne, List.mem_cons_self ..⟩
      · rcases ih hrest hg with ⟨hother, hin⟩ | ⟨heq, ⟨old, hold, hsame⟩ | ⟨hnew, hone⟩⟩
        · exact Or.inl ⟨hother, List.mem_cons_of_mem _ hin⟩
        · exact Or.inr ⟨heq, Or.inl ⟨old, List.mem_cons_of_mem _ hold, hsame⟩⟩
        · refine Or.inr ⟨heq, Or.inr ⟨?_, hone⟩⟩
          rw [List.map_cons, List.mem_cons, not_or, heq]
          exact ⟨fun he => hne he.symm, heq ▸ hnew⟩

/-- The models of a group are those of its application, in the order of the set. -/
theorem models_of_mem_group {set : SchemaSet} {group : ApplicationGroup}
    (hg : group ∈ set.applications) :
    group.models = set.schemas.filter (·.applicationName == group.name) := by
  obtain ⟨schemas⟩ := set
  induction schemas using List.reverseRecOn generalizing group with
  | nil => simp [applications] at hg
  | append_singleton schemas schema ih =>
    rw [applications, List.foldl_append, List.foldl_cons, List.foldl_nil] at hg
    have hnodup := nodup_names_applications ⟨schemas⟩
    rw [List.filter_append]
    rcases mem_addToGroups hnodup hg with
      ⟨hne, hin⟩ | ⟨heq, ⟨old, hold, hname, hmodels⟩ | ⟨hnew, hone⟩⟩
    · rw [ih hin]
      simp [Ne.symm hne]
    · rw [hmodels, ih hold, hname]
      simp [heq]
    · have hnone : schemas.filter (·.applicationName == group.name) = [] := by
        refine List.filter_eq_nil_iff.mpr fun other ho he => hnew ?_
        obtain ⟨found, hfound, hname⟩ :=
          exists_group_iff.mpr ⟨other, ho, by simpa using he⟩
        exact hname ▸ List.mem_map_of_mem hfound
      rw [hone, hnone]
      simp [heq]

/-- A model of a group is one of the set. -/
theorem mem_of_mem_group {set : SchemaSet} {group : ApplicationGroup} {schema : ModelSchema}
    (hg : group ∈ set.applications) (hs : schema ∈ group.models) : schema ∈ set.schemas := by
  rw [models_of_mem_group hg] at hs
  exact (List.mem_filter.mp hs).1

/-- The models of a group are those of its application. -/
theorem applicationName_of_mem_group {set : SchemaSet} {group : ApplicationGroup}
    {schema : ModelSchema} (hg : group ∈ set.applications) (hs : schema ∈ group.models) :
    schema.applicationName = group.name := by
  rw [models_of_mem_group hg] at hs
  simpa using (List.mem_filter.mp hs).2

/-- A group is there if its models are those of its application and it has any. -/
theorem mem_applications_iff {set : SchemaSet} {group : ApplicationGroup} :
    group ∈ set.applications ↔
      group.models = set.schemas.filter (·.applicationName == group.name) ∧ group.models ≠ [] := by
  constructor
  · intro hg
    have hmodels := models_of_mem_group hg
    obtain ⟨schema, hs, he⟩ := exists_group_iff.mp ⟨group, hg, rfl⟩
    refine ⟨hmodels, List.ne_nil_of_mem (a := schema) ?_⟩
    rw [hmodels]
    exact List.mem_filter.mpr ⟨hs, by simpa using he⟩
  · rintro ⟨hmodels, hne⟩
    obtain ⟨schema, hs⟩ := List.exists_mem_of_ne_nil _ hne
    rw [hmodels, List.mem_filter, beq_iff_eq] at hs
    obtain ⟨found, hfound, hname⟩ := exists_group_iff.mpr ⟨schema, hs⟩
    have hfoundModels := models_of_mem_group hfound
    rw [hname, ← hmodels] at hfoundModels
    obtain ⟨name, models⟩ := group
    obtain ⟨foundName, foundModels⟩ := found
    obtain rfl : foundName = name := hname
    obtain rfl : foundModels = models := hfoundModels
    exact hfound

/-- A schema that is put between others joins the group of its application only. -/
theorem mem_applications_of_insert {front back : List ModelSchema} {schema : ModelSchema}
    {group : ApplicationGroup} (hne : group.name ≠ schema.applicationName)
    (hg : group ∈ (SchemaSet.mk (front ++ schema :: back)).applications) :
    group ∈ (SchemaSet.mk (front ++ back)).applications := by
  obtain ⟨hmodels, hsome⟩ := mem_applications_iff.mp hg
  refine mem_applications_iff.mpr ⟨hmodels.trans ?_, hsome⟩
  simp [hne.symm]

end ModelCodegen.SchemaSet
