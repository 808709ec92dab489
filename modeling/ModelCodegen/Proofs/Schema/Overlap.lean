import ModelCodegen.Proofs.Schema.Acceptance

/-!
# Models with one key

A set refuses lists in which two models have one key. A key is the two names of a model with a slash
between them, and a name may have slashes itself. So a key belongs to more than one pair of names:
of two models with one key and different names, one has the beginning of the other's model name in
its application. Such models cannot stand in one set. Where there are none, lists are refused for
repeated pairs of names only, as is every list whose applications have no slash.
-/

namespace ModelCodegen

namespace ModelSchema

variable {schema other : ModelSchema}

/-- The application and the model. -/
def names (schema : ModelSchema) : String × String := (schema.applicationName, schema.modelName)

/-- The application of the schema goes on, behind that of the other one, with the beginning of the
other one's model name. -/
def ReachesInto (schema other : ModelSchema) : Prop :=
  ∃ beginning, schema.applicationName = other.applicationName ++ "/" ++ beginning ∧
    other.modelName = beginning ++ "/" ++ schema.modelName

/-- The application of one of the two reaches into the model name of the other. -/
def Overlaps (schema other : ModelSchema) : Prop :=
  schema.ReachesInto other ∨ other.ReachesInto schema

/-- A key is the application and the model with a slash between them. -/
theorem toList_key (schema : ModelSchema) :
    schema.key.toList = schema.applicationName.toList ++ '/' :: schema.modelName.toList := by
  simp [key, modelKey]

/-- Where one key is cut at a later slash than the other, the application with the later slash
reaches into the model name with the earlier one. -/
private theorem eq_or_reachesInto_of_append {middle : List Char}
    (happlication : schema.applicationName.toList = other.applicationName.toList ++ middle)
    (hmodel : '/' :: other.modelName.toList = middle ++ '/' :: schema.modelName.toList) :
    schema.names = other.names ∨ schema.ReachesInto other := by
  cases middle with
  | nil =>
    rw [List.append_nil] at happlication
    rw [List.nil_append, List.cons.injEq] at hmodel
    exact Or.inl (Prod.ext (String.toList_inj.mp happlication)
      (String.toList_inj.mp hmodel.2.symm))
  | cons slash beginning =>
    obtain ⟨rfl, hmodel⟩ := List.cons.inj hmodel
    refine Or.inr ⟨String.ofList beginning, ?_, ?_⟩
    · exact String.toList_inj.mp (by simpa using happlication)
    · exact String.toList_inj.mp (by simpa using hmodel)

private theorem ReachesInto.key_eq (h : schema.ReachesInto other) : schema.key = other.key := by
  obtain ⟨beginning, happlication, hmodel⟩ := h
  rw [key, key, happlication, hmodel]
  simp [modelKey, String.append_assoc]

/-- Models have one key exactly if they have the same names or overlap. -/
theorem key_eq_iff :
    schema.key = other.key ↔ schema.names = other.names ∨ schema.Overlaps other := by
  constructor
  · intro hkey
    rw [← String.toList_inj, toList_key, toList_key] at hkey
    rcases List.append_eq_append_iff.mp hkey with ⟨middle, happlication, hmodel⟩ |
      ⟨middle, happlication, hmodel⟩
    · rcases eq_or_reachesInto_of_append happlication hmodel with hnames | hreaches
      · exact Or.inl hnames.symm
      · exact Or.inr (Or.inr hreaches)
    · rcases eq_or_reachesInto_of_append happlication hmodel with hnames | hreaches
      · exact Or.inl hnames
      · exact Or.inr (Or.inl hreaches)
  · rintro (hnames | hreaches | hreaches)
    · obtain ⟨happlication, hmodel⟩ := Prod.mk.inj hnames
      rw [key, key, happlication, hmodel]
    · exact hreaches.key_eq
    · exact hreaches.key_eq.symm

private theorem ReachesInto.application_ne (h : schema.ReachesInto other) :
    schema.applicationName ≠ other.applicationName := by
  obtain ⟨beginning, happlication, -⟩ := h
  intro he
  have hlength := congrArg (·.toList.length) (he.symm.trans happlication)
  simp at hlength

/-- Models that overlap have different applications. -/
theorem Overlaps.names_ne (h : schema.Overlaps other) : schema.names ≠ other.names := by
  intro hnames
  obtain ⟨happlication, -⟩ := Prod.mk.inj hnames
  rcases h with h | h
  · exact h.application_ne happlication
  · exact h.application_ne happlication.symm

private theorem ReachesInto.slash_mem (h : schema.ReachesInto other) :
    '/' ∈ schema.applicationName.toList := by
  obtain ⟨beginning, happlication, -⟩ := h
  simp [happlication]

/-- Models whose applications have no slash do not overlap. -/
theorem not_overlaps_of_slash_notMem (h : '/' ∉ schema.applicationName.toList)
    (ho : '/' ∉ other.applicationName.toList) : ¬ schema.Overlaps other := by
  rintro (hreaches | hreaches)
  · exact h hreaches.slash_mem
  · exact ho hreaches.slash_mem

end ModelSchema

namespace SchemaSet

variable {schemas : List ModelSchema}

/-- No two of the schemas overlap. -/
def AreApart (schemas : List ModelSchema) : Prop :=
  schemas.Pairwise fun schema other => ¬ schema.Overlaps other

/-- The schema is the first one of the list whose value was there before. -/
def IsFirstRepeated {α : Type} (value : ModelSchema → α) (schemas : List ModelSchema)
    (schema : ModelSchema) : Prop :=
  ∃ front back, schemas = front ++ schema :: back ∧ (front.map value).Nodup ∧
    value schema ∈ front.map value

/-! ## Keys -/

/-- Keys are distinct exactly if names are and no two models overlap. -/
theorem nodup_keys_iff_names : (schemas.map ModelSchema.key).Nodup ↔
    (schemas.map ModelSchema.names).Nodup ∧ AreApart schemas := by
  simp only [List.Nodup, List.pairwise_map, AreApart, ← List.pairwise_and_iff, ne_eq,
    ModelSchema.key_eq_iff, not_or]

/-- The key that is found comes again, or was seen, and none before it does. -/
theorem of_repeatedKey?_eq_some {seen : List String} {key : String}
    (h : repeatedKey? seen schemas = some key) : ∃ front schema back,
      schemas = front ++ schema :: back ∧ schema.key = key ∧
      (front.map ModelSchema.key).Nodup ∧ (key ∈ seen ∨ key ∈ front.map ModelSchema.key) ∧
      ∀ other ∈ front, other.key ∉ seen := by
  induction schemas generalizing seen with
  | nil => cases h
  | cons first rest ih =>
    rw [repeatedKey?] at h
    split at h
    · next hseen =>
      obtain rfl := Option.some.inj h
      exact ⟨[], first, rest, rfl, rfl, List.nodup_nil,
        Or.inl (List.contains_iff_mem.mp hseen), fun _ hmem => by cases hmem⟩
    · next hnew =>
      rw [List.contains_iff_mem] at hnew
      obtain ⟨front, schema, back, rfl, hkey, hnodup, hbefore, hapart⟩ := ih h
      refine ⟨first :: front, schema, back, rfl, hkey, ?_, ?_, ?_⟩
      · -- The first key counts as seen for what comes behind it.
        refine List.nodup_cons.mpr ⟨fun hmem => ?_, hnodup⟩
        obtain ⟨other, ho, he⟩ := List.mem_map.mp hmem
        exact hapart other ho (he ▸ List.mem_cons_self ..)
      · rcases hbefore with hmem | hmem
        · rcases List.mem_cons.mp hmem with rfl | hseen
          · exact Or.inr (List.mem_cons_self ..)
          · exact Or.inl hseen
        · exact Or.inr (List.mem_cons_of_mem _ hmem)
      · intro other ho
        rcases List.mem_cons.mp ho with rfl | ho
        · exact hnew
        · exact fun hseen => hapart other ho (List.mem_cons_of_mem _ hseen)

/-- The error of a refused list names the first schema whose key was there before. -/
theorem of_ofList_eq_error {error : Error} (h : ofList schemas = .error error) :
    ∃ schema, IsFirstRepeated ModelSchema.key schemas schema ∧
      error = .invalidSchema schema.key .repeatedModel := by
  rw [ofList] at h
  split at h
  · next key hkey =>
    obtain ⟨front, schema, back, hsplit, rfl, hnodup, hbefore, -⟩ := of_repeatedKey?_eq_some hkey
    rw [List.mem_nil_iff, false_or] at hbefore
    exact ⟨schema, ⟨front, back, hsplit, hnodup, hbefore⟩, (Except.error.inj h).symm⟩
  · cases h

/-! ## Names -/

/-- The list is refused just for repeated names, and the error names the first schema that repeats
names; else it becomes the set as it is. -/
structure GoesByNames (schemas : List ModelSchema) : Prop where
  accepted : (∃ set, ofList schemas = .ok set) ↔ (schemas.map ModelSchema.names).Nodup
  kept : ∀ set, ofList schemas = .ok set → set.schemas = schemas
  refused : ∀ error, ofList schemas = .error error →
    ∃ schema, IsFirstRepeated ModelSchema.names schemas schema ∧
      error = .invalidSchema schema.key .repeatedModel

/-- A list becomes a set just if no names repeat and no two schemas overlap. -/
theorem exists_ofList_eq_ok_iff : (∃ set, ofList schemas = .ok set) ↔
    (schemas.map ModelSchema.names).Nodup ∧ AreApart schemas := by
  simp only [ofList_eq_ok_iff, nodup_keys_iff_names]
  exact ⟨fun ⟨_, h, _⟩ => h, fun h => ⟨⟨schemas⟩, h, rfl⟩⟩

/-- Where no two schemas overlap, names repeat where keys do. -/
theorem IsFirstRepeated.names_of_key {schema : ModelSchema} (hapart : AreApart schemas)
    (h : IsFirstRepeated ModelSchema.key schemas schema) :
    IsFirstRepeated ModelSchema.names schemas schema := by
  obtain ⟨front, back, rfl, hnodup, hbefore⟩ := h
  obtain ⟨earlier, hmem, hkey⟩ := List.mem_map.mp hbefore
  have hnot : ¬ earlier.Overlaps schema :=
    (List.pairwise_append.mp hapart).2.2 earlier hmem schema (List.mem_cons_self ..)
  refine ⟨front, back, rfl, (nodup_keys_iff_names.mp hnodup).1, List.mem_map.mpr ?_⟩
  exact ⟨earlier, hmem, (ModelSchema.key_eq_iff.mp hkey).resolve_right hnot⟩

/-- Where no two schemas overlap, a list is refused for repeated names only. -/
theorem goesByNames_of_areApart (hapart : AreApart schemas) : GoesByNames schemas where
  accepted := exists_ofList_eq_ok_iff.trans (and_iff_left hapart)
  kept _ hok := (ofList_eq_ok_iff.mp hok).2
  refused _ herror := by
    obtain ⟨schema, hfirst, he⟩ := of_ofList_eq_error herror
    exact ⟨schema, hfirst.names_of_key hapart, he⟩

/-- Two schemas that overlap make no set, though their names differ. -/
theorem not_goesByNames_of_overlaps {schema other : ModelSchema} (h : schema.Overlaps other) :
    ¬ GoesByNames [schema, other] := by
  intro hgoes
  have hnames : ([schema, other].map ModelSchema.names).Nodup := by simpa using h.names_ne
  obtain ⟨-, hapart⟩ := exists_ofList_eq_ok_iff.mp (hgoes.accepted.mpr hnames)
  exact List.rel_of_pairwise_cons hapart (List.mem_singleton_self other) h

/-- A list becomes a set, and then stays as it is, exactly if all pairs of names are different and
no two models overlap; else the error names the first schema that has the names of an earlier one or
overlaps with one. So a list and all its parts go by their names exactly if no two of their models
overlap, and every list does whose applications have no slash. -/
theorem ofList_goesByNames_iff (schemas : List ModelSchema) :
    ((∃ set, ofList schemas = .ok set) ↔
      (schemas.map ModelSchema.names).Nodup ∧ AreApart schemas) ∧
    (∀ set, ofList schemas = .ok set → set.schemas = schemas) ∧
    (∀ error, ofList schemas = .error error → ∃ front schema back,
      schemas = front ++ schema :: back ∧ error = .invalidSchema schema.key .repeatedModel ∧
      ((front.map ModelSchema.names).Nodup ∧ AreApart front) ∧
      ∃ earlier ∈ front, earlier.names = schema.names ∨ earlier.Overlaps schema) ∧
    ((∀ part, part.Sublist schemas → GoesByNames part) ↔ AreApart schemas) ∧
    ((∀ schema ∈ schemas, '/' ∉ schema.applicationName.toList) → GoesByNames schemas) := by
  refine ⟨exists_ofList_eq_ok_iff, fun set hok => (ofList_eq_ok_iff.mp hok).2,
    fun error herror => ?_, ⟨fun hparts => ?_, fun hapart part hpart => ?_⟩, fun hslash => ?_⟩
  · obtain ⟨schema, ⟨front, back, hsplit, hnodup, hbefore⟩, he⟩ := of_ofList_eq_error herror
    obtain ⟨earlier, hmem, hkey⟩ := List.mem_map.mp hbefore
    exact ⟨front, schema, back, hsplit, he, nodup_keys_iff_names.mp hnodup, earlier, hmem,
      ModelSchema.key_eq_iff.mp hkey⟩
  · refine List.pairwise_iff_forall_sublist.mpr fun {schema other} hpart hoverlaps => ?_
    exact not_goesByNames_of_overlaps hoverlaps (hparts _ hpart)
  · exact goesByNames_of_areApart (hapart.sublist hpart)
  · refine goesByNames_of_areApart (List.pairwise_of_forall_mem_list fun schema hs other ho => ?_)
    exact ModelSchema.not_overlaps_of_slash_notMem (hslash schema hs) (hslash other ho)

/-- Two models that can be built and have different names, but one key: the set of the two is
refused for a model that is declared more than once. -/
theorem overlapping_models_refused : ∃ first second : ModelSchema,
    SchemaDraft.build
      { applicationName := "shop/eu", modelName := "order", endpoint := some "orders" } =
        .ok first ∧
    SchemaDraft.build
      { applicationName := "shop", modelName := "eu/order", endpoint := some "eu/orders" } =
        .ok second ∧
    first.names ≠ second.names ∧
    ofList [first, second] = .error (.invalidSchema "shop/eu/order" .repeatedModel) ∧
    ¬ GoesByNames [first, second] := by
  refine ⟨⟨"shop/eu", "order", [], [], "orders", none⟩,
    ⟨"shop", "eu/order", [], [], "eu/orders", none⟩, rfl, rfl, by decide, by rfl, ?_⟩
  exact not_goesByNames_of_overlaps (Or.inl ⟨"eu", by decide, by decide⟩)

end SchemaSet

end ModelCodegen
