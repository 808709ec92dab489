import ModelCodegen.Proofs.Generation.BuiltinSuccess

/-!
# Different outputs in different files

A run refuses a path that comes twice, but a path with an empty segment leads to the
same file as the one without it. Over the built-in registry that matters only where
ember gives the directory of classes to an application: a model whose application
has no words in its name then has its class where the stub of another model is.
-/

namespace ModelCodegen

open ModelCodegen.Path StackEmber

/-- The texts between the slashes of a path without the empty ones. -/
def Path.parts (path : String) : List (List Char) := (segments path).filter (· ≠ [])

/-- In the path of a source file the parts are the steps. -/
theorem Path.parts_eq_steps {path : String} (h : IsSource path) : parts path = steps path := by
  obtain ⟨directories, last, h⟩ := h
  have hlast : isIdle last = false := h.endsInName.elim fun _ hname => hname.2.1
  rw [parts, steps, h.segments_eq]
  refine List.filter_congr fun segment hmem => ?_
  have hdot : segment ≠ ['.'] := by
    rintro rfl
    rcases List.mem_append.mp hmem with hd | hl
    · exact h.directories _ hd (by simp)
    · rw [← List.mem_singleton.mp hl] at hlast
      cases hlast
  rw [isIdle, beq_eq_false_iff_ne.mpr hdot, Bool.or_false]
  cases segment <;> rfl

section Outputs

variable {registry : Registry} {config : Config} {set : SchemaSet} {ids : List StackId}
  {report : Report}

private theorem parts_eq_iff (hb : Registry.builtin = .ok registry)
    (h : generate registry config .failFast set ids = .ok report) {artifact other : Artifact}
    (hmem : artifact ∈ report.outputs) (ho : other ∈ report.outputs) :
    parts artifact.path = parts other.path ↔ names artifact.path = names other.path := by
  obtain ⟨id, -, registration, hr, subject, -, hout⟩ := isOutput_of_mem hb h hmem
  obtain ⟨otherId, -, otherRegistration, hor, otherSubject, -, hoout⟩ := isOutput_of_mem hb h ho
  rw [parts_eq_steps (hout.isSource hr), parts_eq_steps (hoout.isSource hor), names, names]
  exact (List.map_injective_iff.mpr fun _ _ => String.ofList_injective).eq_iff.symm

/-- Models that share their place have a class and a stub in the same file. -/
theorem exists_shared_of_sharesBase (hb : Registry.builtin = .ok registry)
    (h : generate registry config .failFast set ids = .ok report) (hid : StackId.ember ∈ ids)
    (hs : set.SharesBase) :
    ∃ artifact ∈ report.outputs, ∃ other ∈ report.outputs,
      artifact.policy = .regenerate ∧ other.policy = .scaffold ∧
        parts artifact.path = parts other.path := by
  obtain ⟨schema, hschema, otherSchema, hother, hnone, hbase, hmodel⟩ := hs
  have hof : (Subject.model schema).IsOf set := hschema
  have hoof : (Subject.model otherSchema).IsOf set := hother
  obtain ⟨artifact, hmem, hout⟩ := exists_isOutput hb h hid (.head _) (by rfl) hof
  obtain ⟨other, ho, hoout⟩ := exists_isOutput hb h hid (.tail _ (.head _)) (by rfl) hoof
  refine ⟨artifact, hmem, other, ho, hout.policy, hoout.policy, ?_⟩
  have hfile : IsFile (["app", "models"] ++ ["base"]) schema.applicationName
      (Text.kebab schema.modelName ++ ".js") artifact.path := by
    rw [hout.path]
    exact isFile_baseRule hout.named.1 hout.named.2
  have hofile : IsFile ["app", "models"] otherSchema.applicationName
      (Text.kebab otherSchema.modelName ++ ".js") other.path := by
    rw [hoout.path]
    exact isFile_stubRule hoout.named.1 hoout.named.2
  rw [parts_eq_iff hb h hmem ho, hfile.names_eq_iff hofile, hmodel]
  exact ⟨hnone, hbase, rfl⟩

/-- The outputs of a run over the built-in registry are in different files, unless ember is asked
for models that share their place. -/
theorem outputs_pairwise_parts_ne_iff (hb : Registry.builtin = .ok registry)
    (h : generate registry config .failFast set ids = .ok report) :
    report.outputs.Pairwise (fun artifact other => parts artifact.path ≠ parts other.path) ↔
      .ember ∉ ids ∨ ¬set.SharesBase := by
  constructor
  · intro hall
    by_contra hshared
    rw [not_or, not_not, not_not] at hshared
    obtain ⟨artifact, hmem, other, ho, hregenerate, hscaffold, hparts⟩ :=
      exists_shared_of_sharesBase hb h hshared.1 hshared.2
    have hsymm : Std.Symm fun artifact other : Artifact =>
        parts artifact.path ≠ parts other.path := ⟨fun _ _ hne => hne.symm⟩
    refine hall.forall hmem ho (fun he => ?_) hparts
    rw [he, hscaffold] at hregenerate
    cases hregenerate
  · intro hapart
    obtain ⟨-, -, hnodup⟩ := generate_failFast.mp h
    refine (List.pairwise_map.mp hnodup).imp_of_mem fun {artifact other} hmem ho hne hparts => ?_
    rw [parts_eq_iff hb h hmem ho] at hparts
    rcases path_eq_or_sharesBase hb h hmem ho hparts with he | ⟨hid, hshares, -⟩
    · exact hne he
    · exact hapart.elim (fun hember => hember hid) fun hnone => hnone hshares

end Outputs

/-- Stacks besides ember never share a file. -/
theorem outputs_pairwise_parts_ne_post : ∃ registry report,
    Registry.builtin = .ok registry ∧
      generate registry {} .failFast ⟨[post]⟩ [.angular2, .emberDynamic, .vuexOrmAxios] =
        .ok report ∧
      report.outputs.Pairwise
        (fun artifact other => parts artifact.path ≠ parts other.path) := by
  obtain ⟨registry, hb⟩ := Registry.exists_builtin
  obtain ⟨report, h⟩ := @exists_report_post registry hb [.angular2, .emberDynamic, .vuexOrmAxios]
    (by decide) (by decide)
  exact ⟨registry, report, hb, h, (outputs_pairwise_parts_ne_iff hb h).mpr (Or.inl (by decide))⟩

/-- A document with models that share their place. -/
def baseDocument : String :=
  "[\x7b\"application_name\":\"_\",\"model_name\":\"x\"\x7d," ++
    "\x7b\"application_name\":\"base\",\"model_name\":\"x\"\x7d]"

/-- A run of ember for an accepted document has a class, written whenever it changes, in the file of
an editable stub. -/
theorem outputs_share_file : ∃ set registry report,
    parseSchemas .json baseDocument = .ok set ∧ ({} : Config).validate = .ok () ∧
      Registry.builtin = .ok registry ∧
      generate registry {} .failFast set [.ember] = .ok report ∧
      ∃ artifact ∈ report.outputs, ∃ other ∈ report.outputs,
        artifact.policy = .regenerate ∧ other.policy = .scaffold ∧
          parts artifact.path = parts other.path := by
  obtain ⟨registry, hb⟩ := Registry.exists_builtin
  have hset := @parseSchemas_of_isBare .json baseDocument
    [("_", "x", "_/xes"), ("base", "x", "base/xes")] (by decide +kernel)
  have hfit : SchemaSet.IsFit ⟨[.bare "_" "x" "_/xes", .bare "base" "x" "base/xes"]⟩ := by
    intro schema hs
    rcases List.mem_pair.mp hs with rfl | rfl <;>
      exact ModelSchema.isFit_bare (by rfl) (by rfl) (by rfl)
  have hpaths : ((Job.ofStacks registry ⟨[.bare "_" "x" "_/xes", .bare "base" "x" "base/xes"]⟩
      [.ember]).map Job.path?).Nodup := by
    simp only [Job.ofStacks, Registry.stack?_of_builtin hb]
    decide +kernel
  obtain ⟨report, h⟩ :=
    exists_report_of_nodup hb (show ({} : Config).validate = .ok () by rfl) hfit hpaths
  refine ⟨_, registry, report, hset, rfl, hb, h, ?_⟩
  refine exists_shared_of_sharesBase hb h (by decide) ⟨_, .head _, _, .tail _ (.head _), ?_⟩
  decide

end ModelCodegen
