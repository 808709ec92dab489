import Mathlib.Data.List.Nodup
import ModelCodegen.Proofs.Generation.Regeneration
import ModelCodegen.Proofs.Schema.Groups
import ModelCodegen.Proofs.Stack.BuiltinPaths

/-!
# Runs over the built-in registry

The outputs of a run that succeeds are those of the built-in registrations, each
with its path and its policy. None of them undoes another one when they are
written, whatever the names of the models are and whichever stacks are combined.
-/

namespace ModelCodegen

open ModelCodegen.Path StackEmber

/-- An artifact is the output of a registration for a subject. -/
structure Artifact.IsOutput (registration : Registration) (subject : Subject)
    (artifact : Artifact) : Prop where
  scope : registration.scope = subject.scope
  named : subject.IsNamed
  path : artifact.path = registration.path.resolve subject.vars
  policy : artifact.policy = registration.policy

section Outputs

variable {registry : Registry} {config : Config} {set : SchemaSet} {ids : List StackId}
  {report : Report}

/-- The jobs of built-in stacks are those of their artifacts for the subjects of the set. -/
theorem mem_ofStacks_builtin (hb : Registry.builtin = .ok registry) {job : Job} :
    job ∈ Job.ofStacks registry set ids ↔
      ∃ id ∈ ids, ∃ registration ∈ (StackDescriptor.builtin id).artifacts, ∃ subject : Subject,
        job = .produce (.builtin id) registration subject ∧
          registration.scope = subject.scope ∧ subject.IsOf set := by
  rw [Job.ofStacks, List.mem_flatMap]
  refine exists_congr fun id => and_congr_right fun _ => ?_
  simp only [Registry.stack?_of_builtin hb, Job.mem_ofStack]

/-- Every output is that of a built-in registration. -/
theorem isOutput_of_mem (hb : Registry.builtin = .ok registry)
    (h : generate registry config .failFast set ids = .ok report) {artifact : Artifact}
    (hmem : artifact ∈ report.outputs) :
    ∃ id ∈ ids, ∃ registration ∈ (StackDescriptor.builtin id).artifacts, ∃ subject : Subject,
      subject.IsOf set ∧ artifact.IsOutput registration subject := by
  obtain ⟨job, hjob, hattempt⟩ := exists_job_of_mem h hmem
  obtain ⟨id, hid, registration, hr, subject, rfl, hscope, hof⟩ := (mem_ofStacks_builtin hb).mp hjob
  obtain ⟨hnamed, hpath, hpolicy, -⟩ := Job.attempt_produce_ok hattempt
  exact ⟨id, hid, registration, hr, subject, hof, hscope, hnamed, hpath, hpolicy⟩

/-- Every registration of the stacks has an output for each of its subjects. -/
theorem exists_isOutput (hb : Registry.builtin = .ok registry)
    (h : generate registry config .failFast set ids = .ok report) {id : StackId} (hid : id ∈ ids)
    {registration : Registration} (hr : registration ∈ (StackDescriptor.builtin id).artifacts)
    {subject : Subject} (hscope : registration.scope = subject.scope) (hof : subject.IsOf set) :
    ∃ artifact ∈ report.outputs, artifact.IsOutput registration subject := by
  have hjob : Job.produce (.builtin id) registration subject ∈ Job.ofStacks registry set ids :=
    (mem_ofStacks_builtin hb).mpr ⟨id, hid, registration, hr, subject, rfl, hscope, hof⟩
  obtain ⟨artifact, hartifact, hattempt⟩ := exists_output_of_job h hjob
  obtain ⟨hnamed, hpath, hpolicy, -⟩ := Job.attempt_produce_ok hattempt
  exact ⟨artifact, hartifact, hscope, hnamed, hpath, hpolicy⟩

namespace Artifact.IsOutput

variable {id : StackId} {registration : Registration} {subject : Subject} {artifact : Artifact}

/-- Every output of a built-in stack is a source file. -/
theorem isSource (h : artifact.IsOutput registration subject)
    (hr : registration ∈ (StackDescriptor.builtin id).artifacts) : IsSource artifact.path := by
  obtain ⟨hin, hleads⟩ := StackDescriptor.builtin_rules id registration hr
  rw [h.path]
  exact PathRule.isSource_resolve h.named (h.scope ▸ hin) hleads

/-- Besides ember, files have no idle segments, and they lie below `src` or have just two names. -/
private theorem names_of_isSolid (h : artifact.IsOutput registration subject)
    (hr : registration ∈ (StackDescriptor.builtin id).artifacts) (hid : id ≠ .ember) :
    names artifact.path = (segments artifact.path).map String.ofList ∧
      ((names artifact.path).length = 2 ∨ (names artifact.path).head? = some "src") := by
  obtain ⟨hin, -⟩ := StackDescriptor.builtin_rules id registration hr
  obtain ⟨hsolid, hplace⟩ := StackDescriptor.builtin_isSolid hid registration hr
  rw [h.scope] at hin
  have hnames := PathRule.names_resolve h.named hin hsolid
  rw [← h.path] at hnames
  have hsegments := PathRule.segments_resolve hin.1 (subject.isProper_vars h.named)
  rw [← h.path] at hsegments
  refine ⟨hnames, ?_⟩
  rw [hnames, hsegments]
  refine hplace.imp (fun hlen => by simpa using hlen) fun hhead => ?_
  rw [List.head?_map, List.head?_map, hhead]
  rfl

end Artifact.IsOutput

namespace StackEmber

/-- The outputs of ember: what they are made of, what happens to a file that is there, and the
directories, the application and the name in their paths. -/
inductive IsKind : Subject → WritePolicy → List String → String → String → Prop
  | base (schema : ModelSchema) : IsKind (.model schema) .regenerate ["app", "models", "base"]
      schema.applicationName (Text.kebab schema.modelName ++ ".js")
  | stub (schema : ModelSchema) : IsKind (.model schema) .scaffold ["app", "models"]
      schema.applicationName (Text.kebab schema.modelName ++ ".js")
  | test (schema : ModelSchema) : IsKind (.model schema) .companion ["tests", "unit", "models"]
      schema.applicationName (Text.kebab schema.modelName ++ "-test.js")
  | index (group : ApplicationGroup) : IsKind (.application group) .regenerate ["app", "models"]
      group.name "index.js"

variable {front : List String} {application last : String}

/-- An output of ember is of one of the kinds, at the place that this kind says. -/
theorem exists_isKind {registration : Registration} {subject : Subject} {artifact : Artifact}
    (h : artifact.IsOutput registration subject)
    (hr : registration ∈ (StackDescriptor.builtin .ember).artifacts) :
    ∃ front application last, IsKind subject artifact.policy front application last ∧
      IsFile front application last artifact.path := by
  obtain ⟨hscope, hnamed, hpath, hpolicy⟩ := h
  rw [hpath, hpolicy]
  simp only [StackDescriptor.builtin, List.mem_cons, List.not_mem_nil, or_false] at hr
  rcases hr with rfl | rfl | rfl | rfl <;> cases subject <;> cases hscope
  · exact ⟨_, _, _, .base _, isFile_baseRule hnamed.1 hnamed.2⟩
  · exact ⟨_, _, _, .stub _, isFile_stubRule hnamed.1 hnamed.2⟩
  · exact ⟨_, _, _, .test _, isFile_testRule hnamed.1 hnamed.2⟩
  · exact ⟨_, _, _, .index _, isFile_indexRule hnamed⟩

/-- An output of ember lies below the directory that its kind says. -/
theorem IsKind.head?_names {subject : Subject} {policy : WritePolicy} {path : String}
    (h : IsKind subject policy front application last) (hf : IsFile front application last path) :
    (names path).head? = front.head? := by
  rw [hf.names_eq]
  cases h <;> simp

/-- Every output of ember lies below at least two directories. -/
theorem IsKind.two_lt_length_names {subject : Subject} {policy : WritePolicy} {path : String}
    (h : IsKind subject policy front application last) (hf : IsFile front application last path) :
    2 < (names path).length := by
  rw [hf.names_eq]
  cases h <;> simp

end StackEmber

/-- Ember shares no file with another stack. -/
private theorem Artifact.IsOutput.names_ne_of_ember {id : StackId}
    {registration otherRegistration : Registration} {subject otherSubject : Subject}
    {artifact other : Artifact} (h : artifact.IsOutput registration subject)
    (hr : registration ∈ (StackDescriptor.builtin .ember).artifacts)
    (ho : other.IsOutput otherRegistration otherSubject)
    (hor : otherRegistration ∈ (StackDescriptor.builtin id).artifacts) (hid : id ≠ .ember) :
    names artifact.path ≠ names other.path := by
  intro hn
  obtain ⟨front, application, last, hk, hfile⟩ := exists_isKind h hr
  have hlen := hk.two_lt_length_names hfile
  have hhead := hk.head?_names hfile
  obtain ⟨-, hplace⟩ := ho.names_of_isSolid hor hid
  rw [← hn, hhead] at hplace
  rcases hplace with hlen' | hsrc
  · omega
  · generalize artifact.policy = policy at hk
    cases hk <;> simp at hsrc

/-- An application without words has a model whose file name is that of a model of an application
called `base`. -/
def SchemaSet.SharesBase (set : SchemaSet) : Prop :=
  ∃ schema ∈ set.schemas, ∃ other ∈ set.schemas, Text.kebab schema.applicationName = "" ∧
    Text.kebab other.applicationName = "base" ∧
    Text.kebab schema.modelName = Text.kebab other.modelName

/-- In a run with ember no stub has the path of the index of its application. -/
private theorem stubRule_ne_indexRule (hb : Registry.builtin = .ok registry)
    (h : generate registry config .failFast set ids = .ok report) (hid : StackId.ember ∈ ids)
    {schema : ModelSchema} (hs : schema ∈ set.schemas) :
    stubRule.resolve (.all schema.applicationName schema.modelName) ≠
      indexRule.resolve (.outer schema.applicationName) := by
  intro he
  obtain ⟨group, hgroup, hname⟩ := SchemaSet.exists_group_iff.mpr ⟨schema, hs, rfl⟩
  have hmodel : (Subject.model schema).IsOf set := hs
  have happlication : (Subject.application group).IsOf set := hgroup
  obtain ⟨stub, hstub, hstubOut⟩ :=
    exists_isOutput hb h hid (.tail _ (.head _)) (by rfl) hmodel
  obtain ⟨index, hindex, hindexOut⟩ :=
    exists_isOutput hb h hid (.tail _ (.tail _ (.tail _ (.head _)))) (by rfl) happlication
  obtain ⟨-, -, hnodup⟩ := generate_failFast.mp h
  have hpaths : stub.path = index.path := by
    rw [hstubOut.path, hindexOut.path, Subject.vars, Subject.vars, hname]
    exact he
  have hsame := List.inj_on_of_nodup_map hnodup hstub hindex hpaths
  have hpolicies : WritePolicy.scaffold = WritePolicy.regenerate :=
    hstubOut.policy.symm.trans (hsame ▸ hindexOut.policy)
  cases hpolicies

/-- A model class only takes the place of the stub of a model of an application called `base`. -/
private theorem sharesBase_of_names_eq (hb : Registry.builtin = .ok registry)
    (h : generate registry config .failFast set ids = .ok report) (hid : StackId.ember ∈ ids)
    {schema : ModelSchema} (hs : schema ∈ set.schemas) (hm : Name.IsIdentifier schema.modelName)
    {path otherPath application last : String} {front : List String}
    (hfile : IsFile ["app", "models", "base"] schema.applicationName
      (Text.kebab schema.modelName ++ ".js") path)
    {subject : Subject} {policy : WritePolicy} (hk : IsKind subject policy front application last)
    (hfront : front = ["app", "models"]) (hof : subject.IsOf set)
    (hofile : IsFile front application last otherPath) (hn : names path = names otherPath) :
    policy = .scaffold ∧ set.SharesBase := by
  subst hfront
  have hbelow : IsFile (["app", "models"] ++ ["base"]) schema.applicationName
      (Text.kebab schema.modelName ++ ".js") path := hfile
  obtain ⟨hnone, hbase, hlast⟩ := (hbelow.names_eq_iff hofile).mp hn
  generalize hfront : ["app", "models"] = front at hk
  cases hk with
  | base | test => simp at hfront
  | stub other =>
    exact ⟨rfl, schema, hs, other, hof, hnone, hbase, (String.append_left_inj _).mp hlast⟩
  | index group =>
    exact absurd (stubRule_eq_indexRule hfile.identifier hm hlast)
      (stubRule_ne_indexRule hb h hid hs)

private theorem path_eq_or_sharesBase_of_isKind (hb : Registry.builtin = .ok registry)
    (h : generate registry config .failFast set ids = .ok report) (hid : StackId.ember ∈ ids)
    {subject otherSubject : Subject} (hnamed : subject.IsNamed) (honamed : otherSubject.IsNamed)
    (hof : subject.IsOf set) (hoof : otherSubject.IsOf set) {policy otherPolicy : WritePolicy}
    {front otherFront : List String}
    {application otherApplication last otherLast path otherPath : String}
    (hk : IsKind subject policy front application last)
    (hok : IsKind otherSubject otherPolicy otherFront otherApplication otherLast)
    (hfile : IsFile front application last path)
    (hofile : IsFile otherFront otherApplication otherLast otherPath)
    (hn : names path = names otherPath) :
    path = otherPath ∨
      set.SharesBase ∧ (policy = .scaffold ∨ otherPolicy = .scaffold) := by
  by_cases hfront : front = otherFront
  · subst hfront
    exact Or.inl (hfile.path_eq hofile hn)
  -- What is left to exclude besides a class and a stub has another first directory.
  have hheads : front.head? = otherFront.head? := by
    rw [← hk.head?_names hfile, hn, hok.head?_names hofile]
  refine Or.inr ?_
  cases hk with
  | base schema =>
    have htaken := fun hother =>
      (sharesBase_of_names_eq hb h hid hof hnamed.2 hfile hok hother hoof hofile hn).symm
    cases hok with
    | base => exact absurd rfl hfront
    | stub | index => exact (htaken rfl).imp_right Or.inr
    | test => simp at hheads
  | stub schema =>
    cases hok with
    | base otherSchema =>
      exact (sharesBase_of_names_eq hb h hid hoof honamed.2 hofile (.stub schema) rfl hof hfile
        hn.symm).symm.imp_right Or.inl
    | stub | index => exact absurd rfl hfront
    | test => simp at hheads
  | index group =>
    cases hok with
    | base otherSchema =>
      exact (sharesBase_of_names_eq hb h hid hoof honamed.2 hofile (.index group) rfl hof hfile
        hn.symm).symm.imp_right Or.inl
    | stub | index => exact absurd rfl hfront
    | test => simp at hheads
  | test =>
    cases hok with
    | base | stub | index => simp at hheads
    | test => exact absurd rfl hfront

/-- Two outputs that lead to the same file have the same path, unless one of them is the class and
the other one the stub of models that share their place. -/
theorem path_eq_or_sharesBase (hb : Registry.builtin = .ok registry)
    (h : generate registry config .failFast set ids = .ok report) {artifact other : Artifact}
    (hmem : artifact ∈ report.outputs) (ho : other ∈ report.outputs)
    (hn : names artifact.path = names other.path) :
    artifact.path = other.path ∨ .ember ∈ ids ∧ set.SharesBase ∧
      (artifact.policy = .scaffold ∨ other.policy = .scaffold) := by
  obtain ⟨id, hid, registration, hr, subject, hof, hout⟩ := isOutput_of_mem hb h hmem
  obtain ⟨otherId, hoid, otherRegistration, hor, otherSubject, hoof, hoout⟩ :=
    isOutput_of_mem hb h ho
  by_cases he : id = .ember <;> by_cases hoe : otherId = .ember
  · subst he hoe
    obtain ⟨front, application, last, hk, hfile⟩ := exists_isKind hout hr
    obtain ⟨otherFront, otherApplication, otherLast, hok, hofile⟩ := exists_isKind hoout hor
    exact (path_eq_or_sharesBase_of_isKind hb h hid hout.named hoout.named hof hoof hk hok hfile
      hofile hn).imp_right fun hshares => ⟨hid, hshares⟩
  · subst he
    exact absurd hn (hout.names_ne_of_ember hr hoout hor hoe)
  · subst hoe
    exact absurd hn.symm (hoout.names_ne_of_ember hor hout hr he)
  · obtain ⟨hsegments, -⟩ := hout.names_of_isSolid hr he
    obtain ⟨hosegments, -⟩ := hoout.names_of_isSolid hor hoe
    rw [hsegments, hosegments] at hn
    refine Or.inl (Path.eq_of_segments_eq ?_)
    exact List.map_injective_iff.mpr (fun _ _ => String.ofList_injective) hn

/-- No output of a run over the built-in registry undoes another one. -/
theorem compatible_outputs (hb : Registry.builtin = .ok registry)
    (h : generate registry config .failFast set ids = .ok report) : Compatible report.outputs := by
  have hsource : ∀ artifact ∈ report.outputs, IsSource artifact.path := by
    intro artifact hmem
    obtain ⟨id, -, registration, hr, subject, -, hout⟩ := isOutput_of_mem hb h hmem
    exact hout.isSource hr
  refine ⟨fun artifact hmem => ?_, fun artifact hmem other ho => ?_,
    fun artifact hmem other ho => ?_, ?_⟩
  · obtain ⟨directories, last, hleads⟩ := hsource artifact hmem
    exact hleads.isClean
  · exact names_eq_of_prefix (hsource artifact hmem) (hsource other ho)
  · exact temporaryPlace_names_ne (hsource artifact hmem) (hsource other ho)
  · obtain ⟨-, -, hnodup⟩ := generate_failFast.mp h
    refine (List.pairwise_map.mp hnodup).imp_of_mem fun {artifact other} hmem ho hne hn hboth => ?_
    rcases path_eq_or_sharesBase hb h hmem ho hn with he | ⟨-, -, hscaffold⟩
    · exact hne he
    · rw [hboth.1, hboth.2] at hscaffold
      rcases hscaffold with hp | hp <;> cases hp

end Outputs

end ModelCodegen
