import ModelCodegen.Proofs.Files.Attempt
import ModelCodegen.Proofs.Generation.PassStep
import ModelCodegen.Proofs.Generation.References

/-!
# Companions

A companion is written just if nothing is where it goes and the scaffold of its
model was written earlier in the same pass. So a unit test that is taken away does
not come back as long as the stub of its model is there: over any history of passes
and edits, a pass that brings a unit test has brought the stub of its model too.
-/

namespace ModelCodegen

open ModelCodegen.Path Disk FileSystem

namespace WritePass

/-- What becomes of a companion depends on its model and on what is where it goes. -/
theorem act_dispositionOf_companion {companion : Artifact} (hp : companion.policy = .companion)
    (fresh : List ModelKey) (path : String) (disk : Disk) :
    act (dispositionOf fresh companion path) disk =
      (.ok (if companion.modelKey ∈ fresh ∧ disk.at? path = none then .written else .kept),
        disk) := by
  rw [dispositionOf]
  by_cases hk : companion.modelKey ∈ fresh
  · rw [if_neg (by simp [hk]), act_bind_of_ok (act_pathExists path disk)]
    cases hf : disk.at? path with
    | none => simp [act_pure, hk]
    | some tree => simp [act_pure, hp]
  · rw [if_pos (by simpa [hp] using hk), act_pure]
    simp [hk]

/-- A companion is written just if nothing is where it goes when the pass comes to it and a
scaffold of its model was written before, whatever the paths are. -/
theorem companion_written_iff {root : String} {front back : List Artifact} {companion : Artifact}
    (hp : companion.policy = .companion) {disk last : Disk} {summary : WriteSummary}
    (h : act (writeArtifacts root (front ++ companion :: back) false) disk = (.ok summary, last)) :
    ∃ done disposition rest reached,
      summary.entries = done ++ (join root companion.path, disposition) :: rest ∧
      act (writeArtifacts root front false) disk = (.ok ⟨done⟩, reached) ∧
      (disposition = .written ↔ reached.at? (join root companion.path) = none ∧
        ∃ step ∈ front.zip done, step.1.policy = .scaffold ∧
          step.1.modelKey = companion.modelKey ∧ step.2.2 = .written) := by
  obtain ⟨done, others, reached, hentries, hfront, hback⟩ :=
    act_run_append (act_writeArtifacts_eq_ok.mp h)
  obtain ⟨disposition, next, rest, hstep, rfl, -⟩ := exists_step_of_ok hback
  refine ⟨done, disposition, rest, reached, hentries, act_writeArtifacts_eq_ok.mpr hfront, ?_⟩
  have hdecided := hstep.decided
  rw [act_dispositionOf_companion hp, Prod.mk.injEq, Except.ok.injEq] at hdecided
  have hfresh := @mem_freshOf [] front done companion.modelKey
  simp only [List.not_mem_nil, false_or] at hfresh
  rw [← hdecided.1, ← hfresh]
  simp [and_comm]

/-! ## A stub and its unit test -/

section Pass

variable {root : String} {place : List String} {artifacts : List Artifact}
  {artifact other stub test : Artifact} {disk : Disk}

/-- The place of an artifact holds something. -/
def IsThere (disk : Disk) (place : List String) (artifact : Artifact) : Prop :=
  disk.node? (artifact.destination place) ≠ none

/-- Replacing the file of an artifact, whatever comes of it, changes nothing where compatible ones
go, unless they go to the same file. -/
theorem node?_destination_replaceFile (hall : Compatible artifacts) (hmem : artifact ∈ artifacts)
    (hother : other ∈ artifacts) (hroot : disk.place? root = some place) :
    let next := (act (replaceFile (join root artifact.path) artifact.content) disk).2
    next.node? (other.destination place) = disk.node? (other.destination place) ∨
      names other.path = names artifact.path ∧ IsThere next place other := by
  intro next
  have hc := hall.clean artifact hmem
  obtain ⟨above, name, habove, hname, hp⟩ := exists_place?_join hc hroot
  have hbeside : other.destination place ≠
      place ++ above ++ [temporaryName (String.ofList name)] := by
    rw [Artifact.destination, List.append_assoc]
    intro he
    refine hall.beside artifact hmem other hother ?_
    rw [habove, temporaryPlace_concat, List.append_cancel_left he]
  have hway : ¬ other.destination place <+: place ++ above := by
    rw [Artifact.destination, List.prefix_append_right_inj]
    intro hpre
    have hlen := hpre.length_le
    rw [hall.level other hother artifact hmem (habove ▸ hpre.trans (List.prefix_append ..)), habove,
      List.length_append, List.length_singleton] at hlen
    omega
  rcases node?_replaceFile hname hp hbeside hway with hsame | ⟨he, hfile⟩
  · exact Or.inl hsame
  · refine Or.inr ⟨?_, ?_⟩
    · rw [Artifact.destination, List.append_assoc] at he
      rw [List.append_cancel_left he, habove]
    · rw [IsThere, show next.node? _ = _ from hfile]
      simp

/-- The stub of a model and its unit test, which no other artifacts stand for. -/
structure AreOf (artifacts : List Artifact) (stub test : Artifact) : Prop where
  stub_mem : stub ∈ artifacts
  scaffold : stub.policy = .scaffold
  test_mem : test ∈ artifacts
  only_stub : ∀ artifact ∈ artifacts, artifact.policy = .scaffold →
    artifact.modelKey = test.modelKey → artifact = stub
  only_test : ∀ artifact ∈ artifacts, names artifact.path = names test.path →
    artifact.policy = .companion ∧ artifact.modelKey = test.modelKey

/-- What a pass from one disk to another one means for a unit test, if its model may be fresh. -/
structure Brings (stub test : Artifact) (place : List String) (fresh : Prop)
    (disk last : Disk) : Prop where
  leads : ∀ path, disk.place? path = some place → last.place? path = some place
  stays : IsThere disk place stub → IsThere last place stub
  brings : ¬ IsThere disk place test → IsThere last place test →
    IsThere last place stub ∧ (fresh ∨ ¬ IsThere disk place stub)

theorem Brings.refl (stub test : Artifact) (place : List String) (fresh : Prop) (disk : Disk) :
    Brings stub test place fresh disk disk :=
  ⟨fun _ => id, id, fun hnot hthere => absurd hthere hnot⟩

/-- The file of an artifact is there after it was written. -/
private theorem Step.isThere (hc : IsClean artifact.path) {fresh : List ModelKey} {next : Disk}
    (h : Step root fresh artifact disk .written next) (hroot : disk.place? root = some place) :
    IsThere next place artifact := by
  rw [IsThere, Artifact.destination, (holds_join hc hroot (h.written rfl)).target]
  simp

/-- A decision goes by what is where the artifact goes. -/
private theorem dispositionAt_of_decided (hc : IsClean artifact.path) {fresh : List ModelKey}
    {disposition : Disposition} {decided : Disk}
    (h : act (dispositionOf fresh artifact (join root artifact.path)) disk =
      (.ok disposition, decided)) (hroot : disk.place? root = some place) :
    disposition = dispositionAt (disk.node? (artifact.destination place)) fresh artifact := by
  obtain ⟨-, hd, -⟩ := (act_dispositionOf_join_eq_ok_iff hc).mp h
  rw [hd, found?_join hc hroot, Artifact.destination]

/-- Replacing the file of an artifact that is to be written, whatever comes of it. -/
private theorem replaceFile_brings (hall : Compatible artifacts) (hare : AreOf artifacts stub test)
    (hmem : artifact ∈ artifacts) {fresh : List ModelKey} (hroot : disk.place? root = some place)
    (hfresh : test.modelKey ∈ fresh → IsThere disk place stub)
    (hdecided : act (dispositionOf fresh artifact (join root artifact.path)) disk =
      (.ok .written, disk)) :
    Brings stub test place (test.modelKey ∈ fresh) disk
      (act (replaceFile (join root artifact.path) artifact.content) disk).2 := by
  have hc := hall.clean artifact hmem
  obtain ⟨name, hname⟩ := hc.named
  obtain ⟨hwork, hkeeps⟩ :=
    keepsDirectories_replaceFile (hname.join hc.relative) artifact.content disk
  have hstub := node?_destination_replaceFile hall hmem hare.stub_mem hroot
  have htest := node?_destination_replaceFile hall hmem hare.test_mem hroot
  generalize (act (replaceFile (join root artifact.path) artifact.content) disk).2 = next
    at hwork hkeeps hstub htest ⊢
  have hstays : IsThere disk place stub → IsThere next place stub := by
    intro hthere
    rcases hstub with hsame | ⟨-, hstub⟩
    · exact fun hnone => hthere (hsame ▸ hnone)
    · exact hstub
  refine ⟨fun path hp => place?_of_keepsDirectories hwork hkeeps hp, hstays,
    fun hnot hthere => ?_⟩
  rcases htest with hsame | ⟨hnames, -⟩
  · exact absurd (fun hnone => hthere (hsame.trans hnone)) hnot
  · obtain ⟨hp, hkey⟩ := hare.only_test artifact hmem hnames.symm
    have hd := dispositionAt_of_decided hc hdecided hroot
    simp only [dispositionAt, hp, hkey] at hd
    split at hd
    · next h => exact ⟨hstays (hfresh h.2), Or.inl h.2⟩
    · cases hd

/-- A step brings no unit test without the stub, and a stub whose model is fresh then is there. -/
private theorem Step.brings (hall : Compatible artifacts) (hare : AreOf artifacts stub test)
    (hmem : artifact ∈ artifacts) {fresh : List ModelKey} {disposition : Disposition} {next : Disk}
    (h : Step root fresh artifact disk disposition next) (hroot : disk.place? root = some place)
    (hfresh : test.modelKey ∈ fresh → IsThere disk place stub) :
    Brings stub test place (test.modelKey ∈ fresh) disk next ∧
      (test.modelKey ∈ freshAfter fresh artifact disposition →
        IsThere next place stub ∧ (test.modelKey ∈ fresh ∨ ¬ IsThere disk place stub)) := by
  have hc := hall.clean artifact hmem
  by_cases hw : disposition = .written
  · subst hw
    have hreplaced := replaceFile_brings hall hare hmem hroot hfresh h.decided
    rw [h.written rfl] at hreplaced
    refine ⟨hreplaced, fun hkey => ?_⟩
    rw [freshAfter] at hkey
    split at hkey
    · next hp =>
      rcases List.mem_cons.mp hkey with hown | hold
      · obtain rfl := hare.only_stub artifact hmem hp.1 hown.symm
        refine ⟨h.isThere hc hroot, Or.inr fun hthere => ?_⟩
        have hd := dispositionAt_of_decided hc h.decided hroot
        rw [dispositionAt, hp.1] at hd
        simp only [if_neg hthere] at hd
        cases hd
      · exact ⟨hreplaced.stays (hfresh hold), Or.inl hold⟩
    · exact ⟨hreplaced.stays (hfresh hkey), Or.inl hkey⟩
  · obtain rfl := h.left hw
    refine ⟨.refl .., fun hkey => ?_⟩
    rw [freshAfter, if_neg fun hboth => hw hboth.2] at hkey
    exact ⟨hfresh hkey, Or.inl hkey⟩

/-- Where the stub of a model is there if the model is fresh, a pass, whatever comes of it, brings
the unit test of the model only along with the stub. -/
theorem run_brings (hall : Compatible artifacts) (hare : AreOf artifacts stub test)
    {rest : List Artifact} (hrest : ∀ artifact ∈ rest, artifact ∈ artifacts)
    {fresh : List ModelKey} (hroot : disk.place? root = some place)
    (hfresh : test.modelKey ∈ fresh → IsThere disk place stub) :
    Brings stub test place (test.modelKey ∈ fresh) disk
      (act (run root false fresh rest) disk).2 := by
  induction rest generalizing fresh disk with
  | nil => exact .refl ..
  | cons artifact rest ih =>
    obtain ⟨hmem, hrest⟩ := List.forall_mem_cons.mp hrest
    rcases run_cons_cases root fresh artifact rest disk with
      ⟨error, herror⟩ | ⟨hdecided, error, herror⟩ | ⟨disposition, next, hstep⟩
    · rw [herror]
      exact .refl ..
    · rw [herror]
      exact replaceFile_brings hall hare hmem hroot hfresh hdecided
    · obtain ⟨hfirst, hfreshAfter⟩ := hstep.brings hall hare hmem hroot hfresh
      have hothers := ih hrest (hfirst.leads root hroot) fun hkey => (hfreshAfter hkey).1
      rw [hstep.act_run]
      refine ⟨fun path hp => hothers.leads path (hfirst.leads path hp),
        fun hthere => hothers.stays (hfirst.stays hthere), fun hnot hthere => ?_⟩
      by_cases hnext : IsThere next place test
      · obtain ⟨hstub, hor⟩ := hfirst.brings hnot hnext
        exact ⟨hothers.stays hstub, hor⟩
      · obtain ⟨hstub, hkey | hbefore⟩ := hothers.brings hnext hthere
        · exact ⟨hstub, (hfreshAfter hkey).2⟩
        · exact ⟨hstub, Or.inr fun hthere => hbefore (hfirst.stays hthere)⟩

/-- Nothing can be reached at the path of an artifact. -/
private theorem at?_eq_none_iff (hc : IsClean artifact.path) (root : String) (disk : Disk) :
    disk.at? (join root artifact.path) = none ↔ disk.found? (join root artifact.path) = none := by
  obtain ⟨name, hname⟩ := hc.named
  rw [found?_eq (hname.join hc.relative), Option.map_eq_none_iff]

/-- A pass that succeeds, or whose root has a place, brings the unit test of a model only if it
brings the stub too. -/
theorem writeArtifacts_brings (hall : Compatible artifacts) (hare : AreOf artifacts stub test)
    {answer : Except Error WriteSummary} {last : Disk}
    (h : act (writeArtifacts root artifacts false) disk = (answer, last))
    (hends : answer.isOk = true ∨ disk.place? root ≠ none)
    (hnot : disk.at? (join root test.path) = none)
    (hthere : last.at? (join root test.path) ≠ none) :
    disk.at? (join root stub.path) = none ∧ last.at? (join root stub.path) ≠ none := by
  have hcs := hall.clean stub hare.stub_mem
  have hct := hall.clean test hare.test_mem
  rw [Ne, at?_eq_none_iff hct] at hthere
  rw [at?_eq_none_iff hct] at hnot
  rw [Ne, at?_eq_none_iff hcs, at?_eq_none_iff hcs]
  cases hroot : disk.place? root with
  | none =>
    -- Nothing can be reached before the pass, and after it all scaffolds are there.
    have hok := hends.resolve_right (by simp [hroot])
    cases answer with
    | error error => cases hok
    | ok summary =>
      refine ⟨?_, (settled_of_writeArtifacts hall h stub hare.stub_mem).scaffold hare.scaffold⟩
      rw [found?, place?_join_of_isClean hcs, hroot]
      rfl
  | some place =>
    have hrun : (act (run root false [] artifacts) disk).2 = last := by
      rw [act_writeArtifacts] at h
      exact congrArg Prod.snd h
    have hbrings := run_brings hall hare (fun _ => id) hroot
      (List.not_mem_nil (a := test.modelKey)).elim
    rw [hrun] at hbrings
    have hlast := hbrings.leads root hroot
    rw [found?_join hct hroot] at hnot
    rw [found?_join hct hlast] at hthere
    rw [found?_join hcs hroot, found?_join hcs hlast]
    obtain ⟨hstub, hkey | hbefore⟩ := hbrings.brings (fun hne => hne hnot) hthere
    · exact absurd hkey List.not_mem_nil
    · exact ⟨not_not.mp hbefore, hstub⟩

end Pass

end WritePass

open WritePass

/-! ## Histories of ember -/

namespace StackEmber

/-- The path of the stub of a model. -/
def stubPath (schema : ModelSchema) : String := "app/models/" ++ keyOf schema ++ ".js"

/-- The path of the unit test of a model. -/
def testPath (schema : ModelSchema) : String := "tests/unit/models/" ++ keyOf schema ++ "-test.js"

/-- The unit test of a model is where its reference says, below the directory of tests. -/
theorem testRule_eq {application model : String} (ha : Name.IsIdentifier application)
    (hm : Name.IsIdentifier model) : testRule.resolve (.all application model) =
      "tests/unit/models/" ++ reference application model ++ "-test.js" :=
  PathRule.resolve_pair "app_dash" "model_dash" (by decide +kernel) (PathVars.isProper_all ha hm)
    (by decide +kernel) rfl rfl

/-- A scaffold of ember is a stub. -/
private theorem kind_of_scaffold : ∀ registration ∈ (StackDescriptor.builtin .ember).artifacts,
    registration.policy = .scaffold → registration.kind = .model := by
  decide

section Run

variable {format : SchemaFormat} {document : String} {set : SchemaSet} {config : Config}
  {registry : Registry} {report : Report} {schema : ModelSchema}

/-- Only unit tests go where a unit test goes. -/
private theorem path_eq_of_test (hb : Registry.builtin = .ok registry)
    (h : generate registry config .failFast set [.ember] = .ok report)
    {artifact : Artifact} (hmem : artifact ∈ report.outputs)
    (ha : Name.IsIdentifier schema.applicationName) (hm : Name.IsIdentifier schema.modelName)
    (hnames : names artifact.path =
      names (testRule.resolve (.all schema.applicationName schema.modelName))) :
    artifact.path = testRule.resolve (.all schema.applicationName schema.modelName) := by
  obtain ⟨id, hid, registration, hr, subject, -, hout⟩ := isOutput_of_mem hb h hmem
  obtain rfl := List.mem_singleton.mp hid
  obtain ⟨front, application, last, hkind, hfile⟩ := exists_isKind hout hr
  have htest := isFile_testRule ha hm
  have hhead := hkind.head?_names hfile
  rw [hnames, htest.names_eq] at hhead
  generalize artifact.policy = policy at hkind
  cases hkind with
  | test => exact hfile.path_eq htest hnames
  | base | stub | index => simp at hhead

/-- Every model has a stub and a unit test in a run. -/
theorem exists_areOf (hset : parseSchemas format document = .ok set)
    (hb : Registry.builtin = .ok registry)
    (h : generate registry config .failFast set [.ember] = .ok report) (hs : schema ∈ set.schemas) :
    ∃ stub test, AreOf report.outputs stub test ∧ stub.path = stubPath schema ∧
      test.path = testPath schema := by
  have hn := Subject.isNamed_of_parseSchemas hset (show (Subject.model schema).IsOf set from hs)
    schema (.head _)
  have hkeys := SchemaSet.nodup_keys_of_parseSchemas hset
  obtain ⟨stub, hstub, -, hattempt, honly⟩ := Report.hasAt_of_job hb h hkeys (.head _)
    (.tail _ (.head _)) (.model schema) rfl hs fun _ => id
  obtain ⟨test, htest, hat, hattempt', -⟩ := Report.hasAt_of_job hb h hkeys (.head _)
    (.tail _ (.tail _ (.head _))) (.model schema) rfl hs fun _ => id
  obtain ⟨-, hpath, hpolicy, -⟩ := Job.attempt_produce_ok hattempt
  obtain ⟨-, hpath', hpolicy', -⟩ := Job.attempt_produce_ok hattempt'
  refine ⟨stub, test, ⟨hstub, hpolicy, htest, ?_, ?_⟩,
    hpath.trans (stubRule_eq hn.application hn.model),
    hpath'.trans (testRule_eq hn.application hn.model)⟩
  · intro artifact hmem hp hkey
    refine honly artifact hmem ?_
    obtain ⟨job, hjob, hof⟩ := exists_job_of_mem h hmem
    obtain ⟨id, hid, registration, hr, subject, rfl, -, -⟩ := (mem_ofStacks_builtin hb).mp hjob
    obtain rfl := List.mem_singleton.mp hid
    obtain ⟨-, -, hpolicy, hcoordinate⟩ := Job.attempt_produce_ok hof
    have hkind : artifact.artifact = .model := (congrArg Coordinate.artifact hcoordinate).trans
      (kind_of_scaffold registration hr (hpolicy.symm.trans hp))
    obtain ⟨hstack, hkey⟩ := Prod.mk.inj hkey
    obtain ⟨happlication, hmodel⟩ := Prod.mk.inj hkey
    change (⟨artifact.stack, artifact.artifact, artifact.application, artifact.model⟩ :
      Coordinate) = _
    rw [hkind, hstack, happlication, hmodel, congrArg Coordinate.stack hat,
      congrArg Coordinate.application hat, congrArg Coordinate.model hat]
    rfl
  · intro artifact hmem hnames
    have hsame := path_eq_of_test hb h hmem hn.application hn.model
      (hnames.trans (congrArg names hpath'))
    obtain ⟨-, -, hnodup⟩ := generate_failFast.mp h
    obtain rfl := List.inj_on_of_nodup_map hnodup hmem htest (hsame.trans hpath'.symm)
    exact ⟨hpolicy', rfl⟩

end Run

/-- A write pass: where it writes to, the disk before it, its answer and the disk after it. -/
structure Pass where
  root : String
  before : Disk
  answer : Except Error WriteSummary
  after : Disk

/-- The pass writes the outputs of a run for the schemas. -/
def Pass.IsOf (set : SchemaSet) (pass : Pass) : Prop :=
  ∃ registry config report, Registry.builtin = .ok registry ∧
    generate registry config .failFast set [.ember] = .ok report ∧
    act (writeArtifacts pass.root report.outputs false) pass.before = (pass.answer, pass.after)

/-- What becomes of a disk, with the passes so far: passes for the schemas take turns with edits,
and an edit may leave anything. -/
inductive History (set : SchemaSet) (first : Disk) : List Pass → Disk → Prop
  | start : History set first [] first
  | edit {passes : List Pass} {disk : Disk} (h : History set first passes disk) (edited : Disk) :
    History set first passes edited
  | pass {passes : List Pass} {pass : Pass} (h : History set first passes pass.before)
    (hof : pass.IsOf set) : History set first (passes ++ [pass]) pass.after

/-- Where the pass finds no unit test of the model and leaves one, it finds no stub and leaves
one. -/
def Pass.BringsBoth (pass : Pass) (schema : ModelSchema) : Prop :=
  pass.before.at? (join pass.root (testPath schema)) = none →
    pass.after.at? (join pass.root (testPath schema)) ≠ none →
    pass.before.at? (join pass.root (stubPath schema)) = none ∧
      pass.after.at? (join pass.root (stubPath schema)) ≠ none

/-- A pass for the schemas that succeeds, or whose root has a place, brings no unit test alone. -/
theorem Pass.IsOf.bringsBoth {format : SchemaFormat} {document : String} {set : SchemaSet}
    (hset : parseSchemas format document = .ok set) {pass : Pass} (h : pass.IsOf set)
    (hends : pass.answer.isOk = true ∨ pass.before.place? pass.root ≠ none)
    {schema : ModelSchema} (hs : schema ∈ set.schemas) : pass.BringsBoth schema := by
  obtain ⟨registry, config, report, hb, hgenerate, hpass⟩ := h
  obtain ⟨stub, test, hare, hstub, htest⟩ := exists_areOf hset hb hgenerate hs
  intro hnot hthere
  rw [← htest] at hnot hthere
  rw [← hstub]
  exact writeArtifacts_brings (compatible_outputs hb hgenerate) hare hpass hends hnot hthere

/-- All passes of a history belong to it. -/
theorem History.isOf {set : SchemaSet} {first last : Disk} {passes : List Pass}
    (h : History set first passes last) : ∀ pass ∈ passes, pass.IsOf set := by
  induction h with
  | start => simp
  | edit _ _ ih => exact ih
  | pass _ hof ih =>
    intro pass hmem
    rcases List.mem_append.mp hmem with hold | hlast
    · exact ih pass hold
    · exact List.mem_singleton.mp hlast ▸ hof

end StackEmber

/-- In a pass that succeeds, a companion is written just if nothing is where it goes when the pass
comes to it and a scaffold of its model was written before it, whatever the paths are. So in any
history of passes of ember for the schemas of a document and of edits that may leave anything, a
pass that brings a unit test finds no stub of the model and leaves one. This goes for every pass
that succeeds; for one that fails it goes if the root of the pass has a place before it, which means
that two dots in the root lead only out of directories that are there. -/
theorem companions_follow_scaffolds :
    (∀ root front companion back disk summary last, companion.policy = .companion →
      act (writeArtifacts root (front ++ companion :: back) false) disk = (.ok summary, last) →
      ∃ done disposition rest reached,
        summary.entries = done ++ (join root companion.path, disposition) :: rest ∧
        act (writeArtifacts root front false) disk = (.ok ⟨done⟩, reached) ∧
        (disposition = .written ↔ reached.at? (join root companion.path) = none ∧
          ∃ step ∈ front.zip done, step.1.policy = .scaffold ∧
            step.1.modelKey = companion.modelKey ∧ step.2.2 = .written)) ∧
    ∀ format document set first passes last, parseSchemas format document = .ok set →
      StackEmber.History set first passes last →
      ∀ pass ∈ passes, (pass.answer.isOk = true ∨ pass.before.place? pass.root ≠ none) →
        ∀ schema ∈ set.schemas, pass.BringsBoth schema :=
  ⟨fun _ _ _ _ _ _ _ hp h => companion_written_iff hp h,
    fun _ _ _ _ _ _ hset h pass hmem hends _ hs => (h.isOf pass hmem).bringsBoth hset hends hs⟩

/-- A disk with the stub of a model, which was edited, and without its unit test. -/
def keptStub : Disk :=
  ⟨.directory [("front", .directory [("app", .directory [("models", .directory [("blog",
    .directory [("post.js", .file (.text "edited"))])])])])], []⟩

/-- A unit test that was taken away does not come back. -/
theorem companions_follow_scaffolds_keptStub : ∃ registry report,
    parseSchemas .json postDocument = .ok ⟨[post]⟩ ∧ Registry.builtin = .ok registry ∧
      generate registry {} .failFast ⟨[post]⟩ [.ember] = .ok report ∧
      (act (writeArtifacts "front" report.outputs false) keptStub).2.at?
        "front/tests/unit/models/blog/post-test.js" = none := by
  obtain ⟨registry, hb⟩ := Registry.exists_builtin
  obtain ⟨report, h⟩ := @exists_report_of_bare registry hb [("blog", "post", "blog/posts")] [.ember]
    (by decide +kernel) (by decide +kernel)
  refine ⟨registry, report, parseSchemas_postDocument, hb, h, ?_⟩
  have htest : join "front" (StackEmber.testPath post) =
      "front/tests/unit/models/blog/post-test.js" := by decide +kernel
  have hnot : keptStub.at? (join "front" (StackEmber.testPath post)) = none :=
    Option.isNone_iff_eq_none.mp (by decide +kernel)
  have hstub : (keptStub.at? (join "front" (StackEmber.stubPath post))).isNone = false := by
    decide +kernel
  have hof : StackEmber.Pass.IsOf ⟨[post]⟩ ⟨"front", keptStub,
      (act (writeArtifacts "front" report.outputs false) keptStub).1,
      (act (writeArtifacts "front" report.outputs false) keptStub).2⟩ :=
    ⟨registry, {}, report, hb, h, rfl⟩
  have hroot : keptStub.place? "front" ≠ none := by decide +kernel
  have hboth := companions_follow_scaffolds.2 .json postDocument ⟨[post]⟩ keptStub _ _
    parseSchemas_postDocument (StackEmber.History.start.pass hof) _ (.head _) (Or.inr hroot) post
    (.head _)
  rw [StackEmber.Pass.BringsBoth, htest] at hboth
  by_contra hthere
  rw [(hboth (htest ▸ hnot) hthere).1] at hstub
  cases hstub

end ModelCodegen
