import ModelCodegen.Proofs.Generation.Declaration
import ModelCodegen.Proofs.Generation.References
import ModelCodegen.Proofs.Name.Slashes
import ModelCodegen.Proofs.Template.Cut

/-!
# Addresses of items

A service asks for an item at the address of the collection with the key of the item behind it.
What stands between the two is told in two places: the style of addresses may put a slash at the
end, and so may the template. Each template is written for the style that its stack has by itself.
So there is one slash just when the settings leave the style of the stack as it is.
-/

namespace ModelCodegen

open Result Template

/-! ## Services -/

/-- How a service writes the address that keys of items are appended to. -/
structure ItemAddress where
  template : String
  /-- What stands in front of the address. -/
  opening : String
  /-- What the template has between the address of the collection and the key. -/
  separator : String
  /-- What stands behind the address. -/
  closing : String

namespace ItemAddress

/-- The stacks with services, and where these have their addresses. -/
def builtin : List (StackId × ItemAddress) :=
  [(.angularResource, ⟨"angular/service.js", "return $resource('", "/", ":id'"⟩),
    (.angular2, ⟨"angular2/service.ts", "private baseUrl: string = '", "", "';"⟩)]

/-- The services of a stack come from the template that is known to show the address. -/
theorem template_of_service : ∀ entry ∈ builtin,
    ∀ registration ∈ (StackDescriptor.builtin entry.1).artifacts,
      registration.kind = .service → registration.template = entry.2.template := by
  simp only [builtin, List.forall_mem_cons, List.not_mem_nil, false_imp_iff, implies_true, and_true]
  and_intros <;> decide

/-- The template of a service prints the address between two fixed texts. -/
theorem exists_script_of_builtin : ∀ entry ∈ builtin, ∃ body script,
    (entry.2.template, body) ∈ builtinTemplates ∧ Script.ofBody? body = some script ∧
      script.printsBetween entry.2.opening "endpoint_url"
        (entry.2.separator ++ entry.2.closing) = true := by
  suffices h : ∀ entry ∈ builtin, ∃ body, (entry.2.template, body) ∈ builtinTemplates ∧
      (Script.ofBody? body).any (Script.printsBetween entry.2.opening "endpoint_url"
        (entry.2.separator ++ entry.2.closing)) = true by
    intro entry hentry
    obtain ⟨body, hbody, hany⟩ := h entry hentry
    obtain ⟨script, hscript, hprints⟩ := (Option.any_eq_true ..).mp hany
    exact ⟨body, script, hbody, hscript, hprints⟩
  simp only [builtin, List.forall_mem_cons, List.not_mem_nil, false_imp_iff, implies_true, and_true]
  refine ⟨⟨StackAngular.service, by simp [builtinTemplates], ?_⟩,
    ⟨StackAngular2.service, by simp [builtinTemplates], ?_⟩⟩
  all_goals
    simp only [Script.ofBody?, ofText?, toList_body, bodyChars, List.flatMap_cons,
      List.flatMap_nil, StackAngular2.service, StackAngular.service]
    -- The characters of the lines are written out before anything is evaluated.
    repeat rw [String.toList_ofList]
    decide +kernel

/-- A template puts a slash in front of the key just where the style of its stack does not. -/
theorem separator_builtin : ∀ entry ∈ builtin, entry.2.separator =
    Name.slashes (!(StackDescriptor.builtin entry.1).endpointStyle.trailingSlash).toNat := by
  decide

/-- No built-in stack puts a suffix behind its addresses. -/
theorem suffix_builtin : ∀ entry ∈ builtin,
    (StackDescriptor.builtin entry.1).endpointStyle.suffix = none := by
  decide

/-- What a template writes in front of the key, for an address without a suffix. -/
theorem address_eq {entry : StackId × ItemAddress} (hentry : entry ∈ builtin)
    {style : Name.EndpointStyle} (hsuffix : style.suffix = none) (base endpoint : String) :
    Name.addressOf base endpoint style ++ entry.2.separator =
      Text.trimEnd Name.isSlash base ++ "/" ++ Name.endpointCore endpoint ++
        Name.slashes (style.trailingSlash.toNat +
          (!(StackDescriptor.builtin entry.1).endpointStyle.trailingSlash).toNat) := by
  rw [Name.addressOf, hsuffix, separator_builtin entry hentry, Name.slashes_add,
    Name.slashes_toNat style.trailingSlash]
  simp [String.append_assoc]

section Run

variable {format : SchemaFormat} {document : String} {set : SchemaSet} {config : Config}
  {registry : Registry} {policy : FailurePolicy} {ids : List StackId} {report : Report}

/-- A service has the address of its collection between the texts of its template. -/
theorem exists_content_of_output (hset : parseSchemas format document = .ok set)
    (hc : config.validate = .ok ()) (hb : Registry.builtin = .ok registry)
    (h : generate registry config policy set ids = .ok report) {schema : ModelSchema}
    (hs : schema ∈ set.schemas) {entry : StackId × ItemAddress} (hentry : entry ∈ builtin)
    {artifact : Artifact} (hartifact : artifact ∈ report.outputs)
    (hat : artifact.toCoordinate = .ofModel entry.1 .service schema) :
    schema.checkEndpoint = .ok () ∧ ∃ before after, artifact.content =
      before ++ entry.2.opening ++
        (Name.addressOf (Text.trimEnd Name.isSlash config.apiBase) schema.endpoint
          (config.endpointStyle (.builtin entry.1)) ++ entry.2.separator) ++
        entry.2.closing ++ after := by
  obtain ⟨registration, hr, hkind, hscope, hattempt⟩ := exists_job_of_model hb h
    (SchemaSet.nodup_keys_of_parseSchemas hset) hs hartifact hat
  have hnamed := @Subject.isNamed_of_parseSchemas _ _ _ hset (.model schema) hs
  have htemplate := template_of_service entry hentry registration hr hkind
  obtain ⟨body, script, hbody, hscript, hprints⟩ := exists_script_of_builtin entry hentry
  obtain ⟨members, hmembers, htext⟩ := Job.exists_textAt_of_attempt hb hc hr (.model schema) hscope
    hnamed (htemplate ▸ hbody) hscript hattempt
  obtain ⟨before, value, after, hvalue, hcontent⟩ :=
    Script.exists_textAt_of_printsBetween hprints htext
  have hurl : Entries.get? "endpoint_url" (modelView config (.builtin entry.1) schema) =
      some (.string (Name.addressOf (Text.trimEnd Name.isSlash config.apiBase) schema.endpoint
        (config.endpointStyle (.builtin entry.1)))) := rfl
  rw [Declaration.find?_model hmembers, Option.some.injEq] at hvalue
  obtain rfl := Option.some.inj (hvalue.symm.trans hurl)
  refine ⟨Job.checkEndpoint_of_attempt hc hnamed hattempt, before, after, ?_⟩
  rw [hcontent, shown_string]
  simp only [String.append_assoc]

/-- In the services of a stack without a suffix the text in front of the key is the base, a slash,
the endpoint and some more slashes. These are one just when the settings leave the final slash as
the stack has it by itself. -/
theorem one_slash_before_key_iff (hset : parseSchemas format document = .ok set)
    (hc : config.validate = .ok ()) (hb : Registry.builtin = .ok registry)
    (h : generate registry config policy set ids = .ok report) :
    ∀ entry ∈ builtin, (config.settingsOf entry.1).endpointSuffix = none →
      ∀ schema ∈ set.schemas, ∀ artifact ∈ report.outputs,
        artifact.toCoordinate = .ofModel entry.1 .service schema →
        ∃ before address after count,
          artifact.content = before ++ entry.2.opening ++ address ++ entry.2.closing ++ after ∧
          address = Text.trimEnd Name.isSlash config.apiBase ++ "/" ++
            Name.endpointCore schema.endpoint ++ Name.slashes count ∧
          Name.finalSlashes address = count ∧
          (count = 1 ↔ (config.settingsOf entry.1).trailingSlash.getD
            (StackDescriptor.builtin entry.1).endpointStyle.trailingSlash =
              (StackDescriptor.builtin entry.1).endpointStyle.trailingSlash) := by
  intro entry hentry hsuffix schema hs artifact hartifact hat
  obtain ⟨hcheck, before, after, hcontent⟩ :=
    exists_content_of_output hset hc hb h hs hentry hartifact hat
  have hstyle : (config.endpointStyle (.builtin entry.1)).suffix = none := by
    rw [Config.endpointStyle, StackDescriptor.builtin_id, hsuffix, suffix_builtin entry hentry]
    rfl
  have haddress := address_eq hentry hstyle (Text.trimEnd Name.isSlash config.apiBase)
    schema.endpoint
  rw [Text.trimEnd_trimEnd] at haddress
  rw [haddress] at hcontent
  refine ⟨before, _, after, (config.endpointStyle (.builtin entry.1)).trailingSlash.toNat +
    (!(StackDescriptor.builtin entry.1).endpointStyle.trailingSlash).toNat, hcontent, rfl,
    Name.finalSlashes_append hcheck _ _, ?_⟩
  rw [Config.endpointStyle, StackDescriptor.builtin_id]
  cases (config.settingsOf entry.1).trailingSlash.getD _ <;>
    cases (StackDescriptor.builtin entry.1).endpointStyle.trailingSlash <;> simp

end Run

/-- A run for the model of a document has its services. -/
private theorem exists_services {registry : Registry} (hb : Registry.builtin = .ok registry)
    {config : Config} (hc : config.validate = .ok ()) : ∃ report,
      generate registry config .failFast ⟨[post]⟩ [.angularResource, .angular2] = .ok report ∧
      ∀ entry ∈ builtin, ∃ artifact ∈ report.outputs,
        artifact.toCoordinate = .ofModel entry.1 .service post := by
  have hfit : SchemaSet.IsFit ⟨[post]⟩ :=
    SchemaSet.isFit_of_endpoints parseSchemas_postDocument (by decide +kernel)
  obtain ⟨report, h⟩ := @exists_report_of_nodup registry config ⟨[post]⟩
    [.angularResource, .angular2] hb hc hfit (by
      simp only [Job.ofStacks, Registry.stack?_of_builtin hb]
      decide +kernel)
  refine ⟨report, h, fun entry hentry => ?_⟩
  have hservice : ∀ entry ∈ builtin, entry.1 ∈ [StackId.angularResource, .angular2] ∧
      ∃ registration ∈ (StackDescriptor.builtin entry.1).artifacts,
        registration.kind = .service ∧ registration.scope = .model := by
    decide
  obtain ⟨hid, registration, hr, hkind, hscope⟩ := hservice entry hentry
  exact hkind ▸ exists_output_of_model hb h (.head _) hid hr hscope

/-- With the styles that the stacks have there is one slash in the services of the model, whatever
is behind the base. -/
theorem one_slash_before_key_iff_post : ∃ registry report,
    parseSchemas .json postDocument = .ok ⟨[post]⟩ ∧
      ({ apiBase := "/api/v1//" } : Config).validate = .ok () ∧ Registry.builtin = .ok registry ∧
      generate registry { apiBase := "/api/v1//" } .failFast ⟨[post]⟩
        [.angularResource, .angular2] = .ok report ∧
      ∀ entry ∈ builtin, ∃ artifact ∈ report.outputs,
        artifact.toCoordinate = .ofModel entry.1 .service post ∧ ∃ before after,
          artifact.content =
            before ++ entry.2.opening ++ "/api/v1/blog/posts/" ++ entry.2.closing ++ after := by
  obtain ⟨registry, hb⟩ := Registry.exists_builtin
  have hc : ({ apiBase := "/api/v1//" } : Config).validate = .ok () := by rfl
  obtain ⟨report, h, hservices⟩ := exists_services hb hc
  refine ⟨registry, report, parseSchemas_postDocument, hc, hb, h, fun entry hentry => ?_⟩
  obtain ⟨artifact, hmem, hat⟩ := hservices entry hentry
  obtain ⟨before, address, after, count, hcontent, haddress, -, hcount⟩ :=
    one_slash_before_key_iff parseSchemas_postDocument hc hb h entry hentry rfl post (.head _)
      artifact hmem hat
  obtain rfl := hcount.mpr rfl
  refine ⟨artifact, hmem, hat, before, after, ?_⟩
  rw [hcontent, haddress]
  rfl

/-! ### A style that a template is not written for -/

/-- Settings with a slash at the end of the addresses of a stack that has none by itself. -/
def slashedConfig : Config :=
  { stackSettings := [("angular", { trailingSlash := some true })] }

/-- With a slash from the settings and one from the template the key of an item stands behind two
slashes. -/
theorem two_slashes_before_key : ∃ registry report,
    parseSchemas .json postDocument = .ok ⟨[post]⟩ ∧
      slashedConfig.validate = .ok () ∧ Registry.builtin = .ok registry ∧
      (slashedConfig.settingsOf .angularResource).endpointSuffix = none ∧
      generate registry slashedConfig .failFast ⟨[post]⟩ [.angularResource, .angular2] =
        .ok report ∧
      ∃ artifact ∈ report.outputs,
        artifact.toCoordinate = .ofModel .angularResource .service post ∧ ∃ before after,
          artifact.content =
            before ++ "return $resource('" ++ "/api/blog/posts//" ++ ":id'" ++ after := by
  obtain ⟨registry, hb⟩ := Registry.exists_builtin
  have hc : slashedConfig.validate = .ok () := by rfl
  obtain ⟨report, h, hservices⟩ := exists_services hb hc
  obtain ⟨artifact, hmem, hat⟩ := hservices _ (.head _)
  refine ⟨registry, report, parseSchemas_postDocument, hc, hb, by rfl, h, artifact, hmem, hat, ?_⟩
  obtain ⟨-, before, after, hcontent⟩ :=
    exists_content_of_output parseSchemas_postDocument hc hb h (.head _) (.head _) hmem hat
  have haddress : Name.addressOf (Text.trimEnd Name.isSlash slashedConfig.apiBase) post.endpoint
      (slashedConfig.endpointStyle (.builtin .angularResource)) ++ "/" = "/api/blog/posts//" := by
    decide +kernel
  exact ⟨before, after, haddress ▸ hcontent⟩

end ItemAddress

end ModelCodegen
