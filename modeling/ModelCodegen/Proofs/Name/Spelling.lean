import ModelCodegen.Proofs.Files.CleanPath
import ModelCodegen.Proofs.PathRule
import ModelCodegen.Proofs.Result
import ModelCodegen.Proofs.Text.Kebab

/-!
# The two spellings of a name

The spelling of a name for files and its spelling for classes come from the same words. The first
one shows what they are, so it is spelled that way already, and it settles the second one: models of
one application that share the name of a file have the same class.
-/

namespace ModelCodegen.Name

open Result

/-- A name can be written in words and dashes just if it is an identifier. -/
theorem dasherize_eq_ok_iff {name dashed : String} :
    dasherize name = .ok dashed ↔ IsIdentifier name ∧ Text.kebab name = dashed := by
  constructor
  · intro h
    obtain ⟨_, hcheck, hspelled⟩ := bind_eq_ok.mp h
    exact ⟨checkIdentifier_eq_ok_iff.mp hcheck, Except.ok.inj hspelled⟩
  · rintro ⟨hname, rfl⟩
    exact dasherize_of_isIdentifier hname

/-- Identifiers are spelled in ASCII. -/
theorem toNat_lt_of_isIdentifier {name : String} (h : IsIdentifier name) :
    ∀ c ∈ name.toList, c.toNat < 128 := fun c hc => toNat_lt_of_isIdentifierChar (h.2 c hc)

/-- Something that is left of a name is a name. -/
theorem isIdentifier_kebab {name : String} (h : IsIdentifier name) (hne : Text.kebab name ≠ "") :
    IsIdentifier (Text.kebab name) :=
  ⟨fun hnil => hne (String.toList_inj.mp hnil), isIdentifierChar_of_mem_kebab h⟩

/-- What a name is in files leads nowhere else. -/
theorem segments_kebab {name : String} (h : IsIdentifier name) :
    Path.segments (Text.kebab name) = [(Text.kebab name).toList] ∧
      '.' ∉ (Text.kebab name).toList := by
  have hmissing : ∀ d, isIdentifierChar d = false → d ∉ (Text.kebab name).toList := fun d hd hmem =>
    ne_of_isIdentifierChar (isIdentifierChar_of_mem_kebab h d hmem) hd rfl
  refine ⟨?_, hmissing '.' (by decide)⟩
  rw [Path.segments, Path.segmentsFrom_of_not_mem [] (hmissing '/' (by decide)), List.nil_append]

/-- A dashed name is a plain path, unless there are no words in it. -/
theorem isPlain_kebab {name : String} (h : IsIdentifier name) (hne : Text.kebab name ≠ "") :
    Path.IsPlain (Text.kebab name) := by
  obtain ⟨hsegments, hdot⟩ := segments_kebab h
  intro segment hsegment
  rw [hsegments, List.mem_singleton] at hsegment
  rw [hsegment]
  have hnil : (Text.kebab name).toList ≠ [] := fun hnil => hne (String.toList_inj.mp hnil)
  have hdots : ∀ {dots : List Char}, '.' ∈ dots → (Text.kebab name).toList ≠ dots :=
    fun hmem he => hdot (he ▸ hmem)
  refine ⟨?_, hdots (by decide)⟩
  rw [Path.isIdle, Bool.or_eq_false_iff, beq_eq_false_iff_ne, beq_eq_false_iff_ne]
  exact ⟨hnil, hdots (by decide)⟩

/-- Names that are the same in files are the same in classes. -/
theorem upperCamel_eq_of_kebab_eq {name other : String} (h : IsIdentifier name)
    (ho : IsIdentifier other) (hkebab : Text.kebab name = Text.kebab other) :
    Text.upperCamel name = Text.upperCamel other := by
  have hruns : Text.runs name = Text.runs other := by
    rw [← Text.runs_kebab (toNat_lt_of_isIdentifier h), hkebab,
      Text.runs_kebab (toNat_lt_of_isIdentifier ho)]
  apply String.toList_inj.mp
  rw [Text.toList_upperCamel (toNat_lt_of_isIdentifier h),
    Text.toList_upperCamel (toNat_lt_of_isIdentifier ho), hruns]

/-- Dashes are not put into a dashed name again. -/
theorem kebab_kebab {name : String} (h : IsIdentifier name) :
    Text.kebab (Text.kebab name) = Text.kebab name := by
  apply String.toList_inj.mp
  rw [Text.toList_kebab, Text.runs_kebab (toNat_lt_of_isIdentifier h), ← Text.toList_kebab]

/-- In files an accepted name is spelled with runs of lowercase letters and digits and with hyphens
between them, as one segment of a path, and nothing is left of it just if it has no letter or digit;
in classes the same runs have capitals and no hyphens. If something is left, that is accepted too
and has the same two spellings. Models of one application with the same spelling in files have the
same class. -/
theorem spellings_agree {name : String} (h : checkIdentifier name = .ok ()) :
    ∃ (runs : List (List Char)) (dashed title : String),
      dasherize name = .ok dashed ∧ titleCase name = .ok title ∧
      (∀ run ∈ runs, Text.IsRun run) ∧
      dashed.toList = ['-'].intercalate runs ∧ title.toList = runs.flatMap Text.capitalize ∧
      (dashed = "" ↔ ∀ c ∈ name.toList, c.isAlphanum = false) ∧
      (Path.segments dashed = [dashed.toList] ∧ '.' ∉ dashed.toList) ∧
      (∀ c ∈ title.toList, c.isAlphanum = true) ∧
      (dashed ≠ "" → Path.IsPlain dashed ∧ checkIdentifier dashed = .ok () ∧
        dasherize dashed = .ok dashed ∧ titleCase dashed = .ok title) ∧
      ∀ application other, dasherize other = .ok dashed →
        className application other = className application name := by
  rw [checkIdentifier_eq_ok_iff] at h
  have hascii := toNat_lt_of_isIdentifier h
  refine ⟨Text.runs name, Text.kebab name, Text.upperCamel name, dasherize_of_isIdentifier h,
    titleCase_of_isIdentifier h, Text.isRun_of_mem_runs hascii, Text.toList_kebab name,
    Text.toList_upperCamel hascii, Text.kebab_eq_empty_iff hascii, segments_kebab h,
    Text.isAlphanum_of_mem_upperCamel hascii, fun hne => ?_, fun application other hother => ?_⟩
  · have hdashed := isIdentifier_kebab h hne
    refine ⟨isPlain_kebab h hne, checkIdentifier_eq_ok_iff.mpr hdashed,
      dasherize_eq_ok_iff.mpr ⟨hdashed, kebab_kebab h⟩, ?_⟩
    rw [titleCase_of_isIdentifier hdashed,
      upperCamel_eq_of_kebab_eq hdashed h (kebab_kebab h)]
  · obtain ⟨ho, hkebab⟩ := dasherize_eq_ok_iff.mp hother
    have htitle : titleCase other = titleCase name := by
      rw [titleCase_of_isIdentifier ho, titleCase_of_isIdentifier h,
        upperCamel_eq_of_kebab_eq ho h hkebab]
    rw [className, className, htitle]

/-- Capitals in a row, digits and separators in a row are all cut alike. -/
theorem spellings_agree_xmlHttp :
    checkIdentifier "XMLHttp2_Request--v2" = .ok () ∧
      dasherize "XMLHttp2_Request--v2" = .ok "xml-http2-request-v2" ∧
      dasherize "xml-http2-request-v2" = .ok "xml-http2-request-v2" ∧
      titleCase "xml-http2-request-v2" = .ok "XmlHttp2RequestV2" ∧
      className "blog" "xmlHttp2_requestV2" = className "blog" "XMLHttp2_Request--v2" := by
  have hname : IsIdentifier "XMLHttp2_Request--v2" := by decide
  have haccepted := checkIdentifier_eq_ok_iff.mpr hname
  obtain ⟨runs, dashed, title, hdashed, htitle, -, -, -, -, -, -, hagain, hclass⟩ :=
    spellings_agree haccepted
  obtain rfl : "xml-http2-request-v2" = dashed :=
    Except.ok.inj ((dasherize_eq_ok_iff.mpr ⟨hname, by decide +kernel⟩).symm.trans hdashed)
  obtain ⟨-, -, hdasherize, htitleCase⟩ := hagain (by decide)
  refine ⟨haccepted, hdashed, hdasherize, htitleCase.trans ?_, hclass "blog" _ ?_⟩
  · rw [← htitle, titleCase_of_isIdentifier hname]
    exact congrArg Except.ok (by decide +kernel)
  · exact dasherize_eq_ok_iff.mpr ⟨by decide, by decide +kernel⟩

end ModelCodegen.Name
