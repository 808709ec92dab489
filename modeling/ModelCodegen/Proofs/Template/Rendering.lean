import ModelCodegen.Proofs.Entries
import ModelCodegen.Proofs.Result
import ModelCodegen.Proofs.Template.Script
import ModelCodegen.Template.Collection

/-!
# Rendering by scripts

A template that is read as a script is rendered as what the script yields. Scripts
know the innermost context, the variables of all loops and no parameters, and that
is all there is to know about a place in such a template.
-/

namespace ModelCodegen.Template

open Result

/-- The place is what there is to know about a scope. -/
structure Scope.IsAt (scope : Scope) (place : Place) : Prop where
  value : scope.inner.value = place.value
  marks : ∀ name, scope.local? 0 name = Entries.get? name place.marks
  parameters : ∀ frame ∈ scope.frames, frame.parameters = []

namespace Scope.IsAt

variable {scope : Scope} {place : Place}

/-- A scope that has just been made is at the place of its data. -/
theorem ofData (data : Json) : (Scope.ofData data).IsAt { value := data } := by
  refine ⟨rfl, fun name => rfl, fun frame hmem => ?_⟩
  rw [List.mem_singleton.mp hmem]
  rfl

/-- An item of a loop without parameters is at its own place. -/
theorem enter (h : scope.IsAt place) {bodies : Bodies} (hb : bodies.parameters = [])
    (index count : Nat) (item : Json) :
    (scope.enter (bodies.loopFrame none index count item)).IsAt
      (place.ofItem count item index) := by
  refine ⟨rfl, fun name => ?_, fun frame hmem => ?_⟩
  · have houter := h.marks name
    simp only [Scope.local?, Scope.frames, List.drop_zero] at houter
    simp only [Scope.local?, Scope.enter, Scope.frames, List.drop_zero, List.findSome?_cons,
      houter, Bodies.loopFrame, Place.ofItem, Entries.get?_append, Option.map_none,
      Option.toList_none, List.append_nil]
    cases Entries.get? name [("first", Json.bool (index == 0)),
      ("last", Json.bool (index + 1 == count)), ("index", Json.int index)] <;> rfl
  · rcases List.mem_cons.mp hmem with rfl | hold
    · simp [Scope.enter, Bodies.loopFrame, Bodies.loopParameters, hb]
    · exact h.parameters frame hold

private theorem parameter?_eq_none (h : scope.IsAt place) (name : String) :
    scope.parameter? name = none := by
  rw [Scope.parameter?, List.findSome?_eq_none_iff]
  intro frame hmem
  rw [h.parameters frame hmem]
  rfl

/-- A reference leads to the value of its path. -/
theorem value?_eq (h : scope.IsAt place) {path : ValuePath} {reference : Reference}
    (hr : Reference.ofPath? path = some reference) {value? : Option Json}
    (hv : place.find? reference = some value?) : scope.value? path = .ok value? := by
  obtain ⟨written, fromRoot, isLocal, outward, names⟩ := path
  rw [Reference.ofPath?] at hr
  split at hr
  · cases hr
  · next hplain =>
    simp only [not_or, Bool.not_eq_true, not_not] at hplain
    obtain ⟨rfl, rfl⟩ := hplain
    simp only at hr
    split at hr
    · next name =>
      cases hr
      rw [Place.find?, Option.some.injEq] at hv
      simp [Scope.value?, h.marks name, hv]
    · cases hr
      rw [Place.find?, Option.some.injEq] at hv
      rw [← hv, ← h.value]
      rfl
    · next name =>
      cases hr
      have hpart : part place.value name = .ok value? := by
        rw [Place.find?] at hv
        cases hp : part place.value name with
        | error fault => simp [hp, Except.toOption] at hv
        | ok found => simpa [hp, Except.toOption] using hv
      have hstart : scope.start 0 = place.value := h.value
      simp only [Scope.value?, Bool.false_eq_true, if_false, h.parameter?_eq_none name, hstart,
        descend, hpart, bind, Except.bind]
      cases value? <;> rfl
    · cases hr

/-- The operand that a call has a reference for. -/
theorem operandsOf_eq (h : scope.IsAt place) {call : Call} {reference : Reference}
    (hr : Reference.ofCall? call = some reference) {value? : Option Json}
    (hv : place.find? reference = some value?) :
    ∃ written, operandList scope call.arguments = .ok [⟨value?, some written⟩] ∧
      operandOptions scope call.options = .ok [] := by
  rw [Reference.ofCall?] at hr
  split at hr
  · next path harguments hoptions =>
    rw [harguments, hoptions]
    refine ⟨path.written, ?_, rfl⟩
    simp [operandList, operand, h.value?_eq hr hv, bind, Except.bind, pure, Except.pure]
  · cases hr

end Scope.IsAt

/-! ## Chunks -/

private theorem plainText_append (front back : List Chunk) :
    plainText (front ++ back) = plainText front ++ plainText back := by
  induction front with
  | nil => simp [plainText]
  | cons chunk rest ih => simp [plainText, ih]

private theorem areFlush_append (front back : List Chunk) :
    areFlush (front ++ back) = (areFlush front && areFlush back) := by
  induction front with
  | nil => simp [areFlush]
  | cons chunk rest ih => simp [areFlush, ih, Bool.and_assoc]

/-- The chunks are a text, without any margin. -/
def Rendered.IsText (rendered : Rendered (List Chunk)) (text : List Char) : Prop :=
  ∃ chunks, rendered = .ok chunks ∧ areFlush chunks = true ∧ plainText chunks = text

namespace Rendered.IsText

variable {rendered : Rendered (List Chunk)} {text : List Char}

private theorem ofText (chars : List Char) : IsText (.ok [.text chars]) chars :=
  ⟨_, rfl, rfl, by simp [plainText, Chunk.plain]⟩

private theorem nil : IsText (.ok []) [] := ⟨[], rfl, rfl, rfl⟩

private theorem append {others : Rendered (List Chunk)} {more : List Char}
    (h : IsText rendered text) (ho : IsText others more) :
    IsText (do return (← rendered) ++ (← others)) (text ++ more) := by
  obtain ⟨chunks, rfl, hflush, rfl⟩ := h
  obtain ⟨rest, rfl, hrest, rfl⟩ := ho
  exact ⟨chunks ++ rest, rfl, by rw [areFlush_append, hflush, hrest]; rfl, plainText_append ..⟩

private theorem body (h : IsText rendered text) :
    IsText (do return [.body (← rendered)]) text := by
  obtain ⟨chunks, rfl, hflush, rfl⟩ := h
  exact ⟨_, rfl, by simpa [areFlush, Chunk.isFlush] using hflush, by simp [plainText, Chunk.plain]⟩

private theorem block (h : IsText rendered text) (startsLine : Bool) :
    IsText (do return [.block startsLine (← rendered)]) text := by
  obtain ⟨chunks, rfl, hflush, rfl⟩ := h
  exact ⟨_, rfl, by simpa [areFlush, Chunk.isFlush] using hflush, by simp [plainText, Chunk.plain]⟩

end Rendered.IsText

open Rendered

/-! ## Elements -/

/-- A loop yields what the script of its body yields for the items. -/
private theorem loop_isText {bodies : Bodies} (hb : bodies.parameters = []) {body : Script}
    (hbody : ∀ {scope : Scope} {place : Place} {text : List Char}, scope.IsAt place →
      body.run place = some text → IsText (bodies.body scope) text)
    {scope : Scope} {place : Place} (h : scope.IsAt place) {count index : Nat}
    {items : List Json} {parts : List (List Char)}
    (hp : ((items.zipIdx index).mapM fun (item, i) =>
      body.run (place.ofItem count item i)) = some parts) :
    IsText (bodies.loop scope count index (items.map (none, ·))) parts.flatten := by
  induction items generalizing index parts with
  | nil =>
    rw [List.zipIdx_nil, List.mapM_nil, Option.pure_def, Option.some.injEq] at hp
    rw [← hp]
    exact .nil
  | cons item rest ih =>
    rw [List.zipIdx_cons, List.mapM_cons] at hp
    simp only [Option.bind_eq_bind, Option.bind_eq_some_iff, Option.pure_def,
      Option.some.injEq] at hp
    obtain ⟨first, hfirst, others, hothers, rfl⟩ := hp
    rw [List.map_cons, Bodies.loop, List.flatten_cons]
    exact (hbody (h.enter hb index count item) hfirst).append (ih hothers)

private theorem printedPath_eq {scope : Scope} {place : Place} (h : scope.IsAt place)
    {path : ValuePath} (hw : helper? path.written = none) {reference : Reference}
    (hr : Reference.ofPath? path = some reference) {value : Json}
    (hv : place.find? reference = some (some value)) :
    printedPath scope path = .ok (printed value) := by
  rw [printedPath, hw]
  simp only [h.value?_eq hr hv]
  rfl

private theorem compute_eq {helper : ValueHelper} {spell : String → String}
    (hs : helper.spelling? = some spell) (name : String) (path : Option String) :
    helper.compute ⟨[⟨some (.string name), path⟩], []⟩ = .ok (.string (spell name)) := by
  cases helper <;> cases hs <;> rfl

private theorem applied_eq {scope : Scope} {place : Place} (h : scope.IsAt place) {call : Call}
    {helper : ValueHelper} (hh : helper? call.helper = some (.value helper))
    {spell : String → String} (hs : helper.spelling? = some spell) {reference : Reference}
    (hr : Reference.ofCall? call = some reference) {name : String}
    (hv : place.find? reference = some (some (.string name))) :
    applied scope call = .ok (spell name).toList := by
  obtain ⟨written, hlist, hoptions⟩ := h.operandsOf_eq hr hv
  have hcompute := compute_eq hs name (some written)
  have hcall : operand scope (.call call.helper call.arguments call.options) =
      .ok ⟨some (.string (spell name)), none⟩ := by
    rw [operand, hlist, hoptions, hh]
    change (helper.compute _ >>= fun value => pure (Operand.mk (some value) none)) = _
    rw [hcompute]
    rfl
  rw [applied, hcall]
  rfl

private theorem renderedBlock_eq {scope : Scope} {place : Place} (h : scope.IsAt place)
    {call : Call} {helper : BlockHelper} (hh : helper? call.helper = some (.block helper))
    {reference : Reference} (hr : Reference.ofCall? call = some reference) {value? : Option Json}
    (hv : place.find? reference = some value?) (bodies : Bodies) :
    ∃ written, renderedBlock scope call bodies =
      helper.render ⟨[⟨value?, some written⟩], []⟩ bodies scope := by
  obtain ⟨written, hlist, hoptions⟩ := h.operandsOf_eq hr hv
  refine ⟨written, ?_⟩
  rw [renderedBlock, operandsOf, hlist, hoptions, hh]
  rfl

/-- A choice yields the text of the body or of the alternative. -/
private theorem choose_isText {bodies : Bodies} {scope : Scope} {yes no : Option (List Char)}
    {value positive : Bool} {text : List Char}
    (hbody : yes = some text → IsText (bodies.body scope) text)
    (hother : no = some text → IsText (bodies.otherwise scope (.ok [])) text)
    (hr : (if value = positive then yes else no) = some text) :
    IsText (bodies.choose scope (value == positive)) text := by
  rw [Bodies.choose]
  by_cases he : value = positive
  · rw [if_pos he] at hr
    rw [if_pos (by simpa using he)]
    exact hbody hr
  · rw [if_neg he] at hr
    rw [if_neg (by simpa using he)]
    exact hother hr

private theorem each_isText {bodies : Bodies} (hb : bodies.parameters = [])
    (halternative : bodies.alternative = none) {body : Script}
    (hbody : ∀ {scope : Scope} {place : Place} {text : List Char}, scope.IsAt place →
      body.run place = some text → IsText (bodies.body scope) text)
    {scope : Scope} {place : Place} (h : scope.IsAt place) {items : List Json}
    {parts : List (List Char)}
    (hp : (items.zipIdx.mapM fun (item, i) =>
      body.run (place.ofItem items.length item i)) = some parts) :
    IsText (bodies.each scope (items.map (none, ·))) parts.flatten := by
  have hloop := loop_isText hb hbody h hp
  rw [Bodies.each]
  split
  · next hempty =>
    obtain rfl : items = [] := by simpa using hempty
    rw [Bodies.otherwise, halternative]
    simpa [Bodies.loop] using hloop
  · simpa using hloop

/-- A block that chooses yields the text of the body or of the alternative. -/
private theorem choice_isText {scope : Scope} {place : Place} (h : scope.IsAt place) {call : Call}
    {helper : BlockHelper} (hh : helper? call.helper = some (.block helper)) {bodies : Bodies}
    {positive : Bool}
    (hrender : ∀ value? written, helper.render ⟨[⟨value?, some written⟩], []⟩ bodies scope =
      bodies.choose scope (isTrue false (value?.getD .null) == positive))
    {reference : Reference} (href : Reference.ofCall? call = some reference)
    {yes no next : Script}
    (hyes : ∀ {text}, yes.run place = some text → IsText (bodies.body scope) text)
    (hno : ∀ {text}, no.run place = some text → IsText (bodies.otherwise scope (.ok [])) text)
    {text : List Char} (hr : (Script.choice positive reference yes no next).run place = some text) :
    ∃ front rest, IsText (renderedBlock scope call bodies) front ∧
      next.run place = some rest ∧ text = front ++ rest := by
  simp only [Script.run, Option.bind_eq_bind, Option.bind_eq_some_iff, Option.pure_def,
    Option.some.injEq] at hr
  obtain ⟨value?, hfound, chosen, hchosen, rest, hrest, rfl⟩ := hr
  obtain ⟨written, hblock⟩ := renderedBlock_eq h hh href hfound bodies
  refine ⟨chosen, rest, ?_, hrest, rfl⟩
  rw [hblock, hrender]
  exact choose_isText hyes hno hchosen

/-- A block that repeats yields the texts of the body for the items. -/
private theorem repetition_isText {scope : Scope} {place : Place} (h : scope.IsAt place)
    {call : Call} (hh : helper? call.helper = some (.block .each)) {reference : Reference}
    (href : Reference.ofCall? call = some reference) {bodies : Bodies}
    (hparameters : bodies.parameters = []) (halternative : bodies.alternative = none)
    {body next : Script}
    (hbody : ∀ {scope : Scope} {place : Place} {text : List Char}, scope.IsAt place →
      body.run place = some text → IsText (bodies.body scope) text)
    {text : List Char} (hr : (Script.loop reference body next).run place = some text) :
    ∃ front rest, IsText (renderedBlock scope call bodies) front ∧
      next.run place = some rest ∧ text = front ++ rest := by
  simp only [Script.run, Option.bind_eq_bind, Option.bind_eq_some_iff, Option.pure_def] at hr
  obtain ⟨value?, hfound, hr⟩ := hr
  split at hr
  · next items =>
    simp only [Option.bind_eq_some_iff, Option.some.injEq] at hr
    obtain ⟨parts, hparts, rest, hrest, rfl⟩ := hr
    obtain ⟨written, hblock⟩ := renderedBlock_eq h hh href hfound bodies
    refine ⟨parts.flatten, rest, ?_, hrest, rfl⟩
    rw [hblock]
    exact each_isText hparameters halternative hbody h hparts
  · cases hr

mutual
/-- An element yields what its script does, in front of what the script that follows yields. -/
private theorem element_isText (render : Include) (current : Option String) {scope : Scope}
    {place : Place} (h : scope.IsAt place) (element : Element) {next script : Script}
    (hs : Script.ofElement? next element = some script) {text : List Char}
    (hr : script.run place = some text) :
    ∃ front rest, IsText (renderElement render current scope element) front ∧
      next.run place = some rest ∧ text = front ++ rest := by
  cases element with
  | text chars =>
    rw [Script.ofElement?, Option.some.injEq] at hs
    subst hs
    simp only [Script.run, Option.bind_eq_bind, Option.bind_eq_some_iff, Option.pure_def,
      Option.some.injEq] at hr
    obtain ⟨rest, hrest, rfl⟩ := hr
    exact ⟨chars, rest, .ofText chars, hrest, rfl⟩
  | value path =>
    rw [Script.ofElement?] at hs
    split at hs
    · next reference hw href =>
      cases hs
      simp only [Script.run, Option.bind_eq_bind, Option.bind_eq_some_iff, Option.pure_def,
        Option.some.injEq] at hr
      obtain ⟨value?, hfound, value, rfl, rest, hrest, rfl⟩ := hr
      refine ⟨printed value, rest, ?_, hrest, rfl⟩
      rw [renderElement, printedPath_eq h hw href hfound]
      exact .ofText _
    · cases hs
  | apply call =>
    rw [Script.ofElement?] at hs
    split at hs
    · next helper reference hh href =>
      cases hs
      simp only [Script.run, Option.bind_eq_bind, Option.bind_eq_some_iff, Option.pure_def,
        Option.some.injEq] at hr
      obtain ⟨value?, hfound, name, ⟨value, rfl, hname⟩, spell, hspell, rest, hrest, rfl⟩ := hr
      refine ⟨(spell name).toList, rest, ?_, hrest, rfl⟩
      obtain rfl : value = .string name := by
        cases value <;> simp [Json.text?] at hname
        rw [hname]
      rw [renderElement, applied_eq h hh hspell href hfound]
      exact .ofText _
    · cases hs
  | block call parameters startsLine body alternative =>
    simp only [Script.ofElement?, Option.bind_eq_bind, Option.bind_eq_some_iff] at hs
    obtain ⟨bodyScript, hbody, otherScript, hother, hs⟩ := hs
    rw [renderElement]
    generalize hbodies : Bodies.mk parameters
      (fun scope => do return [.body (← renderElements render none scope body)])
      (renderAlternative render alternative) = bodies
    have hparameters : bodies.parameters = parameters := by rw [← hbodies]
    have halternative : bodies.alternative = renderAlternative render alternative := by
      rw [← hbodies]
    have hyes : ∀ {scope : Scope} {place : Place} {text : List Char}, scope.IsAt place →
        bodyScript.run place = some text → IsText (bodies.body scope) text := by
      intro scope place text h hr
      rw [← hbodies]
      exact (elements_isText render none h body hbody hr).body
    have hno : ∀ {text : List Char}, otherScript.run place = some text →
        IsText (bodies.otherwise scope (.ok [])) text := fun hr =>
      alternative_isText render h alternative hother hr halternative
    -- Where the block starts a line is told around whatever its helper yields.
    suffices hblock : ∃ front rest, IsText (renderedBlock scope call bodies) front ∧
        next.run place = some rest ∧ text = front ++ rest by
      obtain ⟨front, rest, hfront, hrest, htext⟩ := hblock
      exact ⟨front, rest, hfront.block startsLine, hrest, htext⟩
    split at hs
    · next reference hh href =>
      cases hs
      exact choice_isText h hh (fun _ _ => rfl) href (hyes h) hno hr
    · next reference hh href =>
      cases hs
      exact choice_isText h hh (fun _ _ => rfl) href (hyes h) hno hr
    · next reference hh href =>
      cases hs
      exact repetition_isText h hh href hparameters halternative hyes hr
    · cases hs
  | computed call => simp [Script.ofElement?] at hs
  | inclusion template arguments options indentation => simp [Script.ofElement?] at hs
termination_by structural element

/-- Elements yield what their script does. -/
private theorem elements_isText (render : Include) (current : Option String) {scope : Scope}
    {place : Place} (h : scope.IsAt place) (elements : List Element) {script : Script}
    (hs : Script.ofElements? elements = some script) {text : List Char}
    (hr : script.run place = some text) :
    IsText (renderElements render current scope elements) text := by
  cases elements with
  | nil =>
    rw [Script.ofElements?, Option.some.injEq] at hs
    subst hs
    rw [Script.run, Option.some.injEq] at hr
    rw [← hr, renderElements]
    exact .nil
  | cons element rest =>
    simp only [Script.ofElements?, Option.bind_eq_bind, Option.bind_eq_some_iff] at hs
    obtain ⟨next, hnext, hs⟩ := hs
    obtain ⟨front, back, ⟨chunks, hchunks, hflush, rfl⟩, hback, rfl⟩ :=
      element_isText render current h element hs hr
    rw [renderElements, hchunks]
    exact IsText.append ⟨chunks, rfl, hflush, rfl⟩ (elements_isText render _ h rest hnext hback)
termination_by structural elements

/-- The alternative of a block yields what its script does. -/
private theorem alternative_isText (render : Include) {scope : Scope} {place : Place}
    (h : scope.IsAt place) (alternative : Option (List Element)) {script : Script}
    (hs : Script.ofAlternative? alternative = some script) {text : List Char}
    (hr : script.run place = some text) {bodies : Bodies}
    (hb : bodies.alternative = renderAlternative render alternative) :
    IsText (bodies.otherwise scope (.ok [])) text := by
  cases alternative with
  | none =>
    rw [Script.ofAlternative?, Option.some.injEq] at hs
    subst hs
    rw [Script.run, Option.some.injEq] at hr
    rw [← hr, Bodies.otherwise, hb, renderAlternative]
    exact .nil
  | some elements =>
    rw [Script.ofAlternative?] at hs
    rw [Bodies.otherwise, hb, renderAlternative]
    exact (elements_isText render none h elements hs hr).body
termination_by structural alternative
end

/-! ## Templates -/

/-- The script of a body, if it is that of a simple template. -/
def Script.ofBody? (body : String) : Option Script := do ofElements? (← ofText? body)

/-- A simple template is rendered as what its script yields. -/
theorem render_eq_of_run {templates : TemplateCollection} {name : String} {template : Template}
    (ht : Entries.get? name templates = some template) {script : Script}
    (hs : Script.ofElements? template = some script) {data : Json} {text : List Char}
    (hr : script.run { value := data } = some text) :
    templates.render name data = .ok (String.ofList text) := by
  obtain ⟨chunks, hchunks, hflush, rfl⟩ :=
    elements_isText (renderNamed templates 3999) (some name) (.ofData data) template hs hr
  have hrendered : renderNamed templates inclusionLimit name (.ofData data) = .ok chunks := by
    rw [inclusionLimit, renderNamed, ht]
    exact hchunks
  rw [TemplateCollection.render, render, hrendered]
  exact congrArg (fun chars => Except.ok (String.ofList chars)) (textOf_eq_plainText hflush)

end ModelCodegen.Template
