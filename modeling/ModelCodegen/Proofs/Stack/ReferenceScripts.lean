import ModelCodegen.Proofs.Stack.DeclarationScripts

/-!
# Scripts of modules that refer to models

Besides the declaration of a model two templates of ember refer to models by name:
a unit test lists the models that its own one needs, and the index of an application
has its models under their names. The database of vuexorm-axios registers all models.
These are the scripts of those templates.
-/

namespace ModelCodegen

open Template Template.Script

namespace StackEmber

/-- Two members in words and dashes, with a slash between them. -/
def dashed (first second : String) (next : Script) : Script :=
  spell .dasherize first <| lit "/" <| spell .dasherize second next

/-- A related model that a unit test needs. -/
def needScript (next : Script) : Script :=
  lit "'model:" <| dashed "app" "related_model" <| lit "'" next

def testScript : Script :=
  lit "import \x7b moduleForModel, test \x7d from 'ember-qunit';\n\nmoduleForModel('" <|
  dashed "application_name" "model_name" <| lit "', 'Unit | Model | " <|
  dashed "application_name" "model_name" <|
  lit ("', \x7b\n  // Specify the other units that are required for this test.\n" ++
    "  needs: [") <|
  whether "relationship_imports" (enumerated "relationships" needScript ", " .done) .done <|
  lit ("]\n\x7d);\n\ntest('it exists', function(assert) \x7b\n" ++
    "  let model = this.subject();\n  assert.ok(!!model);\n\x7d);\n") .done

/-- The import of a model into an index. -/
def itemScript : Script :=
  lit "import " <| out "class_name" <| lit " from '" <| out "import_path" <| lit "';\n" .done

/-- The name of a model in the list of an index. -/
def memberScript (next : Script) : Script :=
  lit "'" <| spell .dasherize "model_name" <| lit "'" next

/-- A model under its key. -/
def keyScript : Script :=
  lit "  '" <| dashed "application_name" "model_name" <| lit "': " <| out "class_name" <|
  lit ",\n" .done

def indexScript : Script :=
  lit "/* eslint-disable */\nimport Ember from 'ember';\n" <| each "items" itemScript <|
  lit "\nexport const metadata = new Ember.Object(\x7b\n  application: '" <|
  spell .dasherize "application_name" <| lit "',\n  models: [" <|
  enumerated "items" memberScript ", " <|
  lit "],\n\x7d);\n\nexport default new Ember.Object(\x7b\n" <| each "items" keyScript <|
  lit "\x7d);\n" .done

/-- The bodies of the templates that refer to models, with the scripts they are read as. -/
theorem ofBody?_references :
    Script.ofBody? test = some testScript ∧ Script.ofBody? index = some indexScript := by
  simp only [Script.ofBody?, ofText?, toList_body, bodyChars, List.flatMap_cons, List.flatMap_nil,
    test, testScript, needScript, index, indexScript, itemScript, memberScript, keyScript, dashed,
    lit, out, spell, whether, each, enumerated, String.toList_append]
  -- The characters of the lines are written out before anything is evaluated.
  repeat rw [String.toList_ofList]
  and_intros <;> decide +kernel

end StackEmber

namespace StackVuexOrmAxios

/-- The registration of a model. -/
def registerScript : Script :=
  lit "database.register(" <| out "class_name" <| lit ");\n" .done

def databaseScript : Script :=
  lit ("/* eslint-disable */\nimport VuexORM from '@vuex-orm/core';\n" ++
    "import VuexORMAxios from '@vuex-orm/plugin-axios';\n" ++
    "import VuexORMisDirtyPlugin from '@vuex-orm/plugin-change-flags';\n" ++
    "import axios from '@/store/http';\n") <|
  each "items" StackEmber.itemScript <|
  lit ("\nVuexORM.use(VuexORMAxios, \x7b\n  axios,\n\x7d);\n" ++
    "VuexORM.use(VuexORMisDirtyPlugin);\nconst database = new VuexORM.Database();\n") <|
  each "items" registerScript <| lit "\nexport default database;\n" .done

/-- The body of the database, with the script it is read as. -/
theorem ofBody?_database : Script.ofBody? database = some databaseScript := by
  simp only [Script.ofBody?, ofText?, toList_body, bodyChars, List.flatMap_cons, List.flatMap_nil,
    database, databaseScript, StackEmber.itemScript, registerScript, lit, out, each,
    String.toList_append]
  repeat rw [String.toList_ofList]
  decide +kernel

end StackVuexOrmAxios

end ModelCodegen
