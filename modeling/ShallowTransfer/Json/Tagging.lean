import ShallowTransfer.Json.Form
import ShallowTransfer.Tagging.Learner

/-!
The JSON forms of tag sets, lexica, rules and taggers, and of the options of lexica and learners.
-/

namespace ShallowTransfer

open Json (Found Fields)

instance : JsonForm TagMatcher where
  write m := .str m.render
  read j := do JsonError.ofConfig (TagMatcher.parse (← Json.readString j))

instance : JsonForm Template where
  write t := .str t.name
  read := Json.readName (Template.all.map fun t => (t.name, t))

/-- The fields of learner options. -/
def LearnerOptions.fieldNames : List String := ["templates", "min_score", "max_rules"]

instance : JsonForm LearnerOptions where
  write o := Json.object [("templates", JsonForm.write o.templates),
    ("min_score", JsonForm.write o.minScore), ("max_rules", JsonForm.write o.maxRules)]
  read j := do
    let f ← Fields.ofValue LearnerOptions.fieldNames j
    f.finish ((((Found.pure LearnerOptions.mk).apply
      (f.optional "templates" LearnerOptions.default.templates)).apply
      (f.optional "min_score" LearnerOptions.default.minScore)).apply
      (f.optional "max_rules" LearnerOptions.default.maxRules))

/-- The fields of lexicon options. -/
def LexiconOptions.fieldNames : List String := ["fallback_tag", "lowercase_lookup"]

instance : JsonForm LexiconOptions where
  write o := Json.object [("fallback_tag", .str o.fallbackTag),
    ("lowercase_lookup", .bool o.lowercaseLookup)]
  read j := do
    let f ← Fields.ofValue LexiconOptions.fieldNames j
    f.finish (((Found.pure LexiconOptions.mk).apply
      (f.optional "fallback_tag" LexiconOptions.default.fallbackTag)).apply
      (f.optional "lowercase_lookup" LexiconOptions.default.lowercaseLookup))

instance : JsonForm TagSet where
  write s := Json.object [("names", JsonForm.write s.names)]
  read j := do
    let f ← Fields.ofValue ["names"] j
    let names ← f.finish (f.required (α := List String) "names")
    JsonError.ofConfig (TagSet.ofNames names)

/-- The fields of a lexicon. -/
def Lexicon.fieldNames : List String := ["tagset", "words", "options"]

instance : JsonForm Lexicon where
  write l := Json.object [("tagset", JsonForm.write l.tagSet), ("words", JsonForm.write l.words),
    ("options", JsonForm.write l.options)]
  read j := do
    let f ← Fields.ofValue Lexicon.fieldNames j
    f.finish ((((Found.pure Lexicon.mk).apply (f.required "tagset")).apply
      (f.required "words")).apply (f.required "options"))

namespace Context

/-- The condition of a template with a single tag as its field. -/
def readTag (make : TagId → Context) (j : Json) : Except JsonError Context := do
  let f ← Fields.ofValue ["tag"] j
  f.finish ((Found.pure make).apply (f.required "tag"))

/-- The condition of a template with a word as its field. -/
def readWord (make : String → Context) (j : Json) : Except JsonError Context := do
  let f ← Fields.ofValue ["word"] j
  f.finish ((Found.pure make).apply (f.required "word"))

/-- The condition on both neighbours. -/
def readSurround (j : Json) : Except JsonError Context := do
  let f ← Fields.ofValue ["prev", "next"] j
  f.finish (((Found.pure surroundTags).apply (f.required "prev")).apply (f.required "next"))

/-- The readers of conditions by the names of their forms. -/
def readers : List (String × (Json → Except JsonError Context)) :=
  [("PrevTag", readTag prevTag), ("NextTag", readTag nextTag), ("PrevTwoTag", readTag prevTwoTag),
    ("NextTwoTag", readTag nextTwoTag), ("PrevOrPrevTwoTag", readTag prevOrPrevTwoTag),
    ("SurroundTags", readSurround), ("PrevWord", readWord prevWord),
    ("NextWord", readWord nextWord), ("CurrentWord", readWord currentWord)]

/-- The condition that an object with a single member writes. -/
def readJson : Json → Except JsonError Context
  | .str _ => .error (.mismatch none)
  | .obj members tail => do
    let (name, j) ← Json.choice members tail
    match readers.lookup name with
    | none => .error (.mismatch none)
    | some reader => do
      let c ← reader j
      Json.closeChoice members tail
      .ok c
  | j => .error (Json.choiceFault j)

/-- The fields of a condition. -/
def fieldsJson : Context → Json
  | prevTag tag => Json.object [("tag", JsonForm.write tag)]
  | nextTag tag => Json.object [("tag", JsonForm.write tag)]
  | prevTwoTag tag => Json.object [("tag", JsonForm.write tag)]
  | nextTwoTag tag => Json.object [("tag", JsonForm.write tag)]
  | prevOrPrevTwoTag tag => Json.object [("tag", JsonForm.write tag)]
  | surroundTags prev next =>
    Json.object [("prev", JsonForm.write prev), ("next", JsonForm.write next)]
  | prevWord word => Json.object [("word", .str word)]
  | nextWord word => Json.object [("word", .str word)]
  | currentWord word => Json.object [("word", .str word)]

/-- The name of the form of a condition. -/
def formName (c : Context) : String :=
  match c.template with
  | .prevTag => "PrevTag"
  | .nextTag => "NextTag"
  | .prevTwoTag => "PrevTwoTag"
  | .nextTwoTag => "NextTwoTag"
  | .prevOrPrevTwoTag => "PrevOrPrevTwoTag"
  | .surroundTags => "SurroundTags"
  | .prevWord => "PrevWord"
  | .nextWord => "NextWord"
  | .currentWord => "CurrentWord"

end Context

instance : JsonForm Context where
  write c := Json.object [(c.formName, c.fieldsJson)]
  read := Context.readJson

/-- The fields of a transformation rule. -/
def TransformRule.fieldNames : List String := ["from", "to", "context"]

instance : JsonForm TransformRule where
  write r := Json.object [("from", JsonForm.write r.source), ("to", JsonForm.write r.target),
    ("context", JsonForm.write r.context)]
  read j := do
    let f ← Fields.ofValue TransformRule.fieldNames j
    f.finish ((((Found.pure TransformRule.mk).apply (f.required "from")).apply
      (f.required "to")).apply (f.required "context"))

instance : JsonForm RuleList where
  write l := Json.object [("rules", JsonForm.write l.rules)]
  read j := do
    let f ← Fields.ofValue ["rules"] j
    f.finish ((Found.pure RuleList.mk).apply (f.required "rules"))

instance : JsonForm Tagger where
  write t := Json.object [("lexicon", JsonForm.write t.lexicon), ("rules", JsonForm.write t.rules)]
  read j := do
    let f ← Fields.ofValue ["lexicon", "rules"] j
    let parts ← f.finish (((Found.pure Prod.mk).apply (f.required (α := Lexicon) "lexicon")).apply
      (f.required (α := RuleList) "rules"))
    JsonError.ofConfig (Tagger.ofRules parts.1 parts.2)

end ShallowTransfer
