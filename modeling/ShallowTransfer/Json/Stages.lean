import ShallowTransfer.Chunking.Chunker
import ShallowTransfer.Json.Tagging
import ShallowTransfer.Lexical.Dictionary
import ShallowTransfer.Reordering.Transfer

/-!
The JSON forms of chunk grammars, syntactic rules and dictionaries. A form that breaks a rule of its
type is refused with the configuration error of the stage.
-/

namespace ShallowTransfer

open Json (Found Fields)

instance : JsonForm ChunkKind where
  write k := .str k.label
  read := Json.readName (ChunkKind.all.map fun k => (k.label, k))

/-- Reads a length that is not zero. -/
def ChunkLength.ofNumber? (n : UInt64) : Option ChunkLength :=
  if h : n ≠ 0 then some ⟨n, h⟩ else none

instance : JsonForm ChunkLength where
  write n := JsonForm.write n.val
  read j := do
    match ChunkLength.ofNumber? (← JsonForm.read j) with
    | some n => .ok n
    | none => .error (.mismatch none)

/-- The fields of a chunk rule. -/
def ChunkRule.fieldNames : List String := ["kind", "starts", "continues", "max_len"]

instance : JsonForm ChunkRule where
  write r := Json.object [("kind", JsonForm.write r.kind), ("starts", JsonForm.write r.starts),
    ("continues", JsonForm.write r.continues), ("max_len", JsonForm.write r.maxLength)]
  read j := do
    let f ← Fields.ofValue ChunkRule.fieldNames j
    f.finish (((((Found.pure ChunkRule.mk).apply (f.required "kind")).apply
      (f.required "starts")).apply (f.optional "continues" [])).apply (f.optional "max_len" none))

instance : JsonForm ChunkGrammar where
  write g := Json.object [("rules", JsonForm.write g.rules)]
  read j := do
    let f ← Fields.ofValue ["rules"] j
    f.finish ((Found.pure ChunkGrammar.mk).apply (f.required "rules"))

instance : JsonForm Chunker where
  write c := JsonForm.write c.grammar
  read j := do JsonError.ofConfig (Chunker.ofGrammar (← JsonForm.read j))

instance : JsonForm RuleLevel where
  write l := .str l.name
  read := Json.readName [("chunk", .chunk), ("token", .token)]

/-- The fields of a stored syntactic rule. -/
def RuleForm.fieldNames : List String :=
  ["name", "level", "pattern", "output", "within", "single_chunk"]

instance : JsonForm RuleForm where
  write r := Json.object [("name", .str r.name), ("level", JsonForm.write r.level),
    ("pattern", JsonForm.write r.pattern), ("output", JsonForm.write r.output),
    ("within", JsonForm.write r.within), ("single_chunk", .bool r.singleChunk)]
  read j := do
    let f ← Fields.ofValue RuleForm.fieldNames j
    f.finish (((((((Found.pure RuleForm.mk).apply (f.required "name")).apply
      (f.required "level")).apply (f.required "pattern")).apply (f.required "output")).apply
      (f.optional "within" [])).apply (f.optional "single_chunk" false))

instance : JsonForm SyntacticRule where
  write r := JsonForm.write r.toForm
  read j := do JsonError.ofConfig (SyntacticRule.ofForm (← JsonForm.read j))

instance : JsonForm SyntacticTransfer where
  write t := Json.object [("rules", JsonForm.write t.rules)]
  read j := do
    let f ← Fields.ofValue ["rules"] j
    f.finish ((Found.pure SyntacticTransfer.mk).apply (f.required "rules"))

/-- The fields of a dictionary entry. -/
def Entry.fieldNames : List String := ["target", "tag", "rank", "prev", "next"]

instance : JsonForm Entry where
  write e := Json.object [("target", .str e.target), ("tag", JsonForm.write e.tag),
    ("rank", JsonForm.write e.rank), ("prev", JsonForm.write e.prev),
    ("next", JsonForm.write e.next)]
  read j := do
    let f ← Fields.ofValue Entry.fieldNames j
    f.finish ((((((Found.pure Entry.mk).apply (f.required "target")).apply
      (f.optional "tag" none)).apply (f.optional "rank" 0)).apply
      (f.optional "prev" none)).apply (f.optional "next" none))

instance : JsonForm DictionaryOptions where
  write o := Json.object [("preserve_case", .bool o.preserveCase)]
  read j := do
    let f ← Fields.ofValue ["preserve_case"] j
    f.finish ((Found.pure DictionaryOptions.mk).apply
      (f.optional "preserve_case" DictionaryOptions.default.preserveCase))

instance : JsonForm Dictionary where
  write d := Json.object [("entries", JsonForm.write d.entries),
    ("options", JsonForm.write d.options)]
  read j := do
    let f ← Fields.ofValue ["entries", "options"] j
    f.finish (((Found.pure Dictionary.mk).apply (f.required "entries")).apply
      (f.required "options"))

end ShallowTransfer
