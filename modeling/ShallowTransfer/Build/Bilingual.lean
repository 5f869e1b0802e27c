import ShallowTransfer.Build.Lines
import ShallowTransfer.Lexical.Dictionary

/-!
Files of bilingual rows. A row holds forms of the target language, forms of the source language and
possibly a tag; forms are separated by semicolons. All source forms get all target forms, ranked in
the order in which they are listed.
-/

namespace ShallowTransfer.Build

/-- What a row should look like. -/
def rowMessage : String := "expected `english;english<TAB>spanish;spanish[<TAB>tag]`"

/-- The forms of a column. -/
def forms (column : List Char) : List String :=
  (((splitAt ';' column).map Text.trimChars).filter fun f => !f.isEmpty).map String.ofList

/-- A row: target forms, source forms and the matcher of the tag. -/
structure Row where
  targets : List String
  sources : List String
  tag : Option TagMatcher
deriving Repr, DecidableEq

/-- The matcher in the column of the tag, which may be empty. -/
def Line.matcher (path : String) (l : Line) (column : List Char) :
    Except Error (Option TagMatcher) :=
  if column.isEmpty then .ok none
  else
    match TagMatcher.parse (String.ofList column) with
    | .ok m => .ok (some m)
    | .error e => .error (l.error path e.message)

/-- The row of three columns. -/
def Line.rowOf (path : String) (l : Line) (targets sources tag : List Char) :
    Except Error Row := do
  let matcher ← l.matcher path tag
  let row : Row := ⟨forms targets, forms sources, matcher⟩
  if row.targets.isEmpty || row.sources.isEmpty then .error (l.error path "empty translation")
  else .ok row

/-- The row on a line. -/
def Line.row (path : String) (l : Line) : Except Error Row :=
  match l.columns with
  | [targets, sources] => l.rowOf path targets sources []
  | [targets, sources, tag] => l.rowOf path targets sources tag
  | _ => .error (l.error path rowMessage)

/-- The entries of a row for each of its source forms. -/
def Row.entries (r : Row) : List Entry :=
  r.targets.zipIdx.map fun t =>
    { Entry.plain t.1 with tag := r.tag, rank := UInt32.ofNat t.2 }

/-- All source forms of a row with all their entries, in the order in which they are added. -/
def Row.additions (r : Row) : List (String × Entry) :=
  r.sources.flatMap fun s => r.entries.map fun e => (s, e)

/-- The dictionary with the entries of a row. -/
def addRow (d : Dictionary) (r : Row) : Dictionary :=
  r.additions.foldl (fun d a => d.insert a.1 a.2) d

/-- Reads a dictionary. -/
def parseDictionary (text path : String) (options : DictionaryOptions) :
    Except Error Dictionary := do
  let rows ← ((lines text).filter fun l => !l.isBlank).mapM (Line.row path)
  .ok (rows.foldl addRow (Dictionary.empty options))

end ShallowTransfer.Build
