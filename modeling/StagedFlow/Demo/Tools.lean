import StagedFlow.Schema.Build
import StagedFlow.Text.Blank
import StagedFlow.Tool.Typed

/-!
# The tools of the demo server

One tool counts words and characters, the other one writes a note in the notes app.
-/

namespace StagedFlow.Demo

/-! ### Counting words -/

structure WordCountParams where
  text : String

namespace WordCountParams

def record : Record := ⟨"WordCountParams", [.required "text" .string], false⟩

def read (v : Json) : Except ReadFault WordCountParams :=
  (record.read v).map fun fields => ⟨Json.stringAt "text" fields⟩

def schema : Json :=
  Schema.ofRecord "WordCountParams" (some "Parameters for the `word_count` tool.") ["text"]
    [("text", Schema.typed "string" "Text to count.")]

end WordCountParams

structure WordCount where
  words : Nat
  chars : Nat
deriving DecidableEq

namespace WordCount

/-- Words are separated by blanks. -/
def ofText (text : String) : WordCount := ⟨Text.words text, text.length⟩

def toJson (count : WordCount) : Json :=
  .obj [("words", .nat count.words), ("chars", .nat count.chars)]

def countSchema (description : String) : Json :=
  .obj
    [("description", .str description), ("type", .str "integer"), ("format", .str "uint"),
     ("minimum", .int 0)]

def schema : Json :=
  Schema.ofRecord "WordCount" (some "Result of the `word_count` tool.") ["words", "chars"]
    [("words", countSchema "Number of whitespace-separated words."),
     ("chars", countSchema "Number of characters.")]

end WordCount

def wordCountDefinition : ToolDefinition :=
  { ToolDefinition.start "word_count" "Counts words and characters in a text." with
    inputSchema := WordCountParams.schema
    outputSchema := some WordCount.schema }

def wordCountTyping : Typing WordCountParams WordCount where
  read := WordCountParams.read
  answer params _ := .ok (.ofText params.text)
  write := WordCount.toJson

/-! ### Writing notes -/

structure CreateNoteParams where
  title : String
  body : String

namespace CreateNoteParams

def record : Record :=
  ⟨"CreateNoteParams", [.required "title" .string, .defaulted "body" .string], false⟩

def read (v : Json) : Except ReadFault CreateNoteParams :=
  (record.read v).map fun fields => ⟨Json.stringAt "title" fields, Json.stringAt "body" fields⟩

def schema : Json :=
  Schema.ofRecord "CreateNoteParams" (some "Parameters for the `create_note` tool.") ["title"]
    [("title", Schema.typed "string" "Note title."),
     ("body", .obj
       [("description", .str "Note body."), ("type", .str "string"), ("default", .str "")])]

end CreateNoteParams

structure Note where
  id : String
  title : String
  body : String
deriving DecidableEq

namespace Note

def toJson (note : Note) : Json :=
  .obj [("id", .str note.id), ("title", .str note.title), ("body", .str note.body)]

def schema : Json :=
  Schema.ofRecord "Note" (some "Result of the `create_note` tool.") ["id", "title", "body"]
    [("id", Schema.typed "string" "Id derived from the call."),
     ("title", Schema.typed "string" "Note title."),
     ("body", Schema.typed "string" "Note body.")]

def template : String :=
  "<h1>\x7b\x7btitle\x7d\x7d</h1><p>\x7b\x7bbody\x7d\x7d</p>"

/-- A note is known by the call that wrote it; its title must not be blank. -/
def ofParams (params : CreateNoteParams) (call : ToolCall) : Except ToolFault Note :=
  if Text.trim params.title = "" then .error (.parameter "title must not be blank")
  else .ok ⟨"note-" ++ call.callId, params.title, params.body⟩

end Note

def createNoteDefinition : ToolDefinition :=
  { ToolDefinition.start "create_note" "Creates a note in the notes app." with
    inputSchema := CreateNoteParams.schema
    outputSchema := some Note.schema
    owner := some "notes"
    render := some (.html Note.template) }

def createNoteTyping : Typing CreateNoteParams Note where
  read := CreateNoteParams.read
  answer := Note.ofParams
  write := Note.toJson

def tools {X W : Type} : List (Tool X W) :=
  [.typed wordCountDefinition wordCountTyping, .typed createNoteDefinition createNoteTyping]

end StagedFlow.Demo
