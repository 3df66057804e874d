import SheetQuery.Json.Printer
import SheetQuery.Text.Template
import SheetQuery.Text.Trim

/-!
# Prompts

The texts that ask a text-generation service for a filter envelope. A prompt is a template with the
entity, the column names and the query put in. Column names and the query are put in as JSON, so that
no character of theirs can end their line.

* `template`: the template;
* `user`: the prompt for one query.
-/

namespace SheetQuery.Prompt

/-- The role that the service is given. -/
def system : String :=
  "You are a strict JSON generator. Always return a single JSON object and nothing else. "
    ++ "No markdown, no comments, no trailing commas."

/-! ## The template -/

/-- What is put into the template. -/
inductive Slot where
  | entity | columns | query
deriving DecidableEq, Repr

/-- The placeholder of a name. -/
def Slot.ofName? (name : String) : Option Slot :=
  [("entity", entity), ("columns", columns), ("query", query)].lookup name

/-- The shape of the object that the service is to return. -/
def shape : List String := [
  "Return ONLY a single JSON object in this schema:",
  "",
  "\x7b",
  "  \"kind\": \"filter\",",
  "  \"entity\": \"clients|workers|tasks\",",
  "  \"filter\": \x7b",
  "    \"op\": \"and|or|not|cmp|includes|contains|in|nin|startsWith|endsWith|regex|exists|notExists|between\",",
  "    \"field\": \"OneOfColumnNames?\",",
  "    \"cmp\": \">|>=|<|<=|==|!=\",",
  "    \"value\": <any>,",
  "    \"values\": [<any>],",
  "    \"from\": <any>,",
  "    \"to\": <any>,",
  "    \"children\": [ <FilterNode> ... ]",
  "  \x7d",
  "\x7d"]

/-- The rules for the names in the object. -/
def rules : List String := [
  "STRICT RULES:",
  "- Target entity is \"$entity\".",
  "- Use ONLY these column names: $columns",
  "- If the user mentions \"skills include X\" for workers, use \x7b\"op\":\"includes\",\"field\":\"Skills\",\"value\":\"X\"\x7d.",
  "- \"not\" takes exactly one child.",
  "- Never use fields that are NOT in the provided column list.",
  "- If unsure, pick the closest matching column name from the list above."]

/-- Lines as one text. -/
def joined (lines : List String) : List Char := ['\n'].intercalate (lines.map String.toList)

/-- The template as it is written, with a line feed at its end. -/
def source : List Char :=
  joined (shape ++ [""] ++ rules ++ ["", "User query:", "$query", ""])

/-- The template. -/
def template : List (Template.Part Slot) :=
  (Template.read? Slot.ofName? source).get (by decide +kernel)

/-- Worked examples. -/
def examples : List String := [
  "Examples (follow the columns list strictly):",
  "",
  "User: \"skills include coding\"",
  "Return:",
  "\x7b\"kind\":\"filter\",\"entity\":\"workers\",\"filter\":\x7b\"op\":\"includes\",\"field\":\"Skills\",\"value\":\"coding\"\x7d\x7d",
  "",
  "User: \"duration between 2 and 5 and preferred phases includes 3\"",
  "Return:",
  "\x7b\"kind\":\"filter\",\"entity\":\"tasks\",\"filter\":\x7b\"op\":\"and\",\"children\":[",
  "  \x7b\"op\":\"between\",\"field\":\"Duration\",\"from\":2,\"to\":5\x7d,",
  "  \x7b\"op\":\"includes\",\"field\":\"PreferredPhases\",\"value\":3\x7d",
  "]\x7d\x7d"]

/-! ## The prompt -/

/-- What is put in for one query. -/
def value (entity : String) (columns : List String) (query : String) : Slot → List Char
  | .entity => entity.toList
  | .columns => Json.print (.list (columns.map .text))
  | .query => Json.print (.text query)

/-- The prompt for one query, perhaps with worked examples after it. -/
def user (entity : String) (columns : List String) (query : String) (withExamples : Bool) :
    String :=
  String.ofList (Text.trim (Template.fill (value entity columns query) template)
    ++ if withExamples then '\n' :: '\n' :: joined examples else [])

end SheetQuery.Prompt
