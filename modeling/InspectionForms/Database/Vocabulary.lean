import InspectionForms.Database.Expression

namespace InspectionForms

/-- What a function takes: values, those of all rows of a group, or the rows around a row. -/
inductive FunctionKind
  | plain
  | gathering
  | overRows
  deriving DecidableEq, Repr

namespace FunctionKind

/-- The functions that take a fixed number of values, or one of two numbers next to each other. -/
def countedFunctions : List (Nat × Nat × List String) :=
  [(0, 0, ["changes", "current_date", "current_time", "current_timestamp", "fts5_source_id", "last_insert_rowid",
      "random", "sqlite_source_id", "sqlite_version", "total_changes"]),
    (1, 1, ["+", "abs", "fts5", "hex", "json", "json_error_position", "json_quote", "jsonb", "length", "likely",
      "lower", "octet_length", "offsets", "optimize", "quote", "randomblob", "rtreedepth", "sign", "soundex",
      "sqlite_compileoption_get", "sqlite_compileoption_used", "subtype", "typeof", "unicode", "unlikely", "upper",
      "zeroblob"]),
    (1, 2, ["fts3_tokenizer", "json_array_length", "json_pretty", "json_type", "json_valid", "load_extension", "ltrim",
      "matchinfo", "round", "rtrim", "trim", "unhex"]),
    (2, 2, ["->", "->>", "glob", "ifnull", "instr", "json_patch", "jsonb_patch", "likelihood", "match", "nullif",
      "rtreenode", "sqlite_log", "timediff"]),
    (2, 3, ["if", "iif", "like", "substr", "substring"]),
    (3, 3, ["replace"])]

def openFunctions : List (Nat × List String) :=
  [(0, ["bm25", "char", "date", "datetime", "fts5_insttoken", "fts5_locale", "format", "highlight", "json_array",
      "json_extract", "json_insert", "json_object", "json_remove", "json_replace", "json_set", "jsonb_array",
      "jsonb_extract", "jsonb_insert", "jsonb_object", "jsonb_remove", "jsonb_replace", "jsonb_set", "julianday",
      "printf", "rtreecheck", "snippet", "strftime", "time", "unixepoch"]),
    (1, ["concat"]),
    (2, ["coalesce", "concat_ws", "max", "min"])]

def gatheringFunctions : List (Nat × Nat × List String) :=
  [(0, 1, ["count"]),
    (1, 1, ["avg", "json_group_array", "jsonb_group_array", "max", "min", "sum", "total"]),
    (1, 2, ["group_concat"]),
    (2, 2, ["json_group_object", "jsonb_group_object", "string_agg"])]

def overRowsFunctions : List (Nat × Nat × List String) :=
  [(0, 0, ["cume_dist", "dense_rank", "percent_rank", "rank", "row_number"]),
    (1, 1, ["first_value", "last_value", "ntile"]),
    (1, 3, ["lag", "lead"]),
    (2, 2, ["nth_value"])]

def isAmong (table : List (Nat × Nat × List String)) (name : String) (count : Option Nat) : Bool :=
  table.any fun (least, most, names) =>
    names.contains name && count.all fun count => decide (least ≤ count) && decide (count ≤ most)

def ofName? (name : String) (count : Option Nat) : Option FunctionKind :=
  let isOpen := openFunctions.any fun (least, names) => names.contains name && count.all (least ≤ ·)
  if isAmong gatheringFunctions name count then some gathering
  else if isAmong overRowsFunctions name count then some overRows
  else if isAmong countedFunctions name count || isOpen then some plain
  else none

def changingFunctions : List String :=
  ["changes", "current_date", "current_time", "current_timestamp", "last_insert_rowid", "load_extension", "random",
    "randomblob", "sqlite_compileoption_get", "sqlite_compileoption_used", "sqlite_log", "sqlite_source_id",
    "sqlite_version", "total_changes"]

end FunctionKind

end InspectionForms
