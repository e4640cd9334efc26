import Transit.Common.StringUtils

/-!
# CSV lines (`common/csv_parser.c`)
-/

namespace Transit

abbrev csvMaxFields : Nat := 32
abbrev csvMaxFieldLen : Nat := 256

/-- The fields of a line; there are `count` of them. -/
structure CsvRow where
  fields : List Str

def CsvRow.count (row : CsvRow) : Nat := row.fields.length

/-- The loop of `csv_parse_line`: `done` are the fields closed so far, `cur`
the one being read. -/
def csvLoop : (line : Str) → (done : List Str) → (cur : Str) → (inQuotes : Bool) → List Str
  | [], done, cur, _ => done ++ [strTrim cur]
  | c :: rest, done, cur, inQuotes =>
    if c = 10 ∨ c = 13 then done ++ [strTrim cur]
    else if c = 34 then csvLoop rest done cur (!inQuotes)
    else if c = 44 ∧ !inQuotes then
      let done := done ++ [strTrim cur]
      if done.length ≥ csvMaxFields then done else csvLoop rest done [] inQuotes
    else if cur.length + 1 < csvMaxFieldLen then csvLoop rest done (cur ++ [c]) inQuotes
    else csvLoop rest done cur inQuotes

def csvParseLine (line : Str) : CsvRow := ⟨csvLoop line [] [] false⟩

def csvFindHeader (header : CsvRow) (name : Str) : Int :=
  match header.fields.findIdx? (· == name) with
  | some i => i
  | none => -1

def csvGet (row : CsvRow) (index : Int) : Str :=
  if index < 0 then [] else (row.fields[index.toNat]?).getD []

end Transit
