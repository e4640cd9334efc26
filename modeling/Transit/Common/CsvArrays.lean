import Transit.Common.CsvParser
import Transit.Framework.Arrays

/-!
# The arrays of `csv_parse_line` (`common/csv_parser.c`, `common/string_utils.c`)

`csvParseLine` and `strTrim` are about texts. Here are the loops of both over
`char fields[32][256]`: `none` is an access outside of an array or behind the
end of the line.
-/

namespace Transit

open Framework

variable {n : Nat}

/-- `CsvRow`. -/
structure CsvRowArrays where
  fields : FixedArray (FixedArray Byte csvMaxFieldLen) csvMaxFields
  count : Nat

/-- `memset(row, 0, sizeof(*row))`. -/
def CsvRowArrays.cleared : CsvRowArrays := ⟨.fill csvMaxFields (.fill csvMaxFieldLen 0), 0⟩

/-- `memmove(s, s + start, strlen(s + start) + 1)`. -/
def pullFront (s : FixedArray Byte n) (start : Nat) : Option (FixedArray Byte n) :=
  (s.scan (fun b => decide (b ≠ 0)) start).bind fun stop => s.move 0 start (stop - start + 1)

/-- `str_trim`. -/
def strTrimArray (s : FixedArray Byte n) : Option (FixedArray Byte n) :=
  (s.scan (fun b => decide (b ≠ 0) && isspace b) 0).bind fun start =>
  (if start ≠ 0 then pullFront s start else some s).bind fun s =>
  (s.matchesAt 0 bom).bind fun marked =>
  (if marked then pullFront s 3 else some s).bind fun s =>
  (s.read 0).bind fun first =>
  if first = 0 then some s
  else (s.scan (fun b => decide (b ≠ 0)) 0).bind fun stop => s.clearBack isspace 0 stop

/-- `row->fields[field][pos] = c`. -/
def CsvRowArrays.put (row : CsvRowArrays) (field pos : Nat) (c : Byte) : Option CsvRowArrays :=
  (row.fields.update field fun f => f.write pos c).map fun fields => { row with fields := fields }

/-- `row->fields[field][pos] = '\0'; str_trim(row->fields[field])`. -/
def CsvRowArrays.close (row : CsvRowArrays) (field pos : Nat) : Option CsvRowArrays :=
  (row.fields.update field fun f => (f.write pos 0).bind strTrimArray).map fun fields => { row with fields := fields }

/-- The loop and what follows it, from where `p` stands in the line. -/
def csvLoopArrays : (line : List Byte) → (row : CsvRowArrays) → (field pos : Nat) → (inQuotes : Bool) →
    Option (CsvRowArrays × Bool)
  | [], _, _, _, _ => none
  | c :: rest, row, field, pos, inQuotes =>
    if c = 0 ∨ c = 10 ∨ c = 13 then
      (row.close field pos).map fun row => ({ row with count := field + 1 }, decide (field + 1 > 0))
    else if c = 34 then csvLoopArrays rest row field pos (!inQuotes)
    else if c = 44 ∧ !inQuotes then
      (row.close field pos).bind fun row =>
        if field + 1 ≥ csvMaxFields then some ({ row with count := csvMaxFields }, true)
        else csvLoopArrays rest row (field + 1) 0 inQuotes
    else if pos + 1 < csvMaxFieldLen then
      (row.put field pos c).bind fun row => csvLoopArrays rest row field (pos + 1) inQuotes
    else csvLoopArrays rest row field pos inQuotes

/-- `csv_parse_line`: the row and the value returned; the row given is overwritten. -/
def csvParseLineArrays (line : List Byte) (_row : CsvRowArrays) : Option (CsvRowArrays × Bool) :=
  csvLoopArrays line .cleared 0 0 false

end Transit
