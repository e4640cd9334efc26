import Transit.Common.Libc

/-!
# The rows the data generators write (`tools/generate_bus_route_data.py`, `tools/generate_subway_data.py`)

`write_csv` hands its rows to Python's `csv.writer`, whose defaults are a comma
between fields, quotes only where they are needed and `\r\n` behind a row. The
files are UTF-8, so that a row is the list of the bytes of its fields.
-/

namespace Transit

open Framework (quoted)

/-- Whether the writer puts a field in quotes. -/
def needsQuotes (f : Str) : Bool := f.any fun b => b == 44 || b == 34 || b == 10 || b == 13

def writeField (f : Str) : Str := if needsQuotes f then quoted 34 f else f

/-- `writer.writerow(row)`. A single empty field is put in quotes: its line would be empty. -/
def writerow (fields : List Str) : Str :=
  (if fields = [[]] then quoted 34 [] else [44].intercalate (fields.map writeField)) ++ [13, 10]

end Transit
