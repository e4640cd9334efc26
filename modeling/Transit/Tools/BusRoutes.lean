import Mathlib.Data.List.DropRight
import Transit.Tools.CsvWriter

/-!
# Generating the bus routes (`tools/generate_bus_route_data.py`)

A `str` is the list of its characters; what is written to a file is its UTF-8
(`encode`). The rows are those that `csv.reader` gives for the exported files,
the columns by their numbers; what is printed is left out.
-/

namespace Transit

abbrev PyStr := List Char

def encode (s : PyStr) : Str := s.flatMap String.utf8EncodeChar

/-! ## What the script uses of `str` and `re` -/

/-- `str.isspace` of one character, and `\s`. -/
def isSpaceChar (c : Char) : Bool :=
  let n := c.toNat
  (9 ≤ n && n ≤ 13) || (28 ≤ n && n ≤ 32) || n == 0x85 || n == 0xA0 || n == 0x1680 || (0x2000 ≤ n && n ≤ 0x200A) ||
    n == 0x2028 || n == 0x2029 || n == 0x202F || n == 0x205F || n == 0x3000

/-- `\d`, of the characters that CP949 has. -/
def isDigitChar (c : Char) : Bool :=
  let n := c.toNat
  (48 ≤ n && n ≤ 57) || (0xFF10 ≤ n && n ≤ 0xFF19)

/-- `str.strip`. -/
def strip (s : PyStr) : PyStr := (s.dropWhile isSpaceChar).rdropWhile isSpaceChar

/-- `str.lower`, of the letters that the words looked for have. -/
def lower (s : PyStr) : PyStr := s.map fun c => if 'A' ≤ c ∧ c ≤ 'Z' then Char.ofNat (c.toNat + 32) else c

/-- `word in s`. -/
def contains (word s : PyStr) : Bool := s.tails.any fun t => word.isPrefixOf t

/-- `\d{1,4}` takes all of `s`. -/
def isRouteNumber (s : PyStr) : Bool := 1 ≤ s.length && s.length ≤ 4 && s.all isDigitChar

/-- The group of the first match of `(\d{1,4})\s*번`. -/
def searchRouteNumber : PyStr → Option PyStr
  | [] => none
  | c :: rest =>
    let digits := (c :: rest).takeWhile isDigitChar
    let after := ((c :: rest).dropWhile isDigitChar).dropWhile isSpaceChar
    if 1 ≤ digits.length ∧ digits.length ≤ 4 ∧ after.head? = some '번' then some digits
    else searchRouteNumber rest

/-! ## The columns -/

def column? (row : List PyStr) (i : Nat) : PyStr := row.getD i []

/-- `read_cp949_rows` below the header. -/
def readRows (minColumns : Nat) (rows : List (List PyStr)) : List (List PyStr) :=
  (rows.filter fun row => minColumns ≤ row.length).map fun row => row.map strip

/-- `read_stop_names`, of the two columns it reads; a later row of the same stop replaces an earlier one. -/
def stopNames (rows : List (PyStr × PyStr)) (id : PyStr) : Option PyStr :=
  if id = [] then none
  else (rows.reverse.find? fun row => strip row.1 = id).map fun row => strip row.2

/-- The `dispatch_names` of `main`. -/
def dispatchNames (rows : List (List PyStr)) (id : PyStr) : Option PyStr :=
  (rows.reverse.find? fun row => column? row 0 ≠ [] ∧ column? row 3 = ['1'] ∧ column? row 0 = id).map fun row =>
    column? row 1

def normalizeRouteName (groupName description : PyStr) : PyStr :=
  let name := strip groupName
  let desc := strip description
  if isRouteNumber name then name ++ ['번']
  else if ['순', '환'].isPrefixOf name ∧ isRouteNumber ((name.drop 2).dropWhile isSpaceChar) then
    name.filter (· ≠ ' ') ++ ['번']
  else if name ≠ [] then name
  else
    match searchRouteNumber desc with
    | some number => number ++ ['번']
    | none => if desc ≠ [] then desc else "노선명 미상".toList

def normalizeDirection (description endStopId : PyStr) (stopNames : PyStr → Option PyStr) : PyStr :=
  let desc := (strip description).map fun c => if c = '_' then ' ' else c
  if contains ['방', '면'] desc then desc
  else
    let endName := strip ((stopNames endStopId).getD [])
    if endName ≠ [] then endName ++ [' ', '방', '면']
    else if desc ≠ [] then desc else "방면 미상".toList

def isInactiveText (value : PyStr) : Bool :=
  ["test".toList, "테스트".toList, "신규테스트".toList, "경로 수정".toList, "미상".toList, "삭제".toList].any
    fun word => contains word (lower value)

/-! ## The rows written -/

/-- Whether a row of the routes is skipped. -/
def skipsRow (row : List PyStr) : Bool :=
  column? row 0 == ['0'] || column? row 0 == [] || column? row 4 == [] || column? row 5 == [] ||
    isInactiveText (column? row 1)

/-- The rows of `bus_routes.csv` and `route_stops.csv`, and how many routes were skipped. -/
structure BusRows where
  busRoutes : List (List PyStr)
  routeStops : List (List PyStr)
  skipped : Nat

/-- The loop of `build_rows`. -/
def addRow (dispatchNames stopNames : PyStr → Option PyStr) (rows : BusRows) (row : List PyStr) : BusRows :=
  let routeNo := column? row 0
  let description := column? row 1
  let startStopId := column? row 4
  let endStopId := column? row 5
  if skipsRow row then { rows with skipped := rows.skipped + 1 }
  else
    let routeName := normalizeRouteName ((dispatchNames routeNo).getD []) description
    let direction := normalizeDirection description endStopId stopNames
    { rows with
      busRoutes := rows.busRoutes ++ [[routeNo, routeName, startStopId, endStopId, ['0']]]
      routeStops := rows.routeStops ++ [[routeNo, ['1'], startStopId, direction]] ++
        if endStopId ≠ startStopId then [[routeNo, ['2'], endStopId, direction]] else [] }

/-- `sorted(route_rows, key=lambda item: item[0])`. -/
def sortedRows (routeRows : List (List PyStr)) : List (List PyStr) :=
  routeRows.mergeSort fun a b => !decide (column? b 0 < column? a 0)

def buildRows (routeRows : List (List PyStr)) (dispatchNames stopNames : PyStr → Option PyStr) : BusRows :=
  (sortedRows routeRows).foldl (addRow dispatchNames stopNames) ⟨[], [], 0⟩

def writeCsv (header : List PyStr) (rows : List (List PyStr)) : List Byte :=
  ((header :: rows).map fun row => writerow (row.map encode)).flatten

def busRoutesHeader : List PyStr :=
  ["route_no".toList, "route_name".toList, "start_stop_id".toList, "end_stop_id".toList, "interval_min".toList]

def routeStopsHeader : List PyStr := ["route_no".toList, "seq".toList, "stop_id".toList, "direction".toList]

/-- The two files that `main` writes. -/
def generateBusRoutes (routeRows dispatchRows : List (List PyStr)) (stopRows : List (PyStr × PyStr)) :
    List Byte × List Byte :=
  let rows := buildRows (readRows 7 routeRows) (dispatchNames (readRows 5 dispatchRows)) (stopNames stopRows)
  (writeCsv busRoutesHeader rows.busRoutes, writeCsv routeStopsHeader rows.routeStops)

end Transit
