import Mathlib.Data.List.DropRight
import Mathlib.Data.Nat.Digits.Defs
import Transit.Framework.Lines
import Transit.Framework.Split

/-!
# Bytes, C strings and the library functions the program calls

A C string is the list of its bytes before the terminating NUL. Text that
comes from a file or a socket may hold NUL bytes; `cstr` is what a `char *`
at its start denotes. `char[n]` fields of structures are `CStr n`, so that a
value too long for its array cannot be built.

`strtol` is that of a 64-bit `long` and saturates at its limits, as glibc's
does; `(int)` casts wrap around (`toInt32`).
-/

namespace Transit

abbrev Byte := UInt8

/-- A C string: the bytes before its NUL. -/
abbrev Str := List Byte

/-- The bytes of a source literal (the sources are UTF-8). -/
def utf8 (s : String) : Str := s.toUTF8.data.toList

/-- The string that starts at the first of these bytes. -/
def cstr (bytes : List Byte) : Str := bytes.takeWhile (· ≠ 0)

def isspace (b : Byte) : Bool := b == 32 || (9 ≤ b && b ≤ 13)

def isdigit (b : Byte) : Bool := 48 ≤ b && b ≤ 57

/-- The conversion of a `long` to `int`. -/
def toInt32 (x : Int) : Int := x.bmod (2 ^ 32)

def intMax : Int := 2 ^ 31 - 1

/-! ## Copying and formatting -/

/-- `snprintf(dst, size, ..)`: what is left of the formatted text. -/
def snprintf (size : Nat) (text : Str) : Str := text.take (size - 1)

/-- What a `char[n]` can hold. -/
abbrev CStr (n : Nat) := { s : Str // s.length ≤ n - 1 }

/-- `snprintf(field, sizeof(field), "%s", src)` into a `char[n]`. -/
def CStr.copy (n : Nat) (src : Str) : CStr n := ⟨snprintf n src, List.length_take_le ..⟩

theorem snprintf_of_le {n : Nat} {s : Str} (h : s.length ≤ n - 1) : snprintf n s = s :=
  List.take_of_length_le h

theorem CStr.copy_of_le {n : Nat} {s : Str} (h : s.length ≤ n - 1) : (CStr.copy n s).val = s :=
  snprintf_of_le h

/-- `%d` of a number that is not negative. -/
def fmtNat (n : Nat) : Str :=
  if n = 0 then [48] else (Nat.digits 10 n).reverse.map fun d => UInt8.ofNat (48 + d)

/-- `%d`. -/
def fmtInt : Int → Str
  | .ofNat n => fmtNat n
  | .negSucc n => 45 :: fmtNat (n + 1)

/-! ## Searching -/

/-- `strstr`: the rest of `text` from the first place where `word` stands. -/
def strstr (text word : Str) : Option Str :=
  if word.isPrefixOf text then some text
  else
    match text with
    | [] => none
    | _ :: rest => strstr rest word

/-! ## Numbers -/

/-- The value of a row of decimal digits. -/
def decimal (ds : Str) : Int := ds.foldl (fun n d => 10 * n + (d.toNat - 48 : Nat)) 0

/-- `strtol(s, &end, 10)`: the value and the text from `end` on. -/
def strtol (s : Str) : Int × Str :=
  let t := s.dropWhile isspace
  let neg := t.head? == some 45
  let u := if neg || t.head? == some 43 then t.tail else t
  let ds := u.takeWhile isdigit
  if ds = [] then (0, s)
  else
    let value := if neg then -decimal ds else decimal ds
    (max (-2 ^ 63) (min (2 ^ 63 - 1) value), u.dropWhile isdigit)

/-- `atoi`, which is `(int)strtol(s, NULL, 10)`. -/
def atoi (s : Str) : Int := toInt32 (strtol s).1

/-! ## Lines -/

def isNewline (b : Byte) : Bool := b == 10

/-- `fgets(line, size, fp)` on what is left of the file: the bytes read and
the rest; nothing at the end of the file. -/
def fgets (size : Nat) (file : List Byte) : Option (List Byte × List Byte) :=
  if file = [] then none else some (Framework.readLine isNewline (size - 1) file)

/-- The strings in `line` over the whole loop `while (fgets(line, size, fp))`. -/
def fgetsAll (size : Nat) (file : List Byte) : List Str :=
  (Framework.readLines isNewline (size - 1) file).map cstr

end Transit
