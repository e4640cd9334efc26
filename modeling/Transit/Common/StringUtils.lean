import Transit.Common.Libc

/-!
# String helpers (`common/string_utils.c`)

The functions that write into a buffer return its new contents; the buffer
sizes are arguments, as in the source. `current_timestamp` is not here: the
time it reads is part of the environment of a request (`Env`).
-/

namespace Transit

open Framework (cutAt)

/-- The byte order mark of a UTF-8 file. -/
def bom : Str := [0xEF, 0xBB, 0xBF]

def strTrim (s : Str) : Str :=
  let s := s.dropWhile isspace
  let s := if bom.isPrefixOf s then s.drop 3 else s
  s.rdropWhile isspace

def safeStrcpy (dstSize : Nat) (src : Str) : Str := snprintf dstSize src

def strIsBlank (s : Str) : Bool := s.all isspace

def strContainsProtocolDelim (s : Str) : Bool :=
  s.any fun c => c == 124 || c == 59 || c == 10 || c == 13 || c == 0

/-- The number stored in `out`, or `none` where the conversion is refused. -/
def strToInt (s : Str) : Option Int :=
  if strIsBlank s then none
  else
    let (value, rest) := strtol s
    if rest ≠ [] then none else some (toInt32 value)

def splitThreeFields (input : Str) (sep : Byte) (f1Size f2Size f3Size : Nat) :
    Option (Str × Str × Str) :=
  match cutAt sep (safeStrcpy 2048 input) with
  | none => none
  | some (p0, rest) =>
    match cutAt sep rest with
    | none => none
    | some (p1, p2) =>
      some (safeStrcpy f1Size (strTrim p0), safeStrcpy f2Size (strTrim p1),
        safeStrcpy f3Size (strTrim p2))

/-- The new contents of `dst`, and whether `src` fitted; it is left out when it does not. -/
def strAppend (dst : Str) (dstSize : Nat) (src : Str) : Str × Bool :=
  if dst.length + src.length + 1 > dstSize then (dst, false) else (dst ++ src, true)

/-- The new contents of `dst`, and whether the formatted text fitted; it is cut when it does not. -/
def strAppendf (dst : Str) (dstSize : Nat) (text : Str) : Str × Bool :=
  if dst.length ≥ dstSize then (dst, false)
  else (dst ++ snprintf (dstSize - dst.length) text, text.length < dstSize - dst.length)

def keywordMatch (text keyword : Str) : Bool :=
  !strIsBlank keyword && (strstr text keyword).isSome

def stripNewline (s : Str) : Str := s.rdropWhile fun c => c == 10 || c == 13

end Transit
