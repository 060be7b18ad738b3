-- JSON values and their pretty form: two spaces of indent per level, one item or field a line,
-- empty arrays and objects written `[]` and `{}`. The keys of an object made by `record` are
-- kept in byte order. In strings, quotes, backslashes and control characters are escaped;
-- everything else, non-ASCII included, is written as it is.
namespace ConsoleSweep

/-- A JSON value; numbers are whole and not negative. -/
inductive JsonValue where
  | null
  | bool (b : Bool)
  | num (n : Nat)
  | str (s : String)
  | arr (items : List JsonValue)
  | obj (fields : List (String × JsonValue))
deriving Repr, Inhabited

namespace JsonValue

/-- An object with its fields in byte order of their keys. Strings compare by code points,
which is the byte order of their UTF-8 forms. -/
def record (fields : List (String × JsonValue)) : JsonValue :=
  .obj (fields.mergeSort fun a b => !decide (b.1 < a.1))

/-- A list of strings. -/
def strs (items : List String) : JsonValue := .arr (items.map .str)

/-- A list of numbers. -/
def nums (items : List Nat) : JsonValue := .arr (items.map .num)

/-- The hex digit of a number below sixteen, in lower case. -/
def hexDigit (n : Nat) : Char :=
  if n < 10 then Char.ofNat (48 + n) else Char.ofNat (87 + n)

/-- A character as it stands inside a quoted string. -/
def escapeChar (c : Char) : String :=
  if c == '"' then "\\\""
  else if c == '\\' then "\\\\"
  else if c == '\n' then "\\n"
  else if c == '\r' then "\\r"
  else if c == '\t' then "\\t"
  else if c.toNat == 8 then "\\b"
  else if c.toNat == 12 then "\\f"
  else if c.toNat < 32 then
    String.ofList ['\\', 'u', '0', '0', hexDigit (c.toNat / 16), hexDigit (c.toNat % 16)]
  else c.toString

/-- A string quoted. -/
def quote (s : String) : String :=
  "\"" ++ String.join (s.toList.map escapeChar) ++ "\""

/-- The indent of a level. -/
def indent (depth : Nat) : String := String.ofList (List.replicate (2 * depth) ' ')

mutual

/-- The pretty form of a value standing at a level of nesting. -/
def render (depth : Nat) : JsonValue → String
  | .null => "null"
  | .bool b => if b then "true" else "false"
  | .num n => toString n
  | .str s => quote s
  | .arr [] => "[]"
  | .arr items => "[" ++ renderItems (depth + 1) true items ++ "\n" ++ indent depth ++ "]"
  | .obj [] => "\x7b\x7d"
  | .obj fields => "\x7b" ++ renderFields (depth + 1) true fields ++ "\n" ++ indent depth ++ "\x7d"

/-- The items of an array, one a line. -/
def renderItems (depth : Nat) (first : Bool) : List JsonValue → String
  | [] => ""
  | v :: rest =>
    (if first then "\n" else ",\n") ++ indent depth ++ render depth v ++
      renderItems depth false rest

/-- The fields of an object, one a line. -/
def renderFields (depth : Nat) (first : Bool) : List (String × JsonValue) → String
  | [] => ""
  | (k, v) :: rest =>
    (if first then "\n" else ",\n") ++ indent depth ++ quote k ++ ": " ++ render depth v ++
      renderFields depth false rest

end

/-- The pretty form of a value. -/
def pretty (v : JsonValue) : String := render 0 v

end JsonValue

end ConsoleSweep
