/-!
# JSON text

The values that are printed as JSON, and their compact text: no blanks, fields in the order they
are given, controls, quotes and backslashes escaped and every other character as it is.
-/

namespace DeviceBus

/-- A value to be printed as JSON. -/
inductive JsonValue where
  | text (value : String)
  | number (value : Nat)
  | flag (value : Bool)
  | list (items : List JsonValue)
  | object (fields : List (String × JsonValue))

namespace JsonValue

/-- A character inside a JSON string. -/
def escapeChar (c : Char) : List Char :=
  if c = '"' then ['\\', '"']
  else if c = '\\' then ['\\', '\\']
  else if c = '\x08' then ['\\', 'b']
  else if c = '\x0c' then ['\\', 'f']
  else if c = '\n' then ['\\', 'n']
  else if c = '\r' then ['\\', 'r']
  else if c = '\t' then ['\\', 't']
  else if c.toNat < 0x20 then
    ['\\', 'u', '0', '0', Nat.digitChar (c.toNat / 16), Nat.digitChar (c.toNat % 16)]
  else [c]

/-- A string with its quotes. -/
def quote (value : String) : String :=
  String.ofList (['"'] ++ value.toList.flatMap escapeChar ++ ['"'])

/-- Pieces between two brackets, with commas between them. -/
def bracket (left right : Char) (pieces : List String) : String :=
  left.toString ++ String.intercalate "," pieces ++ right.toString

mutual

/-- The text of a value. -/
def render : JsonValue → String
  | text value => quote value
  | number value => toString value
  | flag value => if value then "true" else "false"
  | list items => bracket '[' ']' (renderItems items)
  | object fields => bracket '\x7b' '\x7d' (renderFields fields)

/-- The texts of some values. -/
def renderItems : List JsonValue → List String
  | [] => []
  | item :: rest => render item :: renderItems rest

/-- The texts of some fields. -/
def renderFields : List (String × JsonValue) → List String
  | [] => []
  | (name, value) :: rest => (quote name ++ ":" ++ render value) :: renderFields rest

end

/-- A field that is left out if there is no value. -/
def optional (name : String) (value : Option JsonValue) : List (String × JsonValue) :=
  match value with
  | some value => [(name, value)]
  | none => []

end JsonValue

end DeviceBus
