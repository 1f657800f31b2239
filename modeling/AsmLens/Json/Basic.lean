import AsmLens.Text.Quoted
import AsmLens.Text.Units

namespace AsmLens

/-- A value of JSON with whole numbers. -/
inductive Json where
  | null
  | bool (value : Bool)
  | number (value : Int)
  | text (value : Text)
  | array (items : List Json)
  | object (fields : List (Text × Json))

namespace Json

/-- The value of a field of an object. -/
def field? (key : Text) : Json → Option Json
  | .object fields => (fields.find? fun field => field.1 = key).map Prod.snd
  | _ => none

/-- The item of an array at an index. -/
def item? (index : Nat) : Json → Option Json
  | .array items => items[index]?
  | _ => none

/-- A code unit as an escape. -/
def unitEscape (unit : Nat) : Text :=
  "\\u" ++ Text.hex 4 unit

/-- Quotes, backslashes, controls and all that is not ASCII are escaped. -/
def escapeChar (c : Char) : Text :=
  if c = '"' then "\\\""
  else if c = '\\' then "\\\\"
  else if c = '\n' then "\\n"
  else if c = '\r' then "\\r"
  else if c = '\t' then "\\t"
  else if c = '\x0c' then "\\f"
  else if c = '\x08' then "\\b"
  else if 0x20 ≤ c.toNat ∧ c.toNat < 0x7f then [c]
  else (Text.unitsOf c).flatMap unitEscape

def renderText (text : Text) : Text :=
  '"' :: (text.flatMap escapeChar ++ ['"'])

/-- A new line, indented by two spaces for each level. -/
def lineBreak (depth : Nat) : Text :=
  '\n' :: List.replicate (2 * depth) ' '

mutual

/-- A value over several lines, as it stands at some level of indentation. -/
def render (depth : Nat) : Json → Text
  | .null => "null"
  | .bool true => "true"
  | .bool false => "false"
  | .number value => Text.ofInt value
  | .text value => renderText value
  | .array [] => "[]"
  | .array (item :: items) =>
      "[" ++ lineBreak (depth + 1) ++ render (depth + 1) item ++ renderItems (depth + 1) items ++
        lineBreak depth ++ "]"
  | .object [] => "\x7b\x7d"
  | .object (field :: fields) =>
      "\x7b" ++ lineBreak (depth + 1) ++ renderField (depth + 1) field ++
        renderFields (depth + 1) fields ++ lineBreak depth ++ "\x7d"

def renderItems (depth : Nat) : List Json → Text
  | [] => []
  | item :: items => "," ++ lineBreak depth ++ render depth item ++ renderItems depth items

def renderField (depth : Nat) : Text × Json → Text
  | (key, value) => renderText key ++ ": " ++ render depth value

def renderFields (depth : Nat) : List (Text × Json) → Text
  | [] => []
  | field :: fields => "," ++ lineBreak depth ++ renderField depth field ++ renderFields depth fields

end

end Json

end AsmLens
