import FeatureFlags.Decimal.Layout
import FeatureFlags.Json.Basic
import FeatureFlags.Text.Quoted

/-!
# JSON as text

The compact text of a value (`Json.render`): no spaces, members in the order of
their keys, control characters escaped and everything else as it is. The outline
of a value (`Json.outline`) names the kind of every part, for people to read.
-/

namespace FeatureFlags

/-- Floats are positional from `0.00001` up to sixteen digits before the point. -/
def jsonNumbers : DecimalLayout := ⟨-5, 15⟩

def Number.render : Number → String
  | .int i => toString i
  | .float x => jsonNumbers.render x

namespace Json

/-- One character of a JSON string. -/
def escapedChar (c : Char) : List Char :=
  match c with
  | '"' => ['\\', '"']
  | '\\' => ['\\', '\\']
  | '\x08' => ['\\', 'b']
  | '\x0c' => ['\\', 'f']
  | '\n' => ['\\', 'n']
  | '\r' => ['\\', 'r']
  | '\t' => ['\\', 't']
  | c =>
    if c < ' ' then
      ['\\', 'u', '0', '0', Nat.digitChar (c.toNat / 16), Nat.digitChar (c.toNat % 16)]
    else [c]

/-- A JSON string literal. -/
def renderString (s : String) : String :=
  String.ofList ('"' :: s.toList.flatMap escapedChar ++ ['"'])

end Json

mutual

/-- The compact text of a value. -/
def Json.render : Json → String
  | .null => "null"
  | .bool true => "true"
  | .bool false => "false"
  | .number n => n.render
  | .string s => Json.renderString s
  | .array items => "[" ++ ",".intercalate (renderItems items) ++ "]"
  | .object members => "\x7b" ++ ",".intercalate members.renderAll ++ "\x7d"

def renderItems : List Json → List String
  | [] => []
  | item :: rest => item.render :: renderItems rest

def Members.renderAll {lo : Option String} : Members lo → List String
  | .nil => []
  | .cons key value _ rest => (Json.renderString key ++ ":" ++ value.render) :: rest.renderAll

end

mutual

/-- A value with the kind of every part named. -/
def Json.outline : Json → String
  | .null => "Null"
  | .bool true => "Bool(true)"
  | .bool false => "Bool(false)"
  | .number n => "Number(" ++ n.render ++ ")"
  | .string s => "String(" ++ quoted s ++ ")"
  | .array items => "Array [" ++ ", ".intercalate (outlineItems items) ++ "]"
  | .object members => "Object " ++ ("\x7b" ++ ", ".intercalate members.outlineAll ++ "\x7d")

def outlineItems : List Json → List String
  | [] => []
  | item :: rest => item.outline :: outlineItems rest

def Members.outlineAll {lo : Option String} : Members lo → List String
  | .nil => []
  | .cons key value _ rest => (quoted key ++ ": " ++ value.outline) :: rest.outlineAll

end

/-- The outline of a tree. -/
def Tree.outline (t : Tree) : String := "\x7b" ++ ", ".intercalate t.outlineAll ++ "\x7d"

end FeatureFlags
