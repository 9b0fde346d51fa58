import ServiceBus.Text.Hidden

/-!
Quoted text and labelled records, the two shapes in which values appear in diagnostics. A quoted
text escapes the quote, the backslash and what cannot be shown; a record lists its fields between
braces in a fixed order.
-/
namespace ServiceBus.Text

def escape (c : Char) : String :=
  match c with
  | '\x00' => "\\0"
  | '\t' => "\\t"
  | '\r' => "\\r"
  | '\n' => "\\n"
  | '"' => "\\\""
  | '\\' => "\\\\"
  | c =>
    if isHidden c then
      "\\u\x7b" ++ String.ofList (Nat.toDigits 16 c.toNat) ++ "\x7d"
    else c.toString

def quote (s : String) : String :=
  "\"" ++ String.join (s.toList.map escape) ++ "\""

def optional : Option String → String
  | none => "None"
  | some s => "Some(" ++ s ++ ")"

/-- A record with at least one field. -/
def labelled (name : String) (fields : List (String × String)) : String :=
  name ++ " \x7b " ++ String.intercalate ", " (fields.map fun f => f.1 ++ ": " ++ f.2) ++ " \x7d"

def ofBool (b : Bool) : String := if b then "true" else "false"

end ServiceBus.Text
