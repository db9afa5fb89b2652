import Precis.Text.Numeral

/-!
# Json documents

A document keeps the spelling of its numbers and strings: `number` holds the numeral and `string`
what stands between the quotes, escapes included. So every document has one compact text, and the
reader (`Precis.Json.Reader`) can hand unknown parts on without having understood them.
-/

namespace Precis

/-- A Json document, with numbers and strings as they are spelled. -/
inductive Json where
  | null
  | bool (b : Bool)
  | number (spelling : List Char)
  | string (spelling : List Char)
  | array (items : List Json)
  | object (fields : List (List Char × Json))
  deriving Inhabited

namespace Json

/-- A string between quotes. -/
def quote (spelling : List Char) : List Char := '"' :: spelling ++ ['"']

mutual

/-- The text without any blanks. -/
def compact : Json → List Char
  | null => "null".toList
  | bool true => "true".toList
  | bool false => "false".toList
  | number s => s
  | string s => quote s
  | array items => '[' :: compactItems items
  | object fields => '{' :: compactFields fields

/-- The elements with commas between them and the closing bracket. -/
def compactItems : List Json → List Char
  | [] => [']']
  | [v] => compact v ++ [']']
  | v :: rest => compact v ++ ',' :: compactItems rest

/-- The members with commas between them and the closing brace. -/
def compactFields : List (List Char × Json) → List Char
  | [] => ['}']
  | [(k, v)] => quote k ++ ':' :: compact v ++ ['}']
  | (k, v) :: rest => quote k ++ ':' :: compact v ++ ',' :: compactFields rest

end

/-- A line break and an indentation of `n` steps of two blanks. -/
def newline (n : Nat) : List Char := '\n' :: List.replicate (2 * n) ' '

mutual

/-- The text with one element or member a line, inside `n` open brackets. -/
def indentedAt (n : Nat) : Json → List Char
  | array [] => "[]".toList
  | array items => '[' :: indentedItems n items
  | object [] => "\x7b\x7d".toList
  | object fields => '{' :: indentedFields n fields
  | v => compact v

/-- Elements, each on a line of its own, and the closing bracket. -/
def indentedItems (n : Nat) : List Json → List Char
  | [] => newline n ++ [']']
  | [v] => newline (n + 1) ++ indentedAt (n + 1) v ++ newline n ++ [']']
  | v :: rest => newline (n + 1) ++ indentedAt (n + 1) v ++ ',' :: indentedItems n rest

/-- Members, each on a line of its own, and the closing brace. -/
def indentedFields (n : Nat) : List (List Char × Json) → List Char
  | [] => newline n ++ ['}']
  | [(k, v)] =>
    newline (n + 1) ++ quote k ++ ": ".toList ++ indentedAt (n + 1) v ++ newline n ++ ['}']
  | (k, v) :: rest =>
    newline (n + 1) ++ quote k ++ ": ".toList ++ indentedAt (n + 1) v ++
      ',' :: indentedFields n rest

end

/-- The compact text. -/
def render (v : Json) : String := String.ofList v.compact

/-- The text with one element or member a line, indented by two blanks a level. -/
def renderIndented (v : Json) : String := String.ofList (v.indentedAt 0)

/-- A natural number. -/
def ofNat (n : Nat) : Json := number (Text.decimalDigits n)

/-- An integer. -/
def ofInt (n : Int) : Json := number (Text.signedDigits n)

end Json

end Precis
