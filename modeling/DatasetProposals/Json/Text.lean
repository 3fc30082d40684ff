import DatasetProposals.Json.Value
/-! Writing JSON text: compact, with the quote, the backslash and the control characters escaped,
and doubles with their fewest digits. -/
namespace DatasetProposals
namespace Json

def hexDigit (n : Nat) : Char :=
  if n < 10 then Char.ofNat (48 + n) else Char.ofNat (87 + n)

def escapeChar (c : Char) : String :=
  if c == '"' then "\\\""
  else if c == '\\' then "\\\\"
  else if c == '\n' then "\\n"
  else if c == '\r' then "\\r"
  else if c == '\t' then "\\t"
  else if c.toNat == 8 then "\\b"
  else if c.toNat == 12 then "\\f"
  else if c.toNat < 32 then
    "\\u00" ++ (hexDigit (c.toNat / 16)).toString ++ (hexDigit (c.toNat % 16)).toString
  else c.toString

def quote (s : String) : String :=
  "\"" ++ String.join (s.toList.map escapeChar) ++ "\""

def floatFormat : Text.FloatFormat := ⟨some (-5, 15), 1⟩

mutual
def renderWith (number : Numeral → String) : Json → String
  | null => "null"
  | bool true => "true"
  | bool false => "false"
  | int n => toString n
  | float n => number n
  | str s => quote s
  | arr xs => "[" ++ renderItemsWith number xs ++ "]"
  | obj fs => "\x7b" ++ renderFieldsWith number fs ++ "\x7d"

def renderItemsWith (number : Numeral → String) : List Json → String
  | [] => ""
  | [x] => renderWith number x
  | x :: xs => renderWith number x ++ "," ++ renderItemsWith number xs

def renderFieldsWith (number : Numeral → String) : List (String × Json) → String
  | [] => ""
  | [(k, v)] => quote k ++ ":" ++ renderWith number v
  | (k, v) :: fs => quote k ++ ":" ++ renderWith number v ++ "," ++ renderFieldsWith number fs
end

def render : Json → String := renderWith fun n => n.toDouble.write floatFormat

end Json
end DatasetProposals
