import PathTemplate.Text.Visibility

/-!
# Quoted text

Text inside a message or a log entry is written between double quotes.  Six characters have an
escape of two characters; a character that would not show, or that would attach itself to its
neighbour, is written by its number.
-/

namespace PathTemplate.Text

def hexadecimal (n : Nat) : String :=
  String.ofList (Nat.toDigits 16 n)

def escape (c : Char) : String :=
  match c with
  | '\x00' => "\\0"
  | '\t' => "\\t"
  | '\n' => "\\n"
  | '\r' => "\\r"
  | '"' => "\\\""
  | '\\' => "\\\\"
  | _ =>
    if isExtending c || isInvisible c then
      "\\u\x7b" ++ hexadecimal c.toNat ++ "\x7d"
    else
      c.toString

def quote (text : String) : String :=
  "\"" ++ String.join (text.toList.map escape) ++ "\""

def quoteList (texts : List String) : String :=
  "[" ++ ", ".intercalate (texts.map quote) ++ "]"

end PathTemplate.Text
