import FormAssembly.Text.Unseen

/-!
# Quoted text

Text between double quotes, as it is written for inspection: quotes and backslashes are escaped,
control characters have short names, and every other unseen character is written by its number.
-/

namespace FormAssembly
namespace Quoted

/-- Lower-case hexadecimal digits of `n`, without leading zeros. -/
def hex (n : Nat) : String :=
  String.ofList (Nat.toDigits 16 n)

/-- One character between the quotes. -/
def escape (c : Char) : String :=
  match c with
  | '"' => "\\\""
  | '\\' => "\\\\"
  | '\n' => "\\n"
  | '\r' => "\\r"
  | '\t' => "\\t"
  | c =>
      if c.toNat = 0 then "\\0"
      else if isUnseen c then "\\u\x7b" ++ hex c.toNat ++ "\x7d"
      else c.toString

/-- The text with its quotes. -/
def text (s : String) : String :=
  "\"" ++ String.join (s.toList.map escape) ++ "\""

end Quoted
end FormAssembly
