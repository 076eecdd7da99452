import FormAssembly.Json.Basic

/-!
# Reading JSON

`Json.parse?` reads one value that fills a whole text, up to blanks around it. A number has no
superfluous leading zeros; a string has no raw control characters and only the escapes that JSON
knows, but a surrogate escape need not be half of a pair.
-/

namespace FormAssembly
namespace JsonReader

/-! ## Pieces of text -/

/-- Space, tab, line feed or carriage return. -/
def isBlank (c : Char) : Bool :=
  c = ' ' || c = '\t' || c = '\n' || c = '\r'

def skipBlanks (cs : List Char) : List Char :=
  cs.dropWhile isBlank

def isDigit (c : Char) : Bool :=
  '0' ≤ c && c ≤ '9'

/-- One digit or more, and the rest. -/
def digits? (cs : List Char) : Option (List Char × List Char) :=
  let digits := cs.takeWhile isDigit
  if digits.isEmpty then none else some (digits, cs.dropWhile isDigit)

/-- The rest after a given beginning. -/
def after? : List Char → List Char → Option (List Char)
  | [], cs => some cs
  | p :: ps, c :: cs => if p = c then after? ps cs else none
  | _ :: _, [] => none

/-- The fraction of a number, if it has one. -/
def fraction? : List Char → Option (Option (List Char) × List Char)
  | '.' :: cs => (digits? cs).map fun (digits, rest) => (some digits, rest)
  | cs => some (none, cs)

/-- The exponent of a number, if it has one. -/
def exponent? (cs : List Char) : Option (Option (Bool × List Char) × List Char) :=
  let signed (cs : List Char) : Option (Option (Bool × List Char) × List Char) :=
    match cs with
    | '-' :: cs => (digits? cs).map fun (digits, rest) => (some (true, digits), rest)
    | '+' :: cs => (digits? cs).map fun (digits, rest) => (some (false, digits), rest)
    | cs => (digits? cs).map fun (digits, rest) => (some (false, digits), rest)
  match cs with
  | 'e' :: cs => signed cs
  | 'E' :: cs => signed cs
  | cs => some (none, cs)

/-- A number and the rest. -/
def number? (cs : List Char) : Option (NumberLiteral × List Char) := do
  let (negative, cs) := match cs with
    | '-' :: cs => (true, cs)
    | cs => (false, cs)
  let (whole, cs) ← digits? cs
  if whole.head? = some '0' && whole.length ≠ 1 then none
  let (fraction, cs) ← fraction? cs
  let (exponent, cs) ← exponent? cs
  return (⟨negative, whole, fraction, exponent⟩, cs)

/-- The body of a string after its opening quote, and the rest after its closing quote. -/
def body? : List Char → Option (List Char × List Char)
  | [] => none
  | '"' :: rest => some ([], rest)
  | '\\' :: 'u' :: a :: b :: c :: d :: rest =>
      if (JsonText.hex4? a b c d).isSome then
        (body? rest).map fun (body, rest) => ('\\' :: 'u' :: a :: b :: c :: d :: body, rest)
      else
        none
  | '\\' :: c :: rest =>
      if (JsonText.shortEscape? c).isSome then
        (body? rest).map fun (body, rest) => ('\\' :: c :: body, rest)
      else
        none
  | c :: rest =>
      if c = '\\' || c.toNat < 0x20 then none
      else (body? rest).map fun (body, rest) => (c :: body, rest)

/-! ## Values -/

mutual

/-- A value, with blanks before it, and the rest. No value nests deeper than `depth`. -/
def value? : (depth : Nat) → List Char → Option (Json × List Char)
  | 0, _ => none
  | depth + 1, cs =>
      match skipBlanks cs with
      | [] => none
      | '"' :: rest => (body? rest).map fun (body, rest) => (.string body, rest)
      | '[' :: rest =>
          match skipBlanks rest with
          | ']' :: rest => some (.array [], rest)
          | _ => (items? depth rest).map fun (items, rest) => (.array items, rest)
      | '\x7b' :: rest =>
          match skipBlanks rest with
          | '\x7d' :: rest => some (.object [], rest)
          | _ => (members? depth rest).map fun (members, rest) => (.object members, rest)
      | 'n' :: rest => (after? ['u', 'l', 'l'] rest).map fun rest => (.null, rest)
      | 't' :: rest => (after? ['r', 'u', 'e'] rest).map fun rest => (.bool true, rest)
      | 'f' :: rest => (after? ['a', 'l', 's', 'e'] rest).map fun rest => (.bool false, rest)
      | rest => (number? rest).map fun (literal, rest) => (.number literal, rest)

/-- Items up to the closing bracket, and the rest after it. -/
def items? : (depth : Nat) → List Char → Option (List Json × List Char)
  | 0, _ => none
  | depth + 1, cs => do
      let (item, cs) ← value? depth cs
      match skipBlanks cs with
      | ',' :: cs =>
          let (items, cs) ← items? depth cs
          return (item :: items, cs)
      | ']' :: cs => return ([item], cs)
      | _ => none

/-- Members up to the closing brace, and the rest after it. -/
def members? : (depth : Nat) → List Char → Option (List (List Char × Json) × List Char)
  | 0, _ => none
  | depth + 1, cs =>
      match skipBlanks cs with
      | '"' :: cs => do
          let (name, cs) ← body? cs
          let cs ← after? [':'] (skipBlanks cs)
          let (value, cs) ← value? depth cs
          match skipBlanks cs with
          | ',' :: cs =>
              let (members, cs) ← members? depth cs
              return ((name, value) :: members, cs)
          | '\x7d' :: cs => return ([(name, value)], cs)
          | _ => none
      | _ => none

end

end JsonReader

/-- The value that a text consists of. -/
def Json.parse? (text : String) : Option Json :=
  -- every level of nesting and every item takes a character
  match JsonReader.value? (text.length + 1) text.toList with
  | some (json, rest) => if (JsonReader.skipBlanks rest).isEmpty then some json else none
  | none => none

end FormAssembly
