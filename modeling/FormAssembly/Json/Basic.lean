import FormAssembly.Number.Binary64

/-!
# JSON values

A `Json` is a JSON text after reading: numbers and strings are kept as they were written, members
of objects in their order and with repetitions. What a number or a string stands for is asked for
separately, because a text may hold numbers and strings that stand for nothing and yet be read past.
-/

namespace FormAssembly

/-- A number as written. -/
structure NumberLiteral where
  negative : Bool
  /-- Digits before the point. -/
  whole : List Char
  /-- Digits after the point, if there is one. -/
  fraction : Option (List Char)
  /-- Sign and digits of the exponent, if there is one. -/
  exponent : Option (Bool × List Char)
  deriving DecidableEq

/-- A JSON value as written. -/
inductive Json
  | null
  | bool (value : Bool)
  | number (literal : NumberLiteral)
  /-- What stands between the quotes. -/
  | string (body : List Char)
  | array (items : List Json)
  /-- Members with what stands between the quotes of their names. -/
  | object (members : List (List Char × Json))

/-! ## Numbers -/

namespace NumberLiteral

/-- Value of a sequence of decimal digits. -/
def digitsValue (digits : List Char) : Nat :=
  digits.foldl (fun n d => 10 * n + (d.toNat - '0'.toNat)) 0

/-- The number, if it is written as an integer without sign. -/
def natural? (n : NumberLiteral) : Option Nat :=
  if n.negative || n.fraction.isSome || n.exponent.isSome then none
  else some (digitsValue n.whole)

/-- The number, if it is written as an integer without sign and fits into 64 bits. -/
def word? (n : NumberLiteral) : Option Nat :=
  n.natural?.filter (· < UInt64.size)

/-- The binary64 number nearest to the one written. -/
def toBinary64 (n : NumberLiteral) : Binary64 :=
  let fraction := n.fraction.getD []
  let exponent : Int := match n.exponent with
    | none => 0
    | some (negative, digits) =>
        if negative then -(digitsValue digits : Int) else digitsValue digits
  Binary64.ofDecimal n.negative (digitsValue (n.whole ++ fraction)) (exponent - fraction.length)

/-- An integer without sign. -/
def ofNat (n : Nat) : NumberLiteral :=
  ⟨false, Nat.toDigits 10 n, none, none⟩

end NumberLiteral

/-! ## Strings -/

namespace JsonText

/-- Value of a hexadecimal digit. -/
def hexValue? (c : Char) : Option Nat :=
  if '0' ≤ c && c ≤ '9' then some (c.toNat - '0'.toNat)
  else if 'a' ≤ c && c ≤ 'f' then some (c.toNat - 'a'.toNat + 10)
  else if 'A' ≤ c && c ≤ 'F' then some (c.toNat - 'A'.toNat + 10)
  else none

/-- Value of four hexadecimal digits. -/
def hex4? (a b c d : Char) : Option Nat := do
  return ((16 * (16 * (16 * (← hexValue? a) + (← hexValue? b)) + (← hexValue? c)) + (← hexValue? d)))

/-- The character of an escape with a short name. -/
def shortEscape? (c : Char) : Option Char :=
  match c with
  | '"' => some '"'
  | '\\' => some '\\'
  | '/' => some '/'
  | 'b' => some '\x08'
  | 'f' => some '\x0c'
  | 'n' => some '\n'
  | 'r' => some '\r'
  | 't' => some '\t'
  | _ => none

/-- The text that the body of a string stands for. A surrogate that is not half of a pair stands
for nothing. -/
def decode? : List Char → Option (List Char)
  | [] => some []
  | '\\' :: 'u' :: a :: b :: c :: d :: '\\' :: 'u' :: e :: f :: g :: h :: rest => do
      let first ← hex4? a b c d
      if 0xd800 ≤ first && first < 0xdc00 then
        let second ← hex4? e f g h
        if 0xdc00 ≤ second && second < 0xe000 then
          let code := 0x10000 + (first - 0xd800) * 0x400 + (second - 0xdc00)
          return Char.ofNat code :: (← decode? rest)
        else
          none
      else if 0xdc00 ≤ first && first < 0xe000 then none
      else return Char.ofNat first :: (← decode? ('\\' :: 'u' :: e :: f :: g :: h :: rest))
  | '\\' :: 'u' :: a :: b :: c :: d :: rest => do
      let code ← hex4? a b c d
      if 0xd800 ≤ code && code < 0xe000 then none
      else return Char.ofNat code :: (← decode? rest)
  | '\\' :: c :: rest => do
      return (← shortEscape? c) :: (← decode? rest)
  | c :: rest => do
      return c :: (← decode? rest)

/-- One hexadecimal digit. -/
def hexDigit (n : Nat) : Char :=
  (Nat.toDigits 16 n).headD '0'

/-- A character as it is written between quotes. -/
def encodeChar (c : Char) : List Char :=
  match c with
  | '"' => ['\\', '"']
  | '\\' => ['\\', '\\']
  | '\n' => ['\\', 'n']
  | '\r' => ['\\', 'r']
  | '\t' => ['\\', 't']
  | c =>
      if c.toNat < 0x20 then
        ['\\', 'u', '0', '0', hexDigit (c.toNat / 16), hexDigit (c.toNat % 16)]
      else [c]

/-- A text as it is written between quotes. -/
def encode (text : List Char) : List Char :=
  text.flatMap encodeChar

end JsonText

namespace Json

/-! ## Making values -/

/-- A string value. -/
def text (s : String) : Json :=
  .string (JsonText.encode s.toList)

def nat (n : Nat) : Json :=
  .number (.ofNat n)

/-- A list of integers. -/
def nats (ns : List Nat) : Json :=
  .array (ns.map nat)

/-- An optional value, `null` if missing. -/
def optional {α : Type} (f : α → Json) (value : Option α) : Json :=
  (value.map f).getD .null

/-- An object with its members in order. -/
def record (members : List (String × Json)) : Json :=
  .object (members.map fun (name, value) => (JsonText.encode name.toList, value))

/-! ## Asking what values stand for -/

/-- The text of a string. -/
def text? : Json → Option String
  | .string body => (JsonText.decode? body).map String.ofList
  | _ => none

def bool? : Json → Option Bool
  | .bool value => some value
  | _ => none

/-- The number of an integer that fits into 64 bits. -/
def word? : Json → Option Nat
  | .number literal => literal.word?
  | _ => none

/-- The items of an array. -/
def items? : Json → Option (List Json)
  | .array items => some items
  | _ => none

/-- The members of an object with their decoded names, if all names can be decoded. -/
def members? : Json → Option (List (String × Json))
  | .object members =>
      members.mapM fun (name, value) =>
        (JsonText.decode? name).map fun decoded => (String.ofList decoded, value)
  | _ => none

/-- The value of the last member with a name. -/
def get? (json : Json) (name : String) : Option Json :=
  match json.members? with
  | some members => (members.reverse.find? fun member => member.1 = name).map (·.2)
  | none => none

/-! ## Writing -/

/-- A number as text. -/
def numberText (n : NumberLiteral) : List Char :=
  (if n.negative then ['-'] else []) ++ n.whole ++
    (match n.fraction with
      | none => []
      | some digits => '.' :: digits) ++
    (match n.exponent with
      | none => []
      | some (negative, digits) => 'e' :: (if negative then '-' :: digits else digits))

mutual

/-- The value as text without blanks, put before `rest`. -/
def write : Json → List Char → List Char
  | .null, rest => 'n' :: 'u' :: 'l' :: 'l' :: rest
  | .bool true, rest => 't' :: 'r' :: 'u' :: 'e' :: rest
  | .bool false, rest => 'f' :: 'a' :: 'l' :: 's' :: 'e' :: rest
  | .number literal, rest => numberText literal ++ rest
  | .string body, rest => '"' :: body ++ '"' :: rest
  | .array items, rest => '[' :: writeItems items (']' :: rest)
  | .object members, rest => '\x7b' :: writeMembers members ('\x7d' :: rest)

/-- Items with commas between them. -/
def writeItems : List Json → List Char → List Char
  | [], rest => rest
  | [item], rest => item.write rest
  | item :: more, rest => item.write (',' :: writeItems more rest)

/-- Members with commas between them. -/
def writeMembers : List (List Char × Json) → List Char → List Char
  | [], rest => rest
  | [(name, value)], rest => '"' :: name ++ '"' :: ':' :: value.write rest
  | (name, value) :: more, rest =>
      '"' :: name ++ '"' :: ':' :: value.write (',' :: writeMembers more rest)

end

/-- The value as text without blanks. -/
def render (json : Json) : String :=
  String.ofList (json.write [])

end Json
end FormAssembly
