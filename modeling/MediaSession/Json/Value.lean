/-!
# MediaSession.Json.Value

JSON values as far as settings and descriptions need them, and their compact text.

A string that holds half of a surrogate pair alone is valid JSON but denotes no text; a number
with a fraction or an exponent, or a negative zero, denotes no integer. Both are kept as `none`,
so that they can be passed over where nothing reads them and refused where something does.

* `Value`: the values, object members in the order they are written
* `Value.print`: the compact text, without blanks
-/

namespace MediaSession
namespace Json

inductive Value
  | null
  | bool (b : Bool)
  | number (n : Option Int)
  | string (s : Option String)
  | array (items : List Value)
  | object (members : List (Option String × Value))

namespace Value

/-- The digit of a value below 16, small letters from ten on. -/
def hexDigit (n : Nat) : Char :=
  if n < 10 then Char.ofNat (48 + n) else Char.ofNat (87 + n)

/--
Quote, backslash and the controls below U+0020 are escaped, by a letter where JSON has one. The
slash, DEL and everything beyond ASCII are written as they are.
-/
def escape (c : Char) : List Char :=
  match c with
  | '"' => ['\\', '"']
  | '\\' => ['\\', '\\']
  | '\x08' => ['\\', 'b']
  | '\t' => ['\\', 't']
  | '\n' => ['\\', 'n']
  | '\x0c' => ['\\', 'f']
  | '\r' => ['\\', 'r']
  | c =>
    if c.toNat < 0x20 then
      ['\\', 'u', '0', '0', hexDigit (c.toNat / 16), hexDigit (c.toNat % 16)]
    else [c]

/-- A string in quotes; what denotes no text is written as the first unpaired half. -/
def printString : Option String → List Char
  | some s => '"' :: s.toList.flatMap escape ++ ['"']
  | none => ['"', '\\', 'u', 'd', '8', '0', '0', '"']

/-- An integer in decimal; what is no integer is written as negative zero. -/
def printNumber : Option Int → List Char
  | some (.ofNat n) => Nat.toDigits 10 n
  | some (.negSucc n) => '-' :: Nat.toDigits 10 (n + 1)
  | none => ['-', '0']

mutual

def print : Value → List Char
  | .null => ['n', 'u', 'l', 'l']
  | .bool true => ['t', 'r', 'u', 'e']
  | .bool false => ['f', 'a', 'l', 's', 'e']
  | .number n => printNumber n
  | .string s => printString s
  | .array [] => ['[', ']']
  | .array (v :: vs) => '[' :: print v ++ printItems vs
  | .object [] => ['\x7b', '\x7d']
  | .object ((k, v) :: ms) => '\x7b' :: printString k ++ ':' :: print v ++ printMembers ms

/-- What follows an item of an array: the other items and the closing bracket. -/
def printItems : List Value → List Char
  | [] => [']']
  | v :: vs => ',' :: print v ++ printItems vs

/-- What follows a member of an object: the other members and the closing brace. -/
def printMembers : List (Option String × Value) → List Char
  | [] => ['\x7d']
  | (k, v) :: ms => ',' :: printString k ++ ':' :: print v ++ printMembers ms

end

def text (v : Value) : String := String.ofList v.print

end Value
end Json
end MediaSession
