import MediaSession.Json.Value

/-!
# MediaSession.Json.Parser

Reading strict JSON: one value, blanks around it, nothing after it. No raw control character
stands in a string, no number starts with a needless zero, no comma is left over.

* `skipBlank`: drops the four characters that may stand between tokens
* `literal`: a string after its opening quote
* `number`: a number
* `parse`: a whole text
-/

namespace MediaSession
namespace Json

/-- Space, tab, line feed and carriage return. -/
def isBlank (c : Char) : Bool := c = ' ' || c = '\t' || c = '\n' || c = '\r'

def skipBlank (cs : List Char) : List Char := cs.dropWhile isBlank

/-! ## Strings -/

/-- What one character or escape of a string stands for: a character, or half of a pair. -/
inductive Piece
  | char (c : Char)
  | half (u : Nat)

def hexValue? (c : Char) : Option Nat :=
  if '0' ≤ c ∧ c ≤ '9' then some (c.toNat - 48)
  else if 'a' ≤ c ∧ c ≤ 'f' then some (c.toNat - 87)
  else if 'A' ≤ c ∧ c ≤ 'F' then some (c.toNat - 55)
  else none

/-- The code unit of four hexadecimal digits of either case. -/
def codeUnit? (a b c d : Char) : Option Nat :=
  match hexValue? a, hexValue? b, hexValue? c, hexValue? d with
  | some a, some b, some c, some d => some (((a * 16 + b) * 16 + c) * 16 + d)
  | _, _, _, _ => none

/-- Code units from U+D800 to U+DFFF come in pairs. -/
def Piece.ofUnit (u : Nat) : Piece :=
  if 0xD800 ≤ u ∧ u ≤ 0xDFFF then .half u else .char (Char.ofNat u)

/-- The character an escape letter other than `u` stands for. -/
def escaped? (c : Char) : Option Char :=
  match c with
  | '"' => some '"'
  | '\\' => some '\\'
  | '/' => some '/'
  | 'b' => some '\x08'
  | 'f' => some '\x0c'
  | 'n' => some '\n'
  | 'r' => some '\r'
  | 't' => some '\t'
  | _ => none

/-- The pieces of a string up to its closing quote, and what follows the quote. -/
def pieces : List Char → Option (List Piece × List Char)
  | [] => none
  | '"' :: rest => some ([], rest)
  | '\\' :: 'u' :: a :: b :: c :: d :: rest =>
    match codeUnit? a b c d, pieces rest with
    | some u, some (ps, rest) => some (Piece.ofUnit u :: ps, rest)
    | _, _ => none
  | '\\' :: e :: rest =>
    match escaped? e, pieces rest with
    | some c, some (ps, rest) => some (.char c :: ps, rest)
    | _, _ => none
  | c :: rest =>
    if c = '\\' ∨ c.toNat < 0x20 then none
    else
      match pieces rest with
      | some (ps, rest) => some (.char c :: ps, rest)
      | none => none

/-- A high half directly before a low half makes one character; any other half makes no text. -/
def joined? : List Piece → Option (List Char)
  | [] => some []
  | .char c :: ps => (joined? ps).map (c :: ·)
  | .half u :: .half v :: ps =>
    if u < 0xDC00 ∧ 0xDC00 ≤ v then
      (joined? ps).map (Char.ofNat (0x10000 + (u - 0xD800) * 0x400 + (v - 0xDC00)) :: ·)
    else none
  | .half _ :: _ => none

/-- The text of a string after its opening quote, and what follows its closing quote. -/
def literal (cs : List Char) : Option (Option String × List Char) :=
  match pieces cs with
  | some (ps, rest) => some ((joined? ps).map String.ofList, rest)
  | none => none

/-! ## Numbers -/

/-- Digits in front of a list, at least one. -/
def digits? (cs : List Char) : Option (List Char × List Char) :=
  match cs.takeWhile Char.isDigit with
  | [] => none
  | d :: ds => some (d :: ds, cs.dropWhile Char.isDigit)

/-- A zero stands alone; any other whole part goes on as long as there are digits. -/
def whole? : List Char → Option (Nat × List Char)
  | '0' :: rest => some (0, rest)
  | cs => (digits? cs).map fun (ds, rest) => (Nat.ofDigitChars 10 ds 0, rest)

/-- Whether a fraction was written, and what follows it. -/
def fraction? : List Char → Option (Bool × List Char)
  | '.' :: rest => (digits? rest).map fun (_, rest) => (true, rest)
  | cs => some (false, cs)

def skipSign : List Char → List Char
  | '+' :: rest => rest
  | '-' :: rest => rest
  | cs => cs

/-- Whether an exponent was written, and what follows it. -/
def exponent? : List Char → Option (Bool × List Char)
  | 'e' :: rest => (digits? (skipSign rest)).map fun (_, rest) => (true, rest)
  | 'E' :: rest => (digits? (skipSign rest)).map fun (_, rest) => (true, rest)
  | cs => some (false, cs)

/-- The integer a number denotes: none with a fraction or exponent, and none for `-0`. -/
def integer? (negative : Bool) (n : Nat) (decorated : Bool) : Option Int :=
  if decorated then none
  else if negative then if n = 0 then none else some (-(n : Int))
  else some n

def number (cs : List Char) : Option (Option Int × List Char) :=
  let (negative, cs) := match cs with
    | '-' :: rest => (true, rest)
    | cs => (false, cs)
  match whole? cs with
  | none => none
  | some (n, cs) =>
    match fraction? cs with
    | none => none
    | some (fraction, cs) =>
      match exponent? cs with
      | none => none
      | some (exponent, cs) => some (integer? negative n (fraction || exponent), cs)

/-! ## Values -/

/-- Drops a word that must stand in front. -/
def dropWord : List Char → List Char → Option (List Char)
  | [], cs => some cs
  | w :: ws, c :: cs => if w = c then dropWord ws cs else none
  | _ :: _, [] => none

mutual

/-- One value at the head of the list, and what follows it. -/
def value : Nat → List Char → Option (Value × List Char)
  | 0, _ => none
  | _ + 1, [] => none
  | n + 1, c :: cs =>
    match c with
    | 'n' => (dropWord ['u', 'l', 'l'] cs).map (Value.null, ·)
    | 't' => (dropWord ['r', 'u', 'e'] cs).map (Value.bool true, ·)
    | 'f' => (dropWord ['a', 'l', 's', 'e'] cs).map (Value.bool false, ·)
    | '"' =>
      match literal cs with
      | some (s, cs) => some (.string s, cs)
      | none => none
    | '[' =>
      match skipBlank cs with
      | ']' :: cs => some (.array [], cs)
      | cs =>
        match items n cs with
        | some (vs, cs) => some (.array vs, cs)
        | none => none
    | '\x7b' =>
      match skipBlank cs with
      | '\x7d' :: cs => some (.object [], cs)
      | cs =>
        match members n cs with
        | some (ms, cs) => some (.object ms, cs)
        | none => none
    | c =>
      match number (c :: cs) with
      | some (i, cs) => some (.number i, cs)
      | none => none

/-- One item or more, through the closing bracket. -/
def items : Nat → List Char → Option (List Value × List Char)
  | 0, _ => none
  | n + 1, cs =>
    match value n (skipBlank cs) with
    | none => none
    | some (v, cs) =>
      match skipBlank cs with
      | ']' :: cs => some ([v], cs)
      | ',' :: cs =>
        match items n cs with
        | some (vs, cs) => some (v :: vs, cs)
        | none => none
      | _ => none

/-- One member or more, through the closing brace. -/
def members : Nat → List Char → Option (List (Option String × Value) × List Char)
  | 0, _ => none
  | n + 1, cs =>
    match skipBlank cs with
    | '"' :: cs =>
      match literal cs with
      | none => none
      | some (k, cs) =>
        match skipBlank cs with
        | ':' :: cs =>
          match value n (skipBlank cs) with
          | none => none
          | some (v, cs) =>
            match skipBlank cs with
            | '\x7d' :: cs => some ([(k, v)], cs)
            | ',' :: cs =>
              match members n cs with
              | some (ms, cs) => some ((k, v) :: ms, cs)
              | none => none
            | _ => none
        | _ => none
    | _ => none

end

/-- Each level of nesting takes two units of fuel and at least one character. -/
def parseChars (cs : List Char) : Option Value :=
  match value (2 * cs.length + 1) (skipBlank cs) with
  | some (v, rest) => if skipBlank rest = [] then some v else none
  | none => none

/-- The value a text denotes, if the text is strict JSON. -/
def parse (s : String) : Option Value := parseChars s.toList

end Json
end MediaSession
