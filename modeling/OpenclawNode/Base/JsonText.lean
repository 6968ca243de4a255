import OpenclawNode.Base.Json

/-! A reader of JSON texts. -/
namespace Json

/-- What is read of a text, and what is left of it. -/
abbrev Reader (α : Type) := List Char → Option (α × List Char)

def isSpace (c : Char) : Bool := c == ' ' || c == '\n' || c == '\t' || c == '\r'

def skipSpace (cs : List Char) : List Char := cs.dropWhile isSpace

def hexValue (c : Char) : Option Nat :=
  if c.isDigit then some (c.toNat - 48)
  else if 97 ≤ c.toNat ∧ c.toNat ≤ 102 then some (c.toNat - 87)
  else if 65 ≤ c.toNat ∧ c.toNat ≤ 70 then some (c.toNat - 55)
  else none

def readHex4 : Reader Nat
  | a :: b :: c :: d :: cs => do
    let a ← hexValue a
    let b ← hexValue b
    let c ← hexValue c
    let d ← hexValue d
    some (((a * 16 + b) * 16 + c) * 16 + d, cs)
  | _ => none

def unescape : Char → Option Char
  | '"' => some '"'
  | '\\' => some '\\'
  | '/' => some '/'
  | 'b' => some '\x08'
  | 'f' => some '\x0c'
  | 'n' => some '\n'
  | 'r' => some '\r'
  | 't' => some '\t'
  | _ => none

/-- The character of an escape sequence, after its backslash. A surrogate stands for a character
only as the first of a pair. -/
def readEscape : Reader Char
  | 'u' :: cs => do
    let (high, cs) ← readHex4 cs
    if 0xdc00 ≤ high ∧ high ≤ 0xdfff then none
    else if 0xd800 ≤ high ∧ high ≤ 0xdbff then
      match cs with
      | '\\' :: 'u' :: cs => do
        let (low, cs) ← readHex4 cs
        if 0xdc00 ≤ low ∧ low ≤ 0xdfff then
          some (Char.ofNat (0x10000 + (high - 0xd800) * 0x400 + (low - 0xdc00)), cs)
        else none
      | _ => none
    else some (Char.ofNat high, cs)
  | c :: cs => (unescape c).map fun c => (c, cs)
  | [] => none

/-- The characters of a string up to its closing quote. Each takes one unit of fuel. -/
def readCharacters : Nat → Reader (List Char)
  | 0, _ => none
  | _ + 1, [] => none
  | fuel + 1, c :: cs =>
    if c = '"' then some ([], cs)
    else if c = '\\' then do
      let (c, cs) ← readEscape cs
      let (read, cs) ← readCharacters fuel cs
      some (c :: read, cs)
    else if c.toNat < 0x20 then none
    else do
      let (read, cs) ← readCharacters fuel cs
      some (c :: read, cs)

/-- A string, after its opening quote. -/
def readString (cs : List Char) : Option (String × List Char) :=
  (readCharacters cs.length cs).map fun (read, cs) => (String.ofList read, cs)

def readFraction : Reader (List Char)
  | '.' :: cs =>
    let digits := cs.takeWhile Char.isDigit
    if digits = [] then none else some ('.' :: digits, cs.dropWhile Char.isDigit)
  | cs => some ([], cs)

def readSign : List Char → List Char × List Char
  | '+' :: cs => (['+'], cs)
  | '-' :: cs => (['-'], cs)
  | cs => ([], cs)

def readExponent : Reader (List Char)
  | c :: cs =>
    if c = 'e' ∨ c = 'E' then
      let (sign, cs) := readSign cs
      let digits := cs.takeWhile Char.isDigit
      if digits = [] then none else some (c :: sign ++ digits, cs.dropWhile Char.isDigit)
    else some ([], c :: cs)
  | [] => some ([], [])

/-- The items after an opening bracket: the rest of them, each after a comma. -/
def readRest {α : Type} (close : Char) (item : Reader α) : Nat → Reader (List α)
  | 0, _ => none
  | fuel + 1, cs =>
    match skipSpace cs with
    | [] => none
    | c :: cs =>
      if c = close then some ([], cs)
      else if c = ',' then do
        let (read, cs) ← item cs
        let (others, cs) ← readRest close item fuel cs
        some (read :: others, cs)
      else none

def readItems {α : Type} (close : Char) (item : Reader α) (cs : List Char) :
    Option (List α × List Char) :=
  match skipSpace cs with
  | [] => none
  | c :: cs =>
    if c = close then some ([], cs)
    else do
      let (read, cs) ← item (c :: cs)
      let (others, cs) ← readRest close item cs.length cs
      some (read :: others, cs)

def readMember {α : Type} (value : Reader α) (cs : List Char) :
    Option ((String × α) × List Char) :=
  match skipSpace cs with
  | '"' :: cs => do
    let (name, cs) ← readString cs
    match skipSpace cs with
    | ':' :: cs => do
      let (read, cs) ← value cs
      some ((name, read), cs)
    | _ => none
  | _ => none

def readWord {α : Type} (word : String) (a : α) (cs : List Char) : Option (α × List Char) :=
  if word.toList <+: cs then some (a, cs.drop word.length) else none

section

variable (readDouble : List Char → Option Double)

/-- An integer that fits is one, `-0` and others are doubles. -/
def classify (negative : Bool) (digits : List Char) : Option Number :=
  let n := Nat.ofDigitChars 10 digits 0
  if negative then
    if 0 < n ∧ n ≤ 2 ^ 63 then some (.negInt (Int64.ofInt (-n)))
    else (readDouble ('-' :: digits)).map .float
  else if n < 2 ^ 64 then some (.posInt (UInt64.ofNat n))
  else (readDouble digits).map .float

/-- A number, after its sign. -/
def readNumber (negative : Bool) (cs : List Char) : Option (Number × List Char) := do
  let digits := cs.takeWhile Char.isDigit
  if digits = [] ∨ (digits.head? = some '0' ∧ 2 ≤ digits.length) then none
  else
    let (fraction, cs) ← readFraction (cs.dropWhile Char.isDigit)
    let (exponent, cs) ← readExponent cs
    let sign := if negative then ['-'] else []
    let n ← if fraction = [] ∧ exponent = [] then classify readDouble negative digits
      else (readDouble (sign ++ digits ++ fraction ++ exponent)).map .float
    some (n, cs)

/-- A value whose arrays and objects nest in at most this many levels. -/
def readValue : Nat → Reader Value
  | depth, cs =>
    match skipSpace cs with
    | [] => none
    | c :: cs =>
      if c.isDigit then (readNumber readDouble false (c :: cs)).map fun (n, cs) => (.number n, cs)
      else if c = '-' then (readNumber readDouble true cs).map fun (n, cs) => (.number n, cs)
      else if c = '"' then (readString cs).map fun (s, cs) => (.string s, cs)
      else if c = '[' then
        match depth with
        | 0 => none
        | depth + 1 =>
          (readItems ']' (readValue depth) cs).map fun (values, cs) => (.array values, cs)
      else if c = '\x7b' then
        match depth with
        | 0 => none
        | depth + 1 =>
          (readItems '\x7d' (readMember (readValue depth)) cs).map
            fun (members, cs) => (.object members, cs)
      else if c = 'n' then readWord "ull" .null cs
      else if c = 't' then readWord "rue" (.bool true) cs
      else if c = 'f' then readWord "alse" (.bool false) cs
      else none

/-- How many levels of arrays and objects are read. -/
def recursionLimit : Nat := 127

/-- The value of a whole text. -/
def readText (text : String) : Option Value := do
  let (value, rest) ← readValue readDouble recursionLimit text.toList
  if skipSpace rest = [] then some value else none

end

end Json
