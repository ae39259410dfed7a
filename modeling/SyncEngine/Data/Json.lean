import Mathlib.Data.List.Basic

namespace StellarConduit.Data.Json

/-! JSON documents as RFC 8259 has them, and a reader that accepts exactly
these. A string stands for its characters, so an escape for half of a pair of
surrogates has no meaning here. -/

structure Exponent where
  upper : Bool
  sign : Option Bool
  digits : List Char
  deriving DecidableEq

structure Numeral where
  negative : Bool
  whole : List Char
  fraction : Option (List Char)
  exponent : Option Exponent
  deriving DecidableEq

inductive Value
  | null
  | bool (value : Bool)
  | number (numeral : Numeral)
  | string (text : List Char)
  | array (items : List Value)
  | object (members : List (List Char × Value))

/-! Characters. -/

def isSpace (c : Char) : Bool :=
  c = ' ' ∨ c = '\t' ∨ c = '\n' ∨ c = '\r'

/-- What may stand in a string as it is. -/
def isPlain (c : Char) : Bool :=
  0x20 ≤ c.toNat ∧ c ≠ '"' ∧ c ≠ '\\'

def shortEscape (symbol : Char) : Option Char :=
  match symbol with
  | '"' => some '"'
  | '\\' => some '\\'
  | '/' => some '/'
  | 'b' => some '\x08'
  | 'f' => some '\x0c'
  | 'n' => some '\n'
  | 'r' => some '\r'
  | 't' => some '\t'
  | _ => none

def hexValue (c : Char) : Option Nat :=
  if '0' ≤ c ∧ c ≤ '9' then some (c.toNat - '0'.toNat)
  else if 'a' ≤ c ∧ c ≤ 'f' then some (c.toNat - 'a'.toNat + 10)
  else if 'A' ≤ c ∧ c ≤ 'F' then some (c.toNat - 'A'.toNat + 10)
  else none

def hexUnit (a b c d : Char) : Option Nat := do
  let a ← hexValue a
  let b ← hexValue b
  let c ← hexValue c
  let d ← hexValue d
  return ((a * 16 + b) * 16 + c) * 16 + d

def isHigh (unit : Nat) : Bool := 0xd800 ≤ unit ∧ unit < 0xdc00

def isLow (unit : Nat) : Bool := 0xdc00 ≤ unit ∧ unit < 0xe000

def joinSurrogates (high low : Nat) : Char :=
  Char.ofNat (0x10000 + (high - 0xd800) * 0x400 + (low - 0xdc00))

/-! The grammar. What is left of the input comes last. -/

def Spaced (input rest : List Char) : Prop :=
  ∃ space, (∀ c ∈ space, isSpace c = true) ∧ input = space ++ rest

/-- What follows a backslash. -/
inductive IsEscape : List Char → Char → List Char → Prop
  | short {symbol c : Char} {rest : List Char}
      (meaning : shortEscape symbol = some c) :
      IsEscape (symbol :: rest) c rest
  | unit {a b c d : Char} {unit : Nat} {rest : List Char}
      (read : hexUnit a b c d = some unit) (high : isHigh unit = false)
      (low : isLow unit = false) :
      IsEscape ('u' :: a :: b :: c :: d :: rest) (Char.ofNat unit) rest
  | pair {a b c d e f g h : Char} {high low : Nat} {rest : List Char}
      (readHigh : hexUnit a b c d = some high) (isHigh : isHigh high = true)
      (readLow : hexUnit e f g h = some low) (isLow : isLow low = true) :
      IsEscape
        ('u' :: a :: b :: c :: d :: '\\' :: 'u' :: e :: f :: g :: h :: rest)
        (joinSurrogates high low) rest

/-- What follows the quotation mark that opens a string. -/
inductive IsString : List Char → List Char → List Char → Prop
  | close (rest : List Char) : IsString ('"' :: rest) [] rest
  | plain {c : Char} {input text rest : List Char}
      (unescaped : isPlain c = true) (more : IsString input text rest) :
      IsString (c :: input) (c :: text) rest
  | escape {c : Char} {input next text rest : List Char}
      (meaning : IsEscape input c next) (more : IsString next text rest) :
      IsString ('\\' :: input) (c :: text) rest

def Digits (symbols : List Char) : Prop :=
  symbols ≠ [] ∧ ∀ c ∈ symbols, c.isDigit = true

def signText (sign : Option Bool) : List Char :=
  sign.elim [] fun negative => [if negative then '-' else '+']

def Exponent.text (exponent : Exponent) : List Char :=
  (if exponent.upper then 'E' else 'e') ::
    (signText exponent.sign ++ exponent.digits)

structure Numeral.Valid (numeral : Numeral) : Prop where
  whole : Digits numeral.whole
  leading : numeral.whole.head? = some '0' → numeral.whole = ['0']
  fraction : ∀ symbols ∈ numeral.fraction, Digits symbols
  exponent : ∀ exponent ∈ numeral.exponent, Digits exponent.digits

def Numeral.text (numeral : Numeral) : List Char :=
  (if numeral.negative then ['-'] else []) ++ numeral.whole ++
    numeral.fraction.elim [] (fun symbols => '.' :: symbols) ++
      numeral.exponent.elim [] Exponent.text

inductive Phrase
  | value (value : Value)
  | elements (items : List Value)
  | members (members : List (List Char × Value))

/-- The elements and the members are not empty, and the bracket that ends them
is theirs. -/
inductive Derives : Phrase → List Char → List Char → Prop
  | nullWord (rest : List Char) :
      Derives (.value .null) (['n', 'u', 'l', 'l'] ++ rest) rest
  | trueWord (rest : List Char) :
      Derives (.value (.bool true)) (['t', 'r', 'u', 'e'] ++ rest) rest
  | falseWord (rest : List Char) :
      Derives (.value (.bool false)) (['f', 'a', 'l', 's', 'e'] ++ rest) rest
  | number {numeral : Numeral} (valid : numeral.Valid) (rest : List Char) :
      Derives (.value (.number numeral)) (numeral.text ++ rest) rest
  | string {input text rest : List Char} (body : IsString input text rest) :
      Derives (.value (.string text)) ('"' :: input) rest
  | emptyArray {input rest : List Char} (space : Spaced input (']' :: rest)) :
      Derives (.value (.array [])) ('[' :: input) rest
  | array {input rest : List Char} {items : List Value}
      (elements : Derives (.elements items) input rest) :
      Derives (.value (.array items)) ('[' :: input) rest
  | emptyObject {input rest : List Char}
      (space : Spaced input ('}' :: rest)) :
      Derives (.value (.object [])) ('{' :: input) rest
  | object {input rest : List Char} {entries : List (List Char × Value)}
      (members : Derives (.members entries) input rest) :
      Derives (.value (.object entries)) ('{' :: input) rest
  | lastElement {input start after rest : List Char} {item : Value}
      (before : Spaced input start)
      (element : Derives (.value item) start after)
      (ended : Spaced after (']' :: rest)) :
      Derives (.elements [item]) input rest
  | nextElement {input start after next rest : List Char} {item : Value}
      {items : List Value}
      (before : Spaced input start)
      (element : Derives (.value item) start after)
      (comma : Spaced after (',' :: next))
      (more : Derives (.elements items) next rest) :
      Derives (.elements (item :: items)) input rest
  | lastMember {input start colon behind first after rest : List Char}
      {name : List Char} {member : Value}
      (before : Spaced input ('"' :: start)) (named : IsString start name colon)
      (separator : Spaced colon (':' :: behind)) (space : Spaced behind first)
      (value : Derives (.value member) first after)
      (ended : Spaced after ('}' :: rest)) :
      Derives (.members [(name, member)]) input rest
  | nextMember {input start colon behind first after next rest : List Char}
      {name : List Char} {member : Value}
      {entries : List (List Char × Value)}
      (before : Spaced input ('"' :: start)) (named : IsString start name colon)
      (separator : Spaced colon (':' :: behind)) (space : Spaced behind first)
      (value : Derives (.value member) first after)
      (comma : Spaced after (',' :: next))
      (more : Derives (.members entries) next rest) :
      Derives (.members ((name, member) :: entries)) input rest

/-- A text is a document that stands for a value. -/
def Document (text : List Char) (value : Value) : Prop :=
  ∃ start rest, Spaced text start ∧ Derives (.value value) start rest ∧
    Spaced rest []

/-! The reader. -/

def expect (symbol : Char) : List Char → Option (List Char)
  | [] => none
  | c :: rest => if c = symbol then some rest else none

def expectWord : List Char → List Char → Option (List Char)
  | [], input => some input
  | symbol :: word, input => do
      let rest ← expect symbol input
      expectWord word rest

def skipSpace (input : List Char) : List Char := input.dropWhile isSpace

def readUnit : List Char → Option (Nat × List Char)
  | a :: b :: c :: d :: rest => do
      let unit ← hexUnit a b c d
      return (unit, rest)
  | _ => none

def readEscape : List Char → Option (Char × List Char)
  | [] => none
  | symbol :: input =>
      if symbol = 'u' then do
        let (unit, rest) ← readUnit input
        if isHigh unit then do
          let rest ← expectWord ['\\', 'u'] rest
          let (low, rest) ← readUnit rest
          if isLow low then return (joinSurrogates unit low, rest)
          else none
        else if isLow unit then none
        else return (Char.ofNat unit, rest)
      else do
        let c ← shortEscape symbol
        return (c, input)

def readString : Nat → List Char → Option (List Char × List Char)
  | 0, _ => none
  | _ + 1, [] => none
  | fuel + 1, c :: input =>
      if c = '"' then some ([], input)
      else if c = '\\' then do
        let (c, next) ← readEscape input
        let (text, rest) ← readString fuel next
        return (c :: text, rest)
      else if isPlain c then do
        let (text, rest) ← readString fuel input
        return (c :: text, rest)
      else none

def readDigits (input : List Char) : Option (List Char × List Char) :=
  let symbols := input.takeWhile Char.isDigit
  if symbols = [] then none
  else some (symbols, input.dropWhile Char.isDigit)

def readFraction (input : List Char) :
    Option (Option (List Char) × List Char) :=
  match expect '.' input with
  | none => some (none, input)
  | some digits => do
      let (symbols, rest) ← readDigits digits
      return (some symbols, rest)

def readSign (input : List Char) : Option Bool × List Char :=
  match expect '-' input with
  | some rest => (some true, rest)
  | none =>
      match expect '+' input with
      | some rest => (some false, rest)
      | none => (none, input)

def readExponentOf (upper : Bool) (input : List Char) :
    Option (Option Exponent × List Char) := do
  let (digits, rest) ← readDigits (readSign input).2
  return (some { upper, sign := (readSign input).1, digits }, rest)

def readExponent (input : List Char) :
    Option (Option Exponent × List Char) :=
  match expect 'e' input with
  | some rest => readExponentOf false rest
  | none =>
      match expect 'E' input with
      | some rest => readExponentOf true rest
      | none => some (none, input)

def readUnsigned (negative : Bool) (input : List Char) :
    Option (Numeral × List Char) := do
  let (whole, rest) ← readDigits input
  if whole.head? = some '0' ∧ whole ≠ ['0'] then none
  else do
    let (fraction, rest) ← readFraction rest
    let (exponent, rest) ← readExponent rest
    return ({ negative, whole, fraction, exponent }, rest)

def readNumeral (input : List Char) : Option (Numeral × List Char) :=
  match expect '-' input with
  | some rest => readUnsigned true rest
  | none => readUnsigned false input

def readWord (input : List Char) : Option (Value × List Char) :=
  match expectWord ['n', 'u', 'l', 'l'] input with
  | some rest => some (.null, rest)
  | none =>
      match expectWord ['t', 'r', 'u', 'e'] input with
      | some rest => some (.bool true, rest)
      | none =>
          match expectWord ['f', 'a', 'l', 's', 'e'] input with
          | some rest => some (.bool false, rest)
          | none => none

def readScalar (input : List Char) : Option (Value × List Char) :=
  match readWord input with
  | some read => some read
  | none => do
      let (numeral, rest) ← readNumeral input
      return (.number numeral, rest)

mutual

def readValue : Nat → List Char → Option (Value × List Char)
  | 0, _ => none
  | _ + 1, [] => none
  | fuel + 1, c :: input =>
      if c = '"' then do
        let (text, rest) ← readString (input.length + 1) input
        return (.string text, rest)
      else if c = '[' then
        match expect ']' (skipSpace input) with
        | some rest => some (.array [], rest)
        | none => do
            let (items, rest) ← readElements fuel input
            return (.array items, rest)
      else if c = '{' then
        match expect '}' (skipSpace input) with
        | some rest => some (.object [], rest)
        | none => do
            let (entries, rest) ← readMembers fuel input
            return (.object entries, rest)
      else readScalar (c :: input)

def readElements : Nat → List Char → Option (List Value × List Char)
  | 0, _ => none
  | fuel + 1, input => do
      let (item, after) ← readValue fuel (skipSpace input)
      match expect ']' (skipSpace after) with
      | some rest => return ([item], rest)
      | none => do
          let next ← expect ',' (skipSpace after)
          let (items, rest) ← readElements fuel next
          return (item :: items, rest)

def readMembers : Nat → List Char →
    Option (List (List Char × Value) × List Char)
  | 0, _ => none
  | fuel + 1, input => do
      let start ← expect '"' (skipSpace input)
      let (name, colon) ← readString (start.length + 1) start
      let behind ← expect ':' (skipSpace colon)
      let (member, after) ← readValue fuel (skipSpace behind)
      match expect '}' (skipSpace after) with
      | some rest => return ([(name, member)], rest)
      | none => do
          let next ← expect ',' (skipSpace after)
          let (entries, rest) ← readMembers fuel next
          return ((name, member) :: entries, rest)

end

/-- There is fuel for every phrase of the text. -/
def parse (text : List Char) : Option Value := do
  let start := skipSpace text
  let (value, rest) ← readValue (2 * start.length + 1) start
  if skipSpace rest = [] then return value else none

end StellarConduit.Data.Json
