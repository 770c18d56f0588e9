/-
JSON text, as Python's `json` writes and reads it.

A text is the list of its code points, since a Python string may hold a surrogate alone.  The
writer orders the keys and leaves no character outside ASCII (`ensure_ascii`, `sort_keys`, the
separators `","` and `":"`).  The reader takes bytes, finds out their encoding and counts the
containers that are open: a container too many is a `RecursionError`, anything else that is wrong a
`ValueError`.  The floats are a parameter.
-/
import Mathlib.Data.List.Sort
import Mathlib.Data.Nat.Digits.Defs
import Arena402.Lib.Dict

namespace JsonText

/-- The code points of a string. -/
abbrev Text := List Nat

/-- Characters as code points. -/
def ascii (cs : List Char) : Text :=
  cs.map Char.toNat

/-- A value of the decoder, with floats of any type. -/
inductive Value (F : Type)
  | null
  | bool (b : Bool)
  | int (n : Int)
  | float (x : F)
  | str (s : Text)
  | list (items : List (Value F))
  | object (fields : List (Text × Value F))

/-- What the reader and the writer raise. -/
inductive Fault
  | valueError
  | recursionError
  | outOfFuel
  deriving DecidableEq

/-! ### Floats -/

/-- The floats that are no numbers of the grammar. -/
inductive Special
  | nan
  | infinity
  | negInfinity

namespace Special

/-- How a special float is written. -/
def word : Special → Text
  | nan => ascii ['N', 'a', 'N']
  | infinity => ascii ['I', 'n', 'f', 'i', 'n', 'i', 't', 'y']
  | negInfinity => ascii ['-', 'I', 'n', 'f', 'i', 'n', 'i', 't', 'y']

end Special

/-- What Python does with a float. -/
structure Floats (F : Type) where
  special : F → Option Special
  ofSpecial : Special → F
  /-- `float.__repr__` -/
  repr : F → Text
  /-- `float(text)` -/
  ofText : Text → F

/-! ### A value from its parts -/

/-- What to make of each kind of value, from what was made of its parts. -/
structure Algebra (F α : Type) where
  null : α
  bool : Bool → α
  int : Int → α
  float : F → α
  str : Text → α
  list : List α → α
  object : List (Text × α) → α

namespace Value

variable {F α : Type}

mutual

/-- The value of an algebra on a JSON value. -/
def fold (alg : Algebra F α) : Value F → α
  | .null => alg.null
  | .bool b => alg.bool b
  | .int n => alg.int n
  | .float x => alg.float x
  | .str s => alg.str s
  | .list items => alg.list (foldItems alg items)
  | .object fields => alg.object (foldFields alg fields)

/-- The values on the items of a list. -/
def foldItems (alg : Algebra F α) : List (Value F) → List α
  | [] => []
  | v :: rest => fold alg v :: foldItems alg rest

/-- The values on the members of an object. -/
def foldFields (alg : Algebra F α) : List (Text × Value F) → List (Text × α)
  | [] => []
  | (key, v) :: rest => (key, fold alg v) :: foldFields alg rest

end

/-- The fields by their keys, in code point order. -/
def sortFields (fields : List (Text × Value F)) : List (Text × Value F) :=
  fields.insertionSort fun a b => a.1 ≤ b.1

/-- The value with the keys of every object ordered. -/
def canonical (v : Value F) : Value F :=
  v.fold
    { null := .null, bool := .bool, int := .int, float := .float, str := .str, list := .list,
      object := fun fields => .object (sortFields fields) }

/-- The sum of a measure over all the texts of a value, keys included. -/
def total (f : Text → Nat) (v : Value F) : Nat :=
  v.fold
    { null := 0, bool := fun _ => 0, int := fun _ => 0, float := fun _ => 0, str := f
      list := List.sum
      object := fun fields => (fields.map fun e => f e.1 + e.2).sum }

/-- A value that Python can have: code points, one value for each key.  No float is special. -/
def WellFormed (fl : Floats F) (v : Value F) : Prop :=
  v.fold
    { null := True, bool := fun _ => True, int := fun _ => True
      float := fun x => fl.special x = none
      str := fun s => ∀ c ∈ s, c < 0x110000
      list := fun items => ∀ p ∈ items, p
      object := fun fields => (fields.map Prod.fst).Nodup ∧
        ∀ e ∈ fields, (∀ c ∈ e.1, c < 0x110000) ∧ e.2 }

/-- How many containers stand inside each other. -/
def nesting (v : Value F) : Nat :=
  v.fold
    { null := 0, bool := fun _ => 0, int := fun _ => 0, float := fun _ => 0, str := fun _ => 0
      list := fun depths => depths.foldr max 0 + 1
      object := fun depths => (depths.map Prod.snd).foldr max 0 + 1 }

end Value

/-! ### Writing -/

/-- The largest number of digits that `int` reads and writes. -/
def maxStrDigits : Nat := 4300

/-- A natural number in decimal. -/
def natText (n : Nat) : Text :=
  if n = 0 then ['0'.toNat] else (Nat.digits 10 n).reverse.map ('0'.toNat + ·)

/-- `int.__repr__` -/
def intText (n : Int) : Text :=
  if n < 0 then '-'.toNat :: natText n.natAbs else natText n.natAbs

/-- A digit of an escape. -/
def hexDigit (n : Nat) : Nat :=
  if n < 10 then '0'.toNat + n else 'a'.toNat + (n - 10)

/-- `\uXXXX` -/
def unitEscape (u : Nat) : Text :=
  ['\\'.toNat, 'u'.toNat, hexDigit (u / 4096 % 16), hexDigit (u / 256 % 16), hexDigit (u / 16 % 16),
    hexDigit (u % 16)]

/-- The two surrogates that stand for a code point outside the basic plane. -/
def highOf (c : Nat) : Nat := 0xD800 + (c - 0x10000) / 0x400

/-- The second code unit of a character beyond the basic plane. -/
def lowOf (c : Nat) : Nat := 0xDC00 + (c - 0x10000) % 0x400

/-- A character as `ensure_ascii` writes it. -/
def escapeChar (c : Nat) : Text :=
  if c = '"'.toNat then ascii ['\\', '"']
  else if c = '\\'.toNat then ascii ['\\', '\\']
  else if c = '\n'.toNat then ascii ['\\', 'n']
  else if c = '\r'.toNat then ascii ['\\', 'r']
  else if c = '\t'.toNat then ascii ['\\', 't']
  else if c = 0x0C then ascii ['\\', 'f']
  else if c = 0x08 then ascii ['\\', 'b']
  else if 0x20 ≤ c ∧ c ≤ 0x7E then [c]
  else if c < 0x10000 then unitEscape c
  else unitEscape (highOf c) ++ unitEscape (lowOf c)

/-- A string between its quotes. -/
def escapes (s : Text) : Text :=
  s.flatMap escapeChar

/-- `encode_basestring_ascii` -/
def quoted (s : Text) : Text :=
  '"'.toNat :: (escapes s ++ ['"'.toNat])

/-- `",".join(texts)` -/
def commas : List Text → Text
  | [] => []
  | [text] => text
  | text :: rest => text ++ ','.toNat :: commas rest

section

variable {F : Type}

/-- A float as it is written. -/
def floatText (fl : Floats F) (x : F) : Text :=
  match fl.special x with
  | some special => special.word
  | none => fl.repr x

/-- The text of a value, its fields in the order they have. -/
def render (fl : Floats F) (v : Value F) : Text :=
  v.fold
    { null := ascii ['n', 'u', 'l', 'l']
      bool := fun b => if b then ascii ['t', 'r', 'u', 'e'] else ascii ['f', 'a', 'l', 's', 'e']
      int := intText
      float := floatText fl
      str := quoted
      list := fun items => '['.toNat :: (commas items ++ [']'.toNat])
      object := fun fields =>
        '\x7b'.toNat :: (commas (fields.map fun e => quoted e.1 ++ ':'.toNat :: e.2) ++
          ['\x7d'.toNat]) }

/-- The first fault of the parts of a container, if it may be entered at all. -/
def enter (faults : List (Nat → Option Fault)) : Nat → Option Fault
  | 0 => some .recursionError
  | levels + 1 => faults.findSome? fun fault => fault levels

/-- The first fault that the encoder meets, when `levels` containers may be open. -/
def writeFault (v : Value F) : Nat → Option Fault :=
  v.fold
    { null := fun _ => none, bool := fun _ _ => none, float := fun _ _ => none
      str := fun _ _ => none
      int := fun n _ => if (natText n.natAbs).length ≤ maxStrDigits then none else some .valueError
      list := enter
      object := fun fields => enter (fields.map Prod.snd) }

/-- `json.dumps(value, sort_keys=True, separators=(",", ":"), ensure_ascii=True)` -/
def dumps (fl : Floats F) (levels : Nat) (v : Value F) : Except Fault Text :=
  match writeFault v.canonical levels with
  | some fault => .error fault
  | none => .ok (render fl v.canonical)

end

/-! ### Bytes -/

/-- The first half of a surrogate pair. -/
def isHigh (u : Nat) : Bool := 0xD800 ≤ u && u ≤ 0xDBFF

/-- The second half of a surrogate pair. -/
def isLow (u : Nat) : Bool := 0xDC00 ≤ u && u ≤ 0xDFFF

/-- The code point of a pair of surrogates. -/
def joined (high low : Nat) : Nat :=
  0x10000 + (high - 0xD800) * 0x400 + (low - 0xDC00)

/-- Every high surrogate joined with a low one right after it. -/
def joinPairs : Text → Text
  | high :: low :: rest =>
    if isHigh high && isLow low then joined high low :: joinPairs rest
    else high :: joinPairs (low :: rest)
  | s => s

/-- How many pairs of surrogates a text has as two code points. -/
def splitPairs : Text → Nat
  | high :: low :: rest =>
    if isHigh high && isLow low then splitPairs rest + 1 else splitPairs (low :: rest)
  | _ => 0

/-- A byte that continues a character of UTF-8. -/
def isContinuation (b : Nat) : Bool := 0x80 ≤ b && b < 0xC0

/-- UTF-8 with `surrogatepass`. -/
def decodeUtf8 : List Nat → Option Text
  | [] => some []
  | b₀ :: rest =>
    if b₀ < 0x80 then (decodeUtf8 rest).map (b₀ :: ·)
    else
      match rest with
      | [] => none
      | b₁ :: rest =>
        if !isContinuation b₁ then none
        else if 0xC2 ≤ b₀ ∧ b₀ < 0xE0 then
          (decodeUtf8 rest).map (((b₀ - 0xC0) * 0x40 + (b₁ - 0x80)) :: ·)
        else
          match rest with
          | [] => none
          | b₂ :: rest =>
            if !isContinuation b₂ then none
            else
              let three := (b₀ - 0xE0) * 0x1000 + (b₁ - 0x80) * 0x40 + (b₂ - 0x80)
              if 0xE0 ≤ b₀ ∧ b₀ < 0xF0 then
                if three < 0x800 then none else (decodeUtf8 rest).map (three :: ·)
              else
                match rest with
                | [] => none
                | b₃ :: rest =>
                  let four := (b₀ - 0xF0) * 0x40000 + (b₁ - 0x80) * 0x1000 + (b₂ - 0x80) * 0x40 +
                    (b₃ - 0x80)
                  if isContinuation b₃ ∧ 0xF0 ≤ b₀ ∧ b₀ < 0xF5 ∧ 0x10000 ≤ four ∧ four < 0x110000
                  then (decodeUtf8 rest).map (four :: ·)
                  else none

/-- The units of UTF-16, the high byte first if `big`. -/
def units (big : Bool) : List Nat → Option (List Nat)
  | [] => some []
  | [_] => none
  | a :: b :: rest => (units big rest).map ((if big then a * 0x100 + b else b * 0x100 + a) :: ·)

/-- UTF-16 with `surrogatepass`. -/
def decodeUtf16 (big : Bool) (bytes : List Nat) : Option Text :=
  (units big bytes).map joinPairs

/-- UTF-32 with `surrogatepass`. -/
def decodeUtf32 (big : Bool) : List Nat → Option Text
  | [] => some []
  | a :: b :: c :: d :: rest =>
    let point := if big then ((a * 0x100 + b) * 0x100 + c) * 0x100 + d
      else ((d * 0x100 + c) * 0x100 + b) * 0x100 + a
    if point < 0x110000 then (decodeUtf32 big rest).map (point :: ·) else none
  | _ => none

/-- `bytes.decode(detect_encoding(bytes), "surrogatepass")` -/
def decodeBytes (bytes : List Nat) : Option Text :=
  if [0, 0, 0xFE, 0xFF].isPrefixOf bytes then decodeUtf32 true (bytes.drop 4)
  else if [0xFF, 0xFE, 0, 0].isPrefixOf bytes then decodeUtf32 false (bytes.drop 4)
  else if [0xFE, 0xFF].isPrefixOf bytes then decodeUtf16 true (bytes.drop 2)
  else if [0xFF, 0xFE].isPrefixOf bytes then decodeUtf16 false (bytes.drop 2)
  else if [0xEF, 0xBB, 0xBF].isPrefixOf bytes then decodeUtf8 (bytes.drop 3)
  else
    match bytes with
    | b₀ :: b₁ :: b₂ :: b₃ :: _ =>
      if b₀ = 0 then (if b₁ = 0 then decodeUtf32 true bytes else decodeUtf16 true bytes)
      else if b₁ = 0 then
        (if b₂ = 0 ∧ b₃ = 0 then decodeUtf32 false bytes else decodeUtf16 false bytes)
      else decodeUtf8 bytes
    | [b₀, b₁] =>
      if b₀ = 0 then decodeUtf16 true bytes
      else if b₁ = 0 then decodeUtf16 false bytes
      else decodeUtf8 bytes
    | _ => decodeUtf8 bytes

/-! ### Strings -/

/-- The value of a digit of an escape. -/
def hexValue (c : Nat) : Option Nat :=
  if '0'.toNat ≤ c ∧ c ≤ '9'.toNat then some (c - '0'.toNat)
  else if 'a'.toNat ≤ c ∧ c ≤ 'f'.toNat then some (c - 'a'.toNat + 10)
  else if 'A'.toNat ≤ c ∧ c ≤ 'F'.toNat then some (c - 'A'.toNat + 10)
  else none

/-- The code unit of four digits. -/
def unitOf (a b c d : Nat) : Option Nat := do
  let a ← hexValue a
  let b ← hexValue b
  let c ← hexValue c
  let d ← hexValue d
  return a * 4096 + b * 256 + c * 16 + d

/-- The character that a letter after a backslash stands for. -/
def escaped (c : Nat) : Option Nat :=
  if c = '"'.toNat ∨ c = '\\'.toNat ∨ c = '/'.toNat then some c
  else if c = 'b'.toNat then some 0x08
  else if c = 'f'.toNat then some 0x0C
  else if c = 'n'.toNat then some '\n'.toNat
  else if c = 'r'.toNat then some '\r'.toNat
  else if c = 't'.toNat then some '\t'.toNat
  else none

/-- A character of a literal, or the unit of a `\uXXXX`. -/
inductive Token
  | char (c : Nat)
  | unit (u : Nat)

/-- The tokens before the closing quote, and the text after it. -/
def scanTokens : Text → Option (List Token × Text)
  | [] => none
  | c :: rest =>
    if c = '"'.toNat then some ([], rest)
    else if c = '\\'.toNat then
      match rest with
      | [] => none
      | e :: rest =>
        if e = 'u'.toNat then
          match rest with
          | h₁ :: h₂ :: h₃ :: h₄ :: rest =>
            (unitOf h₁ h₂ h₃ h₄).bind fun u =>
              (scanTokens rest).map fun r => (.unit u :: r.1, r.2)
          | _ => none
        else (escaped e).bind fun c => (scanTokens rest).map fun r => (.char c :: r.1, r.2)
    else if c < 0x20 then none
    else (scanTokens rest).map fun r => (.char c :: r.1, r.2)

/-- Only two units make a pair. -/
def joinTokens : List Token → Text
  | .unit high :: .unit low :: rest =>
    if isHigh high && isLow low then joined high low :: joinTokens rest
    else high :: joinTokens (.unit low :: rest)
  | .unit u :: rest => u :: joinTokens rest
  | .char c :: rest => c :: joinTokens rest
  | [] => []

/-- `scanstring`, after the opening quote. -/
def scanString (text : Text) : Option (Text × Text) :=
  (scanTokens text).map fun r => (joinTokens r.1, r.2)

/-! ### Numbers -/

/-- `[0-9]`. -/
def isDigit (c : Nat) : Bool := '0'.toNat ≤ c && c ≤ '9'.toNat

/-- The digits of a number, and whether a fraction or an exponent came with them. -/
structure Numeral where
  negative : Bool
  whole : Text
  fraction : Text
  exponent : Text

namespace Numeral

/-- The text of a matched number. -/
def text (n : Numeral) : Text :=
  (if n.negative then ['-'.toNat] else []) ++ n.whole ++ n.fraction ++ n.exponent

end Numeral

/-- `0|[1-9][0-9]*` -/
def matchWhole : Text → Option (Text × Text)
  | [] => none
  | c :: rest =>
    if c = '0'.toNat then some ([c], rest)
    else if isDigit c then some (c :: rest.takeWhile isDigit, rest.dropWhile isDigit)
    else none

/-- `(\.[0-9]+)?` -/
def matchFraction (text : Text) : Text × Text :=
  match text with
  | point :: d :: rest =>
    if point = '.'.toNat ∧ isDigit d then
      (point :: d :: rest.takeWhile isDigit, rest.dropWhile isDigit)
    else ([], text)
  | _ => ([], text)

/-- `[eE]`. -/
def isExponent (c : Nat) : Bool := c = 'e'.toNat || c = 'E'.toNat

/-- `[-+]`. -/
def isSign (c : Nat) : Bool := c = '+'.toNat || c = '-'.toNat

/-- `([eE][-+]?[0-9]+)?` -/
def matchExponent (text : Text) : Text × Text :=
  match text with
  | e :: c :: rest =>
    if isExponent e && isDigit c then
      (e :: c :: rest.takeWhile isDigit, rest.dropWhile isDigit)
    else if isExponent e && isSign c && rest.head?.any isDigit then
      (e :: c :: rest.takeWhile isDigit, rest.dropWhile isDigit)
    else ([], text)
  | _ => ([], text)

/-- The text starts with a minus. -/
def isNegative (text : Text) : Bool := text.head? == some '-'.toNat

/-- The text without its minus. -/
def unsigned (text : Text) : Text := if isNegative text then text.tail else text

/-- `-?(0|[1-9][0-9]*)(\.[0-9]+)?([eE][-+]?[0-9]+)?` -/
def matchNumber (text : Text) : Option (Numeral × Text) :=
  (matchWhole (unsigned text)).map fun whole =>
    ({ negative := isNegative text
       whole := whole.1
       fraction := (matchFraction whole.2).1
       exponent := (matchExponent (matchFraction whole.2).2).1 },
      (matchExponent (matchFraction whole.2).2).2)

/-- What Python documents of `repr` and `float`: the text of a finite float is a number with a
    fraction or an exponent, and it reads back as the float. -/
structure Floats.Lawful {F : Type} (fl : Floats F) : Prop where
  number : ∀ x, fl.special x = none → ∃ n, matchNumber (fl.repr x) = some (n, []) ∧
    (n.fraction ≠ [] ∨ n.exponent ≠ [])
  ofText_repr : ∀ x, fl.special x = none → fl.ofText (fl.repr x) = x

/-- `int` of digits. -/
def natOf (digits : Text) : Nat :=
  Nat.ofDigits 10 (digits.reverse.map (· - '0'.toNat))

/-- `int(text)`, of digits with or without a minus. -/
def intOf (negative : Bool) (digits : Text) : Option Int :=
  if digits.length ≤ maxStrDigits then
    some (if negative then -(natOf digits : Int) else natOf digits)
  else none

/-! ### Reading -/

/-- `[ \t\n\r]`. -/
def isSpace (c : Nat) : Bool :=
  c = ' '.toNat || c = '\t'.toNat || c = '\n'.toNat || c = '\r'.toNat

/-- The text after its white space. -/
def skip (text : Text) : Text :=
  text.dropWhile isSpace

/-- The text after a character that must come first. -/
def after (c : Nat) : Text → Option Text
  | [] => none
  | d :: rest => if d = c then some rest else none

/-- The two kinds of containers. -/
inductive Bracket
  | square
  | curly

namespace Bracket

/-- The character that opens a container. -/
def opening : Bracket → Nat
  | square => '['.toNat
  | curly => '\x7b'.toNat

/-- The character that closes a container. -/
def closing : Bracket → Nat
  | square => ']'.toNat
  | curly => '\x7d'.toNat

/-- What stands before a value: nothing in a list, a key and a colon in an object. -/
def label : Bracket → Text → Option (Text × Text)
  | square, text => some ([], text)
  | curly, text =>
    (after '"'.toNat text).bind fun rest =>
      (scanString rest).bind fun key =>
        (after ':'.toNat (skip key.2)).map fun rest => (key.1, skip rest)

/-- The list, or the `dict`: the last value of a key stays, at the place of the first. -/
def build {F : Type} : Bracket → List (Text × Value F) → Value F
  | square, elements => .list (elements.map Prod.snd)
  | curly, elements => .object (elements.foldl (fun d e => Py.Dict.set d e.1 e.2) [])

end Bracket

/-- The bracket that a text starts with. -/
def bracketOf (text : Text) : Option (Bracket × Text) :=
  match after Bracket.square.opening text with
  | some rest => some (.square, rest)
  | none => (after Bracket.curly.opening text).map fun rest => (.curly, rest)

section

variable {F : Type} (fl : Floats F)

/-- The words that stand for values. -/
def keywords : List (Text × Value F) :=
  [(ascii ['n', 'u', 'l', 'l'], .null), (ascii ['t', 'r', 'u', 'e'], .bool true),
    (ascii ['f', 'a', 'l', 's', 'e'], .bool false),
    (Special.nan.word, .float (fl.ofSpecial .nan)),
    (Special.infinity.word, .float (fl.ofSpecial .infinity)),
    (Special.negInfinity.word, .float (fl.ofSpecial .negInfinity))]

/-- A word at the beginning of a text. -/
def keyword (text : Text) : Option (Value F × Text) :=
  (keywords fl).findSome? fun w =>
    if w.1.isPrefixOf text then some (w.2, text.drop w.1.length) else none

/-- A number at the beginning of a text. -/
def number (text : Text) : Option (Value F × Text) :=
  (matchNumber text).bind fun r =>
    if r.1.fraction = [] ∧ r.1.exponent = [] then
      (intOf r.1.negative r.1.whole).map fun n => (.int n, r.2)
    else some (.float (fl.ofText r.1.text), r.2)

/-- A value that is no container. -/
def scalar (text : Text) : Option (Value F × Text) :=
  match after '"'.toNat text with
  | some rest => (scanString rest).map fun r => (.str r.1, r.2)
  | none => (keyword fl text).or (number fl text)

mutual

/-- `scan_once`, when `levels` more containers may be open. -/
def scanOnce : Nat → Nat → Text → Except Fault (Value F × Text)
  | 0, _, _ => .error .outOfFuel
  | fuel + 1, levels, text =>
    match bracketOf text with
    | none =>
      match scalar fl text with
      | some r => .ok r
      | none => .error .valueError
    | some (b, rest) =>
      match levels with
      | 0 => .error .recursionError
      | levels + 1 =>
        match after b.closing (skip rest) with
        | some rest => .ok (b.build [], rest)
        | none => do
          let r ← scanElements fuel b levels (skip rest)
          .ok (b.build r.1, r.2)

/-- The elements of a container up to its closing bracket. -/
def scanElements : Nat → Bracket → Nat → Text → Except Fault (List (Text × Value F) × Text)
  | 0, _, _, _ => .error .outOfFuel
  | fuel + 1, b, levels, text =>
    match b.label text with
    | none => .error .valueError
    | some (key, text) => do
      let r ← scanOnce fuel levels text
      match after b.closing (skip r.2) with
      | some rest => .ok ([(key, r.1)], rest)
      | none =>
        match after ','.toNat (skip r.2) with
        | none => .error .valueError
        | some rest => do
          let more ← scanElements fuel b levels (skip rest)
          .ok ((key, r.1) :: more.1, more.2)

end

/-- Enough for every text: each container and each element takes a character. -/
def fuelFor (text : Text) : Nat :=
  2 * text.length + 1

/-- `json.loads(bytes)` -/
def loads (levels : Nat) (bytes : List Nat) : Except Fault (Value F) :=
  match decodeBytes bytes with
  | none => .error .valueError
  | some text => do
    let r ← scanOnce fl (fuelFor (skip text)) levels (skip text)
    if skip r.2 = [] then .ok r.1 else .error .valueError

/-! ### How deep a text goes -/

mutual

/-- The most containers that are open at once while a value is read, up to its end or to the first
    character that is wrong, and the text after the value. -/
def opens : Nat → Text → Nat × Option Text
  | 0, _ => (0, none)
  | fuel + 1, text =>
    match bracketOf text with
    | none => (0, (scalar fl text).map Prod.snd)
    | some (b, rest) =>
      match after b.closing (skip rest) with
      | some rest => (1, some rest)
      | none =>
        let r := opensElements fuel b (skip rest)
        (r.1 + 1, r.2)

/-- `opens` on the elements of a container. -/
def opensElements : Nat → Bracket → Text → Nat × Option Text
  | 0, _, _ => (0, none)
  | fuel + 1, b, text =>
    match b.label text with
    | none => (0, none)
    | some (_, text) =>
      let r := opens fuel text
      match r.2 with
      | none => (r.1, none)
      | some text =>
        match after b.closing (skip text) with
        | some rest => (r.1, some rest)
        | none =>
          match after ','.toNat (skip text) with
          | none => (r.1, none)
          | some rest =>
            let more := opensElements fuel b (skip rest)
            (max r.1 more.1, more.2)

end

/-- The most containers that are open at once in the text of some bytes. -/
def deepest (bytes : List Nat) : Nat :=
  match decodeBytes bytes with
  | none => 0
  | some text => (opens fl (fuelFor (skip text)) (skip text)).1

end

end JsonText
