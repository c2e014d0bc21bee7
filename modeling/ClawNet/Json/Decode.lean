import Mathlib.Data.Rat.Defs
import ClawNet.Http.Client

namespace ClawNet.Json

open ClawNet.Http

/-- `IS_WHITESPACE`. -/
def isWhitespace (c : Char) : Bool := c == ' ' || c == '\t' || c == '\n' || c == '\r'

def skipWhitespace (cs : List Char) : List Char := cs.dropWhile isWhitespace

/-- One hex digit of a `\uXXXX` escape, in either case; each is read as `c <<= 4; c |= digit`. -/
def hexValue (c : Char) : Option Nat :=
  if '0' ≤ c ∧ c ≤ '9' then some (c.toNat - 0x30)
  else if 'a' ≤ c ∧ c ≤ 'f' then some (c.toNat - 0x57)
  else if 'A' ≤ c ∧ c ≤ 'F' then some (c.toNat - 0x37)
  else none

def isHighSurrogate (u : Nat) : Bool := 0xD800 ≤ u && u ≤ 0xDBFF

def isLowSurrogate (u : Nat) : Bool := 0xDC00 ≤ u && u ≤ 0xDFFF

/-- `Py_UNICODE_JOIN_SURROGATES`. -/
def joinSurrogates (hi lo : Nat) : Nat := hi % 0x400 * 0x400 + lo % 0x400 + 0x10000

/-- The escapes other than `\u`. -/
def shortUnescape : Char → Option Char
  | '"' => some '"'
  | '\\' => some '\\'
  | '/' => some '/'
  | 'b' => some '\x08'
  | 'f' => some '\x0c'
  | 'n' => some '\n'
  | 'r' => some '\r'
  | 't' => some '\t'
  | _ => none

/-- Where `scanstring_unicode` is inside a string: among plain characters, after a backslash,
inside the hex digits of a `\u` escape (how many are left, their value so far, and the high
surrogate the escape must complete), or after a high surrogate, where `\u` must follow. -/
inductive StringScan where
  | chars
  | escape
  | hex (left acc : Nat) (high : Option Nat)
  | pairBackslash (high : Nat)
  | pairU (high : Nat)
  deriving DecidableEq, Repr

/-- What one character does to a string being scanned. -/
inductive StringStep where
  | done
  | fail
  | next (out : Option Char) (s : StringScan)
  deriving DecidableEq, Repr

/-- One character of `scanstring_unicode` with `strict=True`: a closing quote ends the string, a
control character or a bad escape fails, and a surrogate that does not pair with the next escape
fails too: Python then builds a `str` holding a lone surrogate, which no `String` is. -/
def strStep : StringScan → Char → StringStep
  | .chars, c =>
    if c = '"' then .done
    else if c = '\\' then .next none .escape
    else if c.toNat ≤ 0x1f then .fail
    else .next (some c) .chars
  | .escape, e =>
    if e = 'u' then .next none (.hex 4 0 none)
    else
      match shortUnescape e with
      | some c => .next (some c) .chars
      | none => .fail
  | .hex 0 _ _, _ => .fail
  | .hex (k + 1) acc high, h =>
    match hexValue h with
    | none => .fail
    | some d =>
      if k = 0 then
        match high with
        | none =>
          if isHighSurrogate (acc * 16 + d) then .next none (.pairBackslash (acc * 16 + d))
          else if isLowSurrogate (acc * 16 + d) then .fail
          else .next (some (Char.ofNat (acc * 16 + d))) .chars
        | some hi =>
          if isLowSurrogate (acc * 16 + d) then
            .next (some (Char.ofNat (joinSurrogates hi (acc * 16 + d)))) .chars
          else .fail
      else .next none (.hex k (acc * 16 + d) high)
  | .pairBackslash hi, c => if c = '\\' then .next none (.pairU hi) else .fail
  | .pairU hi, c => if c = 'u' then .next none (.hex 4 0 (some hi)) else .fail

/-- `scanstring_unicode`, driven by `strStep`: the string and what follows its closing quote. -/
def scanStr : StringScan → List Char → Option (List Char × List Char)
  | _, [] => none
  | s, c :: rest =>
    match strStep s c with
    | .done => some ([], rest)
    | .fail => none
    | .next none s' => scanStr s' rest
    | .next (some o) s' => (scanStr s' rest).map fun p => (o :: p.1, p.2)

/-- A string's characters from just after its opening quote. -/
def scanString (cs : List Char) : Option (List Char × List Char) := scanStr .chars cs

/-- The value of a run of decimal digits. -/
def digitsValue (ds : List Char) : Nat := ds.foldl (fun n d => 10 * n + (d.toNat - 0x30)) 0

/-- The integer part of `NUMBER_RE`: `0`, or a nonzero digit and more digits. -/
def scanIntPart : List Char → Option (List Char × List Char)
  | '0' :: rest => some (['0'], rest)
  | c :: rest =>
    if '1' ≤ c ∧ c ≤ '9' then some (c :: rest.takeWhile Char.isDigit, rest.dropWhile Char.isDigit)
    else none
  | [] => none

/-- The fraction: a `.` counts only when a digit follows it. -/
def scanFrac : List Char → List Char × List Char
  | '.' :: d :: rest =>
    if d.isDigit then (d :: rest.takeWhile Char.isDigit, rest.dropWhile Char.isDigit)
    else ([], '.' :: d :: rest)
  | rest => ([], rest)

/-- The exponent: `e` or `E`, a sign, and at least one digit, or nothing at all. -/
def scanExp : List Char → Int × List Char
  | e :: rest =>
    if e = 'e' ∨ e = 'E' then
      let (neg, r) : Bool × List Char := match rest with
        | '-' :: t => (true, t)
        | '+' :: t => (false, t)
        | t => (false, t)
      match r.takeWhile Char.isDigit with
      | [] => (0, e :: rest)
      | ds => (if neg then -(digitsValue ds : Int) else digitsValue ds, r.dropWhile Char.isDigit)
    else (0, e :: rest)
  | [] => (0, [])

/-- The optional minus sign of `NUMBER_RE`. -/
def scanSign : List Char → Bool × List Char
  | '-' :: r => (true, r)
  | r => (false, r)

/-- `_match_number_unicode`: the value the literal denotes (`int(...)` without fraction and
exponent, `float(...)` with them, kept exact) and what follows it. -/
def scanNumber (cs : List Char) : Option (ℚ × List Char) :=
  let (neg, cs) := scanSign cs
  match scanIntPart cs with
  | none => none
  | some (ds, r) =>
    let (fs, r) := scanFrac r
    let (e, r) := scanExp r
    let m : Int := (digitsValue (ds ++ fs) * Nat.pow 10 e.toNat : Nat)
    some (mkRat (if neg then -m else m) (Nat.pow 10 (fs.length + (-e).toNat)), r)

/-- The named constants `scan_once_unicode` reads as values, each matched character by
character. -/
def scanKeyword (cs : List Char) : Option (Json × List Char) :=
  if ['n', 'u', 'l', 'l'].isPrefixOf cs then some (.null, cs.drop 4)
  else if ['t', 'r', 'u', 'e'].isPrefixOf cs then some (.bool true, cs.drop 4)
  else if ['f', 'a', 'l', 's', 'e'].isPrefixOf cs then some (.bool false, cs.drop 5)
  else none

mutual
/-- `scan_once_unicode`, with fuel for its recursion: a switch on the first character, then a
number. `NaN`, `Infinity` and `-Infinity` give floats no rational is, and are `none`. -/
def scanValue : Nat → List Char → Option (Json × List Char)
  | 0, _ => none
  | _ + 1, [] => none
  | n + 1, c :: rest =>
    if c = '"' then (scanString rest).map fun p => (.str ⟨p.1⟩, p.2)
    else if c = '{' then
      let r := skipWhitespace rest
      if r.head? = some '}' then some (.obj [], r.tail) else scanMembers n [] r
    else if c = '[' then
      let r := skipWhitespace rest
      if r.head? = some ']' then some (.arr [], r.tail) else scanElements n [] r
    else
      match scanKeyword (c :: rest) with
      | some p => some p
      | none => (scanNumber (c :: rest)).map fun p => (.num p.1, p.2)

/-- The loop of `_parse_object_unicode` at a key, the pairs so far in `acc`: each pair goes in
with `PyDict_SetItem`, so a repeated key keeps its first place and takes its last value. -/
def scanMembers : Nat → List (String × Json) → List Char → Option (Json × List Char)
  | 0, _, _ => none
  | _ + 1, _, [] => none
  | n + 1, acc, c :: rest =>
    if c = '"' then
      match scanString rest with
      | none => none
      | some (k, r) =>
        match skipWhitespace r with
        | ':' :: r =>
          match scanValue n (skipWhitespace r) with
          | none => none
          | some (v, r) =>
            match skipWhitespace r with
            | '}' :: r => some (.obj (dictSet acc ⟨k⟩ v), r)
            | ',' :: r => scanMembers n (dictSet acc ⟨k⟩ v) (skipWhitespace r)
            | _ => none
        | _ => none
    else none

/-- The loop of `_parse_array_unicode` at an item, the items so far in `acc`. -/
def scanElements : Nat → List Json → List Char → Option (Json × List Char)
  | 0, _, _ => none
  | n + 1, acc, cs =>
    match scanValue n cs with
    | none => none
    | some (v, r) =>
      match skipWhitespace r with
      | ']' :: r => some (.arr (acc ++ [v]), r)
      | ',' :: r => scanElements n (acc ++ [v]) (skipWhitespace r)
      | _ => none
end

/-- `JSONDecoder.decode`: whitespace, one value, whitespace, and nothing else. Each level of
the recursion reads at least one character, so the length of the text is fuel enough. -/
def decode (s : String) : Option Json :=
  match scanValue (s.length + 1) (skipWhitespace s.data) with
  | some (v, r) => if (skipWhitespace r).isEmpty then some v else none
  | none => none

/-- `json.loads` of a `str`, which refuses a leading byte-order mark. -/
def loads (s : String) : Option Json :=
  match s.data with
  | '\uFEFF' :: _ => none
  | _ => decode s

example : loads " [1, -2.5e1, 0.5E-1, \"\\u00e9\\ud83d\\ude00\", true, null] "
    = some (.arr [.num 1, .num (-25), .num (mkRat 1 20), .str "é😀", .bool true, .null]) := by
  rfl

example : loads "[1,]" = none := by rfl

end ClawNet.Json
