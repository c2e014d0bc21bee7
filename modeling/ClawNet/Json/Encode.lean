import Mathlib.Data.Rat.Defs
import ClawNet.Http.Client

namespace ClawNet.Json

open ClawNet.Http

/-- `Py_hexdigits`, lowercase. -/
def hexLower (d : Nat) : Char := if d < 10 then Char.ofNat (0x30 + d) else Char.ofNat (0x57 + d)

/-- `\uXXXX` with four lowercase hex digits of `n`. -/
def uEscape (n : Nat) : List Char :=
  ['\\', 'u', hexLower (n / 0x1000 % 16), hexLower (n / 0x100 % 16), hexLower (n / 0x10 % 16),
    hexLower (n % 16)]

/-- `Py_UNICODE_HIGH_SURROGATE`. -/
def highSurrogate (c : Nat) : Nat := 0xD800 - 0x40 + c / 0x400

/-- `Py_UNICODE_LOW_SURROGATE`. -/
def lowSurrogate (c : Nat) : Nat := 0xDC00 + c % 0x400

/-- The seven characters both escapers write as a backslash and one letter. -/
def shortEscape : Char → Option Char
  | '\\' => some '\\'
  | '"' => some '"'
  | '\x08' => some 'b'
  | '\x0c' => some 'f'
  | '\n' => some 'n'
  | '\r' => some 'r'
  | '\t' => some 't'
  | _ => none

/-- `S_CHAR`: what `ensure_ascii=True` writes as it is. -/
def isSChar (c : Char) : Bool := 0x20 ≤ c.toNat && c.toNat ≤ 0x7e && c != '\\' && c != '"'

/-- `ascii_escape_unichar`: a character beyond the BMP becomes a surrogate pair. -/
def asciiEscapeUnichar (c : Char) : List Char :=
  match shortEscape c with
  | some e => ['\\', e]
  | none =>
    if 0x10000 ≤ c.toNat then uEscape (highSurrogate c.toNat) ++ uEscape (lowSurrogate c.toNat)
    else uEscape c.toNat

/-- `ascii_escape_unicode`, the string encoder of `ensure_ascii=True`. -/
def asciiEscapeUnicode (s : String) : List Char :=
  '"' :: s.data.flatMap (fun c => if isSChar c then [c] else asciiEscapeUnichar c) ++ ['"']

/-- One character of `escape_unicode`: only `\\`, `"` and control characters are escaped. -/
def escapeUnichar (c : Char) : List Char :=
  match shortEscape c with
  | some e => ['\\', e]
  | none => if c.toNat ≤ 0x1f then uEscape c.toNat else [c]

/-- `escape_unicode`, the string encoder of `ensure_ascii=False`. -/
def escapeUnicode (s : String) : List Char := '"' :: s.data.flatMap escapeUnichar ++ ['"']

/-- The arguments of `json.dumps` that shape its text; the defaults are those of
`json.dumps(obj)`. -/
structure DumpsOptions where
  ensureAscii : Bool := true
  itemSeparator : String := ", "
  keySeparator : String := ": "

/-- `int.__repr__`. -/
def intRepr (i : Int) : List Char :=
  if i < 0 then '-' :: Nat.toDigits 10 i.natAbs else Nat.toDigits 10 i.natAbs

section Encode

variable (o : DumpsOptions) (floatRepr : ℚ → String)

def encodeString (s : String) : List Char :=
  if o.ensureAscii then asciiEscapeUnicode s else escapeUnicode s

/-- A number as `int.__repr__` writes an integral one; any other goes to `float.__repr__`,
which the model takes as a parameter. -/
def encodeNumber (q : ℚ) : List Char := if q.den = 1 then intRepr q.num else (floatRepr q).data

mutual
/-- `encoder_listencode_obj` with `indent=None`, `sort_keys=False` and string keys. -/
def encodeValue : Json → List Char
  | .null => "null".data
  | .bool true => "true".data
  | .bool false => "false".data
  | .num q => encodeNumber floatRepr q
  | .str s => encodeString o s
  | .arr [] => "[]".data
  | .arr (x :: xs) => '[' :: encodeValue x ++ encodeElements xs
  | .obj [] => ['{', '}']
  | .obj ((k, v) :: kvs) =>
    '{' :: encodeString o k ++ o.keySeparator.data ++ encodeValue v ++ encodeMembers kvs

/-- The rest of `encoder_listencode_list` after its first item. -/
def encodeElements : List Json → List Char
  | [] => [']']
  | x :: xs => o.itemSeparator.data ++ encodeValue x ++ encodeElements xs

/-- The rest of `encoder_listencode_dict` after its first item. -/
def encodeMembers : List (String × Json) → List Char
  | [] => ['}']
  | (k, v) :: kvs =>
    o.itemSeparator.data ++ encodeString o k ++ o.keySeparator.data ++ encodeValue v ++
      encodeMembers kvs
end

/-- `json.dumps(obj, ensure_ascii=..., separators=...)`. -/
def dumps (v : Json) : String := ⟨encodeValue o floatRepr v⟩

end Encode

example : dumps {} (fun _ => "") (.obj [("did", .str "é"), ("nonce", .num 1), ("tags", .arr [])])
    = "\x7b\"did\": \"\\u00e9\", \"nonce\": 1, \"tags\": []\x7d" := by decide

example : dumps ⟨false, ",", ":"⟩ (fun _ => "") (.arr [.str "é\n", .num (-12), .null])
    = "[\"é\\n\",-12,null]" := by decide

end ClawNet.Json
