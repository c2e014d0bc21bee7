import Mathlib.Data.List.Basic
import ClawNet.Text.Utf8

namespace ClawNet.Text

/-- `_ALWAYS_SAFE` of `urllib.parse`: ASCII letters, digits and `_.-~`. -/
def alwaysSafe (b : Nat) : Bool :=
  (0x41 ≤ b && b ≤ 0x5A) || (0x61 ≤ b && b ≤ 0x7A) || (0x30 ≤ b && b ≤ 0x39)
    || b == 0x5F || b == 0x2E || b == 0x2D || b == 0x7E

def hexDigit (d : Nat) : Char := Char.ofNat (if d < 10 then 0x30 + d else 0x37 + d)

def hexValue (b : Nat) : Option Nat :=
  if 0x30 ≤ b ∧ b ≤ 0x39 then some (b - 0x30)
  else if 0x41 ≤ b ∧ b ≤ 0x46 then some (b - 0x37)
  else if 0x61 ≤ b ∧ b ≤ 0x66 then some (b - 0x57)
  else none

/-- `_Quoter.__missing__`: `chr(b)` for a safe octet, `'%{:02X}'.format(b)` for any other. -/
def quoteByte (safe : List Char) (b : Nat) : List Char :=
  if alwaysSafe b || safe.any (·.toNat == b) then [Char.ofNat b]
  else ['%', hexDigit (b / 16), hexDigit (b % 16)]

/-- `quote_from_bytes(bs, safe)`, with `safe` already cut down to ASCII. -/
def quoteFromBytes (bs : List Nat) (safe : List Char) : List Char := bs.flatMap (quoteByte safe)

/-- `quote(string, safe)`: UTF-8 first, then `quote_from_bytes`, whose `safe.encode('ascii',
'ignore')` drops the non-ASCII safe characters. -/
def quote (s safe : String) : String :=
  ⟨quoteFromBytes (utf8Encode s.data) (safe.data.filter (·.toNat < 0x80))⟩

def spaceToPlus (c : Char) : Char := if c = ' ' then '+' else c

def plusToSpace (c : Char) : Char := if c = '+' then ' ' else c

/-- `quote_plus(string, safe)`: a string without a space goes to `quote` as it is; otherwise
the space is made safe and every space of the result replaced by `+`. -/
def quotePlus (s safe : String) : String :=
  if ' ' ∉ s.data then quote s safe
  else ⟨(quote s (safe ++ " ")).data.map spaceToPlus⟩

/-- `unquote_to_bytes`: `%` and two hexadecimal digits become that octet; a `%` without two
digits after it stays. -/
def unquoteToBytes : List Nat → List Nat
  | [] => []
  | b :: rest@(h :: l :: tail) =>
    if b = 0x25 then
      match hexValue h, hexValue l with
      | some x, some y => (x * 16 + y) :: unquoteToBytes tail
      | _, _ => b :: unquoteToBytes rest
    else b :: unquoteToBytes rest
  | b :: rest => b :: unquoteToBytes rest

/-- `unquote(string)` with `encoding='utf-8'`: `none` where the octets are not UTF-8 and
Python's `errors='replace'` would put U+FFFD. -/
def unquote (s : String) : Option String :=
  (utf8Decode (unquoteToBytes (utf8Encode s.data))).map String.mk

/-- `unquote_plus(string)`. -/
def unquotePlus (s : String) : Option String := unquote ⟨s.data.map plusToSpace⟩

example : quote "did:claw:z6Mk Test/é" "" = "did%3Aclaw%3Az6Mk%20Test%2F%C3%A9" := by decide
example : quotePlus "a b&c=d+e" "" = "a+b%26c%3Dd%2Be" := by decide

def isUpperHex (c : Char) : Bool := ('0' ≤ c && c ≤ '9') || ('A' ≤ c && c ≤ 'F')

/-- The characters `quote` may write: safe ones, `%` and upper-case hexadecimal digits. -/
def quoteOutput (safe : List Char) (c : Char) : Bool :=
  alwaysSafe c.toNat || safe.contains c || c == '%' || isUpperHex c

theorem toNat_ofNat_ascii {b : Nat} (h : b < 0x80) : (Char.ofNat b).toNat = b := by
  rw [Char.ofNat, dif_pos (Or.inl (by omega))]; rfl

theorem hexDigit_spec : ∀ d < 16, (hexDigit d).toNat < 0x80 ∧ hexValue (hexDigit d).toNat = some d
    ∧ isUpperHex (hexDigit d) := by
  decide

theorem alwaysSafe_lt {b : Nat} (h : alwaysSafe b) : b < 0x80 := by
  simp [alwaysSafe] at h; omega

section Octet

/-- A `safe` set `quote` can use: ASCII, and without the `%` it writes itself. -/
def SafeSet (safe : List Char) : Prop := ∀ c ∈ safe, c.toNat < 0x80 ∧ c ≠ '%'

variable {safe : List Char} {b : Nat}

theorem safe_octet (hs : SafeSet safe) (h : (alwaysSafe b || safe.any (·.toNat == b)) = true) :
    b < 0x80 ∧ b ≠ 0x25 := by
  rcases Bool.or_eq_true_iff.mp h with h | h
  · exact ⟨alwaysSafe_lt h, fun he => by subst he; simp [alwaysSafe] at h⟩
  · obtain ⟨c, hc, hcb⟩ := List.any_eq_true.mp h
    obtain ⟨hlt, hne⟩ := hs c hc
    rw [beq_iff_eq] at hcb; subst hcb
    exact ⟨hlt, fun he => hne (by rw [← Char.ofNat_toNat c, he])⟩

theorem unquoteToBytes_of_ne (h : b ≠ 0x25) (rest : List Nat) :
    unquoteToBytes (b :: rest) = b :: unquoteToBytes rest := by
  match rest with
  | [] => simp [unquoteToBytes]
  | [_] => simp [unquoteToBytes]
  | _ :: _ :: _ => simp [unquoteToBytes, h]

theorem unquoteToBytes_percent {h l x y : Nat} (hx : hexValue h = some x) (hy : hexValue l = some y)
    (tail : List Nat) : unquoteToBytes (0x25 :: h :: l :: tail) = (x * 16 + y) :: unquoteToBytes tail := by
  simp [unquoteToBytes, hx, hy]

theorem unquoteToBytes_quoteByte (hs : SafeSet safe) (hb : b < 0x100) (rest : List Nat) :
    unquoteToBytes (utf8Encode (quoteByte safe b) ++ rest) = b :: unquoteToBytes rest := by
  unfold quoteByte
  split
  · next h =>
    obtain ⟨hlt, hne⟩ := safe_octet hs h
    rw [utf8Encode_cons, utf8EncodeChar_ascii (by rwa [toNat_ofNat_ascii hlt]), toNat_ofNat_ascii hlt]
    exact unquoteToBytes_of_ne hne rest
  · obtain ⟨h1, v1, -⟩ := hexDigit_spec (b / 16) (by omega)
    obtain ⟨h2, v2, -⟩ := hexDigit_spec (b % 16) (by omega)
    rw [utf8Encode_ascii (by simp [h1, h2])]
    simp only [List.map_cons, List.map_nil, List.cons_append, List.nil_append]
    rw [show '%'.toNat = 0x25 from rfl, unquoteToBytes_percent v1 v2,
      show b / 16 * 16 + b % 16 = b by omega]

theorem mem_quoteByte (hs : SafeSet safe) (hb : b < 0x100) {c : Char} (h : c ∈ quoteByte safe b) :
    quoteOutput safe c := by
  unfold quoteByte at h
  split at h
  · next hsafe =>
    rw [List.mem_singleton] at h; subst h
    have hlt := (safe_octet hs hsafe).1
    rcases Bool.or_eq_true_iff.mp hsafe with h | h
    · simp [quoteOutput, toNat_ofNat_ascii hlt, h]
    · obtain ⟨x, hx, hxb⟩ := List.any_eq_true.mp h
      rw [beq_iff_eq] at hxb; subst hxb
      simp [quoteOutput, hx]
  · simp only [List.mem_cons, List.mem_singleton, List.not_mem_nil, or_false] at h
    rcases h with rfl | rfl | rfl
    · simp [quoteOutput]
    · simp [quoteOutput, (hexDigit_spec (b / 16) (by omega)).2.2]
    · simp [quoteOutput, (hexDigit_spec (b % 16) (by omega)).2.2]

end Octet

theorem unquoteToBytes_quoteFromBytes {safe : List Char} (hs : SafeSet safe) :
    ∀ bs : List Nat, (∀ b ∈ bs, b < 0x100) →
      unquoteToBytes (utf8Encode (quoteFromBytes bs safe)) = bs
  | [], _ => by simp [quoteFromBytes, unquoteToBytes]
  | b :: bs, h => by
    rw [quoteFromBytes, List.flatMap_cons, utf8Encode_append,
      unquoteToBytes_quoteByte hs (h b (List.mem_cons_self ..)),
      ← quoteFromBytes, unquoteToBytes_quoteFromBytes hs bs (fun x hx => h x (List.mem_cons_of_mem _ hx))]

theorem safeSet_filter {safe : String} (h : '%' ∉ safe.data) :
    SafeSet (safe.data.filter (·.toNat < 0x80)) := by
  intro c hc
  obtain ⟨hc, hlt⟩ := List.mem_filter.mp hc
  exact ⟨of_decide_eq_true hlt, fun he => h (he ▸ hc)⟩

theorem unquote_quote (s safe : String) (h : '%' ∉ safe.data) : unquote (quote s safe) = some s := by
  simp only [unquote, quote]
  rw [unquoteToBytes_quoteFromBytes (safeSet_filter h) _ (utf8Encode_lt _), utf8Decode_encode]
  rfl

theorem quote_injective {s t safe : String} (h : '%' ∉ safe.data) (he : quote s safe = quote t safe) :
    s = t := by
  have := unquote_quote s safe h
  rw [he, unquote_quote t safe h, Option.some.injEq] at this
  exact this.symm

theorem mem_quote {s safe : String} (h : '%' ∉ safe.data) {c : Char} (hc : c ∈ (quote s safe).data) :
    quoteOutput (safe.data.filter (·.toNat < 0x80)) c := by
  obtain ⟨b, hb, hcb⟩ := List.mem_flatMap.mp hc
  exact mem_quoteByte (safeSet_filter h) (utf8Encode_lt _ b hb) hcb

theorem quote_of_alwaysSafe {s : String} (h : ∀ c ∈ s.data, alwaysSafe c.toNat) (safe : String) :
    quote s safe = s := by
  have hq : ∀ l : List Char, (∀ c ∈ l, alwaysSafe c.toNat) →
      quoteFromBytes (utf8Encode l) (safe.data.filter (·.toNat < 0x80)) = l := by
    intro l hl
    induction l with
    | nil => rfl
    | cons c l ih =>
      have hc := hl c (List.mem_cons_self ..)
      rw [utf8Encode_cons, utf8EncodeChar_ascii (alwaysSafe_lt hc), quoteFromBytes,
        List.singleton_append, List.flatMap_cons, ← quoteFromBytes,
        ih (fun x hx => hl x (List.mem_cons_of_mem _ hx))]
      simp [quoteByte, hc]
  exact congrArg String.mk (hq s.data h)

section Plus

/-- What `quote_plus(s, '')` writes for one octet of `s`. -/
def plusByte (b : Nat) : List Char := if b = 0x20 then ['+'] else quoteByte [] b

variable {b : Nat}

theorem safeSet_nil : SafeSet [] := fun _ h => absurd h (List.not_mem_nil _)

theorem quoteByte_space (hb : b ≠ 0x20) : quoteByte [' '] b = quoteByte [] b := by
  have : ¬32 = b := fun h => hb h.symm
  simp [quoteByte, this]

theorem map_quoteByte {f : Char → Char} (hf : ∀ c, quoteOutput [] c → f c = c) (hb : b < 0x100) :
    (quoteByte [] b).map f = quoteByte [] b :=
  (List.map_congr_left fun c hc => hf c (mem_quoteByte safeSet_nil hb hc)).trans (List.map_id _)

theorem spaceToPlus_quoteOutput (c : Char) (h : quoteOutput [] c) : spaceToPlus c = c :=
  if_neg fun he => absurd (he ▸ h) (by decide)

theorem plusToSpace_quoteOutput (c : Char) (h : quoteOutput [] c) : plusToSpace c = c :=
  if_neg fun he => absurd (he ▸ h) (by decide)

theorem space_mem_utf8Encode {l : List Char} (h : 0x20 ∈ utf8Encode l) : ' ' ∈ l := by
  obtain ⟨c, hc, hb⟩ := List.mem_flatMap.mp h
  have := eq_of_ascii_mem_utf8EncodeChar (by decide) hb
  rwa [show c = ' ' by rw [← Char.ofNat_toNat c, this]] at hc

theorem quotePlus_empty (s : String) : quotePlus s "" = ⟨(utf8Encode s.data).flatMap plusByte⟩ := by
  have hlt := utf8Encode_lt s.data
  unfold quotePlus
  split
  · next h =>
    refine congrArg String.mk (List.flatMap_congr fun b hb => ?_)
    have : b ≠ 0x20 := fun he => h (space_mem_utf8Encode (he ▸ hb))
    simp [plusByte, this]
  · show String.mk ((quoteFromBytes _ [' ']).map spaceToPlus) = _
    rw [quoteFromBytes, List.map_flatMap]
    refine congrArg String.mk (List.flatMap_congr fun b hb => ?_)
    by_cases h : b = 0x20
    · subst h; decide
    · rw [plusByte, if_neg h, quoteByte_space h, map_quoteByte spaceToPlus_quoteOutput (hlt b hb)]

theorem unquotePlus_quotePlus (s : String) : unquotePlus (quotePlus s "") = some s := by
  have hlt := utf8Encode_lt s.data
  have h : (⟨((utf8Encode s.data).flatMap plusByte).map plusToSpace⟩ : String) = quote s " " := by
    show String.mk _ = String.mk (quoteFromBytes _ [' '])
    rw [List.map_flatMap, quoteFromBytes]
    refine congrArg String.mk (List.flatMap_congr fun b hb => ?_)
    by_cases h : b = 0x20
    · subst h; decide
    · rw [plusByte, if_neg h, quoteByte_space h, map_quoteByte plusToSpace_quoteOutput (hlt b hb)]
  rw [quotePlus_empty, unquotePlus, h, unquote_quote s " " (by decide)]

theorem mem_quotePlus {s : String} {c : Char} (h : c ∈ (quotePlus s "").data) :
    quoteOutput [] c ∨ c = '+' := by
  rw [quotePlus_empty] at h
  obtain ⟨b, hb, hc⟩ := List.mem_flatMap.mp h
  unfold plusByte at hc
  split at hc
  · exact .inr (List.mem_singleton.mp hc)
  · exact .inl (mem_quoteByte safeSet_nil (utf8Encode_lt _ b hb) hc)

end Plus

end ClawNet.Text
