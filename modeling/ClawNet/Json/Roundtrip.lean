import ClawNet.Json.Encode
import ClawNet.Json.Decode

namespace ClawNet.Json

open ClawNet.Http

section Strings

variable {s s' : StringScan} {c e o : Char} {t : List Char}

theorem scanStr_skip (h : strStep s c = .next none s') : scanStr s (c :: t) = scanStr s' t := by
  simp [scanStr, h]

theorem scanStr_emit (h : strStep s c = .next (some o) s') :
    scanStr s (c :: t) = (scanStr s' t).map fun p => (o :: p.1, p.2) := by
  simp [scanStr, h]

theorem hexValue_hexLower : ∀ d, d < 16 → hexValue (hexLower d) = some d := by decide

theorem strStep_hex {k acc d : Nat} {high : Option Nat} (hd : d < 16) :
    strStep (.hex (k + 2) acc high) (hexLower d) = .next none (.hex (k + 1) (acc * 16 + d) high) := by
  simp [strStep, hexValue_hexLower d hd]

theorem strStep_plain (h1 : c ≠ '"') (h2 : c ≠ '\\') (h3 : 0x1f < c.toNat) :
    strStep .chars c = .next (some c) .chars := by
  simp [strStep, h1, h2, show ¬c.toNat ≤ 0x1f by omega]

theorem strStep_shortEscape (h : shortEscape c = some e) : strStep .escape e = .next (some c) .chars := by
  unfold shortEscape at h
  split at h <;> cases h <;> decide

theorem shortEscape_none (h : shortEscape c = none) : c ≠ '"' ∧ c ≠ '\\' := by
  constructor <;> rintro rfl <;> exact absurd h (by decide)

theorem scanStr_hexDigits {n : Nat} (h : n < 0x10000) (high : Option Nat) :
    scanStr (.hex 4 0 high) ((uEscape n).drop 2 ++ t) =
      scanStr (.hex 1 (n / 16) high) (hexLower (n % 16) :: t) := by
  have hd : ∀ m, m % 16 < 16 := fun m => Nat.mod_lt _ (by decide)
  simp only [uEscape, List.drop, List.cons_append, List.nil_append]
  rw [scanStr_skip (strStep_hex (hd _)), scanStr_skip (strStep_hex (hd _)),
    scanStr_skip (strStep_hex (hd _))]
  congr 2
  omega

theorem scanStr_uEscape_start {n : Nat} (h : n < 0x10000) :
    scanStr .chars (uEscape n ++ t) = scanStr (.hex 1 (n / 16) none) (hexLower (n % 16) :: t) := by
  rw [← scanStr_hexDigits h]
  rfl

theorem scanStr_uEscape_second {hi n : Nat} (h : n < 0x10000) :
    scanStr (.pairBackslash hi) (uEscape n ++ t) =
      scanStr (.hex 1 (n / 16) (some hi)) (hexLower (n % 16) :: t) := by
  rw [← scanStr_hexDigits h]
  rfl

theorem strStep_hex_last {n : Nat} (high : Option Nat) :
    strStep (.hex 1 (n / 16) high) (hexLower (n % 16)) =
      match high with
      | none =>
        if isHighSurrogate n then .next none (.pairBackslash n)
        else if isLowSurrogate n then .fail
        else .next (some (Char.ofNat n)) .chars
      | some hi =>
        if isLowSurrogate n then .next (some (Char.ofNat (joinSurrogates hi n))) .chars else .fail := by
  cases high <;> simp only [strStep, hexValue_hexLower _ (Nat.mod_lt n (by decide)), if_pos,
    Nat.div_add_mod']

theorem scanStr_uEscape {n : Nat} (h : n < 0x10000) (hh : isHighSurrogate n = false)
    (hl : isLowSurrogate n = false) :
    scanStr .chars (uEscape n ++ t) = (scanStr .chars t).map fun p => (Char.ofNat n :: p.1, p.2) := by
  rw [scanStr_uEscape_start h, scanStr_emit]
  simp [strStep_hex_last, hh, hl]

theorem scanStr_surrogatePair (hc : 0x10000 ≤ c.toNat) :
    scanStr .chars (uEscape (highSurrogate c.toNat) ++ uEscape (lowSurrogate c.toNat) ++ t) =
      (scanStr .chars t).map fun p => (c :: p.1, p.2) := by
  have hv := ClawNet.Text.char_valid c
  have hhi : isHighSurrogate (highSurrogate c.toNat) = true := by
    simp [isHighSurrogate, highSurrogate]; omega
  have hlo : isLowSurrogate (lowSurrogate c.toNat) = true := by
    simp [isLowSurrogate, lowSurrogate]; omega
  have hj : joinSurrogates (highSurrogate c.toNat) (lowSurrogate c.toNat) = c.toNat := by
    simp only [joinSurrogates, highSurrogate, lowSurrogate]; omega
  have hfirst : strStep (.hex 1 (highSurrogate c.toNat / 16) none)
      (hexLower (highSurrogate c.toNat % 16)) = .next none (.pairBackslash (highSurrogate c.toNat)) := by
    simp [strStep_hex_last, hhi]
  have hsecond : strStep (.hex 1 (lowSurrogate c.toNat / 16) (some (highSurrogate c.toNat)))
      (hexLower (lowSurrogate c.toNat % 16)) = .next (some c) .chars := by
    simp [strStep_hex_last, hlo, hj]
  rw [List.append_assoc, scanStr_uEscape_start (by simp [highSurrogate]; omega), scanStr_skip hfirst,
    scanStr_uEscape_second (by simp [lowSurrogate]; omega), scanStr_emit hsecond]

theorem scanStr_asciiEscapeUnichar (c : Char) (t : List Char) :
    scanStr .chars ((if isSChar c then [c] else asciiEscapeUnichar c) ++ t) =
      (scanStr .chars t).map fun p => (c :: p.1, p.2) := by
  have hv := ClawNet.Text.char_valid c
  by_cases hs : isSChar c
  · simp only [isSChar, Bool.and_eq_true, decide_eq_true_eq, bne_iff_ne] at hs
    rw [if_pos (by simpa [isSChar] using hs), List.singleton_append,
      scanStr_emit (strStep_plain hs.2 hs.1.2 (by omega))]
  rw [if_neg hs, asciiEscapeUnichar]
  cases he : shortEscape c with
  | some e' => exact (scanStr_skip (by decide)).trans (scanStr_emit (strStep_shortEscape he))
  | none =>
    by_cases hb : 0x10000 ≤ c.toNat
    · rw [if_pos hb, scanStr_surrogatePair hb]
    · rw [if_neg hb, scanStr_uEscape (by omega) (by simp [isHighSurrogate]; omega)
        (by simp [isLowSurrogate]; omega), Char.ofNat_toNat]

theorem scanStr_escapeUnichar (c : Char) (t : List Char) :
    scanStr .chars (escapeUnichar c ++ t) = (scanStr .chars t).map fun p => (c :: p.1, p.2) := by
  rw [escapeUnichar]
  cases he : shortEscape c with
  | some e' => exact (scanStr_skip (by decide)).trans (scanStr_emit (strStep_shortEscape he))
  | none =>
    obtain ⟨h1, h2⟩ := shortEscape_none he
    by_cases hc : c.toNat ≤ 0x1f
    · rw [if_pos hc, scanStr_uEscape (by omega) (by simp [isHighSurrogate]; omega)
        (by simp [isLowSurrogate]; omega), Char.ofNat_toNat]
    · rw [if_neg hc, List.singleton_append, scanStr_emit (strStep_plain h1 h2 (by omega))]

theorem scanStr_flatMap {f : Char → List Char}
    (hf : ∀ c t, scanStr .chars (f c ++ t) = (scanStr .chars t).map fun p => (c :: p.1, p.2))
    (cs t : List Char) : scanStr .chars (cs.flatMap f ++ '"' :: t) = some (cs, t) := by
  induction cs with
  | nil => simp [scanStr, strStep]
  | cons c cs ih => rw [List.flatMap_cons, List.append_assoc, hf, ih]; rfl

theorem scanStr_encodeString (o : DumpsOptions) (str : String) (t : List Char) :
    encodeString o str = '"' :: (encodeString o str).tail ∧
      scanStr .chars ((encodeString o str).tail ++ t) = some (str.data, t) := by
  unfold encodeString
  split
  · refine ⟨rfl, ?_⟩
    rw [asciiEscapeUnicode, List.cons_append, List.tail_cons, List.append_assoc, List.singleton_append]
    exact scanStr_flatMap scanStr_asciiEscapeUnichar _ _
  · refine ⟨rfl, ?_⟩
    rw [escapeUnicode, List.cons_append, List.tail_cons, List.append_assoc, List.singleton_append]
    exact scanStr_flatMap scanStr_escapeUnichar _ _

end Strings

section Numbers

theorem toDigitsCore_succ (f n : Nat) (acc : List Char) :
    Nat.toDigitsCore 10 (f + 1) n acc =
      if n / 10 = 0 then Nat.digitChar (n % 10) :: acc
      else Nat.toDigitsCore 10 f (n / 10) (Nat.digitChar (n % 10) :: acc) := rfl

theorem toDigitsCore_acc : ∀ f n acc,
    Nat.toDigitsCore 10 f n acc = Nat.toDigitsCore 10 f n [] ++ acc
  | 0, _, _ => rfl
  | f + 1, n, acc => by
    rw [toDigitsCore_succ, toDigitsCore_succ]
    split
    · rfl
    · rw [toDigitsCore_acc f _ (_ :: acc), toDigitsCore_acc f _ [_], List.append_assoc]
      rfl

theorem toDigitsCore_fuel : ∀ f g n, n < f → n < g →
    Nat.toDigitsCore 10 f n [] = Nat.toDigitsCore 10 g n []
  | 0, _, _, h, _ | _, 0, _, _, h => absurd h (Nat.not_lt_zero _)
  | f + 1, g + 1, n, hf, hg => by
    rw [toDigitsCore_succ, toDigitsCore_succ]
    split
    · rfl
    · rw [toDigitsCore_acc f, toDigitsCore_acc g, toDigitsCore_fuel f g (n / 10) (by omega) (by omega)]

theorem toDigits_ten (n : Nat) : Nat.toDigits 10 n =
    (if n < 10 then [] else Nat.toDigits 10 (n / 10)) ++ [Nat.digitChar (n % 10)] := by
  show Nat.toDigitsCore 10 (n + 1) n [] = _
  rw [toDigitsCore_succ]
  split
  · rw [if_pos (by omega)]; rfl
  · rw [if_neg (by omega), toDigitsCore_acc, toDigitsCore_fuel n (n / 10 + 1) _ (by omega) (by omega)]
    rfl

theorem digitChar_spec : ∀ d, d < 10 →
    (Nat.digitChar d).isDigit ∧ (Nat.digitChar d).toNat - 0x30 = d := by decide

theorem mem_toDigits {c : Char} (n : Nat) (h : c ∈ Nat.toDigits 10 n) :
    ∃ d < 10, c = Nat.digitChar d := by
  induction n using Nat.strong_induction_on with
  | _ n ih =>
    rw [toDigits_ten] at h
    rcases List.mem_append.1 h with h | h
    · split at h
      · simp at h
      · exact ih (n / 10) (by omega) h
    · exact ⟨n % 10, Nat.mod_lt _ (by decide), List.mem_singleton.1 h⟩

theorem digitsValue_toDigits (n : Nat) : digitsValue (Nat.toDigits 10 n) = n := by
  induction n using Nat.strong_induction_on with
  | _ n ih =>
    have hd := (digitChar_spec (n % 10) (Nat.mod_lt _ (by decide))).2
    rw [toDigits_ten, digitsValue, List.foldl_append, ← digitsValue]
    split
    · simp [digitsValue, hd]; omega
    · simp only [ih (n / 10) (by omega), List.foldl_cons, List.foldl_nil, hd]; omega

theorem toDigits_head (n : Nat) :
    ∃ d ds, Nat.toDigits 10 n = Nat.digitChar d :: ds ∧ d < 10 ∧ (0 < n → 0 < d) := by
  induction n using Nat.strong_induction_on with
  | _ n ih =>
    rw [toDigits_ten]
    split
    · exact ⟨n, [], by simp [Nat.mod_eq_of_lt ‹n < 10›], ‹_›, id⟩
    · obtain ⟨d, ds, hds, hd, hpos⟩ := ih (n / 10) (by omega)
      exact ⟨d, ds ++ _, by rw [hds]; rfl, hd, fun _ => hpos (by omega)⟩

theorem digitChar_head : ∀ d, d < 10 →
    Nat.digitChar d ≠ '-' ∧ (0 < d → Nat.digitChar d ≠ '0' ∧ '1' ≤ Nat.digitChar d ∧ Nat.digitChar d ≤ '9') := by
  decide

/-- What may follow a number without becoming part of it: no digit, fraction or exponent. -/
def NumberEnd : List Char → Prop
  | [] => True
  | c :: _ => c.isDigit = false ∧ c ≠ '.' ∧ c ≠ 'e' ∧ c ≠ 'E'

variable {t : List Char}

theorem scanFrac_of_numberEnd (h : NumberEnd t) : scanFrac t = ([], t) := by
  match t, h with
  | [], _ => rfl
  | c :: r, h => simp [scanFrac, h.2.1]

theorem scanExp_of_numberEnd (h : NumberEnd t) : scanExp t = (0, t) := by
  match t, h with
  | [], _ => rfl
  | c :: r, h => simp [scanExp, h.2.2]

theorem span_digits {ds : List Char} (hds : ∀ c ∈ ds, c.isDigit) (h : NumberEnd t) :
    (ds ++ t).takeWhile Char.isDigit = ds ∧ (ds ++ t).dropWhile Char.isDigit = t := by
  rw [List.takeWhile_append_of_pos hds, List.dropWhile_append_of_pos hds]
  match t, h with
  | [], _ => simp
  | c :: r, h => simp [h.1]

theorem scanIntPart_toDigits (n : Nat) (h : NumberEnd t) :
    scanIntPart (Nat.toDigits 10 n ++ t) = some (Nat.toDigits 10 n, t) := by
  rcases Nat.eq_zero_or_pos n with rfl | hn
  · rfl
  obtain ⟨d, ds, hds, hd, hpos⟩ := toDigits_head n
  have hdigits : ∀ c ∈ ds, c.isDigit := fun c hc => by
    obtain ⟨e, he, rfl⟩ := mem_toDigits n (hds ▸ List.mem_cons_of_mem _ hc)
    exact (digitChar_spec e he).1
  obtain ⟨h0, h1, h9⟩ := (digitChar_head d hd).2 (hpos hn)
  obtain ⟨htake, hdrop⟩ := span_digits hdigits h
  rw [hds, List.cons_append]
  simp [scanIntPart, h0, h1, h9, htake, hdrop]

theorem scanNumber_digits {cs : List Char} {neg : Bool} (n : Nat)
    (hsign : scanSign cs = (neg, Nat.toDigits 10 n ++ t)) (h : NumberEnd t) :
    scanNumber cs = some (mkRat (if neg then -(n : Int) else n) 1, t) := by
  simp only [scanNumber, hsign, scanIntPart_toDigits n h, scanFrac_of_numberEnd h,
    scanExp_of_numberEnd h, List.append_nil, digitsValue_toDigits, Int.neg_zero, Int.toNat_zero,
    show Nat.pow 10 0 = 1 from rfl, Nat.mul_one, List.length_nil, Nat.zero_add]

theorem scanNumber_intRepr (i : Int) (h : NumberEnd t) :
    scanNumber (intRepr i ++ t) = some ((i : ℚ), t) := by
  obtain ⟨d, ds, hds, hd, -⟩ := toDigits_head i.natAbs
  unfold intRepr
  split
  · rw [List.cons_append, scanNumber_digits i.natAbs rfl h, if_pos rfl, Rat.mkRat_one,
      show -(i.natAbs : Int) = i by omega]
  · have hsign : scanSign (Nat.toDigits 10 i.natAbs ++ t) = (false, Nat.toDigits 10 i.natAbs ++ t) := by
      rw [hds, List.cons_append, scanSign]
      exact fun r he => (digitChar_head d hd).1 (List.cons.inj he).1
    rw [scanNumber_digits i.natAbs hsign h, if_neg Bool.false_ne_true, Rat.mkRat_one,
      show (i.natAbs : Int) = i by omega]

end Numbers

section Values

/-- A separator `json.dumps` may be given that the scanner reads back: whitespace, the mark,
whitespace. -/
def isSeparator (mark : Char) (sep : String) : Bool :=
  match skipWhitespace sep.data with
  | c :: rest => c == mark && rest.all isWhitespace
  | [] => false

/-- Both separators read back: `", "` and `": "` by default, `","` and `":"` compact. -/
def separatorsOk (o : DumpsOptions) : Bool :=
  isSeparator ',' o.itemSeparator && isSeparator ':' o.keySeparator

theorem separatorsOk_iff {o : DumpsOptions} :
    separatorsOk o ↔ isSeparator ',' o.itemSeparator ∧ isSeparator ':' o.keySeparator := by
  simp [separatorsOk]

mutual
/-- The values `dumps` writes so that `loads` gives them back: integral numbers (the model
leaves `float.__repr__` abstract) and no key twice in one object (the decoder keeps one). -/
def plainValue : Json → Bool
  | .num q => q.den == 1
  | .arr xs => plainElements xs
  | .obj kvs => decide (kvs.map Prod.fst).Nodup && plainMembers kvs
  | _ => true

def plainElements : List Json → Bool
  | [] => true
  | x :: xs => plainValue x && plainElements xs

def plainMembers : List (String × Json) → Bool
  | [] => true
  | (_, v) :: kvs => plainValue v && plainMembers kvs
end

/-- What a value's text may start with: no whitespace, no `]` and no byte-order mark. -/
def startsValue (c : Char) : Bool := !isWhitespace c && c != ']' && c != '\uFEFF'

variable {u t : List Char}

theorem startsValue_iff {c : Char} :
    startsValue c ↔ isWhitespace c = false ∧ c ≠ ']' ∧ c ≠ '\uFEFF' := by
  simp [startsValue, and_assoc]

theorem skipWhitespace_cons {c : Char} (h : startsValue c) : skipWhitespace (c :: u) = c :: u :=
  List.dropWhile_cons_of_neg (by simp_all [startsValue])

theorem skipWhitespace_separator {m : Char} {sep : String} (hs : isSeparator m sep) :
    ∃ r, skipWhitespace (sep.data ++ u) = m :: (r ++ u) ∧ skipWhitespace (r ++ u) = skipWhitespace u := by
  unfold isSeparator at hs
  split at hs
  · rename_i c rest heq
    simp only [Bool.and_eq_true, beq_iff_eq, List.all_eq_true] at hs
    obtain ⟨rfl, hall⟩ := hs
    refine ⟨rest, ?_, ?_⟩
    · rw [skipWhitespace, List.dropWhile_append, ← skipWhitespace, heq]
      rfl
    · rw [skipWhitespace, List.dropWhile_append_of_pos hall]
      rfl
  · cases hs

theorem separator_head {m : Char} {sep : String} (hs : isSeparator m sep) :
    ∃ c r, sep.data = c :: r ∧ (isWhitespace c ∨ c = m) := by
  obtain ⟨r, hr, -⟩ := skipWhitespace_separator (u := []) hs
  match hsep : sep.data, hr with
  | [], hr => simp [skipWhitespace] at hr
  | c :: rest, hr =>
    refine ⟨c, rest, rfl, ?_⟩
    by_cases hc : isWhitespace c
    · exact .inl hc
    · rw [List.append_nil, skipWhitespace, List.dropWhile_cons_of_neg hc] at hr
      exact .inr (List.cons.inj hr).1

theorem numberEnd_cons {c : Char} (h : isWhitespace c ∨ c = ',' ∨ c = ':' ∨ c = ']' ∨ c = '}') :
    NumberEnd (c :: u) := by
  simp only [isWhitespace, Bool.or_eq_true, beq_iff_eq] at h
  rcases h with (((h | h) | h) | h) | h | h | h | h <;> subst h <;> exact ⟨rfl, by decide, by decide, by decide⟩

theorem numberEnd_separator {sep : String} (hs : isSeparator ',' sep) : NumberEnd (sep.data ++ u) := by
  obtain ⟨c, r, hsep, hc⟩ := separator_head hs
  rw [hsep, List.cons_append]
  exact numberEnd_cons (hc.imp_right .inl)

theorem scanKeyword_cons {c : Char} (h : c ≠ 'n' ∧ c ≠ 't' ∧ c ≠ 'f') : scanKeyword (c :: u) = none := by
  simp [scanKeyword, List.isPrefixOf, h.1.symm, h.2.1.symm, h.2.2.symm]

theorem digitChar_numberHead : ∀ d, d < 10 →
    startsValue (Nat.digitChar d) ∧ Nat.digitChar d ≠ '"' ∧ Nat.digitChar d ≠ '{' ∧
      Nat.digitChar d ≠ '[' ∧ Nat.digitChar d ≠ 'n' ∧ Nat.digitChar d ≠ 't' ∧ Nat.digitChar d ≠ 'f' := by
  decide

theorem intRepr_head (i : Int) : ∃ c r, intRepr i = c :: r ∧
    startsValue c ∧ c ≠ '"' ∧ c ≠ '{' ∧ c ≠ '[' ∧ c ≠ 'n' ∧ c ≠ 't' ∧ c ≠ 'f' := by
  obtain ⟨d, ds, hds, hd, -⟩ := toDigits_head i.natAbs
  unfold intRepr
  split
  · exact ⟨'-', _, rfl, by decide⟩
  · exact ⟨_, ds, hds, digitChar_numberHead d hd⟩

theorem scanValue_intRepr (i : Int) (n : Nat) (h : NumberEnd t) :
    scanValue (n + 1) (intRepr i ++ t) = some (.num i, t) := by
  obtain ⟨c, r, hcr, -, h1, h2, h3, h4, h5, h6⟩ := intRepr_head i
  have hnum := scanNumber_intRepr i h
  rw [hcr, List.cons_append] at hnum ⊢
  simp [scanValue, h1, h2, h3, scanKeyword_cons ⟨h4, h5, h6⟩, hnum]

variable (o : DumpsOptions) (fr : ℚ → String)

theorem scanValue_encodeString (s : String) (n : Nat) :
    scanValue (n + 1) (encodeString o s ++ t) = some (.str s, t) := by
  obtain ⟨h1, h2⟩ := scanStr_encodeString o s t
  rw [h1, List.cons_append]
  simp [scanValue, scanString, h2]

theorem encodeValue_head {v : Json} (hv : plainValue v) :
    ∃ c r, encodeValue o fr v = c :: r ∧ startsValue c := by
  cases v with
  | null => exact ⟨'n', _, rfl, by decide⟩
  | bool b => cases b <;> exact ⟨_, _, rfl, by decide⟩
  | num q =>
    simp only [plainValue, beq_iff_eq] at hv
    obtain ⟨c, r, hcr, hc, -⟩ := intRepr_head q.num
    exact ⟨c, r, by rw [encodeValue, encodeNumber, if_pos hv, hcr], hc⟩
  | str s => exact ⟨'"', _, (scanStr_encodeString o s []).1, by decide⟩
  | arr xs => cases xs <;> exact ⟨'[', _, rfl, by decide⟩
  | obj kvs => cases kvs <;> exact ⟨'{', _, rfl, by decide⟩

theorem encodeValue_length_pos {v : Json} (hv : plainValue v) : 0 < (encodeValue o fr v).length := by
  obtain ⟨c, r, hcr, -⟩ := encodeValue_head o fr hv
  simp [hcr]

theorem skipWhitespace_encodeValue {v : Json} (hv : plainValue v) :
    skipWhitespace (encodeValue o fr v ++ u) = encodeValue o fr v ++ u := by
  obtain ⟨c, r, hcr, hc⟩ := encodeValue_head o fr hv
  rw [hcr, List.cons_append, skipWhitespace_cons hc]

theorem skipWhitespace_encodeString (s : String) :
    skipWhitespace (encodeString o s ++ u) = encodeString o s ++ u := by
  rw [(scanStr_encodeString o s []).1, List.cons_append, skipWhitespace_cons (by decide)]

theorem encodeElements_length_pos (xs : List Json) : 0 < (encodeElements o fr xs).length := by
  induction xs with
  | nil => exact Nat.one_pos
  | cons y ys ih => simp only [encodeElements, List.length_append]; omega

theorem numberEnd_encodeElements (hs : separatorsOk o) (xs : List Json) :
    NumberEnd (encodeElements o fr xs ++ t) := by
  cases xs with
  | nil => exact numberEnd_cons (by simp)
  | cons y ys =>
    rw [encodeElements, List.append_assoc, List.append_assoc]
    exact numberEnd_separator (separatorsOk_iff.1 hs).1

theorem numberEnd_encodeMembers (hs : separatorsOk o) (kvs : List (String × Json)) :
    NumberEnd (encodeMembers o fr kvs ++ t) := by
  cases kvs with
  | nil => exact numberEnd_cons (by simp)
  | cons kv kvs =>
    rw [encodeMembers, List.append_assoc, List.append_assoc, List.append_assoc, List.append_assoc]
    exact numberEnd_separator (separatorsOk_iff.1 hs).1

theorem dictSet_fresh {α : Type} {acc : List (String × α)} {k : String} (v : α)
    (h : k ∉ acc.map Prod.fst) : dictSet acc k v = acc ++ [(k, v)] := by
  rw [dictSet, if_neg]
  simpa using fun b hb => h (List.mem_map.2 ⟨(k, b), hb, rfl⟩)

mutual
theorem scanValue_encodeValue (hs : separatorsOk o) : ∀ (v : Json) (n : Nat) (t : List Char),
    plainValue v → (encodeValue o fr v).length < n → NumberEnd t →
      scanValue n (encodeValue o fr v ++ t) = some (v, t)
  | _, 0, _, _, hn, _ => absurd hn (Nat.not_lt_zero _)
  | .null, _ + 1, _, _, _, _ | .bool true, _ + 1, _, _, _, _ | .bool false, _ + 1, _, _, _, _ => by
    simp [encodeValue, scanValue, scanKeyword]
  | .num q, n + 1, t, hv, _, ht => by
    simp only [plainValue, beq_iff_eq] at hv
    rw [encodeValue, encodeNumber, if_pos hv, scanValue_intRepr _ _ ht, Rat.coe_int_num_of_den_eq_one hv]
  | .str s, _ + 1, _, _, _, _ => scanValue_encodeString o s _
  | .arr [], _ + 1, _, _, _, _ => rfl
  | .arr (x :: xs), n + 1, t, hv, hn, ht => by
    simp only [plainValue, plainElements, Bool.and_eq_true] at hv
    simp only [encodeValue, List.length_cons, List.length_append] at hn
    have hx := scanElements_encodeElements hs x xs n [] t hv.1 hv.2 (by simp; omega) ht
    obtain ⟨c, r, hcr, hc⟩ := encodeValue_head o fr hv.1
    have hhead : (encodeValue o fr x ++ (encodeElements o fr xs ++ t)).head? ≠ some ']' := by
      rw [hcr]
      simpa using (startsValue_iff.1 hc).2.1
    simp only [encodeValue, List.cons_append, List.append_assoc, List.nil_append] at hx ⊢
    rw [scanValue, if_neg (by decide), if_neg (by decide), if_pos rfl]
    dsimp only
    rw [skipWhitespace_encodeValue o fr hv.1, if_neg hhead, hx]
  | .obj [], _ + 1, _, _, _, _ => rfl
  | .obj ((k, v) :: kvs), n + 1, t, hv, hn, ht => by
    simp only [plainValue, plainMembers, Bool.and_eq_true, decide_eq_true_eq] at hv
    have hm := scanMembers_encodeMembers hs k v kvs n [] t hv.2.1 hv.2.2 (by simpa using hv.1)
      (by simp only [encodeValue, List.length_append, List.length_cons] at hn ⊢; omega) ht
    have hhead : ∀ u, (encodeString o k ++ u).head? ≠ some '}' := fun u => by
      rw [(scanStr_encodeString o k []).1]
      simp
    simp only [encodeValue, List.cons_append, List.append_assoc, List.nil_append] at hm ⊢
    rw [scanValue, if_neg (by decide), if_pos rfl]
    dsimp only
    rw [skipWhitespace_encodeString, if_neg (hhead _), hm]

theorem scanElements_encodeElements (hs : separatorsOk o) :
    ∀ (x : Json) (xs : List Json) (n : Nat) (acc : List Json) (t : List Char),
      plainValue x → plainElements xs → (encodeValue o fr x ++ encodeElements o fr xs).length < n →
        NumberEnd t →
          scanElements n acc (encodeValue o fr x ++ encodeElements o fr xs ++ t) =
            some (.arr (acc ++ x :: xs), t)
  | _, _, 0, _, _, _, _, hn, _ => absurd hn (Nat.not_lt_zero _)
  | x, xs, n + 1, acc, t, hx, hxs, hn, ht => by
    simp only [List.length_append] at hn
    have hvx := scanValue_encodeValue hs x n (encodeElements o fr xs ++ t) hx
      (by have := encodeElements_length_pos o fr xs; omega)
      (numberEnd_encodeElements o fr hs xs)
    rw [List.append_assoc, scanElements, hvx]
    cases xs with
    | nil => rfl
    | cons y ys =>
      simp only [plainElements, Bool.and_eq_true] at hxs
      obtain ⟨r, hr, hr'⟩ := skipWhitespace_separator (u := encodeValue o fr y ++ encodeElements o fr ys ++ t)
        (separatorsOk_iff.1 hs).1
      simp only [encodeElements, List.length_append] at hn ⊢
      simp only [List.append_assoc] at hr hr' ⊢
      rw [hr]
      show scanElements n (acc ++ [x]) (skipWhitespace _) = _
      rw [hr', skipWhitespace_encodeValue o fr hxs.1, ← List.append_assoc,
        scanElements_encodeElements hs y ys n (acc ++ [x]) t hxs.1 hxs.2
          (by have := encodeValue_length_pos o fr hx; simp; omega) ht]
      simp
theorem scanMembers_encodeMembers (hs : separatorsOk o) :
    ∀ (k : String) (v : Json) (kvs : List (String × Json)) (n : Nat) (acc : List (String × Json))
      (t : List Char), plainValue v → plainMembers kvs → ((acc ++ (k, v) :: kvs).map Prod.fst).Nodup →
        (encodeString o k ++ o.keySeparator.data ++ encodeValue o fr v ++ encodeMembers o fr kvs).length < n →
          NumberEnd t →
            scanMembers n acc
                (encodeString o k ++ o.keySeparator.data ++ encodeValue o fr v ++ encodeMembers o fr kvs ++ t) =
              some (.obj (acc ++ (k, v) :: kvs), t)
  | _, _, _, 0, _, _, _, _, _, hn, _ => absurd hn (Nat.not_lt_zero _)
  | k, v, kvs, n + 1, acc, t, hv, hkvs, hnd, hn, ht => by
    obtain ⟨hq, hk⟩ := scanStr_encodeString o k
      (o.keySeparator.data ++ (encodeValue o fr v ++ (encodeMembers o fr kvs ++ t)))
    obtain ⟨r, hr, hr'⟩ := skipWhitespace_separator (u := encodeValue o fr v ++ (encodeMembers o fr kvs ++ t))
      (separatorsOk_iff.1 hs).2
    have hvv := scanValue_encodeValue hs v n (encodeMembers o fr kvs ++ t) hv
      (by rw [hq] at hn; simp at hn; omega) (numberEnd_encodeMembers o fr hs kvs)
    have hfresh : k ∉ acc.map Prod.fst := by
      simp only [List.map_append, List.map_cons] at hnd
      exact fun h => (List.pairwise_append.1 hnd).2.2 k h k (List.mem_cons_self _ _) rfl
    simp only [List.append_assoc]
    rw [hq, List.cons_append, scanMembers, if_pos rfl, scanString, hk]
    simp only [hr, hr', skipWhitespace_encodeValue o fr hv, hvv, dictSet_fresh v hfresh]
    cases kvs with
    | nil => rfl
    | cons kv kvs =>
      obtain ⟨k', v'⟩ := kv
      simp only [plainMembers, Bool.and_eq_true] at hkvs
      obtain ⟨r', hr1, hr2⟩ := skipWhitespace_separator
        (u := encodeString o k' ++ (o.keySeparator.data ++ (encodeValue o fr v' ++ (encodeMembers o fr kvs ++ t))))
        (separatorsOk_iff.1 hs).1
      simp only [encodeMembers, List.append_assoc] at hn ⊢
      simp only [hr1, hr2, skipWhitespace_encodeString]
      have := scanMembers_encodeMembers hs k' v' kvs n (acc ++ [(k, v)]) t hkvs.1 hkvs.2 (by simpa using hnd)
        (by rw [hq] at hn; simp at hn ⊢; omega) ht
      simpa using this

end

theorem loads_dumps (hs : separatorsOk o) {v : Json} (hv : plainValue v) :
    loads (dumps o fr v) = some v := by
  have hscan := scanValue_encodeValue o fr hs v ((encodeValue o fr v).length + 1) [] hv (by omega) trivial
  have hskip := skipWhitespace_encodeValue o fr hv (u := [])
  obtain ⟨c, r, hcr, hc⟩ := encodeValue_head o fr hv
  rw [List.append_nil] at hscan hskip
  unfold loads
  split
  · rename_i heq
    exact absurd (List.cons.inj (hcr.symm.trans heq)).1 (startsValue_iff.1 hc).2.2
  · simp only [decode, dumps, String.length, hskip, hscan]
    rfl

end Values

end ClawNet.Json
