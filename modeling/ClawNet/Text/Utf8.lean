namespace ClawNet.Text

def utf8EncodeChar (c : Char) : List Nat :=
  let n := c.toNat
  if n < 0x80 then [n]
  else if n < 0x800 then [0xC0 + n / 0x40, 0x80 + n % 0x40]
  else if n < 0x10000 then [0xE0 + n / 0x1000, 0x80 + n / 0x40 % 0x40, 0x80 + n % 0x40]
  else [0xF0 + n / 0x40000, 0x80 + n / 0x1000 % 0x40, 0x80 + n / 0x40 % 0x40, 0x80 + n % 0x40]

/-- `str.encode('utf-8')`. -/
def utf8Encode (s : List Char) : List Nat := s.flatMap utf8EncodeChar

def isCont (b : Nat) : Bool := 0x80 ≤ b && b < 0xC0

structure Pending where
  owed : Nat
  value : Nat
  lead : Nat

def scalarOk (lead v : Nat) : Bool :=
  if lead < 0xE0 then true
  else if lead < 0xF0 then 0x800 ≤ v && !(0xD800 ≤ v && v < 0xE000)
  else 0x10000 ≤ v && v < 0x110000

def utf8Decode.go : Option Pending → List Nat → Option (List Char)
  | none, [] => some []
  | some _, [] => none
  | none, b :: rest =>
    if b < 0x80 then (go none rest).map (Char.ofNat b :: ·)
    else if 0xC2 ≤ b && b < 0xE0 then go (some ⟨1, b - 0xC0, b⟩) rest
    else if 0xE0 ≤ b && b < 0xF0 then go (some ⟨2, b - 0xE0, b⟩) rest
    else if 0xF0 ≤ b && b < 0xF5 then go (some ⟨3, b - 0xF0, b⟩) rest
    else none
  | some p, b :: rest =>
    if isCont b then
      let v := p.value * 0x40 + (b - 0x80)
      if p.owed = 1 then
        if scalarOk p.lead v then (go none rest).map (Char.ofNat v :: ·) else none
      else go (some ⟨p.owed - 1, v, p.lead⟩) rest
    else none

/-- `bytes.decode('utf-8')`, strict: `none` where Python raises `UnicodeDecodeError`. -/
def utf8Decode (bs : List Nat) : Option (List Char) := utf8Decode.go none bs

example : utf8Decode [0xE2, 0x82, 0xAC] = some ['€'] := by decide
example : utf8Decode [0xED, 0xA0, 0x80] = none := by decide

theorem char_valid (c : Char) : c.toNat < 0xD800 ∨ (0xDFFF < c.toNat ∧ c.toNat < 0x110000) :=
  c.valid

@[simp] theorem utf8Encode_nil : utf8Encode [] = [] := rfl

@[simp] theorem utf8Encode_cons (c : Char) (s : List Char) :
    utf8Encode (c :: s) = utf8EncodeChar c ++ utf8Encode s := rfl

@[simp] theorem utf8Encode_append (s t : List Char) :
    utf8Encode (s ++ t) = utf8Encode s ++ utf8Encode t := List.flatMap_append ..

theorem utf8EncodeChar_ascii {c : Char} (h : c.toNat < 0x80) : utf8EncodeChar c = [c.toNat] := by
  simp [utf8EncodeChar, h]

theorem utf8EncodeChar_lt (c : Char) : ∀ b ∈ utf8EncodeChar c, b < 0x100 := by
  have := char_valid c
  intro b hb
  simp only [utf8EncodeChar] at hb
  split at hb
  · simp at hb; omega
  split at hb
  · simp at hb; omega
  split at hb <;> simp at hb <;> omega

theorem eq_of_ascii_mem_utf8EncodeChar {c : Char} {b : Nat} (hb : b < 0x80)
    (h : b ∈ utf8EncodeChar c) : c.toNat = b := by
  simp only [utf8EncodeChar] at h
  split at h
  · simp at h; omega
  split at h
  · simp at h; omega
  split at h <;> simp at h <;> omega

theorem utf8Encode_lt (s : List Char) : ∀ b ∈ utf8Encode s, b < 0x100 := by
  intro b hb
  obtain ⟨c, -, hc⟩ := List.mem_flatMap.mp hb
  exact utf8EncodeChar_lt c b hc

theorem utf8Encode_ascii {s : List Char} (h : ∀ c ∈ s, c.toNat < 0x80) :
    utf8Encode s = s.map Char.toNat := by
  induction s with
  | nil => rfl
  | cons c s ih =>
    simp only [utf8Encode_cons, List.map_cons, utf8EncodeChar_ascii (h c (List.mem_cons_self ..)),
      ih (fun x hx => h x (List.mem_cons_of_mem _ hx)), List.singleton_append]

section Decode

open utf8Decode

variable {b n : Nat} {p : Pending} {rest : List Nat}

theorem go_ascii (h : b < 0x80) : go none (b :: rest) = (go none rest).map (Char.ofNat b :: ·) := by
  simp [go.eq_3, h]

theorem go_lead2 (h1 : 0xC2 ≤ b) (h2 : b < 0xE0) :
    go none (b :: rest) = go (some ⟨1, b - 0xC0, b⟩) rest := by
  simp [go.eq_3, h1, h2, show ¬b < 0x80 by omega]

theorem go_lead3 (h1 : 0xE0 ≤ b) (h2 : b < 0xF0) :
    go none (b :: rest) = go (some ⟨2, b - 0xE0, b⟩) rest := by
  simp [go.eq_3, h1, h2, show ¬b < 0x80 by omega, show ¬b < 0xE0 by omega]

theorem go_lead4 (h1 : 0xF0 ≤ b) (h2 : b < 0xF5) :
    go none (b :: rest) = go (some ⟨3, b - 0xF0, b⟩) rest := by
  simp [go.eq_3, h1, h2, show ¬b < 0x80 by omega, show ¬b < 0xE0 by omega,
    show ¬b < 0xF0 by omega]

theorem go_cont {k value lead : Nat} (hb : isCont b) :
    go (some ⟨k + 2, value, lead⟩) (b :: rest) = go (some ⟨k + 1, value * 0x40 + (b - 0x80), lead⟩) rest := by
  simp [go.eq_4, hb]

theorem go_last {value lead : Nat} (hb : isCont b) (hv : value * 0x40 + (b - 0x80) = n)
    (hs : scalarOk lead n) :
    go (some ⟨1, value, lead⟩) (b :: rest) = (go none rest).map (Char.ofNat n :: ·) := by
  simp [go.eq_4, hb, hv, hs]

theorem isCont_tail (n : Nat) : isCont (0x80 + n % 0x40) := by
  simp [isCont]; omega

theorem go_two_octets (h1 : 0x80 ≤ n) (h2 : n < 0x800) :
    go none ((0xC0 + n / 0x40) :: (0x80 + n % 0x40) :: rest) = (go none rest).map (Char.ofNat n :: ·) := by
  have hv : (0xC0 + n / 0x40 - 0xC0) * 0x40 + (0x80 + n % 0x40 - 0x80) = n := by omega
  have hs : scalarOk (0xC0 + n / 0x40) n := by
    simp [scalarOk, show 0xC0 + n / 0x40 < 0xE0 by omega]
  rw [go_lead2 (show 0xC2 ≤ 0xC0 + n / 0x40 by omega) (show 0xC0 + n / 0x40 < 0xE0 by omega),
    go_last (isCont_tail n) hv hs]

theorem go_three_octets (h1 : 0x800 ≤ n) (h2 : n < 0x10000) (hs : ¬(0xD800 ≤ n ∧ n < 0xE000)) :
    go none ((0xE0 + n / 0x1000) :: (0x80 + n / 0x40 % 0x40) :: (0x80 + n % 0x40) :: rest)
      = (go none rest).map (Char.ofNat n :: ·) := by
  have hv : ((0xE0 + n / 0x1000 - 0xE0) * 0x40 + (0x80 + n / 0x40 % 0x40 - 0x80)) * 0x40
      + (0x80 + n % 0x40 - 0x80) = n := by omega
  have hs : scalarOk (0xE0 + n / 0x1000) n := by
    simp [scalarOk, show 0xE0 + n / 0x1000 < 0xF0 by omega]; omega
  rw [go_lead3 (show 0xE0 ≤ 0xE0 + n / 0x1000 by omega) (show 0xE0 + n / 0x1000 < 0xF0 by omega),
    go_cont (isCont_tail _), go_last (isCont_tail n) hv hs]

theorem go_four_octets (h1 : 0x10000 ≤ n) (h2 : n < 0x110000) :
    go none ((0xF0 + n / 0x40000) :: (0x80 + n / 0x1000 % 0x40) :: (0x80 + n / 0x40 % 0x40)
      :: (0x80 + n % 0x40) :: rest) = (go none rest).map (Char.ofNat n :: ·) := by
  have hv : (((0xF0 + n / 0x40000 - 0xF0) * 0x40 + (0x80 + n / 0x1000 % 0x40 - 0x80)) * 0x40
      + (0x80 + n / 0x40 % 0x40 - 0x80)) * 0x40 + (0x80 + n % 0x40 - 0x80) = n := by omega
  have hs : scalarOk (0xF0 + n / 0x40000) n := by
    simp [scalarOk, show ¬0xF0 + n / 0x40000 < 0xF0 by omega]; omega
  rw [go_lead4 (show 0xF0 ≤ 0xF0 + n / 0x40000 by omega) (show 0xF0 + n / 0x40000 < 0xF5 by omega),
    go_cont (isCont_tail _), go_cont (isCont_tail _), go_last (isCont_tail n) hv hs]

end Decode

theorem utf8Decode_encodeChar_append (c : Char) (rest : List Nat) :
    utf8Decode.go none (utf8EncodeChar c ++ rest) = (utf8Decode.go none rest).map (c :: ·) := by
  have hv := char_valid c
  have hc : Char.ofNat c.toNat = c := Char.ofNat_toNat c
  by_cases h1 : c.toNat < 0x80
  · rw [utf8EncodeChar_ascii h1, List.singleton_append, go_ascii h1, hc]
  by_cases h2 : c.toNat < 0x800
  · simp only [utf8EncodeChar, h1, h2, if_false, if_true, List.cons_append, List.nil_append]
    rw [go_two_octets (by omega) h2, hc]
  by_cases h3 : c.toNat < 0x10000
  · simp only [utf8EncodeChar, h1, h2, h3, if_false, if_true, List.cons_append, List.nil_append]
    rw [go_three_octets (by omega) h3 (by omega), hc]
  · simp only [utf8EncodeChar, h1, h2, h3, if_false, List.cons_append, List.nil_append]
    rw [go_four_octets (by omega) (by omega), hc]

theorem utf8Decode_encode (s : List Char) : utf8Decode (utf8Encode s) = some s := by
  induction s with
  | nil => rfl
  | cons c s ih =>
    simp only [utf8Decode] at ih ⊢
    rw [utf8Encode_cons, utf8Decode_encodeChar_append, ih]
    rfl

end ClawNet.Text
