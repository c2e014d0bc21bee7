import ClawNet.Json.Roundtrip
import ClawNet.Text.Utf8

namespace ClawNet.Json

open ClawNet.Http

section Ascii

/-- Every character is ASCII. -/
abbrev IsAscii (cs : List Char) : Prop := ∀ c ∈ cs, c.toNat < 0x80

theorem isAscii_append {cs ds : List Char} : IsAscii (cs ++ ds) ↔ IsAscii cs ∧ IsAscii ds := by
  simp only [IsAscii, List.mem_append, or_imp, forall_and]

theorem isAscii_cons {c : Char} {cs : List Char} : IsAscii (c :: cs) ↔ c.toNat < 0x80 ∧ IsAscii cs := by
  simp only [IsAscii, List.mem_cons, forall_eq_or_imp]

theorem hexLower_ascii : ∀ d, d < 16 → (hexLower d).toNat < 0x80 := by decide

theorem uEscape_ascii (n : Nat) : IsAscii (uEscape n) := by
  have h := fun m => hexLower_ascii (m % 16) (Nat.mod_lt _ (by decide))
  simp only [uEscape, isAscii_cons]
  exact ⟨by decide, by decide, h _, h _, h _, h _, by decide⟩

theorem shortEscape_ascii {c e : Char} (h : shortEscape c = some e) : IsAscii ['\\', e] := by
  unfold shortEscape at h
  split at h <;> cases h <;> decide

theorem asciiEscapeUnichar_ascii (c : Char) : IsAscii (asciiEscapeUnichar c) := by
  unfold asciiEscapeUnichar
  split
  · exact shortEscape_ascii ‹_›
  · split
    · exact isAscii_append.2 ⟨uEscape_ascii _, uEscape_ascii _⟩
    · exact uEscape_ascii _

theorem asciiEscapeUnicode_ascii (s : String) : IsAscii (asciiEscapeUnicode s) := by
  refine isAscii_cons.2 ⟨by decide, isAscii_append.2 ⟨fun x hx => ?_, by decide⟩⟩
  obtain ⟨c, -, hc⟩ := List.mem_flatMap.1 hx
  split at hc
  · rename_i hs
    simp only [isSChar, Bool.and_eq_true, decide_eq_true_eq] at hs
    rw [List.mem_singleton.1 hc]
    omega
  · exact asciiEscapeUnichar_ascii c x hc

theorem digitChar_ascii : ∀ d, d < 10 → (Nat.digitChar d).toNat < 0x80 := by decide

theorem intRepr_ascii (i : Int) : IsAscii (intRepr i) := by
  have hdigits : IsAscii (Nat.toDigits 10 i.natAbs) := fun c hc => by
    obtain ⟨d, hd, rfl⟩ := mem_toDigits _ hc
    exact digitChar_ascii d hd
  unfold intRepr
  split
  · exact isAscii_cons.2 ⟨by decide, hdigits⟩
  · exact hdigits

variable (o : DumpsOptions) (fr : ℚ → String)

theorem encodeString_ascii (ha : o.ensureAscii) (s : String) : IsAscii (encodeString o s) := by
  rw [encodeString, if_pos ha]
  exact asciiEscapeUnicode_ascii s

theorem encodeNumber_ascii (hfr : ∀ q, IsAscii (fr q).data) (q : ℚ) : IsAscii (encodeNumber fr q) := by
  unfold encodeNumber
  split
  · exact intRepr_ascii _
  · exact hfr q

mutual
theorem encodeValue_ascii (ha : o.ensureAscii) (hsep : IsAscii o.itemSeparator.data ∧ IsAscii o.keySeparator.data)
    (hfr : ∀ q, IsAscii (fr q).data) : ∀ v, IsAscii (encodeValue o fr v)
  | .null => by rw [encodeValue]; decide
  | .bool true => by rw [encodeValue]; decide
  | .bool false => by rw [encodeValue]; decide
  | .num q => encodeNumber_ascii fr hfr q
  | .str s => encodeString_ascii o ha s
  | .arr [] => by rw [encodeValue]; decide
  | .arr (x :: xs) => by
    rw [encodeValue]
    exact isAscii_append.2 ⟨isAscii_cons.2 ⟨by decide, encodeValue_ascii ha hsep hfr x⟩,
      encodeElements_ascii ha hsep hfr xs⟩
  | .obj [] => by rw [encodeValue]; decide
  | .obj ((k, v) :: kvs) => by
    rw [encodeValue]
    exact isAscii_append.2 ⟨isAscii_append.2 ⟨isAscii_append.2 ⟨isAscii_cons.2 ⟨by decide,
      encodeString_ascii o ha k⟩, hsep.2⟩, encodeValue_ascii ha hsep hfr v⟩,
      encodeMembers_ascii ha hsep hfr kvs⟩

theorem encodeElements_ascii (ha : o.ensureAscii)
    (hsep : IsAscii o.itemSeparator.data ∧ IsAscii o.keySeparator.data)
    (hfr : ∀ q, IsAscii (fr q).data) : ∀ xs, IsAscii (encodeElements o fr xs)
  | [] => by rw [encodeElements]; decide
  | x :: xs => by
    rw [encodeElements]
    exact isAscii_append.2 ⟨isAscii_append.2 ⟨hsep.1, encodeValue_ascii ha hsep hfr x⟩,
      encodeElements_ascii ha hsep hfr xs⟩

theorem encodeMembers_ascii (ha : o.ensureAscii)
    (hsep : IsAscii o.itemSeparator.data ∧ IsAscii o.keySeparator.data)
    (hfr : ∀ q, IsAscii (fr q).data) : ∀ kvs, IsAscii (encodeMembers o fr kvs)
  | [] => by rw [encodeMembers]; decide
  | (k, v) :: kvs => by
    rw [encodeMembers]
    exact isAscii_append.2 ⟨isAscii_append.2 ⟨isAscii_append.2 ⟨isAscii_append.2 ⟨hsep.1,
      encodeString_ascii o ha k⟩, hsep.2⟩, encodeValue_ascii ha hsep hfr v⟩,
      encodeMembers_ascii ha hsep hfr kvs⟩
end

/-- With `ensure_ascii=True`, the default of `json.dumps`, the text is ASCII whatever the value
holds, as long as the separators and `float.__repr__` write ASCII; so its UTF-8 encoding, the
body `httpx` sends, is one octet per character. -/
theorem dumps_ascii (ha : o.ensureAscii) (hsep : IsAscii o.itemSeparator.data ∧ IsAscii o.keySeparator.data)
    (hfr : ∀ q, IsAscii (fr q).data) (v : Json) :
    IsAscii (dumps o fr v).data ∧ Text.utf8Encode (dumps o fr v).data = (dumps o fr v).data.map Char.toNat :=
  ⟨encodeValue_ascii o fr ha hsep hfr v, Text.utf8Encode_ascii (encodeValue_ascii o fr ha hsep hfr v)⟩

theorem dumps_ascii_emoji :
    ({} : DumpsOptions).ensureAscii = true ∧
      (IsAscii ({} : DumpsOptions).itemSeparator.data ∧ IsAscii ({} : DumpsOptions).keySeparator.data) ∧
      (∀ q : ℚ, IsAscii ((fun _ : ℚ => "0.5") q).data) ∧
      IsAscii (dumps {} (fun _ => "0.5") (.obj [("memo", .str "café 😀"), ("rate", .num (mkRat 1 2))])).data ∧
      Text.utf8Encode (dumps {} (fun _ => "0.5") (.obj [("memo", .str "café 😀"), ("rate", .num (mkRat 1 2))])).data =
        (dumps {} (fun _ => "0.5") (.obj [("memo", .str "café 😀"), ("rate", .num (mkRat 1 2))])).data.map Char.toNat :=
  ⟨rfl, ⟨by decide, by decide⟩, fun _ => (by decide : IsAscii "0.5".data),
    dumps_ascii {} (fun _ => "0.5") rfl ⟨by decide, by decide⟩ (fun _ => (by decide : IsAscii "0.5".data)) _⟩

end Ascii

section Exchange

variable (o : DumpsOptions) (fr : ℚ → String)

/-- `json=body` goes out as the UTF-8 octets of `json.dumps(body)`; decoding them and
`json.loads` give the body back, under any settings `httpx` may use. -/
theorem loads_utf8Decode_dumps (hs : separatorsOk o) {v : Json} (hv : plainValue v) :
    (Text.utf8Decode (Text.utf8Encode (dumps o fr v).data)).bind (fun cs => loads ⟨cs⟩) = some v := by
  rw [Text.utf8Decode_encode]
  exact loads_dumps o fr hs hv

theorem loads_utf8Decode_dumps_transfer :
    separatorsOk ⟨false, ",", ":"⟩ = true ∧
      plainValue (.obj [("to", .str "did:claw:zBob"), ("amount", .num 100), ("memo", .str "café 😀")]) ∧
      (Text.utf8Decode (Text.utf8Encode (dumps ⟨false, ",", ":"⟩ (fun _ => "")
        (.obj [("to", .str "did:claw:zBob"), ("amount", .num 100), ("memo", .str "café 😀")])).data)).bind
          (fun cs => loads ⟨cs⟩) =
        some (.obj [("to", .str "did:claw:zBob"), ("amount", .num 100), ("memo", .str "café 😀")]) :=
  ⟨by decide, by decide, loads_utf8Decode_dumps ⟨false, ",", ":"⟩ _ (by decide) (by decide)⟩

/-- `resp.json()` in `httpx`, `json.loads(resp.content)`: `detect_encoding` decodes a body that
starts with a UTF-8 byte-order mark as `utf-8-sig`, which drops the mark. -/
def loadsContent (text : String) : Option Json :=
  if text.data.head? = some '\uFEFF' then loads ⟨text.data.tail⟩ else loads text

theorem loadsContent_of_loads {s : String} {j : Json} (h : loads s = some j) :
    loadsContent s = some j := by
  unfold loadsContent
  split
  · obtain ⟨rest, hs⟩ := List.head?_eq_some_iff.1 ‹_›
    simp [loads, hs] at h
  · exact h

/-- A node that answers each request, given the JSON body it reads from it, with a status and a
JSON value, seen through the wire: the body goes out as `dumps` text and is read back with
`loads`, and the answer comes back as `dumps` text written with the node's own settings. -/
def overWire (o' : DumpsOptions) (fr' : ℚ → String) (node : Request → Option Json → Nat × Json)
    (req : Request) : Response :=
  let (status, reply) := node req (req.json.bind fun b => loads (dumps o fr (.obj b)))
  ⟨status, dumps o' fr' reply⟩

/-- Over the wire, every verb of both clients behaves as if values passed unchanged: the node
reads exactly the body the call sends, and the call returns exactly the node's reply on a 2xx
status, or raises the `ClawTokenError` that the reply's `error` object describes. -/
theorem perform_overWire (o' : DumpsOptions) (fr' : ℚ → String) (node : Request → Option Json → Nat × Json)
    (c : HttpClient) (call : Call) (hs : separatorsOk o) (hs' : separatorsOk o')
    (hbody : ∀ b, (c.request call).json = some b → plainValue (.obj b)) {status : Nat} {reply : Json}
    (hnode : node (c.request call) ((c.request call).json.map .obj) = (status, reply))
    (hreply : plainValue reply) :
    c.perform loadsContent (overWire o fr o' fr' node) call =
      if 200 ≤ status ∧ status ≤ 299 then .ok reply
      else .error (.clawToken (specError (fun _ => some reply) ⟨status, dumps o' fr' reply⟩)) := by
  have hseen : (c.request call).json.bind (fun b => loads (dumps o fr (.obj b))) =
      (c.request call).json.map .obj := by
    cases h : (c.request call).json with
    | none => rfl
    | some b => exact loads_dumps o fr hs (hbody b h)
  have hload := loadsContent_of_loads (loads_dumps o' fr' hs' hreply)
  have hresp : overWire o fr o' fr' node (c.request call) = ⟨status, dumps o' fr' reply⟩ := by
    simp only [overWire, hseen, hnode]
  rw [HttpClient.perform, hresp]
  by_cases h : 200 ≤ status ∧ status ≤ 299
  · rw [if_pos h, complete_of_success loadsContent ((isSuccess_iff _).2 h)]
    simp [Response.json, hload]
  · rw [if_neg h, complete_of_failure loadsContent (by rwa [← Bool.not_eq_true, isSuccess_iff])]
    simp [specError, hload]

theorem perform_overWire_refused :
    separatorsOk {} = true ∧ separatorsOk ⟨false, ",", ":"⟩ = true ∧
      (∀ b, (HttpClient.init.request (HttpClient.post "/api/wallet/transfer" (some [("amount", .num 100)]))).json =
        some b → plainValue (.obj b)) ∧
      plainValue (.obj [("error", .obj [("message", .str "insufficient balance")])]) ∧
      HttpClient.init.perform loadsContent (overWire {} (fun _ => "") ⟨false, ",", ":"⟩ (fun _ => "")
          (fun _ _ => (400, .obj [("error", .obj [("message", .str "insufficient balance")])])))
          (HttpClient.post "/api/wallet/transfer" (some [("amount", .num 100)])) =
        if 200 ≤ 400 ∧ 400 ≤ 299 then .ok (.obj [("error", .obj [("message", .str "insufficient balance")])])
        else .error (.clawToken (specError (fun _ => some (.obj [("error", .obj [("message", .str "insufficient balance")])]))
          ⟨400, dumps ⟨false, ",", ":"⟩ (fun _ => "") (.obj [("error", .obj [("message", .str "insufficient balance")])])⟩)) :=
  have hbody : ∀ b, (HttpClient.init.request (HttpClient.post "/api/wallet/transfer" (some [("amount", .num 100)]))).json =
      some b → plainValue (.obj b) := fun _ h => Option.some.inj h ▸ by decide
  ⟨by decide, by decide, hbody, by decide,
    perform_overWire {} _ _ _ _ _ _ (by decide) (by decide) hbody rfl (by decide)⟩

theorem loads_blank {s : String} (h : ∀ c ∈ s.data, isWhitespace c) : loads s = none := by
  have hskip : skipWhitespace s.data = [] := List.dropWhile_eq_nil_iff.2 h
  unfold loads decode
  split
  · rfl
  · rw [hskip]
    cases s.length <;> rfl

theorem loadsContent_blank {s : String} (h : ∀ c ∈ s.data, isWhitespace c) : loadsContent s = none := by
  have hb : s.data.head? ≠ some '\uFEFF' := fun hb =>
    absurd (h _ (List.mem_of_mem_head? hb)) (by decide)
  rw [loadsContent, if_neg hb, loads_blank h]

/-- An answer whose body is empty or only whitespace, a `204 No Content` for one, makes every verb
of both clients raise: `json.JSONDecodeError` on a status in 200–299, as the verb returns
`resp.json()`, and otherwise the `ClawTokenError` carrying the raw text and no code. -/
theorem perform_blank_body (c : HttpClient) (send : Request → Response) (call : Call)
    (h : ∀ ch ∈ (send (c.request call)).text.data, isWhitespace ch) :
    c.perform loadsContent send call =
      if 200 ≤ (send (c.request call)).statusCode ∧ (send (c.request call)).statusCode ≤ 299 then
        .error .jsonDecode
      else .error (.clawToken
        ⟨.str (send (c.request call)).text, (send (c.request call)).statusCode, .null, .null⟩) := by
  have hnone := loadsContent_blank h
  rw [HttpClient.perform]
  split
  · rw [complete_of_success _ ((isSuccess_iff _).2 ‹_›), Response.json, hnone]
  · rw [complete_of_failure _ (by rwa [← Bool.not_eq_true, isSuccess_iff]), specError, hnone]

theorem perform_blank_body_noContent :
    (∀ ch ∈ ((fun _ => (⟨204, ""⟩ : Response)) (HttpClient.init.request
      (HttpClient.delete "/api/markets/info/info-1"))).text.data, isWhitespace ch) ∧
      HttpClient.init.perform loadsContent (fun _ => ⟨204, ""⟩)
          (HttpClient.delete "/api/markets/info/info-1") =
        if 200 ≤ 204 ∧ 204 ≤ 299 then .error .jsonDecode
        else .error (.clawToken ⟨.str "", 204, .null, .null⟩) :=
  ⟨by decide, perform_blank_body _ _ _ (by decide)⟩

end Exchange

end ClawNet.Json
