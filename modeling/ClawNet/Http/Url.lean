import Mathlib.Data.List.Basic
import ClawNet.Text.Quote

namespace ClawNet.Http

open ClawNet.Text

inductive Scalar where
  | str (s : String)
  | int (i : Int)
  deriving DecidableEq, Repr

/-- `str(v)` of a scalar. -/
def Scalar.pyStr : Scalar → String
  | .str s => s
  | .int i => toString i

/-- A value of a query mapping: `None`, a `str`, an `int`, or a list of them. -/
inductive QueryValue where
  | none
  | str (s : String)
  | int (i : Int)
  | list (xs : List Scalar)
  deriving DecidableEq, Repr

def QueryValue.isNone : QueryValue → Bool
  | .none => true
  | _ => false

/-- Python's truth value. -/
def QueryValue.truthy : QueryValue → Bool
  | .none => false
  | .str s => !s.isEmpty
  | .int i => i != 0
  | .list xs => !xs.isEmpty

/-- The strings a value stands for in a query: `str(v)`, once per element of a list. -/
def QueryValue.pyStrs : QueryValue → List String
  | .none => []
  | .str s => [s]
  | .int i => [toString i]
  | .list xs => xs.map Scalar.pyStr

/-- A `dict[str, Any]` of query parameters, in insertion order. -/
abbrev Params := List (String × QueryValue)

/-- `sep.join(parts)`. -/
def pyJoin (sep : String) (parts : List String) : String :=
  ⟨sep.data.intercalate (parts.map String.data)⟩

/-- `s.rstrip(c)`. -/
def rstrip (s : String) (c : Char) : String :=
  ⟨(s.data.reverse.dropWhile (· == c)).reverse⟩

/-- The pairs `urlencode(query, doseq=True)` writes for one key: a `str` is quoted, a list gives
one pair per element, anything else is quoted as `str(v)` once `len(v)` has failed. -/
def urlencodeItem (k : String) : QueryValue → List String
  | .str s => [quotePlus k "" ++ "=" ++ quotePlus s ""]
  | .list xs => xs.map fun e => quotePlus k "" ++ "=" ++ quotePlus e.pyStr ""
  | .int i => [quotePlus k "" ++ "=" ++ quotePlus (toString i) ""]
  | .none => [quotePlus k "" ++ "=" ++ quotePlus "None" ""]

/-- `urlencode(query, doseq=True)` with the default `quote_via=quote_plus` and `safe=''`. -/
def urlencode (query : Params) : String :=
  pyJoin "&" (query.flatMap fun kv => urlencodeItem kv.1 kv.2)

/-- `_build_url(base, path, params)`. -/
def buildUrl (base path : String) (params : Option Params) : String :=
  let url := rstrip base '/' ++ path
  match params with
  | some ps =>
    if ps.isEmpty then url
    else
      let filtered := ps.filter fun kv => !kv.2.isNone
      if filtered.isEmpty then url else url ++ "?" ++ urlencode filtered
  | none => url

example : buildUrl "http://127.0.0.1:9528/" "/api/wallet/balance"
    (some [("did", .str "did:x"), ("address", .none)])
    = "http://127.0.0.1:9528/api/wallet/balance?did=did%3Ax" := by decide

/-- `piece.split('=', 1)`, the value empty when there is no `=`. -/
def splitFirstEq (piece : List Char) : List Char × List Char :=
  (piece.takeWhile (· != '='), (piece.dropWhile (· != '=')).drop 1)

/-- One piece of a form: split on its first `=`, both halves `unquote_plus`ed. -/
def decodePiece (piece : List Char) : Option (String × String) := do
  let nv := splitFirstEq piece
  return (← unquotePlus ⟨nv.1⟩, ← unquotePlus ⟨nv.2⟩)

/-- The `application/x-www-form-urlencoded` parser: split on `&`, skip empty pieces, decode each
piece. -/
def formDecode (q : String) : Option (List (String × String)) :=
  ((q.data.splitOn '&').filter (!·.isEmpty)).mapM decodePiece

/-- The pairs a query mapping stands for: every non-`None` key with `str` of its value, once per
element of a list, in insertion order. -/
def queryPairs (ps : Params) : List (String × String) :=
  (ps.filter fun kv => !kv.2.isNone).flatMap fun kv => kv.2.pyStrs.map (kv.1, ·)

/-- Whether a `params` argument sends any pair: it is a mapping with a non-`None` value. -/
def sendsQuery : Option Params → Bool
  | some ps => ps.any fun kv => !kv.2.isNone
  | none => false

section Decode

/-- The text `urlencode` writes for one pair. -/
def encodePair (kv : String × String) : String := quotePlus kv.1 "" ++ "=" ++ quotePlus kv.2 ""

theorem urlencodeItem_eq {k : String} {v : QueryValue} (hv : v.isNone = false) :
    urlencodeItem k v = (v.pyStrs.map (k, ·)).map encodePair := by
  cases v <;> simp_all [urlencodeItem, QueryValue.isNone, QueryValue.pyStrs, encodePair]

theorem urlencode_eq {ps : Params} (h : ∀ kv ∈ ps, kv.2.isNone = false) :
    urlencode ps = pyJoin "&" ((ps.flatMap fun kv => kv.2.pyStrs.map (kv.1, ·)).map encodePair) := by
  rw [urlencode, List.map_flatMap]
  congr 1
  exact List.flatMap_congr fun kv hkv => urlencodeItem_eq (h kv hkv)

theorem not_mem_quotePlus (s : String) {c : Char} (hc : quoteOutput [] c = false) (hp : c ≠ '+') :
    c ∉ (quotePlus s "").data := fun h => by
  rcases mem_quotePlus h with h | h
  · simp_all
  · exact hp h

theorem encodePair_data (kv : String × String) :
    (encodePair kv).data = (quotePlus kv.1 "").data ++ '=' :: (quotePlus kv.2 "").data := by
  simp [encodePair, String.data_append]

theorem amp_not_mem_encodePair (kv : String × String) : '&' ∉ (encodePair kv).data := by
  rw [encodePair_data]
  simp only [List.mem_append, List.mem_cons, not_or]
  exact ⟨not_mem_quotePlus _ (by decide) (by decide), by decide,
    not_mem_quotePlus _ (by decide) (by decide)⟩

theorem hash_not_mem_encodePair (kv : String × String) : '#' ∉ (encodePair kv).data := by
  rw [encodePair_data]
  simp only [List.mem_append, List.mem_cons, not_or]
  exact ⟨not_mem_quotePlus _ (by decide) (by decide), by decide,
    not_mem_quotePlus _ (by decide) (by decide)⟩

theorem not_mem_pyJoin {c : Char} {sep : String} {parts : List String} (hs : c ∉ sep.data)
    (hp : ∀ p ∈ parts, c ∉ p.data) : c ∉ (pyJoin sep parts).data := by
  simp only [pyJoin, List.intercalate, List.mem_flatten, not_exists, not_and]
  intro l hl
  induction parts with
  | nil => simp at hl
  | cons p ps ih =>
    cases ps with
    | nil =>
      simp only [List.map_cons, List.map_nil, List.intersperse_singleton, List.mem_singleton] at hl
      exact hl ▸ hp p (List.mem_cons_self _ _)
    | cons q qs =>
      simp only [List.map_cons, List.intersperse_cons_cons, List.mem_cons] at hl
      rcases hl with rfl | rfl | hl
      · exact hp _ (List.mem_cons_self _ _)
      · exact hs
      · exact ih (fun p hp' => hp p (List.mem_cons_of_mem _ hp')) hl

theorem splitFirstEq_encodePair (kv : String × String) :
    splitFirstEq (encodePair kv).data = ((quotePlus kv.1 "").data, (quotePlus kv.2 "").data) := by
  have h : ∀ c ∈ (quotePlus kv.1 "").data, (c != '=') = true := fun c hc => by
    simpa using fun he => not_mem_quotePlus kv.1 (by decide) (by decide) (he ▸ hc)
  simp [splitFirstEq, encodePair_data, List.takeWhile_append_of_pos h,
    List.dropWhile_append_of_pos h]

theorem decodePiece_encodePair (kv : String × String) :
    decodePiece (encodePair kv).data = some kv := by
  simp only [decodePiece, splitFirstEq_encodePair]
  rw [show String.mk (quotePlus kv.1 "").data = quotePlus kv.1 "" from rfl,
    show String.mk (quotePlus kv.2 "").data = quotePlus kv.2 "" from rfl,
    unquotePlus_quotePlus, unquotePlus_quotePlus]
  rfl

theorem mapM_decodePiece (pairs : List (String × String)) :
    (pairs.map fun kv => (encodePair kv).data).mapM decodePiece = some pairs := by
  induction pairs with
  | nil => rfl
  | cons kv l ih => rw [List.map_cons, List.mapM_cons, decodePiece_encodePair, ih]; rfl

theorem formDecode_join (pairs : List (String × String)) :
    formDecode (pyJoin "&" (pairs.map encodePair)) = some pairs := by
  cases pairs with
  | nil => rfl
  | cons kv l =>
    have hsplit : ((pyJoin "&" ((kv :: l).map encodePair)).data.splitOn '&')
        = (kv :: l).map fun kv => (encodePair kv).data := by
      simp only [pyJoin, List.map_map]
      refine List.splitOn_intercalate _ '&' (fun p hp => ?_) (by simp)
      obtain ⟨kv, -, rfl⟩ := List.mem_map.mp hp
      exact amp_not_mem_encodePair kv
    have hne : ∀ p ∈ (kv :: l).map fun kv => (encodePair kv).data, (!p.isEmpty) = true := by
      intro p hp
      obtain ⟨kv, -, rfl⟩ := List.mem_map.mp hp
      simp [encodePair_data]
    rw [formDecode, hsplit, List.filter_eq_self.mpr hne, mapM_decodePiece]

end Decode

theorem urlencode_decode (ps : Params) :
    formDecode (urlencode (ps.filter fun kv => !kv.2.isNone)) = some (queryPairs ps) := by
  rw [urlencode_eq (fun kv hkv => by simpa using (List.mem_filter.mp hkv).2), formDecode_join]
  rfl

theorem hash_not_mem_urlencode (ps : Params) :
    '#' ∉ (urlencode (ps.filter fun kv => !kv.2.isNone)).data := by
  rw [urlencode_eq (fun kv hkv => by simpa using (List.mem_filter.mp hkv).2)]
  refine not_mem_pyJoin (by decide) fun p hp => ?_
  obtain ⟨kv, -, rfl⟩ := List.mem_map.mp hp
  exact hash_not_mem_encodePair kv

theorem filter_isEmpty_iff {ps : Params} :
    (ps.filter fun kv => !kv.2.isNone).isEmpty = !sendsQuery (some ps) := by
  induction ps with
  | nil => rfl
  | cons kv ps ih =>
    cases h : kv.2.isNone <;> simp_all [List.filter_cons, sendsQuery]

theorem buildUrl_of_not_sendsQuery {base path : String} {ps : Params} (h : sendsQuery (some ps) = false) :
    buildUrl base path (some ps) = rstrip base '/' ++ path := by
  have hf := @filter_isEmpty_iff ps
  rw [h] at hf
  simp [buildUrl, hf]

theorem buildUrl_of_sendsQuery {base path : String} {ps : Params} (h : sendsQuery (some ps) = true) :
    buildUrl base path (some ps)
      = rstrip base '/' ++ path ++ "?" ++ urlencode (ps.filter fun kv => !kv.2.isNone) := by
  have hf := @filter_isEmpty_iff ps
  rw [h] at hf
  have hne : ps.isEmpty = false := by
    cases ps <;> simp_all [sendsQuery]
  simp [buildUrl, hf, hne]

/-- `_build_url` appends no `?` unless `params` has a non-`None` value, and then a query with no
`#` that parses back to exactly the non-`None` pairs, in insertion order, a list value giving
one pair per element. -/
theorem buildUrl_query (base path : String) (ps : Params) :
    buildUrl base path none = rstrip base '/' ++ path ∧
    (sendsQuery (some ps) = false → buildUrl base path (some ps) = rstrip base '/' ++ path) ∧
    (sendsQuery (some ps) = true → ∃ q, buildUrl base path (some ps) = rstrip base '/' ++ path ++ "?" ++ q
      ∧ '#' ∉ q.data ∧ formDecode q = some (queryPairs ps)) :=
  ⟨rfl, buildUrl_of_not_sendsQuery, fun h =>
    ⟨_, buildUrl_of_sendsQuery h, hash_not_mem_urlencode ps, urlencode_decode ps⟩⟩

end ClawNet.Http
