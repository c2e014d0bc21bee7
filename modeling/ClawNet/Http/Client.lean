import Mathlib.Data.Rat.Defs
import ClawNet.Http.Url
import ClawNet.Py.Float

namespace ClawNet.Http

/-- A value as `json.loads` returns it; a number is kept as the rational its literal denotes. -/
inductive Json where
  | null
  | bool (b : Bool)
  | num (q : ℚ)
  | str (s : String)
  | arr (xs : List Json)
  | obj (kvs : List (String × Json))
  deriving Repr

/-- Python's truth value. -/
def Json.truthy : Json → Bool
  | .null => false
  | .bool b => b
  | .num q => q != 0
  | .str s => !s.isEmpty
  | .arr xs => !xs.isEmpty
  | .obj kvs => !kvs.isEmpty

def Json.isDict : Json → Bool
  | .obj _ => true
  | _ => false

abbrev Body := List (String × Json)

/-- `ClawTokenError(message, status=..., code=..., details=...)`; `None` is `Json.null`. -/
structure ClawTokenError where
  message : Json
  status : Nat := 0
  code : Json := .null
  details : Json := .null
  deriving Repr

/-- The exceptions the transport path and the sync wait can raise. -/
inductive PyException where
  | clawToken (e : ClawTokenError)
  | jsonDecode
  | attribute
  | timeout (seconds : ClawNet.Py.PyFloat)
  | value
  | overflow

/-- `obj.get(key, default)`: the entry of a dict, `AttributeError` on any other value. -/
def pyGet (o : Json) (key : String) (default : Json) : Except PyException Json :=
  match o with
  | .obj kvs => .ok ((kvs.lookup key).getD default)
  | _ => .error .attribute

/-- The part of an `httpx.Response` the client reads. -/
structure Response where
  statusCode : Nat
  text : String

/-- `resp.is_success`. -/
def Response.isSuccess (r : Response) : Bool := 200 ≤ r.statusCode && r.statusCode ≤ 299

inductive Verb where
  | get
  | post
  | put
  | delete
  deriving DecidableEq, Repr

/-- A request as the client hands it to `httpx`: the client's own header mapping, before `httpx`
adds its defaults. -/
structure Request where
  verb : Verb
  url : String
  json : Option Body
  headers : List (String × String)

/-- A call of one of the four verbs, `self._http.get(path, params)` and its siblings, before the
client fills in its base URL. -/
structure Call where
  verb : Verb
  path : String
  params : Option Params := none
  body : Option Body := none

def defaultBaseUrl : String := "http://127.0.0.1:9528"

/-- `d[k] = v`: the entry is replaced where it stands, or appended. -/
def dictSet {α : Type} (d : List (String × α)) (k : String) (v : α) : List (String × α) :=
  if d.any (·.1 == k) then d.map fun kv => if kv.1 = k then (k, v) else kv else d ++ [(k, v)]

/-- `d.update(u)`. -/
def dictUpdate {α : Type} (d u : List (String × α)) : List (String × α) :=
  u.foldl (fun d kv => dictSet d kv.1 kv.2) d

/-- The state `HttpClient.__init__` and `AsyncHttpClient.__init__` leave: one code for both. -/
structure HttpClient where
  baseUrl : String
  headers : List (String × String)

/-- `_headers` before the `headers` argument is merged in. -/
def baseHeaders (apiKey : Option String) : List (String × String) :=
  let h := [("Content-Type", "application/json")]
  match apiKey with
  | some k => if k.isEmpty then h else dictSet h "Authorization" ("Bearer " ++ k)
  | none => h

def HttpClient.init (baseUrl : String := defaultBaseUrl) (apiKey : Option String := none)
    (headers : Option (List (String × String)) := none) : HttpClient :=
  let h := baseHeaders apiKey
  let h := match headers with
    | some hs => if hs.isEmpty then h else dictUpdate h hs
    | none => h
  ⟨rstrip baseUrl '/', h⟩

namespace HttpClient

def get (path : String) (params : Option Params := none) : Call := ⟨.get, path, params, none⟩

def post (path : String) (body : Option Body := none) : Call := ⟨.post, path, none, body⟩

def put (path : String) (body : Option Body := none) : Call := ⟨.put, path, none, body⟩

def delete (path : String) (params : Option Params := none) : Call := ⟨.delete, path, params, none⟩

/-- The request a verb sends: `get` and `delete` build the URL with `params` and send no body,
`post` and `put` build it without `params` and send `json=body`. -/
def request (c : HttpClient) (call : Call) : Request :=
  match call.verb with
  | .get => ⟨.get, buildUrl c.baseUrl call.path call.params, none, c.headers⟩
  | .post => ⟨.post, buildUrl c.baseUrl call.path none, call.body, c.headers⟩
  | .put => ⟨.put, buildUrl c.baseUrl call.path none, call.body, c.headers⟩
  | .delete => ⟨.delete, buildUrl c.baseUrl call.path call.params, none, c.headers⟩

end HttpClient

section Transport

variable (jsonLoads : String → Option Json)

/-- `resp.json()`. -/
def Response.json (r : Response) : Except PyException Json :=
  match jsonLoads r.text with
  | some j => .ok j
  | none => .error .jsonDecode

/-- The `try` block of `_handle_error`: the message and the code it reads from the body. -/
def errorFields (resp : Response) : Except PyException (Json × Json) := do
  let body ← resp.json jsonLoads
  let msg ← if body.isDict then
      (pyGet body "error" (.obj [])) >>= fun e => pyGet e "message" (.str resp.text)
    else pure (.str resp.text)
  let code ← if body.isDict then (pyGet body "error" (.obj [])) >>= fun e => pyGet e "code" .null
    else pure .null
  pure (msg, code)

/-- `except Exception: msg = resp.text; code = None`. -/
def errorMessage (resp : Response) : Json × Json :=
  match errorFields jsonLoads resp with
  | .ok mc => mc
  | .error _ => (.str resp.text, .null)

/-- `_handle_error(resp)`: nothing on a 2xx status, a `ClawTokenError` otherwise. -/
def handleError (resp : Response) : Except PyException Unit :=
  if resp.isSuccess then .ok ()
  else
    let mc := errorMessage jsonLoads resp
    .error (.clawToken { message := mc.1, status := resp.statusCode, code := mc.2 })

/-- What every verb of both clients does once the server answered `resp`. -/
def complete (resp : Response) : Except PyException Json := do
  handleError jsonLoads resp
  resp.json jsonLoads

/-- One verb against a server that answers each request with `send` of it. -/
def HttpClient.perform (c : HttpClient) (send : Request → Response) (call : Call) :
    Except PyException Json :=
  complete jsonLoads (send (c.request call))

/-- The error the spec describes for a non-2xx response: the `error` object's `message` and
`code` when the body is an object whose `error` member is an object, the raw text and no code
otherwise. -/
def specError (resp : Response) : ClawTokenError :=
  match jsonLoads resp.text with
  | some (.obj kvs) =>
    match kvs.lookup "error" with
    | some (.obj e) =>
      { message := (e.lookup "message").getD (.str resp.text), status := resp.statusCode,
        code := (e.lookup "code").getD .null }
    | _ => { message := .str resp.text, status := resp.statusCode }
  | _ => { message := .str resp.text, status := resp.statusCode }

def raisesClawTokenError : Except PyException Json → Bool
  | .error (.clawToken _) => true
  | _ => false

theorem pyGet_obj (kvs : List (String × Json)) (key : String) (d : Json) :
    pyGet (.obj kvs) key d = .ok ((kvs.lookup key).getD d) := rfl

theorem errorMessage_eq (resp : Response) :
    errorMessage jsonLoads resp = ((specError jsonLoads resp).message, (specError jsonLoads resp).code) := by
  unfold errorMessage errorFields specError Response.json
  cases jsonLoads resp.text with
  | none => rfl
  | some body =>
    cases body with
    | obj kvs =>
      simp only [Json.isDict, if_true, bind, Except.bind, pyGet_obj]
      cases kvs.lookup "error" with
      | none => rfl
      | some e => cases e <;> rfl
    | _ => rfl

theorem handleError_of_success {resp : Response} (h : resp.isSuccess = true) :
    handleError jsonLoads resp = .ok () := by
  simp [handleError, h]

theorem specError_status (resp : Response) :
    (specError jsonLoads resp).status = resp.statusCode ∧ (specError jsonLoads resp).details = .null := by
  unfold specError
  split <;> (try split) <;> exact ⟨rfl, rfl⟩

theorem handleError_of_failure {resp : Response} (h : resp.isSuccess = false) :
    handleError jsonLoads resp = .error (.clawToken (specError jsonLoads resp)) := by
  obtain ⟨hs, hd⟩ := specError_status jsonLoads resp
  simp only [handleError, h, Bool.false_eq_true, if_false, errorMessage_eq]
  rw [← hs, ← hd]

theorem complete_of_success {resp : Response} (h : resp.isSuccess = true) :
    complete jsonLoads resp = resp.json jsonLoads := by
  rw [complete, handleError_of_success jsonLoads h]
  rfl

theorem complete_of_failure {resp : Response} (h : resp.isSuccess = false) :
    complete jsonLoads resp = .error (.clawToken (specError jsonLoads resp)) := by
  rw [complete, handleError_of_failure jsonLoads h]
  rfl

theorem json_not_raisesClawTokenError (resp : Response) :
    raisesClawTokenError (resp.json jsonLoads) = false := by
  unfold Response.json
  split <;> rfl

theorem isSuccess_iff (r : Response) : r.isSuccess = true ↔ 200 ≤ r.statusCode ∧ r.statusCode ≤ 299 := by
  simp [Response.isSuccess]

/-- Every verb of both clients raises `ClawTokenError` exactly on a status outside 200–299, and
then the one the spec describes; on a status in 200–299 it returns `resp.json()`. -/
theorem perform_raises_iff (c : HttpClient) (send : Request → Response) (call : Call) :
    let resp := send (c.request call)
    (raisesClawTokenError (c.perform jsonLoads send call) = true ↔
      ¬(200 ≤ resp.statusCode ∧ resp.statusCode ≤ 299)) ∧
    (¬(200 ≤ resp.statusCode ∧ resp.statusCode ≤ 299) →
      c.perform jsonLoads send call = .error (.clawToken (specError jsonLoads resp))) ∧
    (200 ≤ resp.statusCode ∧ resp.statusCode ≤ 299 →
      c.perform jsonLoads send call = resp.json jsonLoads) := by
  intro resp
  by_cases h : 200 ≤ resp.statusCode ∧ resp.statusCode ≤ 299
  · simp [HttpClient.perform, complete_of_success jsonLoads ((isSuccess_iff resp).2 h),
      json_not_raisesClawTokenError, h]
  · have hs : resp.isSuccess = false := by rwa [← Bool.not_eq_true, isSuccess_iff]
    simp [HttpClient.perform, complete_of_failure jsonLoads hs, raisesClawTokenError, h]

end Transport

end ClawNet.Http
