import ClawNet.Api.Endpoint

namespace ClawNet.Api

open ClawNet.Text ClawNet.Http

theorem buildUrl_orNone (base path : String) (ps : Params) :
    buildUrl base path (orNone ps) = buildUrl base path (some ps) := by
  unfold orNone
  split <;> simp_all [buildUrl]

theorem api_kwargs_modes : ∀ e ∈ api,
    (e.mode = .bodyKwargs → e.verb = .post) ∧ (e.mode = .queryKwargs → e.verb = .get) ∧
    (e.mode = .droppedKwargs → e.verb = .delete ∧ e.template ∈
      [InfoMarketApi.remove.template, TaskMarketApi.remove.template,
        CapabilityMarketApi.remove.template]) := by
  set_option maxRecDepth 4000 in decide

theorem api_options_get : ∀ e ∈ api,
    (match e.mode with
      | .options _ => e.verb == .get
      | _ => true) = true := by
  set_option maxRecDepth 4000 in decide

section Request

variable (c : HttpClient) {e : Endpoint} (a : Args)

theorem request_bodyKwargs (hm : e.mode = .bodyKwargs) (hv : e.verb = .post) :
    c.request (e.call a) = ⟨.post, rstrip c.baseUrl '/' ++ e.path a.ids, some a.kwargs, c.headers⟩ := by
  simp [Endpoint.call, hm, HttpClient.request, hv, buildUrl]

theorem request_queryKwargs (hm : e.mode = .queryKwargs) (hv : e.verb = .get) :
    c.request (e.call a) = ⟨.get, buildUrl c.baseUrl (e.path a.ids) (some a.params), none, c.headers⟩ := by
  simp [Endpoint.call, hm, HttpClient.request, hv, buildUrl_orNone]

theorem request_droppedKwargs (hm : e.mode = .droppedKwargs) (hv : e.verb = .delete) :
    c.request (e.call a) = ⟨.delete, rstrip c.baseUrl '/' ++ e.path a.ids, none, c.headers⟩ := by
  simp [Endpoint.call, hm, HttpClient.request, hv, buildUrl]

theorem request_options {rules : List (String × Rule)} (hm : e.mode = .options rules)
    (hv : e.verb = .get) :
    c.request (e.call a) =
      ⟨.get, buildUrl c.baseUrl (e.path a.ids) (some (optionParams rules a.opts)), none, c.headers⟩ := by
  simp [Endpoint.call, hm, HttpClient.request, hv, buildUrl_orNone]

end Request

/-- `InfoMarketApi(http).remove('info-1', did=..., passphrase=..., nonce=1)` issues a DELETE whose
URL has no query and which has no body: the envelope is dropped. -/
theorem remove_drops_envelope :
    let a : Args :=
      { ids := ["info-1"],
        params := [("did", .str "did:claw:z6MkTest"), ("passphrase", .str "secret"), ("nonce", .int 1)] }
    sendsQuery (some a.params) = true ∧
    ((HttpClient.init).request (InfoMarketApi.remove.call a)).verb = .delete ∧
    ((HttpClient.init).request (InfoMarketApi.remove.call a)).url
      = "http://127.0.0.1:9528/api/markets/info/info-1" ∧
    ((HttpClient.init).request (InfoMarketApi.remove.call a)).json = none := by
  refine ⟨rfl, rfl, ?_, rfl⟩
  decide

/-- Every wrapper of both packages that takes an open mapping sends all of it, a POST as its
JSON body and a GET as its query, except the three sync `remove`s, which send neither. -/
theorem call_forwards_kwargs (e : Endpoint) (he : e ∈ api) (a : Args) (c : HttpClient) :
    (e.mode = .bodyKwargs →
      c.request (e.call a) = ⟨.post, rstrip c.baseUrl '/' ++ e.path a.ids, some a.kwargs, c.headers⟩) ∧
    (e.mode = .queryKwargs → (c.request (e.call a)).verb = .get ∧ (c.request (e.call a)).json = none ∧
      (sendsQuery (some a.params) = false →
        (c.request (e.call a)).url = rstrip c.baseUrl '/' ++ e.path a.ids) ∧
      (sendsQuery (some a.params) = true → ∃ q,
        (c.request (e.call a)).url = rstrip c.baseUrl '/' ++ e.path a.ids ++ "?" ++ q ∧
        formDecode q = some (queryPairs a.params))) ∧
    (e.mode = .droppedKwargs →
      c.request (e.call a) = ⟨.delete, rstrip c.baseUrl '/' ++ e.path a.ids, none, c.headers⟩ ∧
      e.template ∈ [InfoMarketApi.remove.template, TaskMarketApi.remove.template,
        CapabilityMarketApi.remove.template]) := by
  obtain ⟨hb, hq, hd⟩ := api_kwargs_modes e he
  refine ⟨fun hm => request_bodyKwargs c a hm (hb hm), fun hm => ?_,
    fun hm => ⟨request_droppedKwargs c a hm (hd hm).1, (hd hm).2⟩⟩
  rw [request_queryKwargs c a hm (hq hm)]
  exact ⟨rfl, rfl, buildUrl_of_not_sendsQuery,
    fun h => ⟨_, buildUrl_of_sendsQuery h, urlencode_decode a.params⟩⟩

/-- Every method with named keyword options sends a GET with no body whose query parses back to
exactly the options its rules admit, in the method's order: `if x:` leaves out an empty string or
zero, `if x is not None:` keeps them. -/
theorem call_options (e : Endpoint) (he : e ∈ api) (rules : List (String × Rule))
    (hm : e.mode = .options rules) (a : Args) (c : HttpClient) :
    let sent := (rules.zip a.opts).filterMap fun p =>
      if p.1.2.admits p.2 then some (p.1.1, p.2) else none
    (c.request (e.call a)).verb = .get ∧ (c.request (e.call a)).json = none ∧
    (sendsQuery (some sent) = false →
      (c.request (e.call a)).url = rstrip c.baseUrl '/' ++ e.path a.ids) ∧
    (sendsQuery (some sent) = true → ∃ q,
      (c.request (e.call a)).url = rstrip c.baseUrl '/' ++ e.path a.ids ++ "?" ++ q ∧
      formDecode q = some (queryPairs sent)) := by
  intro sent
  have hv : e.verb = .get := by simpa [hm] using api_options_get e he
  rw [request_options c a hm hv, optionParams_eq]
  exact ⟨rfl, rfl, buildUrl_of_not_sendsQuery,
    fun h => ⟨_, buildUrl_of_sendsQuery h, urlencode_decode sent⟩⟩

theorem call_options_balance :
    WalletApi.getBalance ∈ api ∧
    WalletApi.getBalance.mode = .options [("did", .ifTruthy), ("address", .ifTruthy)] ∧
    ((HttpClient.init).request (WalletApi.getBalance.call { opts := [.str "", .str "0x1"] })).verb
      = .get :=
  have he : WalletApi.getBalance ∈ api := by simp [api, syncApi, coreApi, walletApi]
  ⟨he, rfl, (call_options _ he _ rfl _ _).1⟩

theorem call_forwards_kwargs_sign :
    ContractsApi.sign ∈ api ∧
    (HttpClient.init).request
        (ContractsApi.sign.call { ids := ["ct-1"], kwargs := [("did", .str "did:claw:z6MkTest")] })
      = ⟨.post, rstrip (HttpClient.init).baseUrl '/' ++ ContractsApi.sign.path ["ct-1"],
          some [("did", .str "did:claw:z6MkTest")], (HttpClient.init).headers⟩ :=
  have he : ContractsApi.sign ∈ api := by simp [api, syncApi, coreApi, contractsApi]
  ⟨he, (call_forwards_kwargs ContractsApi.sign he _ _).1 rfl⟩

end ClawNet.Api
