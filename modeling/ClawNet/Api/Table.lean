import ClawNet.Api.Route

namespace ClawNet.Api

open ClawNet.Text ClawNet.Http

/-- Two templates that some identifiers could fill to the same segments: the same length, and
equal literals wherever both have one. -/
def Compatible : List Seg → List Seg → Bool
  | [], [] => true
  | .lit s :: t, .lit s' :: t' => s == s' && Compatible t t'
  | _ :: t, _ :: t' => Compatible t t'
  | _, _ => false

def templatesOf (v : Verb) (es : List Endpoint) : List (List Seg) :=
  (es.filter (·.verb == v)).map (·.template)

@[simp] theorem templatesOf_append (v : Verb) (es es' : List Endpoint) :
    templatesOf v (es ++ es') = templatesOf v es ++ templatesOf v es' := by
  simp [templatesOf]

/-- Each pair of distinct compatible templates, in list order. -/
def overlaps : List (List Seg) → List (List Seg × List Seg)
  | [] => []
  | t :: rest => (rest.filter fun t' => Compatible t t' && t != t').map (t, ·) ++ overlaps rest

theorem compatible_comm : ∀ t t' : List Seg, Compatible t t' = Compatible t' t
  | [], [] => rfl
  | [], s :: _ => by cases s <;> rfl
  | s :: _, [] => by cases s <;> rfl
  | .lit s :: t, .lit s' :: t' => by
    by_cases h : s = s'
    · simp [Compatible, compatible_comm t t', h]
    · simp only [Compatible, show (s == s') = false by simpa using h,
        show (s' == s) = false by simpa using Ne.symm h, Bool.false_and]
  | .lit _ :: t, .slot :: t' => compatible_comm t t'
  | .slot :: t, .lit _ :: t' => compatible_comm t t'
  | .slot :: t, .slot :: t' => compatible_comm t t'

theorem compatible_of_fill_eq : ∀ {t t' : List Seg} {ids ids' : List String},
    fill t ids = fill t' ids' → Compatible t t' = true
  | [], [], _, _, _ => rfl
  | [], _ :: _, _, _, h => absurd (congrArg List.length h) (by simp [fill_length])
  | _ :: _, [], _, _, h => absurd (congrArg List.length h) (by simp [fill_length])
  | .lit s :: t, .lit s' :: t', ids, ids', h => by
    simp only [fill, List.cons.injEq] at h
    simp [Compatible, h.1, compatible_of_fill_eq h.2]
  | .lit _ :: t, .slot :: t', ids, [], h => by
    simp only [fill, List.cons.injEq] at h
    exact (compatible_of_fill_eq h.2 : Compatible t t' = true)
  | .lit _ :: t, .slot :: t', ids, _ :: ids', h => by
    simp only [fill, List.cons.injEq] at h
    exact (compatible_of_fill_eq h.2 : Compatible t t' = true)
  | .slot :: t, .lit _ :: t', [], ids', h => by
    simp only [fill, List.cons.injEq] at h
    exact (compatible_of_fill_eq h.2 : Compatible t t' = true)
  | .slot :: t, .lit _ :: t', _ :: ids, ids', h => by
    simp only [fill, List.cons.injEq] at h
    exact (compatible_of_fill_eq h.2 : Compatible t t' = true)
  | .slot :: t, .slot :: t', [], [], h
  | .slot :: t, .slot :: t', [], _ :: _, h
  | .slot :: t, .slot :: t', _ :: _, [], h
  | .slot :: t, .slot :: t', _ :: _, _ :: _, h => by
    simp only [fill, List.cons.injEq] at h
    exact (compatible_of_fill_eq h.2 : Compatible t t' = true)

theorem mem_templatesOf {v : Verb} {es : List Endpoint} {e : Endpoint} (he : e ∈ es)
    (hv : e.verb = v) : e.template ∈ templatesOf v es :=
  List.mem_map.mpr ⟨e, List.mem_filter.mpr ⟨he, by simp [hv]⟩, rfl⟩

theorem mem_overlaps : ∀ {ts : List (List Seg)} {t t' : List Seg}, t ∈ ts → t' ∈ ts →
    Compatible t t' = true → t ≠ t' → (t, t') ∈ overlaps ts ∨ (t', t) ∈ overlaps ts
  | s :: rest, t, t', ht, ht', hc, hne => by
    simp only [overlaps, List.mem_append, List.mem_map, List.mem_filter]
    rcases List.mem_cons.mp ht with rfl | hr <;> rcases List.mem_cons.mp ht' with rfl | hr'
    · exact absurd rfl hne
    · exact .inl (.inl ⟨t', ⟨hr', by simp [hc, hne]⟩, rfl⟩)
    · exact .inr (.inl ⟨t, ⟨hr, by simp [compatible_comm, hc, Ne.symm hne]⟩, rfl⟩)
    · rcases mem_overlaps hr hr' hc hne with h | h
      · exact .inl (.inr h)
      · exact .inr (.inr h)

theorem fill_ids_inj {t : List Seg} {ids ids' : List String} (h : ids.length = arity t)
    (h' : ids'.length = arity t) (hf : fill t ids = fill t ids') : ids = ids' := by
  induction t generalizing ids ids' with
  | nil => simp_all [arity, List.length_eq_zero]
  | cons seg t ih =>
    cases seg with
    | lit s => exact ih h h' (List.cons.inj hf).2
    | slot =>
      obtain ⟨x, xs, rfl⟩ := List.exists_cons_of_length_eq_add_one h
      obtain ⟨y, ys, rfl⟩ := List.exists_cons_of_length_eq_add_one h'
      obtain ⟨rfl, hxs⟩ := List.cons.inj hf
      rw [ih (Nat.succ.inj h) (Nat.succ.inj h') hxs]

theorem overlaps_get : ∀ p ∈ overlaps (templatesOf .get syncApi),
    p = (IdentityApi.get.template, IdentityApi.listCapabilities.template) := by
  decide

theorem overlaps_post : overlaps (templatesOf .post syncApi) = [] := by
  decide

theorem overlaps_put : overlaps (templatesOf .put syncApi) = [] := by
  decide

theorem overlaps_delete : overlaps (templatesOf .delete syncApi) = [] := by
  decide

theorem asyncMarkets_templates : ∀ e ∈ asyncMarketsApi, e.template ∈ templatesOf e.verb marketsApi := by
  decide

theorem api_templates {e : Endpoint} (he : e ∈ api) : e.template ∈ templatesOf e.verb syncApi := by
  rcases List.mem_append.mp he with h | h
  · exact mem_templatesOf h rfl
  · rcases List.mem_append.mp h with h | h
    · exact mem_templatesOf (List.mem_append_left _ h) rfl
    · rw [syncApi, templatesOf_append]
      exact List.mem_append_right _ (asyncMarkets_templates e h)

theorem api_compatible {e e' : Endpoint} (he : e ∈ api) (he' : e' ∈ api) (hv : e.verb = e'.verb)
    (hc : Compatible e.template e'.template = true) :
    e.template = e'.template ∨
    (e.template = IdentityApi.get.template ∧ e'.template = IdentityApi.listCapabilities.template) ∨
    (e.template = IdentityApi.listCapabilities.template ∧ e'.template = IdentityApi.get.template) := by
  by_cases heq : e.template = e'.template
  · exact .inl heq
  have ht' := api_templates he'
  rw [← hv] at ht'
  have hmem := mem_overlaps (api_templates he) ht' hc heq
  cases hve : e.verb <;> rw [hve] at hmem
  · rcases hmem with h | h
    · exact .inr (.inl (Prod.mk.inj (overlaps_get _ h)))
    · exact .inr (.inr (Prod.mk.inj (overlaps_get _ h)).symm)
  all_goals simp [overlaps_post, overlaps_put, overlaps_delete] at hmem

/-- Over the whole API, on identifiers other than `.` and `..`, two calls address one route only
with the same verb and either the same template and identifiers, or `IdentityApi.get` (or
`resolve`) with the DID `capabilities` against `IdentityApi.list_capabilities`. -/
theorem api_route_eq (e e' : Endpoint) (he : e ∈ api) (he' : e' ∈ api) (a a' : Args)
    (hlen : a.ids.length = arity e.template) (hlen' : a'.ids.length = arity e'.template)
    (hd : ∀ x ∈ a.ids, DotFree x) (hd' : ∀ x ∈ a'.ids, DotFree x)
    (h : route (e.call a) = route (e'.call a')) :
    e.verb = e'.verb ∧
    ((e.template = e'.template ∧ a.ids = a'.ids) ∨
      (e.template = IdentityApi.get.template ∧ e'.template = IdentityApi.listCapabilities.template ∧
        a.ids = ["capabilities"]) ∨
      (e.template = IdentityApi.listCapabilities.template ∧ e'.template = IdentityApi.get.template ∧
        a'.ids = ["capabilities"])) := by
  obtain ⟨hv, hf⟩ := (route_eq_iff_fill e e' a a' hd hd').mp h
  refine ⟨hv, ?_⟩
  rcases api_compatible he he' hv (compatible_of_fill_eq hf) with ht | ⟨ht, ht'⟩ | ⟨ht, ht'⟩
  · rw [← ht] at hlen' hf
    exact .inl ⟨ht, fill_ids_inj hlen hlen' hf⟩
  · rw [ht] at hlen
    rw [ht, ht'] at hf
    obtain ⟨x, hx⟩ := List.length_eq_one.mp hlen
    simp [IdentityApi.get, IdentityApi.listCapabilities, fill, hx] at hf
    exact .inr (.inl ⟨ht, ht', by rw [hx, hf]⟩)
  · rw [ht'] at hlen'
    rw [ht, ht'] at hf
    obtain ⟨x, hx⟩ := List.length_eq_one.mp hlen'
    simp [IdentityApi.get, IdentityApi.listCapabilities, fill, hx] at hf
    exact .inr (.inr ⟨ht, ht', by rw [hx, hf]⟩)

theorem api_route_eq_capabilities :
    route (IdentityApi.get.call { ids := ["capabilities"] })
      = route (IdentityApi.listCapabilities.call { opts := [.str "did:claw:z6MkTest", .none, .none] }) ∧
    IdentityApi.get.verb = IdentityApi.listCapabilities.verb :=
  have h : route (IdentityApi.get.call { ids := ["capabilities"] })
      = route (IdentityApi.listCapabilities.call { opts := [.str "did:claw:z6MkTest", .none, .none] }) := by
    decide
  have hg : IdentityApi.get ∈ api := by simp [api, syncApi, coreApi, identityApi]
  have hl : IdentityApi.listCapabilities ∈ api := by simp [api, syncApi, coreApi, identityApi]
  ⟨h, (api_route_eq _ _ hg hl _ _ (by decide) (by decide) (by simp [DotFree]) (by simp) h).1⟩

end ClawNet.Api
