import Mathlib.Data.List.Basic
import ClawNet.Api.Endpoint

namespace ClawNet.Api

open ClawNet.Text ClawNet.Http

/-- Where RFC 3986 §5.2.4 stands in its input: at the start, right after a `/` it has not yet
written, or inside a segment. -/
inductive Cursor where
  | top
  | slash
  | seg
  deriving DecidableEq, Repr

/-- Drop the last segment of the reversed output, with the `/` before it. -/
def popSegment (out : List Char) : List Char := (out.dropWhile (· ≠ '/')).drop 1

/-- Rules A to E of RFC 3986 §5.2.4, the output kept reversed. -/
def removeDots : Cursor → List Char → List Char → List Char
  | .top, '.' :: '.' :: '/' :: r, out => removeDots .top r out
  | .top, '.' :: '/' :: r, out => removeDots .top r out
  | .top, ['.'], out => out
  | .top, ['.', '.'], out => out
  | .top, '/' :: r, out => removeDots .slash r out
  | .top, c :: r, out => removeDots .seg r (c :: out)
  | .slash, '.' :: '/' :: r, out => removeDots .slash r out
  | .slash, ['.'], out => '/' :: out
  | .slash, '.' :: '.' :: '/' :: r, out => removeDots .slash r (popSegment out)
  | .slash, ['.', '.'], out => '/' :: popSegment out
  | .slash, '/' :: r, out => removeDots .slash r ('/' :: out)
  | .slash, c :: r, out => removeDots .seg r (c :: '/' :: out)
  | .seg, '/' :: r, out => removeDots .slash r out
  | .seg, c :: r, out => removeDots .seg r (c :: out)
  | .slash, [], out => '/' :: out
  | _, [], out => out

def removeDotSegments (p : String) : String := ⟨(removeDots .top p.data []).reverse⟩

example : removeDotSegments "/a/b/c/./../../g" = "/a/g" := by decide
example : removeDotSegments "/api/contracts/." = "/api/contracts/" := by decide

def splitPath (p : String) : List String := (p.data.splitOn '/').map String.mk

/-- The route a call addresses: its verb, and its path after dot-segment removal split on `/`. -/
def route (c : Call) : Verb × List String := (c.verb, splitPath (removeDotSegments c.path))

/-- The identifiers a template's slots take from the segments of a path, percent-decoded. -/
def matchTemplate : List Seg → List String → Option (List String)
  | [], [] => some []
  | .lit s :: t, p :: ps => if p = s then matchTemplate t ps else none
  | .slot :: t, p :: ps => do
    let x ← unquote p
    let xs ← matchTemplate t ps
    pure (x :: xs)
  | _, _ => none

def Endpoint.matches (e : Endpoint) (r : Verb × List String) : Option (List String) :=
  match r with
  | (v, "" :: ps) => if v = e.verb then matchTemplate e.template ps else none
  | _ => none

/-- The segments of a route before quoting: literals, and the identifiers in the slots. -/
def fill : List Seg → List String → List String
  | [], _ => []
  | .lit s :: t, ids => s :: fill t ids
  | .slot :: t, [] => "" :: fill t []
  | .slot :: t, x :: ids => x :: fill t ids

def DotFree (x : String) : Prop := x ≠ "." ∧ x ≠ ".."

section DotSegments

variable {r out : List Char} {c : Char}

theorem removeDots_seg_cons (h : c ≠ '/') : removeDots .seg (c :: r) out = removeDots .seg r (c :: out) :=
  removeDots.eq_14 _ _ _ h

theorem removeDots_seg_copy {s : List Char} (hs : '/' ∉ s) (r out : List Char) :
    removeDots .seg (s ++ r) out = removeDots .seg r (s.reverse ++ out) := by
  induction s generalizing out with
  | nil => rfl
  | cons c t ih =>
    rw [List.mem_cons, not_or] at hs
    rw [List.cons_append, removeDots_seg_cons (Ne.symm hs.1), ih hs.2]
    simp

theorem removeDots_slash_segment {s : List Char} (hs : '/' ∉ s) (h1 : s ≠ ['.']) (h2 : s ≠ ['.', '.'])
    (r : List Char) (hr : r = [] ∨ ∃ r', r = '/' :: r') (out : List Char) :
    removeDots .slash (s ++ r) out = removeDots .seg r (s.reverse ++ '/' :: out) := by
  cases s with
  | nil => rcases hr with rfl | ⟨r', rfl⟩ <;> rfl
  | cons c t =>
    rw [List.mem_cons, not_or] at hs
    rw [List.cons_append, removeDots.eq_12, removeDots_seg_copy hs.2]
    · simp
    all_goals intros; subst_vars
    all_goals rcases t with _ | ⟨c2, _ | ⟨c3, t⟩⟩ <;> rcases hr with rfl | ⟨r', rfl⟩ <;> simp_all

def PlainSegment (s : List Char) : Prop := '/' ∉ s ∧ s ≠ ['.'] ∧ s ≠ ['.', '.']

theorem intercalate_cons_cons (s t : List Char) (rest : List (List Char)) :
    ['/'].intercalate (s :: t :: rest) = s ++ '/' :: ['/'].intercalate (t :: rest) := by
  simp [List.intercalate]

theorem removeDots_slash_join (segs : List (List Char)) (hsegs : ∀ s ∈ segs, PlainSegment s)
    (hne : segs ≠ []) (out : List Char) :
    removeDots .slash (['/'].intercalate segs) out = (['/'].intercalate segs).reverse ++ '/' :: out := by
  induction segs generalizing out with
  | nil => exact absurd rfl hne
  | cons s rest ih =>
    obtain ⟨hs1, hs2, hs3⟩ := hsegs s (List.mem_cons_self ..)
    cases rest with
    | nil =>
      rw [show ['/'].intercalate [s] = s ++ [] from rfl,
        removeDots_slash_segment hs1 hs2 hs3 [] (.inl rfl)]
      simp [removeDots]
    | cons t rest =>
      rw [intercalate_cons_cons, removeDots_slash_segment hs1 hs2 hs3 _ (.inr ⟨_, rfl⟩),
        removeDots.eq_13, ih (fun s hs => hsegs s (List.mem_cons_of_mem _ hs)) (List.cons_ne_nil _ _)]
      simp

theorem mem_intercalate_slash {c : Char} : ∀ {segs : List (List Char)},
    c ∈ ['/'].intercalate segs → c = '/' ∨ ∃ s ∈ segs, c ∈ s
  | [], h => by simp [List.intercalate] at h
  | [s], h => .inr ⟨s, List.mem_singleton_self s, by simpa [List.intercalate] using h⟩
  | s :: t :: rest, h => by
    rw [intercalate_cons_cons, List.mem_append, List.mem_cons] at h
    rcases h with h | h | h
    · exact .inr ⟨s, List.mem_cons_self .., h⟩
    · exact .inl h
    · rcases mem_intercalate_slash h with h | ⟨s', hs', h⟩
      · exact .inl h
      · exact .inr ⟨s', List.mem_cons_of_mem _ hs', h⟩

theorem join_data (segs : List String) :
    ("/" ++ pyJoin "/" segs).data = '/' :: ['/'].intercalate (segs.map String.data) := rfl

theorem removeDotSegments_join (segs : List String) (hsegs : ∀ s ∈ segs, PlainSegment s.data)
    (hne : segs ≠ []) :
    removeDotSegments ("/" ++ pyJoin "/" segs) = "/" ++ pyJoin "/" segs := by
  have h := removeDots_slash_join (segs.map String.data) (by simpa using hsegs) (by simpa using hne) []
  apply String.ext
  rw [removeDotSegments, join_data, removeDots.eq_5, h]
  simp

theorem splitPath_join (segs : List String) (hsegs : ∀ s ∈ segs, '/' ∉ s.data) (hne : segs ≠ []) :
    splitPath ("/" ++ pyJoin "/" segs) = "" :: segs := by
  have h := List.splitOn_intercalate (segs.map String.data) '/' (by simpa using hsegs) (by simpa using hne)
  rw [splitPath, join_data, List.splitOn, List.splitOnP_cons, if_pos (beq_self_eq_true _),
    ← List.splitOn, h, List.map_cons, List.map_map]
  exact congrArg _ (List.map_id'' (fun _ => rfl) _)

end DotSegments

section Render

variable {t : List Seg} {ids : List String}

theorem quote_lit {s : String} (h : Seg.wellFormed (.lit s)) : quote s "" = s :=
  quote_of_alwaysSafe (fun c hc => by simp [Seg.wellFormed] at h; exact (h c hc).1) _

theorem plainSegment_lit {s : String} (h : Seg.wellFormed (.lit s)) : PlainSegment s.data := by
  simp only [Seg.wellFormed, List.all_eq_true, Bool.and_eq_true, bne_iff_ne] at h
  refine ⟨fun hs => absurd (h _ hs).1 (by decide), fun he => ?_, fun he => ?_⟩ <;>
    exact (h '.' (by simp [he])).2 rfl

theorem plainSegment_quote {x : String} (hx : DotFree x) : PlainSegment (quote x "").data := by
  refine ⟨fun hs => absurd (mem_quote (by decide) hs) (by decide), fun he => hx.1 ?_, fun he => hx.2 ?_⟩
  · exact quote_injective (by decide) (String.ext (he.trans (by decide)))
  · exact quote_injective (by decide) (String.ext (he.trans (by decide)))

theorem render_eq_map (hwf : t.all Seg.wellFormed) : render t ids = (fill t ids).map (quote · "") := by
  induction t generalizing ids with
  | nil => rfl
  | cons seg t ih =>
    simp only [List.all_cons, Bool.and_eq_true] at hwf
    cases seg with
    | lit s => simp [render, fill, quote_lit hwf.1, ih hwf.2]
    | slot => cases ids <;> simp [render, fill, ih hwf.2, show quote "" "" = "" by decide]

theorem plainSegment_render (hwf : t.all Seg.wellFormed) (hd : ∀ x ∈ ids, DotFree x) :
    ∀ s ∈ render t ids, PlainSegment s.data := by
  induction t generalizing ids with
  | nil => simp [render]
  | cons seg t ih =>
    simp only [List.all_cons, Bool.and_eq_true] at hwf
    cases seg with
    | lit s =>
      simpa [render, plainSegment_lit hwf.1] using ih hwf.2 hd
    | slot =>
      cases ids with
      | nil => simpa [render, PlainSegment] using ih hwf.2 hd
      | cons x ids =>
        simp only [List.mem_cons, forall_eq_or_imp] at hd
        simpa [render, plainSegment_quote hd.1] using ih hwf.2 hd.2

theorem render_ne_nil (h : t ≠ []) : render t ids ≠ [] := by
  cases t with
  | nil => exact absurd rfl h
  | cons seg t => cases seg <;> cases ids <;> simp [render]

theorem route_call (e : Endpoint) (a : Args) (hd : ∀ x ∈ a.ids, DotFree x) :
    removeDotSegments (e.call a).path = (e.call a).path ∧
    route (e.call a) = (e.verb, "" :: render e.template a.ids) := by
  have hplain := plainSegment_render e.wf.2 hd
  have hne : render e.template a.ids ≠ [] := render_ne_nil e.wf.1
  have hrm := removeDotSegments_join _ hplain hne
  simp only [call_path, Endpoint.path] at hrm ⊢
  exact ⟨hrm, by rw [route, call_verb, call_path, Endpoint.path, hrm,
    splitPath_join _ (fun s hs => (hplain s hs).1) hne]⟩

theorem matchTemplate_render (hwf : t.all Seg.wellFormed) (hlen : ids.length = arity t) :
    matchTemplate t (render t ids) = some ids := by
  induction t generalizing ids with
  | nil => cases ids <;> simp_all [arity, render, matchTemplate]
  | cons seg t ih =>
    simp only [List.all_cons, Bool.and_eq_true] at hwf
    cases seg with
    | lit s => simp [render, matchTemplate, ih hwf.2 hlen]
    | slot =>
      cases ids with
      | nil => simp [arity] at hlen
      | cons x ids =>
        simp [render, matchTemplate, unquote_quote x "" (by decide), ih hwf.2 (by simpa [arity] using hlen)]

theorem quoteOutput_render (hwf : t.all Seg.wellFormed) :
    ∀ s ∈ render t ids, ∀ c ∈ s.data, quoteOutput [] c = true := by
  rw [render_eq_map hwf]
  intro s hs c hc
  obtain ⟨x, -, rfl⟩ := List.mem_map.mp hs
  exact mem_quote (by decide) hc

/-- Whatever characters the identifiers hold, a wrapper's path is `/` and one segment per part of
its template, literals as written and identifiers percent-encoded: no `?` or `#` can get into it,
and decoding its segments gives the identifiers back. -/
theorem call_path_segments (e : Endpoint) (a : Args) (hlen : a.ids.length = arity e.template) :
    (∀ c ∈ (e.call a).path.data, c = '/' ∨ quoteOutput [] c = true) ∧
    '?' ∉ (e.call a).path.data ∧ '#' ∉ (e.call a).path.data ∧
    splitPath (e.call a).path = "" :: render e.template a.ids ∧
    matchTemplate e.template (render e.template a.ids) = some a.ids := by
  have hq : ∀ s ∈ render e.template a.ids, ∀ c ∈ s.data, quoteOutput [] c = true :=
    quoteOutput_render e.wf.2
  have hchars : ∀ c ∈ (e.call a).path.data, c = '/' ∨ quoteOutput [] c = true := fun c hc => by
    rw [call_path, Endpoint.path, join_data, List.mem_cons] at hc
    rcases hc with h | h
    · exact .inl h
    · rcases mem_intercalate_slash h with h | ⟨s, hs, hc⟩
      · exact .inl h
      · obtain ⟨x, hx, rfl⟩ := List.mem_map.mp hs
        exact .inr (hq x hx c hc)
  have hnot : ∀ c, c ≠ '/' → quoteOutput [] c = false → c ∉ (e.call a).path.data := fun c h1 h2 hc => by
    rcases hchars c hc with h | h <;> simp_all
  refine ⟨hchars, hnot '?' (by decide) (by decide), hnot '#' (by decide) (by decide), ?_,
    matchTemplate_render e.wf.2 hlen⟩
  · rw [call_path, Endpoint.path]
    exact splitPath_join _ (fun s hs h => absurd (hq s hs _ h) (by decide)) (render_ne_nil e.wf.1)

theorem call_path_segments_dot :
    (["."] : List String).length = arity DaoApi.getVotes.template ∧
    splitPath (DaoApi.getVotes.call { ids := ["."] }).path = ["", "api", "dao", "proposals", ".", "votes"] ∧
    matchTemplate DaoApi.getVotes.template ["api", "dao", "proposals", ".", "votes"] = some ["."] := by
  have hr : render DaoApi.getVotes.template ["."] = ["api", "dao", "proposals", ".", "votes"] := by
    decide
  have h := call_path_segments DaoApi.getVotes { ids := ["."] } rfl
  rw [hr] at h
  exact ⟨rfl, h.2.2.2⟩

theorem fill_length (t : List Seg) (ids : List String) : (fill t ids).length = t.length := by
  induction t generalizing ids with
  | nil => rfl
  | cons seg t ih => cases seg <;> cases ids <;> simp [fill, ih]

theorem mem_append_cons_cons {α : Type} {a b x : α} {l l' : List α} (h : x ∈ l ++ l') :
    x ∈ (a :: l) ++ (b :: l') :=
  List.mem_append.mpr ((List.mem_append.mp h).imp (List.mem_cons_of_mem _) (List.mem_cons_of_mem _))

theorem fill_eq_fill {t' : List Seg} {ids' : List String} (hlen : ids.length = arity t)
    (hlen' : ids'.length = arity t') (hlit : ∀ x ∈ ids ++ ids', Seg.lit x ∉ t ++ t')
    (h : fill t ids = fill t' ids') : t = t' ∧ ids = ids' := by
  induction t generalizing t' ids ids' with
  | nil =>
    obtain rfl : t' = [] := List.length_eq_zero.mp (by simpa [fill_length] using (congrArg List.length h).symm)
    exact ⟨rfl, by simp_all [arity, List.length_eq_zero]⟩
  | cons seg t ih =>
    cases t' with
    | nil => exact absurd (congrArg List.length h) (by simp [fill_length])
    | cons seg' t' =>
      cases seg with
      | lit s =>
        cases seg' with
        | lit s' =>
          simp only [fill, List.cons.injEq] at h
          obtain ⟨rfl, rfl⟩ := ih (show ids.length = arity t from hlen)
            (show ids'.length = arity t' from hlen') (fun x hx hm => hlit x hx (mem_append_cons_cons hm)) h.2
          exact ⟨by rw [h.1], rfl⟩
        | slot =>
          obtain ⟨y, ys, rfl⟩ := List.exists_cons_of_length_eq_add_one hlen'
          simp only [fill, List.cons.injEq] at h
          exact absurd (by simp [h.1]) (hlit y (by simp))
      | slot =>
        obtain ⟨x, xs, rfl⟩ := List.exists_cons_of_length_eq_add_one hlen
        cases seg' with
        | lit s' =>
          simp only [fill, List.cons.injEq] at h
          exact absurd (by simp [← h.1]) (hlit x (by simp))
        | slot =>
          obtain ⟨y, ys, rfl⟩ := List.exists_cons_of_length_eq_add_one hlen'
          simp only [fill, List.cons.injEq] at h
          obtain ⟨rfl, rfl⟩ := ih (show xs.length = arity t from Nat.succ.inj hlen)
            (show ys.length = arity t' from Nat.succ.inj hlen')
            (fun z hz hm => hlit z (mem_append_cons_cons hz) (mem_append_cons_cons hm)) h.2
          exact ⟨rfl, by rw [h.1]⟩

end Render

/-- `get_votes('.')` addresses `get_proposal('votes')`, a route its own template does not match,
and `IdentityApi.get('capabilities')` addresses the route of `list_capabilities`. -/
theorem getVotes_dot_route :
    route (DaoApi.getVotes.call { ids := ["."] })
      = route (DaoApi.getProposal.call { ids := ["votes"] }) ∧
    DaoApi.getVotes.matches (route (DaoApi.getVotes.call { ids := ["."] })) = none ∧
    DaoApi.getProposal.matches (route (DaoApi.getVotes.call { ids := ["."] })) = some ["votes"] ∧
    route (IdentityApi.get.call { ids := ["capabilities"] })
      = route (IdentityApi.listCapabilities.call { opts := [.str "did:claw:z6MkTest", .none, .none] }) := by
  have hv : route (DaoApi.getVotes.call { ids := ["."] }) = (.get, ["", "api", "dao", "proposals", "votes"]) := by
    decide
  have hp : route (DaoApi.getProposal.call { ids := ["votes"] })
      = (.get, ["", "api", "dao", "proposals", "votes"]) := by
    decide
  have hu : unquote "votes" = some "votes" := by
    have h := unquote_quote "votes" "" (by decide)
    rwa [show quote "votes" "" = "votes" by decide] at h
  refine ⟨hv.trans hp.symm, ?_, ?_, by decide⟩
  · rw [hv]
    simp [Endpoint.matches, matchTemplate, DaoApi.getVotes, hu]
  · rw [hv]
    simp [Endpoint.matches, matchTemplate, DaoApi.getProposal, hu]

theorem route_eq_iff_fill (e e' : Endpoint) (a a' : Args) (hd : ∀ x ∈ a.ids, DotFree x)
    (hd' : ∀ x ∈ a'.ids, DotFree x) :
    route (e.call a) = route (e'.call a') ↔
      e.verb = e'.verb ∧ fill e.template a.ids = fill e'.template a'.ids := by
  have hinj : Function.Injective (quote · "") := fun x y h => quote_injective (by decide) h
  rw [(route_call e a hd).2, (route_call e' a' hd').2, render_eq_map e.wf.2, render_eq_map e'.wf.2,
    Prod.mk.injEq, List.cons.injEq, (List.map_injective_iff.mpr hinj).eq_iff]
  simp

/-- On identifiers other than `.` and `..`, a wrapper's path is its own route, matched by its own
template with every slot decoding to its identifier; two calls address one route exactly when
they share the verb and the literals-and-identifiers they fill in; and when no identifier is a
literal of either template, exactly when they share the verb, the template and the identifiers. -/
theorem route_call_iff (e e' : Endpoint) (a a' : Args) (hlen : a.ids.length = arity e.template)
    (hlen' : a'.ids.length = arity e'.template) (hd : ∀ x ∈ a.ids, DotFree x)
    (hd' : ∀ x ∈ a'.ids, DotFree x) :
    removeDotSegments (e.call a).path = (e.call a).path ∧
    e.matches (route (e.call a)) = some a.ids ∧
    (route (e.call a) = route (e'.call a') ↔
      e.verb = e'.verb ∧ fill e.template a.ids = fill e'.template a'.ids) ∧
    ((∀ x ∈ a.ids ++ a'.ids, Seg.lit x ∉ e.template ++ e'.template) →
      (route (e.call a) = route (e'.call a') ↔
        e.verb = e'.verb ∧ e.template = e'.template ∧ a.ids = a'.ids)) := by
  obtain ⟨hrm, hr⟩ := route_call e a hd
  have hiff := route_eq_iff_fill e e' a a' hd hd'
  refine ⟨hrm, ?_, hiff, fun hlit => hiff.trans
    ⟨fun ⟨hv, hf⟩ => ⟨hv, fill_eq_fill hlen hlen' hlit hf⟩, ?_⟩⟩
  · simp [hr, Endpoint.matches, matchTemplate_render e.wf.2 hlen]
  · rintro ⟨hv, ht, hi⟩
    exact ⟨hv, by rw [ht, hi]⟩

theorem route_call_iff_sign :
    ["ct-1"].length = arity ContractsApi.sign.template ∧ (∀ x ∈ ["ct-1"], DotFree x) ∧
    ContractsApi.sign.matches (route (ContractsApi.sign.call { ids := ["ct-1"] })) = some ["ct-1"] :=
  have hlen : ["ct-1"].length = arity ContractsApi.sign.template := by decide
  have hd : ∀ x ∈ ["ct-1"], DotFree x := by simp [DotFree]
  ⟨hlen, hd, (route_call_iff ContractsApi.sign ContractsApi.sign { ids := ["ct-1"] }
    { ids := ["ct-1"] } hlen hlen hd hd).2.1⟩

end ClawNet.Api
