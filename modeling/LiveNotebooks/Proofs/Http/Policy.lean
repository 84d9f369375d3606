import LiveNotebooks.Http.RequestId
import LiveNotebooks.Proofs.Http.Exchange

/-!
# What every response carries

Whatever a request is, and whoever answers it, the response carries the headers of the policy and
the identifier of the request.  They are put in place behind the handlers and the static files, so
nothing that was set there under one of their names is left.  A request for the options of a target
is answered in front of the handlers.

**Results.**
* `values_applyPolicy`: the headers of a response under the policy.
* `hasDistinctNames_respond`: no response has two headers of one name.
* `respond_under_policy`: what holds of every response.
-/

namespace LiveNotebooks
namespace Http

/-! ## Values of a header -/

namespace Headers

def values (headers : Headers) (name : String) : List String :=
  (headers.filter fun h => h.1 = name).map Prod.snd

@[simp] theorem values_set_self
    (headers : Headers)
    (name value : String) :
    (set headers name value).values name = [value] := by
  have hnone : (headers.filter fun h => h.1 ≠ name).filter (fun h => h.1 = name) = [] := by
    simp [List.filter_filter]
  simp only [values, set, List.filter_cons_of_pos, decide_true, hnone, List.map_cons, List.map_nil]

theorem values_set_of_ne
    {name other : String}
    (h : other ≠ name)
    (headers : Headers)
    (value : String) :
    (set headers name value).values other = headers.values other := by
  have hkept : ∀ x : String × String,
      (decide (x.1 = other) && decide (x.1 ≠ name)) = decide (x.1 = other) := by
    intro x
    by_cases hx : x.1 = other <;> simp [hx, h]
  simp only [values, set, decide_eq_true_eq, Ne.symm h, not_false_eq_true,
    List.filter_cons_of_neg, List.filter_filter, hkept]

/-- A header that is set takes the place of all that had its name. -/
theorem nodup_names_set
    {headers : Headers}
    (h : (headers.map Prod.fst).Nodup)
    (name value : String) :
    ((set headers name value).map Prod.fst).Nodup := by
  rw [set, List.map_cons, List.nodup_cons]
  refine ⟨?_, h.sublist (List.filter_sublist.map _)⟩
  simp

end Headers

theorem values_withHeaders_of_not_mem
    {headers : Headers}
    {name : String}
    (h : name ∉ headers.map Prod.fst)
    (r : Response) :
    (r.withHeaders headers).headers.values name = r.headers.values name := by
  induction headers generalizing r with
  | nil => rfl
  | cons x rest ih =>
      rw [List.map_cons, List.mem_cons, not_or] at h
      exact (ih h.2 (r.withHeader x.1 x.2)).trans (Headers.values_set_of_ne h.1 _ _)

/-- Of headers with different names each one is there once. -/
theorem values_withHeaders_of_mem
    {headers : Headers}
    (hdistinct : (headers.map Prod.fst).Nodup)
    {h : String × String}
    (hmem : h ∈ headers)
    (r : Response) :
    (r.withHeaders headers).headers.values h.1 = [h.2] := by
  induction headers generalizing r with
  | nil => cases hmem
  | cons x rest ih =>
      rw [List.map_cons, List.nodup_cons] at hdistinct
      rcases List.mem_cons.1 hmem with rfl | hmem
      · exact (values_withHeaders_of_not_mem hdistinct.1 _).trans (Headers.values_set_self _ _ _)
      · exact ih hdistinct.2 hmem (r.withHeader x.1 x.2)

/-! ## The policy -/

/-- The header with the identifier of the request. -/
def requestIdName : String := "x-request-id"

theorem distinct_policy :
    (policy.map Prod.fst).Nodup ∧ requestIdName ∉ policy.map Prod.fst := by
  decide

/-- Under the policy a response has each header of it once, the identifier of the request once, and
all others as they were. -/
theorem values_applyPolicy
    (requestId : String)
    (r : Response) :
    (∀ h ∈ policy, (applyPolicy requestId r).headers.values h.1 = [h.2])
      ∧ (applyPolicy requestId r).headers.values requestIdName = [requestId]
      ∧ ∀ name, name ∉ policy.map Prod.fst → name ≠ requestIdName →
        (applyPolicy requestId r).headers.values name = r.headers.values name := by
  obtain ⟨hdistinct, hnew⟩ := distinct_policy
  refine ⟨fun h hmem => ?_, Headers.values_set_self _ _ _, fun name hname hne => ?_⟩
  · have hne : h.1 ≠ requestIdName := fun he => hnew (he ▸ List.mem_map_of_mem hmem)
    exact (Headers.values_set_of_ne hne _ _).trans (values_withHeaders_of_mem hdistinct hmem r)
  · exact (Headers.values_set_of_ne hne _ _).trans (values_withHeaders_of_not_mem hname r)

/-! ## Names of headers -/

/-- No two headers of the response have the same name. -/
def Response.HasDistinctNames (r : Response) : Prop := (r.headers.map Prod.fst).Nodup

section

variable {r : Response}

theorem hasDistinctNames_bare
    (status : Nat) :
    (Response.bare status).HasDistinctNames :=
  List.nodup_nil

theorem Response.HasDistinctNames.withHeader
    (h : r.HasDistinctNames)
    (name value : String) :
    (r.withHeader name value).HasDistinctNames :=
  Headers.nodup_names_set h name value

theorem Response.HasDistinctNames.withHeaders
    (h : r.HasDistinctNames)
    (headers : Headers) :
    (r.withHeaders headers).HasDistinctNames := by
  induction headers generalizing r with
  | nil => exact h
  | cons x rest ih => exact ih (h.withHeader x.1 x.2)

end

section

variable (r : Request)

/-- Each answer with a file has headers of its own behind the ones of all files. -/
theorem hasDistinctNames_contentsResponse
    (path : Path)
    (content : Bytes)
    (changedAt : Int) :
    (StaticFiles.contentsResponse r path content changedAt).HasDistinctNames := by
  unfold StaticFiles.contentsResponse Response.HasDistinctNames StaticFiles.fileHeaders
  simp only
  split
  · simp
  · split <;> simp

theorem hasDistinctNames_failure
    (e : FileError) :
    (StaticFiles.failure e).HasDistinctNames := by
  unfold StaticFiles.failure
  split
  · split <;> exact hasDistinctNames_bare _
  · exact hasDistinctNames_bare _

/-- No header of an answer with a file is there twice. -/
theorem hasDistinctNames_file
    (files : Files)
    (path : Path) :
    (StaticFiles.file files r path).HasDistinctNames := by
  unfold StaticFiles.file
  split
  · exact hasDistinctNames_failure _
  · split
    · next hcondition =>
        unfold StaticFiles.condition? at hcondition
        split at hcondition
        · cases hcondition
          exact hasDistinctNames_bare _
        · split at hcondition
          · cases hcondition
            exact hasDistinctNames_bare _
          · cases hcondition
    · split
      · exact hasDistinctNames_failure _
      · exact hasDistinctNames_contentsResponse r _ _ _

/-- No header of an answer from a directory is there twice. -/
theorem hasDistinctNames_serve
    (files : Files)
    (directory : Path)
    (target : Target) :
    (StaticFiles.serve files directory r target).HasDistinctNames := by
  unfold StaticFiles.serve
  split
  · exact (hasDistinctNames_bare _).withHeader _ _
  · split
    · exact hasDistinctNames_bare _
    · split
      · unfold StaticFiles.impossible
        split <;> exact hasDistinctNames_bare _
      · split
        · split
          · exact hasDistinctNames_file r _ _
          · exact (hasDistinctNames_bare _).withHeader _ _
        · exact hasDistinctNames_file r _ _

end

theorem hasDistinctNames_json
    (status : Nat)
    (v : Json.Value) :
    (Notebooks.json status v).HasDistinctNames := by
  simp [Notebooks.json, Response.HasDistinctNames]

theorem hasDistinctNames_text
    (status : Nat)
    (s : String) :
    (Notebooks.text status s).HasDistinctNames := by
  simp [Notebooks.text, Response.HasDistinctNames]

theorem hasDistinctNames_methodNotAllowed
    (methods : String) :
    (methodNotAllowed methods).HasDistinctNames :=
  (hasDistinctNames_bare _).withHeader _ _

theorem hasDistinctNames_read
    (store : Store)
    (identifier : String) :
    (Notebooks.read store identifier).HasDistinctNames := by
  unfold Notebooks.read
  split <;> exact hasDistinctNames_json _ _

theorem hasDistinctNames_replace
    (store : Store)
    (identifier : String)
    (body : Bytes)
    (now : Instant) :
    (Notebooks.replace store identifier body now).response.HasDistinctNames := by
  unfold Notebooks.replace
  split
  · exact hasDistinctNames_json _ _
  · split <;> exact hasDistinctNames_json _ _

theorem hasDistinctNames_withIdentifier
    {handler : String → Notebooks.Answer}
    (h : ∀ identifier, (handler identifier).response.HasDistinctNames)
    (part : Bytes) :
    (withIdentifier part handler).response.HasDistinctNames := by
  unfold withIdentifier
  split
  · exact h _
  · exact hasDistinctNames_text _ _

/-- No header of an answer is there twice, whatever the route. -/
theorem hasDistinctNames_handle
    (site : Site)
    (r : Request)
    (now : Instant)
    (route : Route) :
    (handle site r now route).response.HasDistinctNames := by
  cases route with
  | notebooks =>
      simp only [handle, Notebooks.Answer.plain]
      split
      · exact hasDistinctNames_json _ _
      · exact hasDistinctNames_methodNotAllowed _
  | health =>
      simp only [handle, Notebooks.Answer.plain]
      split
      · exact hasDistinctNames_text _ _
      · exact hasDistinctNames_methodNotAllowed _
  | notebook part =>
      simp only [handle]
      split
      · exact hasDistinctNames_withIdentifier (fun _ => hasDistinctNames_read _ _) part
      · split
        · refine hasDistinctNames_withIdentifier (fun identifier => ?_) part
          split
          · exact hasDistinctNames_text _ _
          · exact hasDistinctNames_replace _ _ _ _
        · exact hasDistinctNames_methodNotAllowed _
  | static target =>
      simp only [handle]
      split
      · exact hasDistinctNames_serve r _ _ _
      · exact hasDistinctNames_bare _
  | pathless => exact hasDistinctNames_bare _
  | unknown => exact hasDistinctNames_bare _

/-- The headers that tell what may be requested. -/
def permissions : Headers :=
  [("access-control-allow-methods", "GET, POST, OPTIONS"), ("access-control-allow-headers", "*")]

theorem hasDistinctNames_preflight
    (route : Route) :
    (preflight route).HasDistinctNames := by
  have hplain := (hasDistinctNames_bare 204).withHeaders permissions
  unfold preflight
  simp only
  split
  · exact hplain.withHeader _ _
  · exact hplain

theorem hasDistinctNames_finishBody
    {response : Response}
    (h : response.HasDistinctNames)
    (r : Request)
    (route : Route) :
    (finishBody r route response).HasDistinctNames := by
  unfold finishBody
  split
  · simp only
    split <;> exact h.withHeader _ _
  · exact h

/-- No response has two headers of one name, whoever has made it. -/
theorem hasDistinctNames_respond
    (site : Site)
    (requestId : String)
    (now : Instant)
    (r : Request) :
    (respond site requestId now r).response.HasDistinctNames := by
  refine ((hasDistinctNames_finishBody ?_ r _).withHeaders policy).withHeader _ _
  split
  · exact hasDistinctNames_preflight _
  · exact hasDistinctNames_handle _ _ _ _

/-! ## Identifiers of requests -/

namespace RequestId

/-- The text may be the value of a header: all its characters are visible. -/
def IsVisible (s : String) : Prop := ∀ c ∈ s.toList, 0x21 ≤ c.toNat ∧ c.toNat ≤ 0x7E

theorem isVisible_of_all
    {s : String}
    (h : s.toList.all (fun c => 0x21 ≤ c.toNat && c.toNat ≤ 0x7E) = true) :
    IsVisible s := by
  intro c hc
  simpa using List.all_eq_true.1 h c hc

theorem IsVisible.append
    {s t : String}
    (hs : IsVisible s)
    (ht : IsVisible t) :
    IsVisible (s ++ t) := by
  intro c hc
  rw [String.toList_append, List.mem_append] at hc
  exact hc.elim (hs c) (ht c)

/-- Hexadecimal digits are visible characters of ASCII. -/
theorem visible_of_mem_fixed
    {width n : Nat}
    {acc : List Char}
    (hacc : ∀ c ∈ acc, 0x21 ≤ c.toNat ∧ c.toNat ≤ 0x7E) :
    ∀ c ∈ Digits.fixed 16 width n acc, 0x21 ≤ c.toNat ∧ c.toNat ≤ 0x7E := by
  have hdigit : ∀ d < 16, 0x21 ≤ (Nat.digitChar d).toNat ∧ (Nat.digitChar d).toNat ≤ 0x7E := by
    decide
  induction width generalizing n acc with
  | zero => exact hacc
  | succ width ih =>
      refine ih fun c hc => ?_
      rcases List.mem_cons.1 hc with rfl | hc
      · exact hdigit _ (Nat.mod_lt _ (by decide))
      · exact hacc c hc

theorem isVisible_group
    (width low bits : Nat) :
    IsVisible (group width low bits) := by
  intro c hc
  rw [group, Digits.hex, String.toList_ofList] at hc
  exact visible_of_mem_fixed (by simp) c hc

theorem isVisible_layoutDigit
    (bits : Nat) :
    IsVisible (layoutDigit bits) := by
  unfold layoutDigit
  split <;> exact isVisible_of_all rfl

/-- An identifier of a request may be the value of a header, so it is never left out. -/
theorem isVisible_ofRandom
    (bits : Nat) :
    IsVisible (ofRandom bits) := by
  have hdash : IsVisible "-" := isVisible_of_all rfl
  have hrandom : IsVisible "-4" := isVisible_of_all rfl
  exact ((((((((isVisible_group _ _ _).append hdash).append (isVisible_group _ _ _)).append
    hrandom).append (isVisible_group _ _ _)).append hdash).append
    (isVisible_layoutDigit _)).append (isVisible_group _ _ _) |>.append hdash).append
    (isVisible_group _ _ _)

end RequestId

/-! ## Requests for options -/

/-- An answer that lists methods and headers, and for which nothing was done. -/
structure IsPreflight (answer : Notebooks.Answer) : Prop where
  status : answer.response.status = 204
  methods : answer.response.headers.values "access-control-allow-methods" = ["GET, POST, OPTIONS"]
  headers : answer.response.headers.values "access-control-allow-headers" = ["*"]
  body : answer.response.body = []
  write : answer.write = none
  log : answer.log = []

/-- Each permission stands once in the answer to a preflight. -/
theorem values_preflight
    (route : Route)
    {h : String × String}
    (hmem : h ∈ permissions) :
    (preflight route).headers.values h.1 = [h.2] := by
  have hset := values_withHeaders_of_mem (by decide) hmem (Response.bare 204)
  have hnew : "allow" ∉ permissions.map Prod.fst := by decide
  have hne : h.1 ≠ "allow" := fun he => hnew (he ▸ List.mem_map_of_mem hmem)
  unfold preflight
  simp only
  split
  · exact (Headers.values_set_of_ne hne _ _).trans hset
  · exact hset

theorem values_finishBody
    {name : String}
    (hname : name ≠ "content-length")
    (r : Request)
    (route : Route)
    (response : Response) :
    (finishBody r route response).headers.values name = response.headers.values name := by
  unfold finishBody
  split
  · simp only
    split <;> exact Headers.values_set_of_ne hname _ _
  · rfl

/-- Of two routes with the same methods and lengths the options are the same. -/
theorem finishBody_preflight_eq
    {route route' : Route}
    (hmethods : route.methods? = route'.methods?)
    (hlength : route.statesLength = route'.statesLength)
    (r : Request) :
    finishBody r route (preflight route) = finishBody r route' (preflight route') := by
  simp only [finishBody, preflight, hmethods, hlength]

/-- Whether there are static files makes no difference for the options of a target. -/
theorem ofTarget_alike
    (hasStatic hasStatic' : Bool)
    (target : Target) :
    (Route.ofTarget hasStatic target).methods? = (Route.ofTarget hasStatic' target).methods?
      ∧ (Route.ofTarget hasStatic target).statesLength
        = (Route.ofTarget hasStatic' target).statesLength := by
  unfold Route.ofTarget
  split
  · exact ⟨rfl, rfl⟩
  · split
    · exact ⟨rfl, rfl⟩
    · split
      · exact ⟨rfl, rfl⟩
      · split
        · exact ⟨rfl, rfl⟩
        · generalize (if hasStatic then _ else none) = below
          generalize (if hasStatic' then _ else none) = below'
          cases below <;> cases below' <;> exact ⟨rfl, rfl⟩

/-- The answer about the options of a target. -/
theorem respond_options
    {r : Request}
    (hoptions : r.method = "OPTIONS")
    (site : Site)
    (requestId : String)
    (now : Instant)
    (hasStatic : Bool) :
    respond site requestId now r
      = .plain (applyPolicy requestId (finishBody r
        (Route.ofTarget hasStatic (Target.parse r.target))
        (preflight (Route.ofTarget hasStatic (Target.parse r.target))))) := by
  obtain ⟨hmethods, hlength⟩ := ofTarget_alike hasStatic site.staticDirectory.isSome
    (Target.parse r.target)
  rw [finishBody_preflight_eq hmethods hlength]
  simp only [respond, hoptions, if_true]
  rfl

/-- Every request with the method `OPTIONS` is answered as a preflight. -/
theorem isPreflight_respond
    {r : Request}
    (hoptions : r.method = "OPTIONS")
    (site : Site)
    (requestId : String)
    (now : Instant) :
    IsPreflight (respond site requestId now r) := by
  have hothers : ∀ h ∈ permissions, h.1 ∉ policy.map Prod.fst ∧ h.1 ≠ requestIdName
      ∧ h.1 ≠ "content-length" := by
    decide
  rw [respond_options hoptions site requestId now false]
  generalize Route.ofTarget false (Target.parse r.target) = route
  have hvalues : ∀ h ∈ permissions,
      (applyPolicy requestId (finishBody r route (preflight route))).headers.values h.1
        = [h.2] := by
    intro h hmem
    obtain ⟨hpolicy, hrequestId, hlength⟩ := hothers h hmem
    rw [(values_applyPolicy _ _).2.2 _ hpolicy hrequestId, values_finishBody hlength,
      values_preflight route hmem]
  have hplain : (preflight route).status = 204 ∧ (preflight route).body = [] := by
    unfold preflight
    simp only
    split <;> exact ⟨rfl, rfl⟩
  have hbody : (applyPolicy requestId (finishBody r route (preflight route))).body = [] := by
    have hkept := body_withHeaders (finishBody r route (preflight route)) policy
    rw [body_finishBody (by simp [hoptions]), hplain.2] at hkept
    exact hkept
  exact ⟨by simpa [Notebooks.Answer.plain] using hplain.1, hvalues _ List.mem_cons_self,
    hvalues _ (List.mem_cons_of_mem _ List.mem_cons_self), hbody, rfl, rfl⟩

/-- **What every response carries.**  Whatever the documents, the static files and the request are,
the response has each of the seven headers of the policy once, with its value, and once the
identifier that was made for the request, which may be the value of a header; no two of its headers
have the same name.  If the method is `OPTIONS`, the answer is 204 with the methods and the headers
that are allowed, nothing is written or logged, and documents, static files, moment, headers and
body do not count for it. -/
theorem respond_under_policy
    (site : Site)
    (bits : Nat)
    (now : Instant)
    (r : Request) :
    let answer := respond site (RequestId.ofRandom bits) now r
    policy.length = 7 ∧ (policy.map Prod.fst).Nodup
      ∧ (∀ h ∈ policy, answer.response.headers.values h.1 = [h.2])
      ∧ RequestId.IsVisible (RequestId.ofRandom bits)
      ∧ answer.response.headers.values "x-request-id" = [RequestId.ofRandom bits]
      ∧ answer.response.HasDistinctNames
      ∧ (r.method = "OPTIONS" → IsPreflight answer
        ∧ ∀ (other : Site) (moment : Instant) (q : Request),
          q.method = "OPTIONS" → q.target = r.target →
            respond other (RequestId.ofRandom bits) moment q = answer) := by
  intro answer
  obtain ⟨hpolicy, hrequestId, _⟩ := values_applyPolicy (RequestId.ofRandom bits)
    (finishBody r (Route.ofTarget site.staticDirectory.isSome (Target.parse r.target))
      (if r.method = "OPTIONS" then
        Notebooks.Answer.plain
          (preflight (Route.ofTarget site.staticDirectory.isSome (Target.parse r.target)))
      else handle site r now
        (Route.ofTarget site.staticDirectory.isSome (Target.parse r.target))).response)
  refine ⟨rfl, distinct_policy.1, hpolicy, RequestId.isVisible_ofRandom bits, hrequestId,
    hasDistinctNames_respond _ _ _ _, fun hoptions => ⟨isPreflight_respond hoptions _ _ _, ?_⟩⟩
  intro other moment q hq htarget
  rw [respond_options hq other _ moment false, htarget]
  simp only [answer, respond_options hoptions site _ now false, finishBody, hoptions, hq]

end Http
end LiveNotebooks
