import LiveNotebooks.Proofs.Http.Exchange
import LiveNotebooks.Proofs.Json.RoundTrip
import LiveNotebooks.Proofs.Service.Contents

/-!
# Contents that are sent back

A client reads a document and sends its contents back as they are.  Whatever a converter has
written can be read, but a request has bounds that the output of a converter has not: its
body may only be so long, and its text may only open so many levels.  An embedded text has
levels of its own, so contents can open more of them than the text they were read from.

**Results.**
* `write_back_iff`: which contents can be sent back, and what becomes of the document.
* `write_back_refused`: contents of a process that cannot.
-/

namespace LiveNotebooks
namespace Hub

/-! ## What is sent back -/

/-- A request that reads a document, and one that sends its contents back as they are. -/
structure SendsBack (staticDirectory : Option Path) (n : Notebook) (get post : Http.Arrival) :
    Prop where
  reads : get.request.method = "GET"
  source : get.addressee? staticDirectory = some n.identifier
  writes : post.request.method = "POST"
  target : post.addressee? staticDirectory = some n.identifier
  body : post.request.body = n.contents.compact

section

variable {c : Configuration} {s : Hub} {identifier : String} {n : Notebook} {store : Store}
  {staticDirectory : Option Path} {get post : Http.Arrival}

/-- Contents within the bounds are read from what is sent back, and deeper ones are refused. -/
theorem contents?_compact
    {contents : Json.Value}
    (hobject : contents.isObject = true)
    (hregular : contents.IsRegular)
    (hints : contents.HoldsIntegers) :
    (contents.levels ≤ Json.maxLevels → Http.Notebooks.contents? contents.compact = .ok contents)
      ∧ (Json.maxLevels < contents.levels →
        ∃ reason, Http.Notebooks.contents? contents.compact = .error reason) := by
  obtain ⟨hfits, hdeep⟩ := Json.parse_render hregular hints .compact
  constructor
  · intro hlevels
    simp only [Http.Notebooks.contents?, Json.Value.compact, hfits hlevels, hobject, if_true]
  · intro hlevels
    obtain ⟨e, hparse, _⟩ := hdeep hlevels
    exact ⟨e.message, by simp only [Http.Notebooks.contents?, Json.Value.compact, hparse]⟩

/-- What sending contents back is answered. -/
theorem status_sendsBack
    (hn : store.find? n.identifier = some n)
    (hobject : n.contents.isObject = true)
    (hregular : n.contents.IsRegular)
    (hints : n.contents.HoldsIntegers)
    (h : SendsBack staticDirectory n get post) :
    (post.answer staticDirectory store).response.status
      = if Http.Notebooks.maxBodyLength < n.contents.compact.length then 413
        else if Json.maxLevels < n.contents.levels then 400
        else 200 := by
  have hthere : store.contains n.identifier = true := by
    rw [← Store.find?_isSome, hn]
    rfl
  obtain ⟨hfits, hdeep⟩ := contents?_compact hobject hregular hints
  rw [Http.Arrival.status_post h.writes h.target, h.body]
  split
  · rfl
  · split
    · next hlevels =>
        obtain ⟨reason, hrefused⟩ := hdeep hlevels
        simp only [Http.Notebooks.replace, hrefused]
        rfl
    · next hlevels =>
        simp only [Http.Notebooks.replace, hfits (Nat.not_lt.1 hlevels),
          Store.setContents_of_contains hthere]
        rfl

/-- A program that serves can answer every request. -/
theorem exists_step_answer
    (hserving : s.isServing = true)
    (q : Http.Arrival) :
    ∃ s', s.step? c (.answer q.files q.requestId q.moment q.request) = some s'
      ∧ s'.service.store
        = ((Archive.mk s.service.store s.service.bus).serve c.staticDirectory q).store := by
  have hstep : s.step? c (.answer q.files q.requestId q.moment q.request)
      = s.within? c (.answer q.files q.requestId q.moment q.request) :=
    if_pos hserving
  have hanswer : Http.respond (s.service.site (setup c) q.files) q.requestId q.moment q.request
      = q.answer c.staticDirectory s.service.store := rfl
  rw [hstep, within?]
  simp only [Service.step?, hanswer, Archive.serve]
  cases (q.answer c.staticDirectory s.service.store).write with
  | none => exact ⟨s, rfl, rfl⟩
  | some write => exact ⟨_, rfl, rfl⟩

/-- What becomes of the documents if contents are sent back. -/
theorem find?_serve_sendsBack
    {a : Archive}
    (hn : a.store.find? n.identifier = some n)
    (hobject : n.contents.isObject = true)
    (hregular : n.contents.IsRegular)
    (hints : n.contents.HoldsIntegers)
    (h : SendsBack staticDirectory n get post)
    (other : String) :
    (a.serve staticDirectory post).store.find? other
      = if (post.answer staticDirectory a.store).response.status = 200 ∧ other = n.identifier then
          some { n with updatedAt := post.moment }
        else a.store.find? other := by
  have haccepted : post.isAccepted staticDirectory a.store other = true
      ↔ (post.answer staticDirectory a.store).response.status = 200 ∧ other = n.identifier := by
    have hwritten : Http.isWritten (post.site staticDirectory a.store) post.requestId post.moment
        post.request = true ↔ (post.answer staticDirectory a.store).response.status = 200 := by
      simp [Http.isWritten, h.writes, Http.Arrival.answer]
    rw [Http.Arrival.isAccepted, Bool.and_eq_true, hwritten, decide_eq_true_iff, h.target,
      Option.some_inj]
    exact and_congr_right fun _ => eq_comm
  rcases Archive.entry_serve staticDirectory a post other with
    ⟨hnot, hsame⟩ | ⟨contents, hdone, hcontents, hreplaced⟩
  · rw [if_neg, hsame]
    rw [← haccepted, hnot]
    exact Bool.false_ne_true
  · obtain ⟨hstatus, rfl⟩ := haccepted.1 hdone
    have hsame : contents = n.contents := by
      obtain ⟨hfits, hdeep⟩ := contents?_compact hobject hregular hints
      rw [h.body] at hcontents
      rcases Nat.lt_or_ge Json.maxLevels n.contents.levels with hlevels | hlevels
      · obtain ⟨reason, hrefused⟩ := hdeep hlevels
        rw [hrefused] at hcontents
        cases hcontents
      · rw [hfits hlevels] at hcontents
        cases hcontents
        rfl
    rw [if_pos ⟨hstatus, rfl⟩, hreplaced, hn, hsame]
    rfl

/-- **Which contents can be sent back.**  A client reads a document of a program that serves,
with a converter process, and sends the contents back as they are.  If all their numbers are
integers, this is answered with 200 just if their text is not too long and opens no more
levels than a text may; else with 413 or 400.  With 200 the document is as it was, but for its
moment, and otherwise it is as it was; all other documents are untouched. -/
theorem write_back_iff
    {files : Files}
    {now : Nat}
    (h : Leads c (processResults c.convertRetries) (opened c files now) s)
    (hserving : s.isServing = true)
    (hn : s.service.store.find? identifier = some n)
    (hints : n.contents.HoldsIntegers)
    (hsends : SendsBack c.staticDirectory n get post) :
    let store := s.service.store
    let length := n.contents.compact.length
    let status := (post.answer c.staticDirectory store).response.status
    (get.answer c.staticDirectory store).response.status = 200
      ∧ (get.answer c.staticDirectory store).response.body = n.toJson.pretty
      ∧ (status = 200
        ↔ length ≤ Http.Notebooks.maxBodyLength ∧ n.contents.levels ≤ Json.maxLevels)
      ∧ (Http.Notebooks.maxBodyLength < length → status = 413)
      ∧ (length ≤ Http.Notebooks.maxBodyLength → Json.maxLevels < n.contents.levels →
        status = 400)
      ∧ ∃ s', s.step? c (.answer post.files post.requestId post.moment post.request) = some s'
        ∧ ∀ other, s'.service.store.find? other
          = if status = 200 ∧ other = identifier then some { n with updatedAt := post.moment }
            else store.find? other := by
  intro store length status
  have hsound := sound_of_leads (yieldsObjects_process _) (sound_opened c files now) h
  have hmem := List.mem_of_find?_eq_some hn
  have hobject := (hsound.service.documents n hmem).contents
  have hregular := isRegular_of_leads h n hmem
  obtain rfl := Store.identifier_of_find? hn
  have hget := Http.Arrival.answer_read store hsends.reads hsends.source
  simp only [store, hn] at hget
  have hstatus : status = if Http.Notebooks.maxBodyLength < length then 413
      else if Json.maxLevels < n.contents.levels then 400 else 200 :=
    status_sendsBack hn hobject hregular hints hsends
  obtain ⟨s', hstep, hafter⟩ := exists_step_answer hserving post
  refine ⟨hget.1, hget.2, ?_, fun hlong => ?_, fun hshort hdeep => ?_, s', hstep, fun other => ?_⟩
  · rw [hstatus, ← Nat.not_lt, ← Nat.not_lt]
    by_cases hlong : Http.Notebooks.maxBodyLength < length
    · simp [hlong]
    · by_cases hdeep : Json.maxLevels < n.contents.levels <;> simp [hlong, hdeep]
  · rw [hstatus, if_pos hlong]
  · rw [hstatus, if_neg (Nat.not_lt.2 hshort), if_pos hdeep]
  · rw [hafter]
    exact find?_serve_sendsBack hn hobject hregular hints hsends other

end

/-! ## Contents of a process -/

theorem visibleFiles_service_sample :
    Scan.visibleFiles Service.sample [0x2F] = .ok ([[0x2F, 0x61]], []) := by
  have hstat : Service.sample.stat [0x2F] = .ok ([], .directory) := by rfl
  have hnames : Service.sample.names [] = [[0x61]] := List.mergeSort_of_pairwise (by decide)
  simp only [Scan.visibleFiles, hstat, hnames]
  rfl

/-- The document of a file that a process has converted. -/
def converted (contents : Json.Value) : Notebook := ⟨"a", "a", "ann", contents, ⟨1, 0⟩⟩

/-- A request that reads the document. -/
def getA : Http.Arrival :=
  ⟨⟨"GET", Utf8.encode "/notebook/a", [], []⟩, Service.sample, "1", ⟨2, 0⟩⟩

/-- A request that sends contents for the document. -/
def postA (contents : Json.Value) : Http.Arrival :=
  ⟨⟨"POST", Utf8.encode "/notebook/a", [], contents.compact⟩, Service.sample, "2", ⟨3, 0⟩⟩

theorem sendsBack_converted
    (contents : Json.Value) :
    SendsBack none (converted contents) getA (postA contents) := by
  have hsource : getA.addressee? none = some "a" := by decide +kernel
  have htarget : (postA contents).addressee? none = getA.addressee? none := rfl
  exact ⟨rfl, hsource, rfl, htarget.trans hsource, rfl⟩

/-- A program that serves what a process has written. -/
theorem exists_serving
    {text : Bytes}
    {contents : Json.Value}
    (hparse : Json.parse text = .ok contents)
    (hobject : contents.isObject = true) :
    ∃ s, Leads sampleSetting (processResults 0) (opened sampleSetting Service.sample 0) s
      ∧ s.isServing = true ∧ s.service.store.find? "a" = some (converted contents) := by
  have hrun : (run? sampleSetting (opened sampleSetting Service.sample 0)
        [.take, .scanned [0x2F, 0x61] (.ok contents) ⟨1, 0⟩, .serve Service.sample]).map
      (fun s => (s.isServing, s.service.store.find? "a"))
      = some (true, some (converted contents)) := by
    simp only [opened, sampleSetting, visibleFiles_service_sample]
    rfl
  obtain ⟨s, hlast, hend⟩ := Option.map_eq_some_iff.1 hrun
  obtain ⟨hserving, hfound⟩ := Prod.mk.inj hend
  have hended : ProcessOutput.contents ⟨.code 0, text, []⟩ = .ok contents :=
    ProcessOutput.contents_eq_ok_iff.2 ⟨rfl, hparse, hobject⟩
  have hwritten : ∀ path, processResults 0 path (.ok contents) :=
    fun path =>
      ⟨fun _ => ProcessOutput.contents ⟨.code 0, text, []⟩, fun _ => .ended _,
        congrArg Retry.Ending.finished hended⟩
  refine ⟨s, leads_of_run? .refl hlast fun a ha before conversion hconversion => ?_, hserving,
    hfound⟩
  simp only [List.mem_cons, List.not_mem_nil, or_false] at ha
  rcases ha with rfl | rfl | rfl <;>
    simp only [conversion?, Option.mem_def, reduceCtorEq, Option.some.injEq] at hconversion
  subst hconversion
  exact hwritten _

def small : Json.Value :=
  .object [("b", .array [.null, .number (.integer (-7))]), ("a", .text "\n")]

theorem holdsIntegers_small :
    small.HoldsIntegers := by
  have hlist : (Json.Value.array [.null, .number (.integer (-7))]).HoldsIntegers :=
    .array (List.forall_mem_cons.2 ⟨.null,
      List.forall_mem_singleton.2 (.number ⟨by decide, by decide⟩)⟩)
  exact .object (List.forall_mem_cons.2 ⟨hlist, List.forall_mem_singleton.2 (.text _)⟩)

theorem isRegular_small :
    small.IsRegular := by
  have hlist : (Json.Value.array [.null, .number (.integer (-7))]).IsRegular :=
    .array (List.forall_mem_cons.2 ⟨.null, List.forall_mem_singleton.2 (.number _)⟩)
  exact .object (by decide) (by decide)
    (List.forall_mem_cons.2 ⟨hlist, List.forall_mem_singleton.2 (.text _)⟩)

theorem write_back_iff_small :
    ∃ s,
      Leads sampleSetting (processResults 0) (opened sampleSetting Service.sample 0) s
        ∧ s.isServing = true
        ∧ s.service.store.find? "a" = some (converted small)
        ∧ small.HoldsIntegers
        ∧ SendsBack none (converted small) getA (postA small)
        ∧ ((postA small).answer none s.service.store).response.status = 200 := by
  have hparse := (Json.parse_render isRegular_small holdsIntegers_small .compact).1 (by decide)
  obtain ⟨s, hleads, hserving, hfound⟩ := exists_serving hparse rfl
  have hsends := sendsBack_converted small
  have hback := write_back_iff hleads hserving hfound holdsIntegers_small hsends
  exact ⟨s, hleads, hserving, hfound, holdsIntegers_small, hsends,
    hback.2.2.1.2 ⟨by decide +kernel, by decide⟩⟩

/-- Contents that a process has written are refused with a status when they are sent back. -/
def IsRefused (contents : Json.Value) (status : Nat) : Prop :=
  ∃ s, Leads sampleSetting (processResults 0) (opened sampleSetting Service.sample 0) s
    ∧ s.isServing = true
    ∧ s.service.store.find? "a" = some (converted contents)
    ∧ contents.HoldsIntegers
    ∧ SendsBack none (converted contents) getA (postA contents)
    ∧ ((postA contents).answer none s.service.store).response.status = status

/-- Of what a process has written, the bounds alone decide what is refused. -/
theorem isRefused_of_parse
    {text : Bytes}
    {contents : Json.Value}
    (hparse : Json.parse text = .ok contents)
    (hobject : contents.isObject = true)
    (hints : contents.HoldsIntegers) :
    (Http.Notebooks.maxBodyLength < contents.compact.length → IsRefused contents 413)
      ∧ (contents.compact.length ≤ Http.Notebooks.maxBodyLength →
        Json.maxLevels < contents.levels → IsRefused contents 400) := by
  obtain ⟨s, hleads, hserving, hfound⟩ := exists_serving hparse hobject
  have hsends := sendsBack_converted contents
  have hstatus := status_sendsBack (n := converted contents) hfound hobject
    (Json.isRegular_of_parse hparse) hints hsends
  constructor
  · intro hlong
    exact ⟨s, hleads, hserving, hfound, hints, hsends, hstatus.trans (if_pos hlong)⟩
  · intro hshort hdeep
    exact ⟨s, hleads, hserving, hfound, hints, hsends,
      hstatus.trans ((if_neg (Nat.not_lt.2 hshort)).trans (if_pos hdeep))⟩

/-! ## Contents that are too long -/

/-- An object with one text. -/
def holding (s : String) : Json.Value := .object [("a", .text s)]

theorem parse_holding
    (s : String) :
    Json.parse (holding s).compact = .ok (holding s) ∧ (holding s).HoldsIntegers := by
  have hregular : (holding s).IsRegular :=
    .object (by simp) (by simp [Json.embeddingKey]) (List.forall_mem_singleton.2 (.text s))
  have hints : (holding s).HoldsIntegers :=
    .object (List.forall_mem_singleton.2 (.text s))
  have hlevels : (holding s).levels = 1 := rfl
  exact ⟨(Json.parse_render hregular hints .compact).1 (by rw [hlevels]; decide), hints⟩

theorem length_lt_holding
    (s : String) :
    s.toList.length < (holding s).compact.length := by
  have hchars := Json.length_le_flatMap_escape s.toList
  simp only [Json.Value.compact, Json.render_eq, holding, Json.valueBytes, Json.quotedTail,
    List.length_cons, List.length_append]
  omega

def longText : String := String.ofList (List.replicate Http.Notebooks.maxBodyLength 'x')

/-! ## Contents that are too deep -/

/-- A list in a list, and so on, with one level more than the given number. -/
def nested : Nat → Json.Value
  | 0 => .array []
  | n + 1 => .array [nested n]

def nestedText (n : Nat) : String :=
  String.ofList (List.replicate (n + 1) '[' ++ List.replicate (n + 1) ']')

/-- Nested lists are written with brackets only. -/
theorem compact_nested
    (n : Nat) :
    (nested n).compact = List.replicate (n + 1) 0x5B ++ List.replicate (n + 1) 0x5D := by
  have hbytes : ∀ n level, Json.valueBytes .compact (nested n) level
      = List.replicate (n + 1) 0x5B ++ List.replicate (n + 1) 0x5D := by
    intro n
    induction n with
    | zero => exact fun _ => rfl
    | succ n ih =>
        intro level
        rw [nested, Json.valueBytes, ih, List.replicate_succ (n := n + 1),
          List.replicate_succ' (n := n + 1) (a := (0x5D : UInt8))]
        simp [Json.itemBytes, Json.Layout.lineBytes]
  rw [Json.Value.compact, Json.render_eq, hbytes]

theorem shape_nested
    (n : Nat) :
    (nested n).levels = n + 1 ∧ (nested n).IsRegular ∧ (nested n).HoldsIntegers := by
  induction n with
  | zero => exact ⟨rfl, .array (by simp), .array (by simp)⟩
  | succ n ih =>
      obtain ⟨hlevels, hregular, hints⟩ := ih
      refine ⟨?_, .array (List.forall_mem_singleton.2 hregular),
        .array (List.forall_mem_singleton.2 hints)⟩
      simp [nested, Json.Value.levels, Json.itemLevels, hlevels]

theorem bytes_nestedText
    (n : Nat) :
    Utf8.encode (nestedText n) = (nested n).compact
      ∧ Json.quotedTail (nestedText n) = (nested n).compact ++ [0x22] := by
  simp only [Utf8.encode, Json.quotedTail, nestedText, String.toList_ofList, List.flatMap_append,
    compact_nested]
  have hopening : String.utf8EncodeChar '[' = [0x5B] ∧ Json.escape '[' = [0x5B] := by decide
  have hclosing : String.utf8EncodeChar ']' = [0x5D] ∧ Json.escape ']' = [0x5D] := by decide
  simp only [List.flatMap_replicate, hopening, hclosing, List.flatten_replicate_singleton, and_self]

/-- An object whose text opens one level more than a text may. -/
def deep : Json.Value := .object [("a", nested 126)]

/-- An embedded text brings nested lists into an object that no text of its own could hold. -/
theorem exists_parse_deep :
    ∃ text, Json.parse text = .ok deep := by
  obtain ⟨hlevels, hregular, hints⟩ := shape_nested 126
  obtain ⟨hbytes, hplain⟩ := bytes_nestedText 126
  exact ⟨_, Json.parse_embedded hregular hints (by rw [hlevels]; decide)
    (by simp [Json.embeddingKey]) hbytes hplain⟩

/-- Both bounds refuse contents that a process can write. -/
theorem write_back_refused :
    IsRefused (holding longText) 413 ∧ IsRefused deep 400 := by
  constructor
  · obtain ⟨hparse, hints⟩ := parse_holding longText
    refine (isRefused_of_parse hparse rfl hints).1 ?_
    have hlength := length_lt_holding longText
    rwa [longText, String.toList_ofList, List.length_replicate] at hlength
  · obtain ⟨text, hparse⟩ := exists_parse_deep
    have hints : deep.HoldsIntegers :=
      .object (List.forall_mem_singleton.2 (shape_nested 126).2.2)
    exact (isRefused_of_parse hparse rfl hints).2 (by decide +kernel) (by decide +kernel)

end Hub
end LiveNotebooks
