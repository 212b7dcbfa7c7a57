import ReverseProxy.Plugin.Chain
import ReverseProxy.Proofs.Http.Header

/-! # What a chain of plugins does to a request -/

namespace ReverseProxy

namespace Request

def event (request : Request) (status : Nat) : AccessEvent where
  method := request.method
  path := request.uri.path
  requestId := request.headers.requestId
  status

end Request

namespace Plugin

theorem compose_keeps {m : Type → Type} {P : Handler m → Prop} {plugins : List (Plugin m)}
    (h : ∀ plugin ∈ plugins, ∀ next, P next → P (plugin next)) {base : Handler m} (hbase : P base) :
    P (compose plugins base) := by
  induction plugins with
  | nil => exact hbase
  | cons plugin plugins ih =>
    obtain ⟨hplugin, hrest⟩ := List.forall_mem_cons.mp h
    exact hplugin _ (ih hrest)

/-! ## Traces -/

/-- The trace in a list of fields: the first one, if it can be read. -/
def traceOf (headers : Headers) : Bytes :=
  ((headers.first? traceName).filter fun value => value.all Bytes.isVisible).getD []

/-- The fields with marks behind their trace. No mark, and nothing is written at all. -/
def marked (headers : Headers) (marks : List String) : Headers :=
  if marks = [] then headers else headers.set traceName (traceOf headers ++ marks.flatMap Bytes.ofText)

/-- The text can be read again once it is the value of a field. -/
def IsVisible (text : String) : Prop := (Bytes.ofText text).all Bytes.isVisible = true

instance : DecidablePred IsVisible := fun text =>
  inferInstanceAs (Decidable ((Bytes.ofText text).all Bytes.isVisible = true))

theorem IsVisible.append {first second : String} (hfirst : IsVisible first) (hsecond : IsVisible second) :
    IsVisible (first ++ second) := by
  unfold IsVisible at *
  rw [Bytes.ofText_append, List.all_append, hfirst, hsecond]
  rfl

theorem all_traceOf (headers : Headers) : (traceOf headers).all Bytes.isVisible = true := by
  unfold traceOf
  cases h : (headers.first? traceName).filter fun value => value.all Bytes.isVisible with
  | none => rfl
  | some value => exact (Option.filter_eq_some_iff.mp h).2

theorem traceOf_set {value : Bytes} (h : value.all Bytes.isVisible = true) (headers : Headers) :
    traceOf (headers.set traceName value) = value := by
  rw [traceOf, Headers.first?_set, Option.filter_some, if_pos h, Option.getD_some]

theorem ofText_text? (headers : Headers) : Bytes.ofText ((headers.text? traceName).getD "") = traceOf headers := by
  unfold traceOf Headers.text?
  cases headers.first? traceName with
  | none => rfl
  | some value =>
    have hread := Bytes.visible?_isSome value
    rw [Option.bind_some, Option.filter_some]
    cases htext : value.visible? with
    | none =>
      rw [htext, Option.isSome_none] at hread
      rw [← hread]
      rfl
    | some text =>
      rw [htext, Option.isSome_some] at hread
      rw [← hread, if_pos rfl]
      exact Bytes.ofText_of_visible? htext

theorem extendTrace_eq (headers : Headers) (mark : String) : extendTrace headers mark = marked headers [mark] := by
  rw [extendTrace, Bytes.ofText_append, ofText_text?, marked, if_neg (List.cons_ne_nil _ _), List.flatMap_singleton]

/-- To write marks and then others is to write them all at once, if the first ones can be read. -/
theorem marked_marked {marks : List String} (h : ∀ mark ∈ marks, IsVisible mark) (headers : Headers)
    (others : List String) : marked (marked headers marks) others = marked headers (marks ++ others) := by
  by_cases hmarks : marks = []
  · subst hmarks
    rfl
  by_cases hothers : others = []
  · subst hothers
    rw [List.append_nil, marked, if_pos rfl]
  have hall : (traceOf headers ++ marks.flatMap Bytes.ofText).all Bytes.isVisible = true := by
    rw [List.all_append, all_traceOf, Bool.true_and, List.all_flatMap, List.all_eq_true]
    exact h
  simp only [marked, if_neg hmarks, if_neg hothers, if_neg (List.append_ne_nil_of_left_ne_nil hmarks others)]
  rw [traceOf_set hall, Headers.set_set, List.flatMap_append, List.append_assoc]

theorem values_marked {marks : List String} (h : marks ≠ []) (headers : Headers) :
    (marked headers marks).values traceName = [traceOf headers ++ marks.flatMap Bytes.ofText] := by
  rw [marked, if_neg h, Headers.values_set]

theorem values_marked_other {name : HeaderName} (h : name ≠ traceName) (headers : Headers) (marks : List String) :
    (marked headers marks).values name = headers.values name := by
  unfold marked
  split
  · rfl
  · exact Headers.values_set_other h headers _

theorem requestId_marked (headers : Headers) (marks : List String) :
    (marked headers marks).requestId = headers.requestId := by
  rw [Headers.requestId, Headers.text?, Headers.first?, values_marked_other (by decide)]
  rfl

/-- The request as it is behind some tags. -/
def inward (tags : List String) (request : Request) : Request :=
  { request with headers := marked request.headers (tags.map (">" ++ ·)) }

/-- The response as it is in front of some tags. The innermost one leaves its mark first. -/
def outward (tags : List String) (response : Response) : Response :=
  { response with headers := marked response.headers (tags.reverse.map ("<" ++ ·)) }

theorem event_inward (tags : List String) (request : Request) : (inward tags request).event = request.event := by
  funext status
  rw [Request.event, Request.event, inward, requestId_marked]

variable {m : Type → Type}

theorem tag_eq [Monad m] (name : String) (next : Handler m) (request : Request) :
    tag name next request = do return outward [name] (← next (inward [name] request)) := by
  simp only [tag, extendTrace_eq, inward, outward, List.map_singleton, List.reverse_singleton]

theorem inward_cons {name : String} (h : IsVisible name) (tags : List String) (request : Request) :
    inward tags (inward [name] request) = inward (name :: tags) request := by
  have hmark : ∀ mark ∈ [name].map (">" ++ ·), IsVisible mark :=
    List.forall_mem_singleton.mpr (IsVisible.append (by decide) h)
  rw [inward, inward, inward, marked_marked hmark]
  rfl

theorem outward_cons {tags : List String} (h : ∀ name ∈ tags, IsVisible name) (name : String) (response : Response) :
    outward [name] (outward tags response) = outward (name :: tags) response := by
  have hmarks : ∀ mark ∈ tags.reverse.map ("<" ++ ·), IsVisible mark := by
    intro mark hmark
    obtain ⟨tag, htag, rfl⟩ := List.mem_map.mp hmark
    exact IsVisible.append (by decide) (h tag (List.mem_reverse.mp htag))
  have hreverse : (name :: tags).reverse.map ("<" ++ ·) =
      tags.reverse.map ("<" ++ ·) ++ [name].reverse.map ("<" ++ ·) := by
    rw [List.reverse_cons, List.map_append]
    rfl
  rw [outward, outward, outward, marked_marked hmarks, hreverse]

/-! ## Tags and logs in any order -/

/-- One plugin of a chain. Each log has a place of its own that it writes to. -/
inductive Layer (m : Type → Type) where
  | tag (name : String)
  | log (record : AccessEvent → m Unit)

namespace Layer

def plugin [Monad m] : Layer m → Plugin m
  | tag name => Plugin.tag name
  | log record => accessLog record

def isTag : Layer m → Bool
  | tag _ => true
  | log _ => false

end Layer

def tags : List (Layer m) → List String
  | [] => []
  | .tag name :: rest => name :: tags rest
  | .log _ :: rest => tags rest

/-- The places that the logs of a chain write to, the innermost first. -/
def logs : List (Layer m) → List (AccessEvent → m Unit)
  | [] => []
  | .tag _ :: rest => logs rest
  | .log record :: rest => logs rest ++ [record]

theorem tags_filter (layers : List (Layer m)) : tags (layers.filter Layer.isTag) = tags layers := by
  induction layers with
  | nil => rfl
  | cons layer rest ih =>
    cases layer with
    | tag name => exact congrArg (name :: ·) ih
    | log record => exact ih

theorem logs_filter (layers : List (Layer m)) : logs (layers.filter Layer.isTag) = [] := by
  induction layers with
  | nil => rfl
  | cons layer rest ih => cases layer <;> exact ih

variable [Monad m]

/-- The base is asked once. Then each log writes its event, and none of the tags shows in it. -/
theorem compose_eq [LawfulMonad m] (layers : List (Layer m)) (h : ∀ name ∈ tags layers, IsVisible name)
    (base : Handler m) (request : Request) :
    compose (layers.map Layer.plugin) base request = (do
      let response ← base (inward (tags layers) request)
      forM (logs layers) fun record => record (request.event response.status)
      return outward (tags layers) response) := by
  induction layers generalizing request with
  | nil => simp [compose, tags, logs, inward, outward, marked]
  | cons layer rest ih =>
    cases layer with
    | tag name =>
      obtain ⟨hname, hrest⟩ := List.forall_mem_cons.mp h
      calc compose ((Layer.tag name :: rest).map Layer.plugin) base request
          = do return outward [name] (← compose (rest.map Layer.plugin) base (inward [name] request)) := tag_eq ..
        _ = _ := by
          simp only [ih hrest, inward_cons hname, event_inward, bind_assoc, pure_bind, outward_cons hrest]
          rfl
    | log record =>
      calc compose ((Layer.log record :: rest).map Layer.plugin) base request
          = (do
              let response ← compose (rest.map Layer.plugin) base request
              record (request.event response.status)
              return response) := rfl
        _ = _ := by
          simp only [ih h, logs, tags, List.forM_append, List.forM_cons, List.forM_nil, bind_assoc, pure_bind]
          rfl

/-- What a chain of tags and logs does to a request and its answer. -/
structure Layered (layers : List (Layer m)) (base : Handler m) (request : Request) : Prop where
  /-- Each log writes one event of the request as it came, with the status of the base. -/
  whole : compose (layers.map Layer.plugin) base request = (do
    let response ← base (inward (tags layers) request)
    forM (logs layers) fun record => record (request.event response.status)
    return outward (tags layers) response)
  unlogged : compose ((layers.filter Layer.isTag).map Layer.plugin) base request = (do
    let response ← base (inward (tags layers) request)
    return outward (tags layers) response)
  untagged : tags layers = [] →
    inward (tags layers) request = request ∧ ∀ response, outward (tags layers) response = response
  /-- Behind the readable trace of the request, the base sees the tags in order. -/
  seen : tags layers ≠ [] → (inward (tags layers) request).headers.values traceName =
    [traceOf request.headers ++ (tags layers).flatMap fun name => Bytes.ofText (">" ++ name)]
  /-- Behind the readable trace of its response, the tags are answered in reverse order. -/
  answered : ∀ response, tags layers ≠ [] → (outward (tags layers) response).headers.values traceName =
    [traceOf response.headers ++ (tags layers).reverse.flatMap fun name => Bytes.ofText ("<" ++ name)]

/-- Chains in a row are one chain, and all plugins of a chain show in the order in which they are listed. -/
theorem compose_layered [LawfulMonad m] :
    (∀ (outer inner : List (Plugin m)) (base : Handler m),
      compose (outer ++ inner) base = compose outer (compose inner base)) ∧
    ∀ layers : List (Layer m), (∀ name ∈ tags layers, IsVisible name) → ∀ base request,
      Layered layers base request := by
  refine ⟨fun outer inner base => List.foldr_append, fun layers h base request => ?_⟩
  constructor
  case whole => exact compose_eq layers h base request
  case unlogged =>
    have hbare := compose_eq (layers.filter Layer.isTag) (by rwa [tags_filter]) base request
    simpa only [tags_filter, logs_filter, List.forM_nil, pure_bind] using hbare
  case untagged =>
    intro htags
    rw [htags]
    exact ⟨rfl, fun _ => rfl⟩
  case seen =>
    intro hne
    rw [inward, values_marked (mt List.map_eq_nil_iff.mp hne), List.flatMap_map]
  case answered =>
    intro response hne
    rw [outward, values_marked (mt List.map_eq_nil_iff.mp (mt List.reverse_eq_nil_iff.mp hne)), List.flatMap_map]

/-- What was logged, with the number of the log. -/
abbrev Diary := StateM (List (Nat × AccessEvent))

def note (number : Nat) : Layer Diary := .log fun event => modify (· ++ [(number, event)])

def numbered : List (Layer Diary) := [note 0, .tag "a", note 1, .tag "b"]

def retold : Request where
  uri := .relative ⟨"/p", none⟩
  headers := [(traceName, Bytes.ofText "in"), (.requestId, Bytes.ofText "7"), (traceName, Bytes.ofText "late")]

/-- Answers with the trace that it sees. -/
def echoing : Handler m := fun request =>
  return { status := 404, headers := request.headers.filter (·.1 = traceName) }

theorem compose_layered_numbered :
    LawfulMonad Diary ∧ (∀ name ∈ tags numbered, IsVisible name) ∧
      (compose (numbered.map Layer.plugin) echoing retold).run [] =
        ({ status := 404, headers := [(traceName, Bytes.ofText "in>a>b<b<a")] },
          [(1, ⟨"GET", "/p", "7", 404⟩), (0, ⟨"GET", "/p", "7", 404⟩)]) := by
  have hvisible : ∀ name ∈ tags numbered, IsVisible name := by decide
  refine ⟨inferInstance, hvisible, ?_⟩
  rw [(compose_layered.2 numbered hvisible echoing retold).whole]
  rfl

/-- A trace with a byte that is not visible is lost, at the base as well as behind it. -/
theorem tag_loses_trace :
    (tag "t" echoing { headers := [(traceName, [0xFF])] } : Id Response).headers.values traceName =
        [Bytes.ofText ">t<t"] ∧
      ¬[0xFF] <+: Bytes.ofText ">t<t" := by
  decide

end Plugin

end ReverseProxy
