import ReverseProxy.Gateway.Forward
import ReverseProxy.Http.Components
import ReverseProxy.Proofs.Http.Authority

/-! # URIs at another address -/

namespace ReverseProxy

/-! ## What is asked for -/

namespace Target

theorem toList_print (t : Target) :
    t.print.toList = t.path.toList ++ (t.query.map fun query => '?' :: query.toList).getD [] := by
  unfold print
  split
  next h => simp [h]
  next query h => simp [h, String.toList_append]

/-- A target keeps the text that it is read from, and its path is what stands before a question mark. -/
theorem of_ofList? {text : List Char} {t : Target} (h : ofList? text = some t) :
    t.path.toList = text.takeWhile (· ≠ '?') ∧ t.print.toList = text := by
  have hparts := List.takeWhile_append_dropWhile (p := (· ≠ '?')) (l := text)
  have hmark := List.head?_dropWhile_not (· ≠ '?') text
  rw [toList_print]
  unfold ofList? at h
  dsimp only at h
  split at h
  next => cases h
  next =>
    split at h
    next hrest =>
      cases h
      rw [hrest] at hparts
      exact ⟨String.toList_ofList, by simpa using hparts⟩
    next c query hrest =>
      split at h
      next =>
        cases h
        rw [hrest] at hparts hmark
        obtain rfl : c = '?' := by simpa using hmark
        exact ⟨String.toList_ofList, by simpa using hparts⟩
      next => cases h

end Target

namespace Uri

/-- What a written URI asks for, as it is written: the text of its path and query. -/
inductive Asks : List Char → List Char → Prop where
  | origin {text : List Char} (h : text.head? = some '/') : Asks text (Target.dropFragment text)
  | star : Asks ['*'] ['*']
  | rooted {scheme authority rest : List Char} (hscheme : ∀ c ∈ scheme, isSchemeChar c = true)
      (hauthority : ∀ c ∈ authority, endsAuthority c = false) (hrest : rest.head? = some '/') :
    Asks (scheme ++ "://".toList ++ authority ++ rest) (Target.dropFragment rest)
  /-- Behind an authority, a missing path is `/`. -/
  | rootless {scheme authority rest : List Char} (hscheme : ∀ c ∈ scheme, isSchemeChar c = true)
      (hauthority : ∀ c ∈ authority, endsAuthority c = false) (hrest : ∀ c ∈ rest.head?, c = '?' ∨ c = '#') :
    Asks (scheme ++ "://".toList ++ authority ++ rest) ('/' :: Target.dropFragment rest)
  | site {text : List Char} (h : Authority.isAuthority text = true) (hstar : text ≠ ['*']) : Asks text ['/']

theorem of_splitScheme? {text rest : List Char} {scheme : String} (h : splitScheme? text = some (scheme, rest)) :
    ∃ written, (∀ c ∈ written, isSchemeChar c = true) ∧ text = written ++ "://".toList ++ rest := by
  have hparts := List.takeWhile_append_dropWhile (p := isSchemeChar) (l := text)
  unfold splitScheme? at h
  split at h
  next rest' hrest =>
    have hsame : rest' = rest := by
      dsimp only at h
      split at h
      · cases h
      · split at h <;> cases h <;> rfl
    rw [hrest, hsame] at hparts
    exact ⟨text.takeWhile isSchemeChar, List.all_eq_true.mp List.all_takeWhile, by simpa using hparts.symm⟩
  next => cases h

theorem print_rooted_of_path {t : Target} (h : t.path = "") : (rooted t).print.toList = '/' :: t.print.toList := by
  rw [rooted, if_pos h, Target.toList_print, Target.toList_print, h]
  simp

theorem asks_of_ofAbsolute? {scheme : String} {written rest : List Char} {uri : Uri}
    (hwritten : ∀ c ∈ written, isSchemeChar c = true) (h : ofAbsolute? scheme rest = some uri) :
    Asks (written ++ "://".toList ++ rest) (uri.target?.getD .root).print.toList := by
  obtain ⟨authority, -, h⟩ := Option.bind_eq_some_iff.mp h
  obtain ⟨target, htarget, h⟩ := Option.bind_eq_some_iff.mp h
  cases h
  have hparts := List.takeWhile_append_dropWhile (p := (!endsAuthority ·)) (l := rest)
  have hbefore : ∀ c ∈ rest.takeWhile (!endsAuthority ·), endsAuthority c = false := fun c hc => by
    simpa using List.all_eq_true.mp List.all_takeWhile c hc
  have hend := List.head?_dropWhile_not (!endsAuthority ·) rest
  obtain ⟨hpath, hprint⟩ := Target.of_ofList? htarget
  rw [← hparts, ← List.append_assoc]
  generalize rest.dropWhile (!endsAuthority ·) = tail at hend hpath hprint htarget
  dsimp only [target?, Option.getD_some]
  by_cases hrooted : tail.head? = some '/'
  · obtain ⟨tail, rfl⟩ := List.head?_eq_some_iff.mp hrooted
    have hne : target.path ≠ "" := by
      intro hempty
      rw [hempty, Target.dropFragment] at hpath
      simp at hpath
    rw [rooted, if_neg hne, hprint]
    exact .rooted hwritten hbefore hrooted
  · have hrest : ∀ c ∈ tail.head?, c = '?' ∨ c = '#' := by
      intro c hc
      have hends : endsAuthority c = true := by
        rw [hc] at hend
        simpa using hend
      have hne : c ≠ '/' := fun h => hrooted (h ▸ hc)
      simpa [endsAuthority, hne] using hends
    have hempty : target.path = "" := by
      rw [← String.toList_eq_nil_iff, hpath, Target.dropFragment]
      cases tail with
      | nil => rfl
      | cons c tail => rcases hrest c rfl with rfl | rfl <;> simp
    rw [print_rooted_of_path hempty, hprint]
    exact .rootless hwritten hbefore hrest

theorem asks_of_ofText? {text : String} {uri : Uri} (h : ofText? text = some uri) :
    Asks text.toList (uri.target?.getD .root).print.toList := by
  unfold ofText? at h
  dsimp only at h
  split at h
  next => cases h
  next =>
    split at h
    next rest htext =>
      obtain ⟨target, htarget, rfl⟩ := Option.map_eq_some_iff.mp h
      rw [target?, Option.getD_some, (Target.of_ofList? htarget).2]
      exact .origin (by rw [htext]; rfl)
    next htext =>
      cases h
      rw [htext]
      exact .star
    next hstar =>
      split at h
      next scheme rest hsplit =>
        obtain ⟨written, hwritten, htext⟩ := of_splitScheme? hsplit
        rw [htext]
        exact asks_of_ofAbsolute? hwritten h
      next =>
        obtain ⟨authority, hauthority, rfl⟩ := Option.map_eq_some_iff.mp h
        have hvalid : Authority.isAuthority text.toList = true := by
          rw [← Authority.isSome_ofText?, hauthority]
          rfl
        rw [target?, Option.getD_none, show Target.root.print.toList = ['/'] by decide]
        exact .site hvalid hstar

/-! ## Another address -/

theorem components_target? (uri : Uri) : uri.components.target? = uri.target? := by
  cases uri <;> rfl

theorem rewrite_of_some {address : String} {authority : Authority}
    (h : Authority.ofText? address = some authority) (uri : Uri) :
    uri.rewrite address = .ok (uri.aimedAt authority) := by
  rw [rewrite, h, components_target?]
  rfl

theorem rewrite_of_none {address : String} (h : Authority.ofText? address = none) (uri : Uri) :
    uri.rewrite address = .error .badAuthority := by
  rw [rewrite, h]

/-- A URI moved to an address asks for the same there. -/
structure MovedTo (uri : Uri) (address : String) (moved : Uri) : Prop where
  scheme : moved.components.scheme? = some "http"
  authority : moved.authority?.map Authority.text = some address
  target : moved.target? = some (uri.target?.getD ⟨"/", none⟩)
  /-- It is written with the text that was asked for, if the URI was read from a text. -/
  print : ∀ text, ofText? text = some uri → ∃ asked, Asks text.toList asked ∧
    moved.print.toList = "http://".toList ++ address.toList ++ asked

theorem aimedAt_movedTo (uri : Uri) (authority : Authority) :
    uri.MovedTo authority.text (uri.aimedAt authority) := by
  refine ⟨rfl, rfl, rfl, ?_⟩
  intro text h
  refine ⟨_, asks_of_ofText? h, ?_⟩
  simp [aimedAt, print, String.toList_append]

/-- What it comes to when addresses are put into a URI. -/
structure Addressable (uri : Uri) : Prop where
  moved : ∀ address, Authority.isAuthority address.toList = true →
    ∃ moved, uri.rewrite address = .ok moved ∧ uri.MovedTo address moved
  refused : ∀ address, Authority.isAuthority address.toList = false → ∃ misfit, uri.rewrite address = .error misfit
  /-- Scheme and authority do not matter. -/
  blind : ∀ other : Uri, other.target?.getD .root = uri.target?.getD .root →
    ∀ address, other.rewrite address = uri.rewrite address
  /-- The last address wins. -/
  again : ∀ first, Authority.isAuthority first.toList = true →
    ∀ last, ((uri.rewrite first).bind fun moved => moved.rewrite last) = uri.rewrite last

theorem rewrite_congr {uri other : Uri} (h : other.target?.getD .root = uri.target?.getD .root) (address : String) :
    other.rewrite address = uri.rewrite address := by
  cases haddress : Authority.ofText? address with
  | none => rw [rewrite_of_none haddress, rewrite_of_none haddress]
  | some authority => rw [rewrite_of_some haddress, rewrite_of_some haddress, aimedAt, aimedAt, h]

theorem rewrite_addressable (uri : Uri) : Addressable uri := by
  have hread : ∀ address, Authority.isAuthority address.toList = true →
      ∃ authority, Authority.ofText? address = some authority ∧ authority.text = address := by
    intro address h
    obtain ⟨authority, hauthority⟩ := Option.isSome_iff_exists.mp (Authority.isSome_ofText?.mpr h)
    exact ⟨authority, hauthority, Authority.text_of_ofText? hauthority⟩
  constructor
  case moved =>
    intro address h
    obtain ⟨authority, hauthority, rfl⟩ := hread address h
    exact ⟨_, rewrite_of_some hauthority uri, aimedAt_movedTo uri authority⟩
  case refused =>
    intro address h
    have hnone : Authority.ofText? address = none := by
      rw [← Option.not_isSome_iff_eq_none, Authority.isSome_ofText?, h]
      exact Bool.false_ne_true
    exact ⟨_, rewrite_of_none hnone uri⟩
  case blind => exact fun other h => rewrite_congr h
  case again =>
    intro first h last
    obtain ⟨authority, hauthority, -⟩ := hread first h
    rw [rewrite_of_some hauthority, Except.bind]
    exact @rewrite_congr uri (uri.aimedAt authority) rfl last

/-- A URI without a path and with an empty query. -/
def pathless : Uri := absolute "http" ⟨"front.example", by decide⟩ ⟨"/", some ""⟩

theorem rewrite_addressable_pathless :
    ofText? "HTTP://front.example?#top" = some pathless ∧ ∃ first last,
      pathless.rewrite "s1:3000" = .ok first ∧ first.rewrite "[::1]:80" = .ok last ∧
        last.authority?.map Authority.text = some "[::1]:80" ∧ last.target? = some ⟨"/", some ""⟩ := by
  obtain ⟨first, hfirst, -⟩ := (rewrite_addressable pathless).moved "s1:3000" (by decide)
  obtain ⟨last, hlast, hmoved⟩ := (rewrite_addressable pathless).moved "[::1]:80" (by decide)
  have hagain := (rewrite_addressable pathless).again "s1:3000" (by decide) "[::1]:80"
  rw [hfirst, hlast] at hagain
  exact ⟨by decide, first, last, hfirst, hagain, hmoved.authority, hmoved.target⟩

example : ((relative ⟨"*", none⟩).rewrite "s1:3000").map print = .ok "http://s1:3000*" := by decide

end Uri

/-! ## The forwarder -/

/-- A request goes to the endpoint that was drawn, with its URI at the address of the endpoint, or nowhere. -/
theorem Forward.handler_rewrites (backend : Backend) (request : Request) :
    handler backend request = .draw backend fun
      | .error error => .done (.ofText 503 error.message)
      | .ok address =>
        match request.uri.rewrite address with
        | .error _ => .done (unavailable backend.name)
        | .ok uri =>
          .send { request with uri, version := .http11, headers := strip request.headers } fun
            | .ok response => .done response
            | .error failure => .done (failed backend.name failure) := by
  unfold handler
  congr 1
  funext drawn
  cases drawn with
  | error error => rfl
  | ok address =>
    cases haddress : Authority.ofText? address with
    | none => simp only [haddress, Uri.rewrite_of_none haddress]
    | some authority =>
      simp only [haddress, Uri.rewrite_of_some haddress]
      rfl

end ReverseProxy
