import ReverseProxy.Http.Uri

/-! # URIs, taken apart and put together -/

namespace ReverseProxy.Uri

/-- What a URI is made of. Any of it may be missing. -/
structure Components where
  scheme? : Option String := none
  authority? : Option Authority := none
  target? : Option Target := none

/-- Why there is no URI. -/
inductive Misfit where
  | badAuthority
  | noScheme
  | noAuthority
  | noTarget
deriving DecidableEq, Repr

def components : Uri → Components
  | relative target => { target? := some target }
  | absolute scheme authority target => ⟨some scheme, some authority, some target⟩
  | site authority => { authority? := some authority }

/-- A scheme wants an authority and a target. An authority without a scheme wants to be alone. -/
def ofComponents : Components → Except Misfit Uri
  | ⟨some _, none, _⟩ => .error .noAuthority
  | ⟨some _, some _, none⟩ => .error .noTarget
  | ⟨none, some _, some _⟩ => .error .noScheme
  | ⟨some scheme, some authority, some target⟩ => .ok (absolute scheme authority target)
  | ⟨none, some authority, none⟩ => .ok (site authority)
  | ⟨none, none, some target⟩ => .ok (relative target)
  | ⟨none, none, none⟩ => .ok (relative ⟨"", none⟩)

/-- The URI at an address. What has no target asks for `/` there. -/
def rewrite (uri : Uri) (address : String) : Except Misfit Uri :=
  match Authority.ofText? address with
  | none => .error .badAuthority
  | some authority =>
    ofComponents {
      scheme? := some "http"
      authority? := some authority
      target? := some (uri.components.target?.getD .root) }

end ReverseProxy.Uri
