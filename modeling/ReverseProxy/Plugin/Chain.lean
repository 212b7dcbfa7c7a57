import ReverseProxy.Http.Message

/-! # Plugins around a handler -/

namespace ReverseProxy

/-- What wraps a handler. -/
abbrev Plugin (m : Type → Type) := Handler m → Handler m

namespace Plugin

variable {m : Type → Type} [Monad m]

/-- The first plugin is the outermost. -/
def compose (plugins : List (Plugin m)) (base : Handler m) : Handler m := plugins.foldr (· ·) base

/-- Logs each request with the status of its answer. -/
def accessLog (record : AccessEvent → m Unit) : Plugin m := fun next request => do
  let response ← next request
  record {
    method := request.method
    path := request.uri.path
    requestId := request.headers.requestId
    status := response.status }
  return response

def traceName : HeaderName := ⟨"x-trace", by decide⟩

/-- Writes a text behind the trace in a list of fields. -/
def extendTrace (headers : Headers) (text : String) : Headers :=
  headers.set traceName (Bytes.ofText ((headers.text? traceName).getD "" ++ text))

/-- Leaves a trace on the way in and on the way out. -/
def tag (name : String) : Plugin m := fun next request => do
  let response ← next { request with headers := extendTrace request.headers (">" ++ name) }
  return { response with headers := extendTrace response.headers ("<" ++ name) }

/-- Waits before it goes on. -/
def stall (wait : m Unit) : Plugin m := fun next request => do
  wait
  next request

/-- Answers without asking further. -/
def reply (response : Response) : Plugin m := fun _ _ => return response

end Plugin

end ReverseProxy
