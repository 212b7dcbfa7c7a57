import ReverseProxy.Config.Decode
import ReverseProxy.Config.Validate
import ReverseProxy.Json.Document
import ReverseProxy.Text.Bytes
import ReverseProxy.Toml.Document

/-! # Configurations from files -/

namespace ReverseProxy

/-- What stands under a file name. -/
inductive File where
  | absent
  | directory
  | bytes (content : Bytes)

inductive ReadFailure where
  | notFound
  | isDirectory
  | notText
deriving DecidableEq, Repr

/-- Why a file yields no configuration. -/
inductive LoadError where
  | unreadable (failure : ReadFailure)
  | unsupported (suffix : Option String)
  | document (format : Format) (error : DecodeError)
  | invalid (faults : List Fault)

def LoadError.message : LoadError → String
  | unreadable _ => "IO error"
  | unsupported none => "unsupported config file extension: None"
  | unsupported (some suffix) => "unsupported config file extension: Some(" ++ Quoted.quote suffix ++ ")"
  | document .toml error => "TOML parse error: " ++ error.message
  | document .json error => "JSON parse error: " ++ error.message
  | invalid faults => "validation failed: " ++ String.intercalate ", " (faults.map (·.message))

/-- What stands behind the last point of a file name. A name that only begins with a point has no suffix. -/
def suffix? (name : String) : Option String :=
  match Address.splitAtLast '.' name.toList with
  | none => none
  | some (before, after) =>
    if before = [] ∨ name = ".." then none else some (String.ofList after)

def Config.ofToml (text : String) : Except DecodeError Config :=
  match Toml.document? text with
  | some node => Config.ofNode .toml node
  | none => .error .malformed

/-- The whole text must be one document. What is wrong first in it is told first. -/
def Config.ofJson (text : String) : Except DecodeError Config := do
  let document := Json.Document.ofText text
  let config ← Config.ofNode .json document.root
  if document.alone then return config else throw .malformed

def File.text : File → Except LoadError String
  | absent => .error (.unreadable .notFound)
  | directory => .error (.unreadable .isDirectory)
  | bytes content =>
    match content.text? with
    | some text => .ok text
    | none => .error (.unreadable .notText)

/-- Reads the text in the format that the file name tells. -/
def Config.ofText (name text : String) : Except LoadError Config :=
  match suffix? name with
  | some "toml" => (Config.ofToml text).mapError (.document .toml)
  | some "json" => (Config.ofJson text).mapError (.document .json)
  | other => .error (.unsupported other)

/-- A configuration that keeps all rules, or the first reason why there is none. -/
def Config.load (name : String) (file : File) : Except LoadError Config := do
  let config ← Config.ofText name (← file.text)
  if config.faults.isEmpty then return config else throw (.invalid config.faults)

end ReverseProxy
