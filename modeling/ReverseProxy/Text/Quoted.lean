import ReverseProxy.Text.Ascii
import ReverseProxy.Text.Unprintable

/-! # Quoted text -/

namespace ReverseProxy.Quoted

open Unprintable

/-- What stands for one character between quotes. -/
def escape (c : Char) : List Char :=
  match c with
  | '\x00' => ['\\', '0']
  | '\t' => ['\\', 't']
  | '\n' => ['\\', 'n']
  | '\r' => ['\\', 'r']
  | '"' => ['\\', '"']
  | '\\' => ['\\', '\\']
  | _ => if isUnprintable c then ['\\', 'u', '\x7b'] ++ Ascii.hexDigits c.toNat ++ ['\x7d'] else [c]

/-- The text between double quotes, on one line and free of invisible characters. -/
def quote (text : String) : String := String.ofList ('"' :: (text.toList.flatMap escape ++ ['"']))

end ReverseProxy.Quoted
