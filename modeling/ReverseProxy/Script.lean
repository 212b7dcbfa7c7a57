/-! # Scripts -/

namespace ReverseProxy.Script

/-- The first item, and the script that is left. The last item repeats. -/
def next? {α : Type} : List α → Option (α × List α)
  | [] => none
  | [last] => some (last, [last])
  | first :: rest => some (first, rest)

end ReverseProxy.Script
