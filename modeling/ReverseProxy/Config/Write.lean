import ReverseProxy.Config.Encode
import ReverseProxy.Toml.Write

/-! # The texts that write a configuration -/

namespace ReverseProxy

/-- One line with every field. Options that are not set are `null`. -/
def Config.toJson (c : Config) : String := Json.write c.toNode

/-- A line or a header for every field. Options that are not set are left out. -/
def Config.toToml (c : Config) : String := Toml.write (Toml.present c.toNode)

end ReverseProxy
