import ReverseProxy.Gateway.Forward
import ReverseProxy.Proofs.Config.Soundness
import ReverseProxy.Proofs.Url.Reading

/-! # Where a server is asked

The address of a server is read three times: when the configuration is checked, when a request goes to the
server and when the server is probed. The readers have rules of their own. Here is where they agree.
-/

namespace ReverseProxy

namespace Host

open Authority

theorem Ordinary.isAuthority {host port : List Char} {number : UInt16} (h : Ordinary host)
    (hport : Address.readPort? port = some number) : isAuthority (host ++ ':' :: port) = true := by
  have hdigit : ∀ c : Char, c.toNat < 128 → c.isDigit = true → isNameChar c = true :=
    Ascii.forall_char (by decide +kernel)
  have hportChars : ∀ c ∈ port, isNameChar c = true := by
    intro c hc
    rcases Address.readPort?_chars hport c hc with h | rfl
    · exact hdigit c (Ascii.toNat_lt_of_isDigit h) h
    · decide
  cases h with
  | @bracketed inner hinner =>
    have hgroup : ∀ c : Char, c.toNat < 128 → Ipv6.isGroupChar c = true → isNameChar c = true :=
      Ascii.forall_char (by decide +kernel)
    obtain ⟨pieces, hpieces⟩ := Option.isSome_iff_exists.mp hinner
    obtain ⟨hchars, hcolons⟩ := Ipv6.parse?_spec hpieces
    refine isAuthority_bracketed (fun c hc => ?_) hcolons hportChars
    exact (hchars c hc).imp_left fun h => hgroup c (Ipv6.toNat_lt_of_isGroupChar h) h
  | name _ hchars => exact isAuthority_name hchars hportChars

end Host

/-! ## The two who ask -/

/-- A request for a path goes to the authority, once its address was drawn, and asks for the same there. -/
def Forward.SendsTo (address : String) (authority : Authority) : Prop :=
  ∀ (backend : Backend) (request : Request) (target : Target), request.uri = .relative target →
    ∃ draw reply, Forward.handler backend request = .draw backend draw ∧
      draw (.ok address) = .send (Forward.outgoing request authority) reply ∧
      (Forward.outgoing request authority).uri = .absolute "http" authority target

theorem Forward.sendsTo_of_ofText? {address : String} {authority : Authority}
    (h : Authority.ofText? address = some authority) : Forward.SendsTo address authority := by
  intro backend request target huri
  refine ⟨_, ?reply, rfl, ?sent, ?aimed⟩
  case sent =>
    simp only [h]
    rfl
  case aimed =>
    rw [outgoing, huri]
    rfl

/-- What a checked address is good for. -/
structure Server.Usable (server : Server) (address : Address) : Prop where
  /-- The port as it is written is the one that was checked. -/
  number : Address.readPort? (Address.portOf server.address) = some address.port
  /-- Requests go to the host and the port, if the address is an authority. -/
  forwarded : ∀ authority, Authority.ofText? server.address = some authority →
    Forward.SendsTo server.address authority ∧
      authority.site.toList = Address.hostOf server.address ++ ':' :: Address.portOf server.address
  /-- Then a probe that has a URL asks the same host and the same port. -/
  met : (Authority.ofText? server.address).isSome = true → ∀ url, Url.ofServer server = .ok url →
    Host.normalize (Address.hostOf server.address) = .ok url.host ∧ url.port.getD 80 = address.port.toNat
  /-- It has one, if the host can be read and the port is written in digits only. -/
  probed : (Authority.ofText? server.address).isSome = true →
    (∃ name, Host.normalize (Address.hostOf server.address) = .ok name) →
    (Address.portOf server.address).all Char.isDigit = true → ∃ url, Url.ofServer server = .ok url
  /-- An address of an ordinary host is good for both. -/
  ordinary : Host.Ordinary (Address.hostOf server.address) → '@' ∉ server.address.toList →
    (Authority.ofText? server.address).isSome = true ∧
      ((Address.portOf server.address).all Char.isDigit = true → ∃ url, Url.ofServer server = .ok url)

theorem Server.usable_of_parse {server : Server} {address : Address}
    (h : Address.parse server.address = .ok address) : server.Usable address := by
  have hsite := Address.siteOf_eq h
  have hport := Address.readPort?_portOf h
  have hprobed : (Authority.ofText? server.address).isSome = true →
      (∃ name, Host.normalize (Address.hostOf server.address) = .ok name) →
        (Address.portOf server.address).all Char.isDigit = true → ∃ url, Url.ofServer server = .ok url :=
    fun hauthority ⟨name, hname⟩ hdigits =>
      Url.exists_ofServer (Authority.isSome_ofText?.mp hauthority) hsite hport hname hdigits
  refine ⟨hport, ?_, ?_, hprobed, ?_⟩
  · intro authority hauthority
    refine ⟨Forward.sendsTo_of_ofText? hauthority, ?_⟩
    rw [Authority.toList_site, Authority.text_of_ofText? hauthority, hsite]
  · intro hauthority url hurl
    obtain ⟨hhost, hnumber, -⟩ := Url.of_ofServer (Authority.isSome_ofText?.mp hauthority) hsite hport hurl
    exact ⟨hhost, hnumber⟩
  · intro hordinary huser
    have hauthority : (Authority.ofText? server.address).isSome = true := by
      rw [Authority.isSome_ofText?, ← Authority.siteOf_of_notMem huser, hsite]
      exact hordinary.isAuthority hport
    exact ⟨hauthority, hprobed hauthority hordinary.normalize⟩

/-- Every server of a configuration without faults can be used. -/
theorem Config.servers_usable {config : Config} (h : config.faults = []) :
    ∀ server ∈ config.servers, ∃ address, Address.parse server.address = .ok address ∧ server.Usable address := by
  intro server hmem
  obtain ⟨address, haddress⟩ := Address.exists_parse ((faults_eq_nil.mp h).servers server hmem).address
  exact ⟨address, haddress, Server.usable_of_parse haddress⟩

/-- A name and an IPv6 address, both with ports that are not written in the shortest way. -/
def namedAndNumbered : Config where
  servers := [{ name := "named", address := "Node-1.example:03000", pingUri := "ping" },
    { name := "numbered", address := "[FE80::0:1]:080" }]

theorem servers_usable_namedAndNumbered :
    namedAndNumbered.faults = [] ∧
      ∀ server ∈ namedAndNumbered.servers, ∃ address, Address.parse server.address = .ok address ∧
        (Authority.ofText? server.address).isSome = true ∧
        ∃ url, Url.ofServer server = .ok url ∧ url.port.getD 80 = address.port.toNat := by
  have hfaults : namedAndNumbered.faults = [] := by decide
  have hhosts : ∀ server ∈ namedAndNumbered.servers, Host.Ordinary (Address.hostOf server.address) := by
    intro server hmem
    simp only [namedAndNumbered, List.mem_cons, List.not_mem_nil, or_false] at hmem
    rcases hmem with rfl | rfl
    · exact .name (by decide) (List.all_eq_true.mp (by decide)) (by decide) (by decide)
    · exact @Host.Ordinary.bracketed "FE80::0:1".toList (by decide)
  have hports : ∀ server ∈ namedAndNumbered.servers,
      '@' ∉ server.address.toList ∧ (Address.portOf server.address).all Char.isDigit = true := by decide
  refine ⟨hfaults, ?_⟩
  intro server hmem
  obtain ⟨address, haddress, husable⟩ := Config.servers_usable hfaults server hmem
  obtain ⟨hauthority, hprobed⟩ := husable.ordinary (hhosts server hmem) (hports server hmem).1
  obtain ⟨url, hurl⟩ := hprobed (hports server hmem).2
  exact ⟨address, haddress, hauthority, url, hurl, (husable.met hauthority url hurl).2⟩

/-- A host with a space and a port with a sign. Both are addresses. -/
def spacedAndSigned : Config where
  servers := [{ name := "spaced", address := "my host:80" }, { name := "signed", address := "s1:+3000" }]

/-- No request goes to the first and no probe to the second. -/
theorem servers_unusable :
    spacedAndSigned.faults = [] ∧
      (∃ server ∈ spacedAndSigned.servers, Authority.ofText? server.address = none) ∧
      ∃ server ∈ spacedAndSigned.servers, ∀ url, Url.ofServer server ≠ .ok url := by
  refine ⟨by decide, ⟨_, List.mem_cons_self, by decide⟩,
    ⟨_, List.mem_cons_of_mem _ List.mem_cons_self, ?_⟩⟩
  intro url hurl
  have hparse : Address.parse "s1:+3000" = .ok ⟨"s1", 3000⟩ := by decide
  obtain ⟨-, -, hdigits⟩ :=
    Url.of_ofServer (by decide) (Address.siteOf_eq hparse) (Address.readPort?_portOf hparse) hurl
  exact absurd hdigits (by decide)

end ReverseProxy
