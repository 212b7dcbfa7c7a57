import ReverseProxy.Proofs.Balance.Address
import ReverseProxy.Proofs.Url.Colon
import ReverseProxy.Url.Basic

/-! # Addresses in URLs

A URL is read with rules of its own. Where its address is an authority, it has the host and the port that
the authority has.
-/

namespace ReverseProxy

namespace Url

open Authority

theorem splitAtLast_snd (text : List Char) : (splitAtLast '@' text).2 = siteOf text := by
  unfold splitAtLast
  split
  · rfl
  next h => exact (siteOf_of_notMem h).symm

/-! ## Hosts -/

variable {host after : List Char} {inside : Bool}

theorem splitHost_cons {c : Char} {rest : List Char} (h : ¬ (c = ':' ∧ inside = false)) :
    splitHost inside (c :: rest) =
      (c :: (splitHost (bracket inside c) rest).1, (splitHost (bracket inside c) rest).2) := by
  rw [splitHost, if_neg (by simpa using h)]
  rfl

theorem splitHost_colon (rest : List Char) : splitHost false (':' :: rest) = ([], ':' :: rest) := by
  simp [splitHost]

theorem splitHost_join (inside : Bool) (text : List Char) :
    (splitHost inside text).1 ++ (splitHost inside text).2 = text := by
  induction text generalizing inside with
  | nil => rfl
  | cons c rest ih =>
    by_cases hc : c = ':' ∧ inside = false
    · obtain ⟨rfl, rfl⟩ := hc
      rw [splitHost_colon, List.nil_append]
    · rw [splitHost_cons hc, List.cons_append, ih]

/-- A colon behind closed brackets ends the host, if no other does. -/
theorem splitHost_snd (hbracket : host.foldl bracket inside = false) (after : List Char) :
    ∃ rest, (splitHost inside (host ++ ':' :: after)).2 = ':' :: rest := by
  induction host generalizing inside with
  | nil =>
    obtain rfl : inside = false := hbracket
    exact ⟨after, by rw [List.nil_append, splitHost_colon]⟩
  | cons c rest ih =>
    rw [List.cons_append]
    by_cases hc : c = ':' ∧ inside = false
    · obtain ⟨rfl, rfl⟩ := hc
      exact ⟨rest ++ ':' :: after, by rw [splitHost_colon]⟩
    · rw [splitHost_cons hc]
      exact ih hbracket

theorem splitHost_of_notMem (hcolon : ':' ∉ host) (hbracket : host.foldl bracket inside = false) :
    splitHost inside (host ++ ':' :: after) = (host, ':' :: after) := by
  induction host generalizing inside with
  | nil =>
    obtain rfl : inside = false := hbracket
    exact splitHost_colon after
  | cons c rest ih =>
    simp only [List.mem_cons, not_or] at hcolon
    rw [List.cons_append, splitHost_cons fun h => hcolon.1 h.1.symm, ih hcolon.2 hbracket]

theorem splitHost_inside (hopen : '[' ∉ host) (hclose : ']' ∉ host) :
    splitHost true (host ++ ']' :: ':' :: after) = (host ++ [']'], ':' :: after) := by
  induction host with
  | nil =>
    rw [List.nil_append, splitHost_cons (by simp), show bracket true ']' = false from rfl, splitHost_colon]
    rfl
  | cons c rest ih =>
    simp only [List.mem_cons, not_or] at hopen hclose
    have hc : bracket true c = true := by rw [bracket, if_neg (Ne.symm hopen.1), if_neg (Ne.symm hclose.1)]
    rw [List.cons_append, splitHost_cons (by simp), hc, ih hopen.2 hclose.2]
    rfl

theorem splitHost_bracketed (hopen : '[' ∉ host) (hclose : ']' ∉ host) :
    splitHost false ('[' :: (host ++ [']']) ++ ':' :: after) = ('[' :: (host ++ [']']), ':' :: after) := by
  rw [List.cons_append, List.append_assoc, splitHost_cons (by simp), List.singleton_append,
    show bracket false '[' = true from rfl, splitHost_inside hopen hclose]

/-! ## Ports -/

theorem normalizePort_of_readPort? {text : List Char} {port : UInt16} (h : Address.readPort? text = some port)
    (hdigits : text.all Char.isDigit = true) :
    ∃ found, normalizePort (':' :: text) = .ok found ∧ found.getD 80 = port.toNat := by
  simp only [Address.readPort?, Address.dropPlus_of_digits hdigits] at h
  split at h
  next hport =>
    obtain ⟨hne, -, hsmall⟩ := hport
    cases h
    have hnumber : (UInt16.ofNat (Address.decimalValue text)).toNat = Address.decimalValue text :=
      UInt16.toNat_ofNat_of_lt' hsmall
    have hlimit : ¬ 65535 < Address.decimalValue text := by omega
    simp only [normalizePort, Address.digitsValue_eq hdigits, hdigits, hlimit, hne, hnumber]
    by_cases heighty : Address.decimalValue text = 80
    · exact ⟨none, by simp [heighty], heighty.symm⟩
    · exact ⟨some (Address.decimalValue text), by simp [heighty], rfl⟩
  next => cases h

theorem digits_of_normalizePort {text : List Char} {found : Option Nat}
    (h : normalizePort (':' :: text) = .ok found) : text.all Char.isDigit = true := by
  simp only [normalizePort] at h
  split at h
  next => cases h
  next hgood =>
    simp only [Bool.or_eq_true, not_or, Bool.not_eq_true', Bool.not_eq_false] at hgood
    exact hgood.1

/-! ## The whole text -/

theorem kept_of_isAuthority {address : List Char} (h : isAuthority address = true) :
    ∀ c ∈ address, c ∉ ['\t', '\n', '\r'] ∧ endsAuthority c = false := by
  have hall : ∀ c : Char, c.toNat < 128 → isUriChar c = true →
      c ∉ ['\t', '\n', '\r'] ∧ endsAuthority c = false := Ascii.forall_char (by decide +kernel)
  intro c hc
  rcases chars_of_isAuthority h c hc with huri | rfl
  · exact hall c (toNat_lt_of_isUriChar huri) huri
  · decide

theorem clean_append {address : List Char} (h : isAuthority address = true) (path : List Char) :
    clean (address ++ '/' :: path) = address ++ '/' :: clean path := by
  have haddress : address.filter (· ∉ ['\t', '\n', '\r']) = address := by
    rw [List.filter_eq_self]
    intro c hc
    exact decide_eq_true (kept_of_isAuthority h c hc).1
  have hend : (path.reverse ++ '/' :: address.reverse).dropWhile (·.toNat ≤ 0x20) =
      path.reverse.dropWhile (·.toNat ≤ 0x20) ++ '/' :: address.reverse := by
    rw [List.dropWhile_append]
    split
    next hnil => rw [List.isEmpty_iff.mp hnil]; rfl
    next => rfl
  rw [clean, List.reverse_append, List.reverse_cons, List.append_assoc, List.singleton_append, hend,
    List.reverse_append, List.reverse_cons, List.reverse_reverse, List.append_assoc, List.filter_append, haddress]
  rfl

/-- User, host and port are read from the authority, and all else from what follows it. -/
theorem ofText_eq {address : List Char} (h : isAuthority address = true) (path : List Char) :
    ofText (String.ofList (address ++ '/' :: path)) = do
      return withRest (normalizeUser (splitAtLast '@' address).1)
        (← Host.normalize (splitHost false (siteOf address)).1)
        (← normalizePort (splitHost false (siteOf address)).2) ('/' :: clean path) := by
  have hkept := kept_of_isAuthority h
  have hslash : (address ++ '/' :: clean path).dropWhile isSlash = address ++ '/' :: clean path := by
    obtain ⟨c, rest, rfl⟩ := List.exists_cons_of_ne_nil (isAuthority_iff.mp h).1
    have hc := (hkept c List.mem_cons_self).2
    simp only [endsAuthority, Bool.or_eq_false_iff] at hc
    rw [List.cons_append, List.dropWhile_cons_of_neg (by simp [hc.1.1])]
  have hall : ∀ c ∈ address, (!endsAuthority c) = true := by
    intro c hc
    rw [(hkept c hc).2, Bool.not_false]
  have hstop : (!endsAuthority '/') = false := rfl
  have htake : (address ++ '/' :: clean path).takeWhile (!endsAuthority ·) = address := by
    rw [List.takeWhile_append_of_pos hall, List.takeWhile_cons_of_neg (by simp [hstop]), List.append_nil]
  have hdrop : (address ++ '/' :: clean path).dropWhile (!endsAuthority ·) = '/' :: clean path := by
    rw [List.dropWhile_append_of_pos hall, List.dropWhile_cons_of_neg (by simp [hstop])]
  unfold ofText
  simp only [String.toList_ofList, clean_append h, hslash, htake, hdrop, splitAtLast_snd]

theorem exists_path (server : Server) : ∃ path,
    (server.address ++ if server.pingUri.startsWith "/" then server.pingUri else "/" ++ server.pingUri) =
      String.ofList (server.address.toList ++ '/' :: path) := by
  split
  next h =>
    obtain ⟨path, hpath⟩ := String.startsWith_string_iff.mp h
    exact ⟨path, String.toList_inj.mp (by simp [← hpath])⟩
  next => exact ⟨server.pingUri.toList, String.toList_inj.mp (by simp)⟩

/-! ## The host and the port -/

section

variable {server : Server} {port : List Char} {number : UInt16}
  (hauthority : isAuthority server.address.toList = true)
  (hsite : siteOf server.address.toList = host ++ ':' :: port)
  (hport : Address.readPort? port = some number)

include hauthority hsite hport

theorem host_closed : host.foldl bracket false = false := by
  obtain ⟨user, huser⟩ := exists_user server.address.toList
  rw [huser, hsite] at hauthority
  have hclosed := brackets_closed_of_append hauthority
  have hopen : '[' ∉ ':' :: port := by simpa using Address.notMem_of_readPort? hport rfl (by decide)
  have hclose : ']' ∉ ':' :: port := by simpa using Address.notMem_of_readPort? hport rfl (by decide)
  rwa [List.foldl_append, foldl_bracket_of_notMem hopen hclose] at hclosed

/-- A URL that can be fetched leads to the host and the port of the authority. -/
theorem of_ofServer {url : Url} (h : ofServer server = .ok url) :
    Host.normalize host = .ok url.host ∧ url.port.getD 80 = number.toNat ∧ port.all Char.isDigit = true := by
  obtain ⟨path, hpath⟩ := exists_path server
  rw [ofServer, hpath, ofText_eq hauthority, hsite] at h
  obtain ⟨name, hname, h⟩ := bind_eq_ok.mp h
  obtain ⟨found, hfound, h⟩ := bind_eq_ok.mp h
  cases h
  obtain ⟨rest, hrest⟩ := splitHost_snd (host_closed hauthority hsite hport) port
  have hjoin := splitHost_join false (host ++ ':' :: port)
  rw [hrest] at hfound hjoin
  have hdigits := digits_of_normalizePort hfound
  have hcolon : ':' ∉ rest := fun hmem => by simpa using List.all_eq_true.mp hdigits _ hmem
  -- The URL is cut at the first colon outside brackets and the address at the last. Only digits follow the
  -- first one, so they are the same.
  have hlast := Address.splitAtLast_append hcolon (splitHost false (host ++ ':' :: port)).1
  rw [hjoin, Address.splitAtLast_append (Address.notMem_of_readPort? hport rfl (by decide))] at hlast
  obtain ⟨hhost, rfl⟩ := Prod.mk.inj (Option.some.inj hlast)
  obtain ⟨same, hsame, hnumber⟩ := normalizePort_of_readPort? hport hdigits
  obtain rfl : same = found := Except.ok.inj (hsame.symm.trans hfound)
  exact ⟨hhost ▸ hname, hnumber, hdigits⟩

/-- A host that can be read, and a port of digits, make a URL. -/
theorem exists_ofServer {name : List Char} (hhost : Host.normalize host = .ok name)
    (hdigits : port.all Char.isDigit = true) : ∃ url, ofServer server = .ok url := by
  have hsplit : splitHost false (host ++ ':' :: port) = (host, ':' :: port) := by
    by_cases hmem : ':' ∈ host
    · -- A host with colons that can be read stands in brackets, and there they are passed over.
      obtain ⟨rest, rfl⟩ := List.head?_eq_some_iff.mp (Host.head_of_colon hhost hmem)
      obtain ⟨inner, pieces, rfl, hpieces⟩ := Host.of_ofBracketed hhost
      obtain ⟨hchars, -⟩ := Ipv6.parse?_spec hpieces
      exact splitHost_bracketed (fun h => absurd (hchars _ h) (by decide)) (fun h => absurd (hchars _ h) (by decide))
    · exact splitHost_of_notMem hmem (host_closed hauthority hsite hport)
  obtain ⟨path, hpath⟩ := exists_path server
  obtain ⟨found, hfound, -⟩ := normalizePort_of_readPort? hport hdigits
  rw [ofServer, hpath, ofText_eq hauthority, hsite, hsplit, hhost, hfound]
  exact ⟨_, rfl⟩

end

end Url

end ReverseProxy
