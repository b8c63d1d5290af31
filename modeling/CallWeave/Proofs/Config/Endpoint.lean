import CallWeave.Proofs.Config.Saving
import CallWeave.Proofs.Url.Authority
import CallWeave.Transport.JsonRpc

/-!
# Endpoints of configurations

The endpoint of a configuration is looked at twice: a configuration is accepted for what its endpoint begins with,
and a transport reads the whole of it. Whatever is accepted has a scheme that is spoken, so the transport refuses it
for its host or its port alone (`Config.endpoint_refused_iff`), and there are such: `Config.hostless`.
-/

namespace CallWeave

variable {config : Config} {url : String} {host : List Char} {port : Option (List Char)}

/-- What a configuration is accepted for. -/
theorem Config.exists_scheme (accepted : config.problem? = none) :
    ∃ scheme rest, Url.IsSpoken scheme ∧ Text.trim config.network.rpcUrl = scheme ++ "://" ++ rest := by
  obtain ⟨rest, isHttp | isHttps⟩ := (problem?_eq_none_iff.mp accepted).scheme
  · exact ⟨"http", rest, .inl rfl, isHttp⟩
  · exact ⟨"https", rest, .inr rfl, isHttps⟩

/-- With a spoken scheme, an endpoint is what its host and its port are read as. -/
theorem JsonRpc.endpoint_eq (hosts : Url.HostParser) {scheme rest : String} (spoken : Url.IsSpoken scheme)
    (written : Text.trim url = scheme ++ "://" ++ rest) :
    endpoint hosts url =
      (Url.parseSpecial hosts scheme (Url.tidy rest.toList)).mapError fun e => .invalidUrl url e.message := by
  obtain ⟨host, port, addresses, -⟩ := Url.exists_addresses (Url.authority rest.toList)
  rw [endpoint, written, Url.parse_of_isSpoken hosts spoken]
  cases read : Url.parseSpecial hosts scheme (Url.tidy rest.toList) with
  | error e => rfl
  | ok parsed =>
    have same := (Url.host_of_parseSpecial addresses read).1
    exact if_pos (same ▸ spoken)

/-- An accepted configuration has a spoken scheme, behind which its endpoint names a host and maybe a port, in one way
only. Whatever parser reads the host, no transport stands behind it exactly if these are refused, which is then the
reason that is given; and it is never the scheme, if the parser of hosts does not ask for one. Any other transport has
that scheme and that host. -/
theorem Config.endpoint_refused_iff (hosts : Url.HostParser) (schemeless : ∀ text, hosts text ≠ .error .noScheme)
    (config : Config) (accepted : config.problem? = none) :
    ∃ scheme rest host port, Url.IsSpoken scheme ∧ Text.trim config.network.rpcUrl = scheme ++ "://" ++ rest ∧
      Url.Addresses (Url.authority rest.toList) host port ∧
      (∀ other digits, Url.Addresses (Url.authority rest.toList) other digits → other = host ∧ digits = port) ∧
      (∀ failure, JsonRpc.endpoint hosts config.network.rpcUrl = .error failure ↔
        ∃ e, Url.Refused hosts host port e ∧ e ≠ .noScheme ∧ failure = .invalidUrl config.network.rpcUrl e.message) ∧
      ∀ url, JsonRpc.endpoint hosts config.network.rpcUrl = .ok url →
        url.scheme = scheme ∧ hosts host = .ok url.host := by
  obtain ⟨scheme, rest, spoken, written⟩ := exists_scheme accepted
  obtain ⟨host, port, addresses, unique⟩ := Url.exists_addresses (Url.authority rest.toList)
  refine ⟨scheme, rest, host, port, spoken, written, addresses, unique, fun failure => ?_, fun url made => ?_⟩
  · have refused (e : Url.Error) :
        Url.parseSpecial hosts scheme (Url.tidy rest.toList) = .error e ↔ Url.Refused hosts host port e :=
      Url.parseSpecial_eq_error_iff addresses
    rw [JsonRpc.endpoint_eq hosts spoken written]
    constructor
    · intro failed
      cases read : Url.parseSpecial hosts scheme (Url.tidy rest.toList) with
      | error e =>
        rw [read] at failed
        have isRefused := (refused e).mp read
        exact ⟨e, isRefused, isRefused.ne_noScheme schemeless, (Except.error.inj failed).symm⟩
      | ok parsed =>
        rw [read] at failed
        cases failed
    · rintro ⟨e, isRefused, -, rfl⟩
      rw [(refused e).mpr isRefused]
      rfl
  · cases read : Url.parseSpecial hosts scheme (Url.tidy rest.toList) with
    | error e =>
      rw [JsonRpc.endpoint_eq hosts spoken written, read] at made
      cases made
    | ok parsed =>
      rw [JsonRpc.endpoint_eq hosts spoken written, read] at made
      obtain rfl := Except.ok.inj made
      exact Url.host_of_parseSpecial addresses read

/-- A configuration whose endpoint has a port that is none. -/
def Config.ported : Config :=
  { Config.usual with network := { Network.local with rpcUrl := " https://me@[::1]:65536/" } }

/-- The host in front of the port is read, and the port is refused. -/
theorem Config.ported_refused : (∀ text, Url.Host.plain text ≠ .error .noScheme) ∧ ported.problem? = none ∧
    ∃ rest host port, Text.trim ported.network.rpcUrl = "https://" ++ rest ∧
      Url.Addresses (Url.authority rest.toList) host port ∧
      Url.Host.plain "[::1]".toList = .ok (.ipv6 [0, 0, 0, 0, 0, 0, 0, 1]) ∧
      Url.Refused Url.Host.plain host port .badPort := by
  have accepted : ported.problem? = none := by rfl
  have failed : JsonRpc.endpoint Url.Host.plain ported.network.rpcUrl =
      .error (.invalidUrl " https://me@[::1]:65536/" "invalid port number") := by rfl
  obtain ⟨scheme, rest, host, port, spoken, written, addresses, -, refused, -⟩ :=
    endpoint_refused_iff Url.Host.plain Url.Host.plain_ne_noScheme ported accepted
  refine ⟨Url.Host.plain_ne_noScheme, accepted, rest, host, port, ?_, addresses, by rfl, ?_⟩
  · rcases spoken with rfl | rfl
    · have trimmed : Text.trim ported.network.rpcUrl = "https://me@[::1]:65536/" := by rfl
      have fifth := congrArg (fun text => text.toList[4]?) (trimmed.symm.trans written)
      simp at fifth
    · exact written
  · obtain ⟨e, isRefused, -, same⟩ := (refused _).mp failed
    obtain rfl : e = .badPort := by
      cases e <;> first | rfl | simp [Url.Error.message] at same
    exact isRefused

/-- A configuration whose endpoint is a scheme alone. -/
def Config.hostless : Config := { Config.usual with network := { Network.local with rpcUrl := "http://" } }

/-- What a configuration is accepted for is not enough for a transport, whatever parser reads hosts. -/
theorem Config.hostless_refused : hostless.problem? = none ∧ ∀ hosts : Url.HostParser,
    JsonRpc.endpoint hosts hostless.network.rpcUrl = .error (.invalidUrl "http://" "empty host") ∧
    ¬∀ config : Config, config.problem? = none →
      ∀ url reason, JsonRpc.endpoint hosts config.network.rpcUrl ≠ .error (.invalidUrl url reason) := by
  have accepted : hostless.problem? = none := by rfl
  refine ⟨accepted, fun hosts => ?_⟩
  have refused : JsonRpc.endpoint hosts hostless.network.rpcUrl = .error (.invalidUrl "http://" "empty host") := by rfl
  exact ⟨refused, fun agree => agree hostless accepted _ _ refused⟩

end CallWeave
