import ClusterGate.Proofs.Domain.AsciiForm
import ClusterGate.Request.Rejection
import ClusterGate.Uri.Parser

/-!
# The supported host

Of all hosts that a text may describe, exactly one is rendered as
`localhost` in some case, and it is the domain `localhost` itself: addresses
contain characters that the name lacks, and names are in lower case once
they are in ASCII form.
-/

namespace ClusterGate

namespace Host

/-- A supported host has the characters of `localhost` only, apart from
their case. -/
theorem toLower_mem_of_isSupportedHost {host : String}
    (h : isSupportedHost host = true) {c : Char} (hc : c ∈ host.toList) :
    c.toLower ∈ supportedHost.toList := by
  have hlower : host.toList.map Char.toLower = supportedHost.toList :=
    beq_iff_eq.mp h
  rw [← hlower]
  exact List.mem_map_of_mem hc

theorem not_isSupportedHost_ipv4 (address : Nat) :
    isSupportedHost (ipv4 address).render = false := by
  refine Bool.eq_false_iff.mpr fun h => ?_
  have hdot : '.' ∈ (ipv4 address).render.toList := by
    simp [render, Ipv4.render]
  exact absurd (toLower_mem_of_isSupportedHost h hdot) (by decide)

theorem not_isSupportedHost_ipv6 (groups : List Nat) :
    isSupportedHost (ipv6 groups).render = false := by
  refine Bool.eq_false_iff.mpr fun h => ?_
  have hbracket : '[' ∈ (ipv6 groups).render.toList := by
    simp [render]
  exact absurd (toLower_mem_of_isSupportedHost h hbracket) (by decide)

theorem toAscii?_of_parse {text : List Char} {name : String}
    (h : parse text = .ok (domain name)) :
    ∃ decoded, Domain.toAscii? decoded = some name.toList := by
  unfold parse at h
  split at h
  · unfold parseBracketed at h
    split at h
    · split at h <;> cases h
    · cases h
  · unfold parseName at h
    split at h
    · cases h
    · next decoded _ =>
        split at h
        · cases h
        · next ascii hascii =>
            unfold ofAscii at h
            split at h
            · cases h
            split at h
            · split at h <;> cases h
            · obtain rfl := domain.inj (Except.ok.inj h)
              exact ⟨decoded, by rw [hascii, String.toList_ofList]⟩

/-- **The supported host.** A text that describes a supported host
describes the domain `localhost`. -/
theorem eq_domain_of_isSupportedHost {text : List Char} {host : Host}
    (hparse : parse text = .ok host)
    (hsupported : isSupportedHost host.render = true) :
    host = domain supportedHost := by
  cases host with
  | ipv4 address =>
      rw [not_isSupportedHost_ipv4] at hsupported
      cases hsupported
  | ipv6 groups =>
      rw [not_isSupportedHost_ipv6] at hsupported
      cases hsupported
  | domain name =>
      obtain ⟨decoded, hascii⟩ := toAscii?_of_parse hparse
      have hname := Domain.toAscii?_supported hascii (beq_iff_eq.mp hsupported)
      rw [String.toList_inj.mp hname]

end Host

/-! ## Hosts of parsed URIs -/

namespace Uri

/-- Past the host, reading a port leaves it alone. -/
theorem parse_of_readHostPort {scheme : String}
    {text rest : List Char} {host : Host} {port : Option UInt16}
    (hkind : SchemeKind.of scheme = .special)
    (h : readHostPort scheme text = .ok (host, port, rest)) :
    ∃ hostText, Host.parse hostText = .ok host := by
  have hspecial : (SchemeKind.of scheme == .special) = true := by
    rw [hkind]; rfl
  unfold readHostPort at h
  simp only [hspecial, if_true] at h
  split at h
  · cases h
  obtain ⟨host', hhost, h⟩ := bind_eq_ok.mp h
  obtain rfl : host' = host := by
    split at h
    · exact (Prod.mk.inj (Except.ok.inj h)).1
    split at h
    · cases h
    split at h
    · cases h
    split at h
    · cases h
    split at h <;> exact (Prod.mk.inj (Except.ok.inj h)).1
  exact ⟨_, hhost⟩

theorem parse_of_readAuthority {scheme : String} {text rest : List Char}
    {authority : Authority} (hkind : SchemeKind.of scheme = .special)
    (h : readAuthority scheme text = .ok (authority, rest)) :
    ∃ hostText, Host.parse hostText = .ok authority.host := by
  unfold readAuthority at h
  dsimp only at h
  split at h
  · cases h
  obtain ⟨⟨host, port, after⟩, hread, h⟩ := bind_eq_ok.mp h
  dsimp only at h
  split at h
  · cases h
  obtain ⟨rfl, -⟩ := Prod.mk.inj (Except.ok.inj h)
  exact parse_of_readHostPort hkind hread

theorem scheme_of_parseOther {scheme : String} {text : List Char} {uri : Uri}
    (h : parseOther scheme text = .ok uri) : uri.scheme = scheme := by
  unfold parseOther at h
  split at h
  · obtain ⟨⟨authority, rest⟩, -, h⟩ := bind_eq_ok.mp h
    obtain rfl := Except.ok.inj h
    rfl
  · obtain rfl := Except.ok.inj h
    rfl
  · obtain rfl := Except.ok.inj h
    rfl

theorem scheme_of_parseFile {text : List Char} {uri : Uri}
    (h : parseFile text = .ok uri) :
    uri.scheme = "file" := by
  unfold parseFile at h
  dsimp only at h
  split at h
  · split at h
    · obtain ⟨_, -, h⟩ := bind_eq_ok.mp h
      obtain rfl := Except.ok.inj h
      rfl
    · obtain rfl := Except.ok.inj h
      rfl
  · obtain rfl := Except.ok.inj h
    rfl

/-- **Hosts of parsed URIs.** The host of a special URI is what some text
describes as special schemes have it. -/
theorem parse_host_of_parse {text : String} {uri : Uri}
    (h : parse text = .ok uri) (hkind : SchemeKind.of uri.scheme = .special) :
    ∃ hostText host, uri.host = some host ∧ Host.parse hostText = .ok host := by
  unfold parse at h
  split at h
  · cases h
  split at h
  · rw [scheme_of_parseFile h] at hkind
    exact absurd hkind (by decide)
  · next hspecial =>
      obtain ⟨⟨authority, rest⟩, hread, h⟩ := bind_eq_ok.mp h
      obtain rfl := Except.ok.inj h
      obtain ⟨hostText, hhost⟩ := parse_of_readAuthority hspecial hread
      exact ⟨hostText, authority.host, rfl, hhost⟩
  · next hother =>
      rw [scheme_of_parseOther h, hother] at hkind
      cases hkind

end Uri

end ClusterGate
