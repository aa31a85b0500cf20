import PepeAudio.Lib.PlainUrl
import PepeAudio.Lib.Program
import PepeAudio.Media.AddressPolicy

/-!
# Which URLs are fetched, and from where

A URL is approved for one request: its host is resolved, every address of the
answer is looked at, and the connection may go to these addresses alone.
-/
namespace PepeAudio

inductive UrlPolicyError where
  | tooLong (maxBytes : ℕ)
  | malformed
  | unsupportedScheme
  | userInfo
  | fragment
  | missingAuthority
  | emptyDnsAnswer
  | tooManyDnsAnswers
  | forbiddenAddress
  | dns
  | dnsTimeout (timeout : ℕ)
  | insecureRedirect
  deriving DecidableEq, Repr

def MAX_DNS_ADDRESSES : ℕ := 32

inductive Host where
  | domain (name : String)
  | ipv4 (address : Ipv4Addr)
  | ipv6 (address : Ipv6Addr)
  deriving DecidableEq, Repr

/-- The code outside the repository that parses URLs, resolves references and tells what kind of
host a URL names. -/
structure WebUrls where
  parse : String → Option Url
  join : Url → String → Option Url
  host : Url → Option Host

def isSlash (c : Char) : Bool := c = '/' || c = '\\'

/-- Whether the text before the path has an `@`, whatever a parser makes of it. -/
def rawHasUserinfoMarker (raw : String) : Bool :=
  let authority :=
    if raw.toList.contains ':' then
      some (((raw.toList.dropWhile (· != ':')).drop 1).dropWhile isSlash)
    else if raw.startsWith "//" || raw.startsWith "\\\\" then some (raw.toList.dropWhile isSlash)
    else none
  match authority with
  | none => false
  | some authority => (authority.takeWhile fun c => !(isSlash c || c = '?' || c = '#')).contains '@'

structure UrlGuard where
  maxUrlBytes : ℕ
  dnsTimeout : ℕ

structure SocketAddr where
  ip : IpAddr
  port : ℕ
  deriving DecidableEq, Repr

structure ApprovedUrl where
  url : Url
  domain : Option String
  addresses : List SocketAddr
  deriving DecidableEq

/-- What the resolver does in the time it has. -/
inductive DnsOutcome where
  | timedOut
  | answered (result : Except UrlPolicyError (List IpAddr))

namespace UrlGuard

variable (urls : WebUrls)

def validateParsed (guard : UrlGuard) (url : Url) : Except UrlPolicyError Unit :=
  if guard.maxUrlBytes < url.asStr.utf8ByteSize then .error (.tooLong guard.maxUrlBytes)
  else if url.scheme ≠ "http" ∧ url.scheme ≠ "https" then .error .unsupportedScheme
  else if url.username ≠ "" ∨ url.password.isSome then .error .userInfo
  else if url.fragment.isSome then .error .fragment
  else if (urls.host url).isNone ∨ url.portOrKnownDefault.isNone then .error .missingAuthority
  else .ok ()

def parse (guard : UrlGuard) (rawUrl : String) : Except UrlPolicyError Url :=
  if guard.maxUrlBytes < rawUrl.utf8ByteSize then .error (.tooLong guard.maxUrlBytes)
  else if rawHasUserinfoMarker rawUrl then .error .userInfo
  else match urls.parse rawUrl with
    | none => .error .malformed
    | some url => do
      guard.validateParsed urls url
      return url

/-- The addresses a host stands for, with the domain they were resolved from. -/
def candidates (guard : UrlGuard) (url : Url) (resolve : String → DnsOutcome) :
    Except UrlPolicyError (Option String × List IpAddr) :=
  match urls.host url with
  | some (.ipv4 address) => .ok (none, [.v4 address])
  | some (.ipv6 address) => .ok (none, [.v6 address])
  | some (.domain domain) =>
    if domain.isEmpty then .error .missingAuthority
    else match resolve domain with
      | .timedOut => .error (.dnsTimeout guard.dnsTimeout)
      | .answered (.error error) => .error error
      | .answered (.ok addresses) => .ok (some domain, addresses)
  | none => .error .missingAuthority

def approve (guard : UrlGuard) (rawUrl : String) (resolve : String → DnsOutcome) :
    Except UrlPolicyError ApprovedUrl := do
  let url ← guard.parse urls rawUrl
  match url.portOrKnownDefault with
  | none => .error .missingAuthority
  | some port =>
    let (domain, addresses) ← guard.candidates urls url resolve
    -- The first occurrence of each address is kept.
    let addresses := addresses.eraseDups
    if addresses.isEmpty then .error .emptyDnsAnswer
    else if MAX_DNS_ADDRESSES < addresses.length then .error .tooManyDnsAnswers
    else if addresses.any isForbiddenIp then .error .forbiddenAddress
    else .ok ⟨url, domain, addresses.map fun address => ⟨address, port⟩⟩

/-- The URL a redirect leads to. -/
def join (guard : UrlGuard) (base : Url) (location : String) : Except UrlPolicyError String :=
  if guard.maxUrlBytes < location.utf8ByteSize then .error (.tooLong guard.maxUrlBytes)
  else if rawHasUserinfoMarker location then .error .userInfo
  else match urls.join base location with
    | none => .error .malformed
    | some joined => do
      guard.validateParsed urls joined
      if base.scheme = "https" ∧ joined.scheme = "http" then .error .insecureRedirect
      else return joined.asStr

end UrlGuard

/-- The resolver the HTTP client is given for one request. -/
structure PinnedResolver where
  expectedHost : String
  addresses : List SocketAddr

def PinnedResolver.of (target : ApprovedUrl) : Option PinnedResolver :=
  target.url.host.map fun host => ⟨host, target.addresses⟩

/-- `str::eq_ignore_ascii_case`. -/
def eqIgnoreAsciiCase (left right : String) : Bool :=
  left.toList.map Char.toLower = right.toList.map Char.toLower

def PinnedResolver.resolve (resolver : PinnedResolver) (name : String) :
    Except String (List SocketAddr) :=
  if eqIgnoreAsciiCase name resolver.expectedHost then .ok resolver.addresses
  else .error "unexpected DNS target"

section Approval

variable {urls : WebUrls} {guard : UrlGuard} {rawUrl : String} {resolve : String → DnsOutcome}
variable {approved : ApprovedUrl}

/-- What is known of a URL that was approved. -/
structure Approval (urls : WebUrls) (guard : UrlGuard) (resolve : String → DnsOutcome)
    (approved : ApprovedUrl) (addresses : List IpAddr) : Prop where
  valid : guard.validateParsed urls approved.url = .ok ()
  candidates : guard.candidates urls approved.url resolve = .ok (approved.domain, addresses)
  allowed : ∀ address ∈ addresses, isForbiddenIp address = false
  pinned : ∀ address, address ∈ approved.addresses.map SocketAddr.ip ↔ address ∈ addresses
  port : ∀ socket ∈ approved.addresses, approved.url.portOrKnownDefault = some socket.port

theorem parse_eq_ok {url : Url} (h : guard.parse urls rawUrl = .ok url) :
    urls.parse rawUrl = some url ∧ guard.validateParsed urls url = .ok () := by
  unfold UrlGuard.parse at h
  split_ifs at h
  cases hparse : urls.parse rawUrl with
  | none => simp [hparse] at h
  | some parsed =>
    rw [hparse] at h
    obtain ⟨_, hvalid, hurl⟩ := bind_eq_ok h
    obtain rfl := Except.ok.inj hurl
    exact ⟨rfl, hvalid⟩

theorem approve_eq_ok (h : guard.approve urls rawUrl resolve = .ok approved) :
    urls.parse rawUrl = some approved.url ∧
      ∃ addresses, Approval urls guard resolve approved addresses := by
  obtain ⟨url, hparse, h⟩ := bind_eq_ok h
  obtain ⟨hurl, hvalid⟩ := parse_eq_ok hparse
  cases hport : url.portOrKnownDefault with
  | none => simp [hport] at h
  | some port =>
    simp only [hport] at h
    obtain ⟨⟨domain, addresses⟩, hcandidates, h⟩ := bind_eq_ok h
    dsimp only at h
    split_ifs at h with hempty hmany hforbidden
    obtain rfl := Except.ok.inj h
    refine ⟨hurl, addresses, hvalid, hcandidates, ?_, ?_, ?_⟩
    · intro address haddress
      have hnone := List.any_eq_false.mp (Bool.eq_false_iff.mpr hforbidden) address
        (List.mem_eraseDups.mpr haddress)
      simpa using hnone
    · intro address
      simp [List.mem_eraseDups]
    · intro socket hsocket
      obtain ⟨address, -, rfl⟩ := List.mem_map.mp hsocket
      exact hport

/-- A forbidden address of version 4 is forbidden in every form version 6 has for it. Of an
approved URL every address that its host stands for is public, and the client resolves the host to
exactly these and no other name to anything. -/
theorem address_policy_closed :
    (∀ (address : Ipv4Addr) (embedding : Ipv6Addr), address.Embeds embedding →
      forbiddenV4 address = true → forbiddenV6 embedding = true) ∧
    ∀ (urls : WebUrls) (guard : UrlGuard) (rawUrl : String) (resolve : String → DnsOutcome)
      (approved : ApprovedUrl), guard.approve urls rawUrl resolve = .ok approved →
      ∃ addresses, guard.candidates urls approved.url resolve = .ok (approved.domain, addresses) ∧
        (∀ address ∈ addresses, isForbiddenIp address = false) ∧
        (∀ address, address ∈ approved.addresses.map SocketAddr.ip ↔ address ∈ addresses) ∧
        (∀ socket ∈ approved.addresses, approved.url.portOrKnownDefault = some socket.port) ∧
        ∀ resolver, PinnedResolver.of approved = some resolver → ∀ name,
          resolver.resolve name =
            if eqIgnoreAsciiCase name resolver.expectedHost then .ok approved.addresses
            else .error "unexpected DNS target" := by
  refine ⟨fun address embedding => forbiddenV6_of_embeds, ?_⟩
  intro urls guard rawUrl resolve approved h
  obtain ⟨-, addresses, happroval⟩ := approve_eq_ok h
  refine ⟨addresses, happroval.candidates, happroval.allowed, happroval.pinned, happroval.port, ?_⟩
  intro resolver hresolver name
  obtain ⟨host, -, rfl⟩ := Option.map_eq_some_iff.mp hresolver
  rfl

end Approval

/-- A library for plain URLs, in which hosts are domains and references are whole URLs. -/
def plainWebUrls : WebUrls where
  parse := PlainUrl.parse
  join _ location := PlainUrl.parse location
  host url := url.host.map .domain

/-- A host with one public address of version 4. -/
def publicAnswer (_ : String) : DnsOutcome := .answered (.ok [.v4 ⟨93, 184, 216, 34⟩])

theorem approve_publicAnswer :
    UrlGuard.approve plainWebUrls ⟨64, 1⟩ "https://media.example/a" publicAnswer =
      .ok ⟨Url.https "media.example" "/a" none, some "media.example",
        [⟨.v4 ⟨93, 184, 216, 34⟩, 443⟩]⟩ := by
  decide +kernel

theorem address_policy_closed_publicAnswer :
    forbiddenV6 (Ipv4Addr.nat64 ⟨10, 0, 0, 1⟩) = true ∧
      ∃ addresses, UrlGuard.candidates plainWebUrls ⟨64, 1⟩
        (Url.https "media.example" "/a" none) publicAnswer =
          .ok (some "media.example", addresses) ∧
        ∀ address ∈ addresses, isForbiddenIp address = false := by
  have happroved := address_policy_closed.2 plainWebUrls ⟨64, 1⟩ "https://media.example/a"
    publicAnswer _ approve_publicAnswer
  obtain ⟨addresses, hcandidates, hallowed, -⟩ := happroved
  exact ⟨address_policy_closed.1 ⟨10, 0, 0, 1⟩ _ .nat64 (by decide), addresses, hcandidates,
    hallowed⟩

end PepeAudio
