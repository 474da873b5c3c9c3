import Pubky2Pubky.Protocol.Reference
import Pubky2Pubky.Client.Handshake

/-!
# Relay policies

A client checks its configuration, and with it the relays it trusts, once when
it binds. The protocol checks the relays of every locator that it signs. The two
policies are written separately.
-/

namespace Pubky2Pubky
namespace Client

open Foundation Protocol

def maxApplications : Nat := 16

def maxTrustedRelays : Nat := 4

def maxCaCertificates : Nat := 16

def maxCaCertificateBytes : Nat := 64 * 1024

def maxAuthTokenBytes : Nat := 4 * 1024

def maxBrowserMessageBytes : Nat := 64 * 1024

/-- Durations are counted in nanoseconds. -/
abbrev Duration := Nat

def Duration.fromSecs (seconds : Nat) : Duration :=
  seconds * 1000000000

def maxPreHelloTimeout : Duration :=
  Duration.fromSecs 10

def maxTimeout : Duration :=
  Duration.fromSecs 300

inductive PathPolicy where
  | directWithRelayFallback
  | relayOnly
  deriving DecidableEq

inductive PublicContactDisclosure where
  | acknowledgePreConsentNetworkExposure
  | acknowledgePreConsentRelayMetadataExposure
  deriving DecidableEq

structure IrohRelayConfig where
  url : Url
  authToken : Option String

/-- Of a UDP bind address only the family is read. -/
inductive IpFamily where
  | ipv4
  | ipv6
  deriving DecidableEq

structure V1ClientConfig where
  pathPolicy : PathPolicy
  trustedRelays : List IrohRelayConfig
  relayCaCertificates : List Bytes
  allowInsecureLoopbackRelay : Bool
  udpBindAddresses : List IpFamily
  endpointOnlineTimeout : Duration
  preHelloTimeout : Duration
  negotiationTimeout : Duration
  peerHandshakeTimeout : Duration
  maxMessageBytes : Nat
  maxUnauthenticatedHandshakes : Nat
  incomingQueueCapacity : Nat
  maxPendingPerIdentity : Nat
  replayCacheCapacity : Nat
  replayCachePerIdentityCapacity : Nat
  acceptedApplications : List String
  disclosure : PublicContactDisclosure

def validateApplication (application : String) : ClientResult Unit :=
  rejectIf (application = "" ∨ application.utf8ByteSize > 128 ∨
      application.toList.all applicationChar = false)
    (ClientError.iroh "invalid v1 application identifier")

def validateApplications (seen : List String) :
    List String -> ClientResult Unit
  | [] => pure ()
  | application :: rest => do
      validateApplication application
      rejectIf (application ∈ seen)
        (ClientError.iroh "duplicate v1 inbound application")
      validateApplications (application :: seen) rest

section Validation

variable (P : Primitives) [UrlParts P]

def origin (url : Url) : ClientResult String :=
  match UrlParts.origin P url with
  | none => Except.error ClientError.invalidRelayUrl
  | some origin =>
      pure (origin.scheme ++ "://" ++ origin.host ++ ":" ++
        origin.port.repr)

def localHost (url : Url) (browserWasm : Bool) : Bool :=
  match P.urlHostStr url with
  | none => false
  | some host =>
      if browserWasm then
        UrlParts.host P url == some Host.ipv4Localhost ||
          UrlParts.host P url == some Host.ipv6Localhost
      else eqIgnoreAsciiCase host "localhost" || isLoopbackAddress host

def validateTrustedRelayUrlForEnvironment (url : Url)
    (allowLoopback browserWasm : Bool) : ClientResult Unit :=
  let secure := P.urlScheme url = "https"
  let isLocal := allowLoopback = true ∧ P.urlScheme url = "http" ∧
    localHost P url browserWasm = true ∧
    (browserWasm = false ∨ UrlParts.port P url ≠ none)
  rejectIf ((¬ secure ∧ ¬ isLocal) ∨
      P.urlHostStr url = none ∨
      P.urlUsername url ≠ "" ∨
      P.urlPassword url ≠ none ∨
      P.urlPath url ≠ "/" ∨
      P.urlQuery url ≠ none ∨
      P.urlFragment url ≠ none)
    ClientError.invalidRelayUrl

def validateTrustedRelays (allowLoopback browserWasm : Bool)
    (relayOrigins : List String) : List IrohRelayConfig -> ClientResult Unit
  | [] => pure ()
  | relay :: rest => do
      validateTrustedRelayUrlForEnvironment P relay.url allowLoopback browserWasm
      let relayOrigin <- origin P relay.url
      rejectIf (relayOrigin ∈ relayOrigins)
        (ClientError.iroh "duplicate v1 trusted relay origin")
      rejectIf (relay.authToken.any (fun token =>
          token == "" || decide (token.utf8ByteSize > maxAuthTokenBytes)) = true)
        (ClientError.iroh "invalid local v1 relay authentication token")
      validateTrustedRelays allowLoopback browserWasm
        (relayOrigin :: relayOrigins) rest

namespace V1ClientConfig

def validateBrowserConstraints (self : V1ClientConfig) : ClientResult Unit :=
  rejectIf (self.pathPolicy ≠ PathPolicy.relayOnly ∨
      self.relayCaCertificates ≠ [] ∨
      self.trustedRelays.any (fun relay => relay.authToken.isSome) = true ∨
      self.maxMessageBytes > maxBrowserMessageBytes)
    (ClientError.iroh ("browser v1 requires relay-only transport without " ++
      "tokens, custom CAs, or oversized messages"))

def validateUdpBinds (self : V1ClientConfig) : ClientResult Unit :=
  match self.pathPolicy with
  | PathPolicy.directWithRelayFallback => do
      rejectIf (self.udpBindAddresses = [] ∨ self.udpBindAddresses.length > 2)
        (ClientError.iroh "v1 direct mode requires one or two UDP bind addresses")
      rejectIf (¬ self.udpBindAddresses.Nodup)
        (ClientError.iroh "v1 accepts at most one UDP bind per IP family")
  | PathPolicy.relayOnly =>
      rejectIf (self.udpBindAddresses ≠ [])
        (ClientError.iroh "v1 relay-only mode forbids UDP bind addresses")

def validateBounds (self : V1ClientConfig) : ClientResult Unit :=
  rejectIf (self.endpointOnlineTimeout = 0 ∨ self.preHelloTimeout = 0 ∨
      self.negotiationTimeout = 0 ∨ self.peerHandshakeTimeout = 0 ∨
      self.endpointOnlineTimeout > maxTimeout ∨
      self.preHelloTimeout > maxPreHelloTimeout ∨
      self.negotiationTimeout > maxTimeout ∨
      self.peerHandshakeTimeout > maxTimeout ∨
      self.maxMessageBytes = 0 ∨ self.maxMessageBytes > 2 ^ 32 - 1 ∨
      ¬ (1 ≤ self.maxUnauthenticatedHandshakes ∧
        self.maxUnauthenticatedHandshakes ≤ 64) ∨
      ¬ (1 ≤ self.incomingQueueCapacity ∧ self.incomingQueueCapacity ≤ 64) ∨
      ¬ (1 ≤ self.maxPendingPerIdentity ∧
        self.maxPendingPerIdentity ≤ self.incomingQueueCapacity) ∨
      ¬ (1 ≤ self.replayCacheCapacity ∧ self.replayCacheCapacity ≤ 4096) ∨
      ¬ (1 ≤ self.replayCachePerIdentityCapacity ∧
        self.replayCachePerIdentityCapacity ≤ self.replayCacheCapacity))
    (ClientError.iroh "invalid v1 client resource bounds")

def validateEnvironment (self : V1ClientConfig) (browserWasm : Bool) :
    ClientResult Unit :=
  if browserWasm then self.validateBrowserConstraints else pure ()

/-- The configuration that a client binds, in the browser or natively. -/
def validate (self : V1ClientConfig) (browserWasm : Bool) :
    ClientResult Unit := do
  rejectIf (¬ ((self.pathPolicy = PathPolicy.directWithRelayFallback ∧
        self.disclosure =
          PublicContactDisclosure.acknowledgePreConsentNetworkExposure) ∨
      (self.pathPolicy = PathPolicy.relayOnly ∧ self.disclosure =
        PublicContactDisclosure.acknowledgePreConsentRelayMetadataExposure)))
    (ClientError.iroh "v1 path policy does not match its privacy acknowledgement")
  self.validateEnvironment browserWasm
  rejectIf (self.trustedRelays = [] ∨
      self.trustedRelays.length > maxTrustedRelays)
    (ClientError.iroh "v1 requires one to four locally trusted relays")
  validateTrustedRelays P self.allowInsecureLoopbackRelay browserWasm []
    self.trustedRelays
  rejectIf (self.relayCaCertificates.length > maxCaCertificates ∨
      self.relayCaCertificates.any (fun certificate => certificate.isEmpty ||
        decide (certificate.length > maxCaCertificateBytes)) = true)
    (ClientError.iroh "invalid local v1 relay CA certificate set")
  self.validateUdpBinds
  self.validateBounds
  rejectIf (self.acceptedApplications = [] ∨
      self.acceptedApplications.length > maxApplications)
    (ClientError.iroh "v1 requires a bounded inbound application allowlist")
  validateApplications [] self.acceptedApplications

def relayUrls (self : V1ClientConfig) : List Url :=
  self.trustedRelays.map fun relay => relay.url

end V1ClientConfig

end Validation

/-!
# Accepted configurations
-/

section Accepted

variable {P : Primitives} [UrlParts P] {allowLoopback browserWasm : Bool}

/-- What both policies ask of a relay. -/
structure BareUrl (P : Primitives) (url : Url) : Prop where
  host : P.urlHostStr url ≠ none
  username : P.urlUsername url = ""
  password : P.urlPassword url = none
  path : P.urlPath url = "/"
  query : P.urlQuery url = none
  fragment : P.urlFragment url = none

theorem validateTrustedRelayUrl_eq_ok {url : Url} :
    validateTrustedRelayUrlForEnvironment P url allowLoopback browserWasm =
        Except.ok () <->
      BareUrl P url ∧
        (P.urlScheme url = "https" ∨
          allowLoopback = true ∧ P.urlScheme url = "http" ∧
            localHost P url browserWasm = true ∧
            (browserWasm = false ∨ UrlParts.port P url ≠ none)) := by
  unfold validateTrustedRelayUrlForEnvironment
  simp only [rejectIf_eq_ok, not_or, not_and_or, not_not]
  constructor
  · intro h
    rcases h with ⟨hscheme, hhost, husername, hpassword, hpath, hquery, hfragment⟩
    refine ⟨⟨hhost, husername, hpassword, hpath, hquery, hfragment⟩, ?_⟩
    simpa only [not_and_or, not_not, ne_eq] using hscheme
  · intro h
    rcases h with ⟨hbare, hscheme⟩
    refine ⟨?_, hbare.host, hbare.username, hbare.password, hbare.path,
      hbare.query, hbare.fragment⟩
    simpa only [not_and_or, not_not, ne_eq] using hscheme

omit [UrlParts P] in
theorem validateRelayUrl_eq_ok {url : Url} :
    validateRelayUrl P url allowLoopback = Except.ok () <->
      BareUrl P url ∧ url.asStr.utf8ByteSize ≤ maxRelayUrlBytes ∧
        (P.urlScheme url = "https" ∨
          allowLoopback = true ∧ P.urlScheme url = "http" ∧
            localRelayHost P url = true) := by
  unfold validateRelayUrl
  simp only [rejectIf_eq_ok, not_or, not_and_or, not_not, gt_iff_lt, Nat.not_lt]
  constructor
  · intro h
    rcases h with ⟨hsize, hscheme, hhost, husername, hpassword, hpath, hquery,
      hfragment⟩
    refine ⟨⟨hhost, husername, hpassword, hpath, hquery, hfragment⟩, hsize, ?_⟩
    simpa only [not_and_or, not_not] using hscheme
  · intro h
    rcases h with ⟨hbare, hsize, hscheme⟩
    refine ⟨hsize, ?_, hbare.host, hbare.username, hbare.password, hbare.path,
      hbare.query, hbare.fragment⟩
    simpa only [not_and_or, not_not] using hscheme

/-- Accepted relays are accepted one by one, and no two have the same origin. -/
theorem validateTrustedRelays_ok {relayOrigins : List String}
    {relays : List IrohRelayConfig}
    (h : validateTrustedRelays P allowLoopback browserWasm relayOrigins relays =
      Except.ok ()) :
    (forall relay, relay ∈ relays ->
      validateTrustedRelayUrlForEnvironment P relay.url allowLoopback
        browserWasm = Except.ok () ∧
      exists text, origin P relay.url = Except.ok text ∧
        text ∉ relayOrigins) ∧
      (relays.map fun relay => relay.url).Nodup := by
  induction relays generalizing relayOrigins with
  | nil =>
      exact ⟨fun _ hrelay => absurd hrelay List.not_mem_nil, List.nodup_nil⟩
  | cons relay rest ih =>
      unfold validateTrustedRelays at h
      simp only [bind_eq_ok, rejectIf_eq_ok, exists_unit] at h
      rcases h with ⟨haccepted, text, horigin, hnew, _, hrest⟩
      rcases ih hrest with ⟨hall, hnodup⟩
      constructor
      · intro other hother
        rcases List.mem_cons.mp hother with rfl | hother
        · exact ⟨haccepted, text, horigin, hnew⟩
        · rcases hall other hother with ⟨hok, found, hfound, hfresh⟩
          exact ⟨hok, found, hfound, fun hmem => hfresh (List.mem_cons_of_mem _ hmem)⟩
      · rw [List.map_cons, List.nodup_cons]
        refine ⟨?_, hnodup⟩
        intro hmem
        rcases List.mem_map.mp hmem with ⟨other, hother, hurl⟩
        rcases hall other hother with ⟨_, found, hfound, hfresh⟩
        rw [hurl, horigin] at hfound
        injection hfound with hfound
        exact hfresh (hfound ▸ List.mem_cons_self)

theorem V1ClientConfig.validate_relays {config : V1ClientConfig}
    (h : config.validate P browserWasm = Except.ok ()) :
    config.trustedRelays ≠ [] ∧
      config.trustedRelays.length ≤ maxTrustedRelays ∧
      validateTrustedRelays P config.allowInsecureLoopbackRelay browserWasm []
        config.trustedRelays = Except.ok () := by
  unfold V1ClientConfig.validate at h
  simp only [bind_eq_ok, rejectIf_eq_ok, exists_unit, not_or, gt_iff_lt,
    Nat.not_lt] at h
  rcases h with ⟨_, _, ⟨hsome, hbounded⟩, hrelays, _⟩
  exact ⟨hsome, hbounded, hrelays⟩

/-- A relay that the browser trusts and the protocol does not take for local. -/
def BracketedLoopback (P : Primitives) [UrlParts P] (url : Url)
    (browserWasm : Bool) : Prop :=
  browserWasm = true ∧ P.urlScheme url = "http" ∧
    UrlParts.host P url = some Host.ipv6Localhost

/-- The loopback tests differ on the bracketed host of the browser only. -/
theorem localHost_localRelayHost {url : Url}
    (h : localHost P url browserWasm = true) :
    localRelayHost P url = true <->
      ¬ (browserWasm = true ∧
        UrlParts.host P url = some Host.ipv6Localhost) := by
  unfold localHost at h
  split at h
  · cases h
  · rename_i host hhost
    cases browserWasm with
    | false =>
        have hlocal : localRelayHost P url = true := by
          unfold localRelayHost
          rw [hhost]
          exact h
        simp only [hlocal, Bool.false_eq_true, false_and, not_false_eq_true]
    | true =>
        simp only [if_true, Bool.or_eq_true, beq_iff_eq] at h
        rcases h with h | h
        · have hlocal := localRelayHost_ipv4Localhost h
          rw [h]
          simp only [hlocal, Host.ipv4Localhost, Host.ipv6Localhost,
            Option.some.injEq, reduceCtorEq, and_false, not_false_eq_true]
        · have hlocal := localRelayHost_ipv6 h
          simp only [hlocal, h, Bool.false_eq_true, and_self,
            not_true_eq_false]

/-- The protocol takes a trusted relay unless it is too long or bracketed. -/
theorem validateRelayUrl_trusted {url : Url}
    (h : validateTrustedRelayUrlForEnvironment P url allowLoopback browserWasm =
      Except.ok ()) :
    validateRelayUrl P url allowLoopback = Except.ok () <->
      url.asStr.utf8ByteSize ≤ maxRelayUrlBytes ∧
        ¬ BracketedLoopback P url browserWasm := by
  rcases validateTrustedRelayUrl_eq_ok.mp h with ⟨hbare, hscheme⟩
  rw [validateRelayUrl_eq_ok]
  constructor
  · intro haccepted
    rcases haccepted with ⟨_, hsize, hprotocol⟩
    refine ⟨hsize, ?_⟩
    intro hbracketed
    rcases hbracketed with ⟨_, hhttp, hhost⟩
    rcases hprotocol with hhttps | ⟨_, _, hlocal⟩
    · rw [hhttp] at hhttps
      exact absurd hhttps (by decide)
    · rw [localRelayHost_ipv6 hhost] at hlocal
      cases hlocal
  · intro hgood
    rcases hgood with ⟨hsize, hbracketed⟩
    refine ⟨hbare, hsize, ?_⟩
    rcases hscheme with hhttps | ⟨hallowed, hhttp, hlocal, _⟩
    · exact Or.inl hhttps
    · refine Or.inr ⟨hallowed, hhttp, (localHost_localRelayHost hlocal).mpr ?_⟩
      intro hbrowser
      exact hbracketed ⟨hbrowser.left, hhttp, hbrowser.right⟩

end Accepted

/-!
# Publishing under an accepted configuration
-/

section Publishing

variable {P : Primitives} [UrlParts P] {browserWasm : Bool}

/-- The one error that the relays of a valid locator leave to `current_record`. -/
def oversizedRecord : ClientError :=
  ClientError.protocol (ProtocolError.invalidEncoding "v1 device record size")

/-- The relays are valid in locators, so no publication fails because of them. -/
structure Publishable (P : Primitives) (config : V1ClientConfig) : Prop where
  relays : validateRelays P config.relayUrls config.allowInsecureLoopbackRelay =
    Except.ok ()
  records (client : V1Client) (active : ActiveRecords)
    (sequence lifetimeSeconds now : UInt64) :
    client.trustedRelays = config.relayUrls ->
    client.allowInsecureLoopbackRelay = config.allowInsecureLoopbackRelay ->
    client.credential.verify P now = Except.ok () ->
    validateChallenge P client.instanceNonce "v1 instance nonce" =
      Except.ok () ->
    sequence ≠ 0 -> lifetimeSeconds ≠ 0 ->
    lifetimeSeconds ≤ v1MaxLocatorLifetimeSeconds ->
    now.toNat + lifetimeSeconds.toNat < 2 ^ 64 ->
    client.credential.certificate.claims.issuedAt ≤ now ->
    now + lifetimeSeconds ≤ client.credential.certificate.claims.expiresAt ->
    (exists result, currentRecord P client active sequence lifetimeSeconds now =
      Except.ok result) ∨
      currentRecord P client active sequence lifetimeSeconds now =
        Except.error oversizedRecord

omit [UrlParts P] in
/-- A record of a valid credential and locator fails for its size only. -/
theorem new_or_oversized {credential : V1DeviceCredential}
    {locator : V1SignedLocator} {now : UInt64} {allowLoopbackDev : Bool}
    (hcredential : credential.verify P now = Except.ok ())
    (hlocator : locator.verify P credential.authorization credential.certificate
      credential.identity now allowLoopbackDev none = Except.ok ()) :
    (exists record, V1DeviceRecord.new P credential locator now
      allowLoopbackDev = Except.ok record) ∨
      V1DeviceRecord.new P credential locator now allowLoopbackDev =
        Except.error (ProtocolError.invalidEncoding "v1 device record size") := by
  have hchain := (V1DeviceCredential.verify_eq_ok.mp hcredential).left
  let record : V1DeviceRecord :=
    { authorization := credential.authorization
      certificate := credential.certificate
      locator := locator }
  unfold V1DeviceRecord.new V1DeviceRecord.verify ensureSerializedBound
  dsimp only
  by_cases hsize :
      (P.jsonToVec record.toJson).length > v1MaxDeviceRecordBytes
  · right
    rw [rejectIf_of hsize]
    rfl
  · left
    rw [rejectIf_of_not hsize, ok_bind, hchain, ok_bind, hlocator]
    exact ⟨record, rfl⟩

omit [UrlParts P] in
theorem publishable_of_relays [P.Lawful] {config : V1ClientConfig}
    (h : validateRelays P config.relayUrls config.allowInsecureLoopbackRelay =
      Except.ok ()) : Publishable P config where
  relays := h
  records client active sequence lifetimeSeconds now hrelays hallow hcredential
      hnonce hsequence hpositive hlifetime hfits hafter hbefore := by
    rw [← hrelays, ← hallow] at h
    rcases (V1DeviceCredential.verify_eq_ok.mp hcredential).right.left with
      ⟨key, hkey⟩
    have hsum : (now + lifetimeSeconds).toNat =
        now.toNat + lifetimeSeconds.toNat := by
      rw [UInt64.toNat_add, Nat.mod_eq_of_lt hfits]
    have hnonzero : lifetimeSeconds.toNat ≠ 0 := fun hzero =>
      hpositive (UInt64.toNat_inj.mp hzero)
    rw [UInt64.le_iff_toNat_le] at hlifetime
    have hwindow : WindowOpen now (now + lifetimeSeconds)
        v1MaxLocatorLifetimeSeconds now :=
      ⟨by omega, Nat.le_add_right _ _, by omega, by omega⟩
    have hsign := V1SignedLocator.signWithPolicy_succeeds hcredential hkey hnonce
      hsequence h hwindow hafter hbefore
    have hlocator := (V1SignedLocator.signWithPolicy_verify hsign).right.right
    have hbounds : ¬ (lifetimeSeconds = 0 ∨
        lifetimeSeconds > v1MaxLocatorLifetimeSeconds) := by
      rw [not_or, gt_iff_lt, UInt64.not_lt, UInt64.le_iff_toNat_le]
      exact ⟨hpositive, hlifetime⟩
    have hselect : (if client.allowInsecureLoopbackRelay then
        V1SignedLocator.signForLocalDevelopment P client.credential
          client.trustedRelays client.instanceNonce sequence now
          (now + lifetimeSeconds)
      else
        V1SignedLocator.sign P client.credential client.trustedRelays
          client.instanceNonce sequence now (now + lifetimeSeconds)) =
        V1SignedLocator.signWithPolicy P client.credential client.trustedRelays
          client.instanceNonce sequence (now, now + lifetimeSeconds)
          client.allowInsecureLoopbackRelay := by
      cases client.allowInsecureLoopbackRelay with
      | false => rfl
      | true => rfl
    unfold currentRecord
    rw [rejectIf_of_not hbounds, ok_bind,
      rejectIf_of_not (Nat.not_le_of_lt hfits), ok_bind]
    dsimp only
    rw [hselect, hsign]
    change (exists result, (Except.ok _ >>= _) = _) ∨ (Except.ok _ >>= _) = _
    rw [ok_bind]
    rcases new_or_oversized hcredential hlocator with ⟨record, hrecord⟩ | herror
    · left
      rw [hrecord]
      exact ⟨_, rfl⟩
    · right
      rw [herror]
      rfl

/--
A configuration that a client accepts can be published exactly when no relay is
over the protocol's length and, in the browser, none is a bracketed loopback.
-/
theorem trusted_relays_publishable [P.Lawful] {config : V1ClientConfig}
    (h : config.validate P browserWasm = Except.ok ()) :
    Publishable P config <->
      forall relay, relay ∈ config.trustedRelays ->
        relay.url.asStr.utf8ByteSize ≤ maxRelayUrlBytes ∧
          ¬ BracketedLoopback P relay.url browserWasm := by
  rcases config.validate_relays h with ⟨hsome, hbounded, hrelays⟩
  rcases validateTrustedRelays_ok hrelays with ⟨haccepted, hnodup⟩
  have hpublished : validateRelays P config.relayUrls
      config.allowInsecureLoopbackRelay = Except.ok () <->
        forall relay, relay ∈ config.trustedRelays ->
          relay.url.asStr.utf8ByteSize ≤ maxRelayUrlBytes ∧
            ¬ BracketedLoopback P relay.url browserWasm := by
    rw [validateRelays_eq_ok]
    unfold V1ClientConfig.relayUrls
    constructor
    · intro hvalid relay hrelay
      rw [← validateRelayUrl_trusted (haccepted relay hrelay).left]
      exact hvalid.right.right.left relay.url (List.mem_map_of_mem hrelay)
    · intro hgood
      refine ⟨?_, ?_, ?_, ?_⟩
      · rw [ne_eq, List.map_eq_nil_iff]
        exact hsome
      · rw [List.length_map]
        exact hbounded
      · intro url hurl
        rcases List.mem_map.mp hurl with ⟨relay, hrelay, rfl⟩
        exact (validateRelayUrl_trusted (haccepted relay hrelay).left).mpr
          (hgood relay hrelay)
      · refine List.Nodup.map ?_ hnodup
        intro first second heq
        cases first
        cases second
        exact congrArg Url.mk heq
  exact ⟨fun hpublishable => hpublished.mp hpublishable.relays,
    fun hgood => publishable_of_relays (hpublished.mpr hgood)⟩

end Publishing

/-- The relay-only configuration of a browser with one relay. -/
def browserConfig (relay : String) : V1ClientConfig where
  pathPolicy := PathPolicy.relayOnly
  trustedRelays := [{ url := { asStr := relay }, authToken := none }]
  relayCaCertificates := []
  allowInsecureLoopbackRelay := true
  udpBindAddresses := []
  endpointOnlineTimeout := Duration.fromSecs 15
  preHelloTimeout := Duration.fromSecs 3
  negotiationTimeout := Duration.fromSecs 30
  peerHandshakeTimeout := Duration.fromSecs 15
  maxMessageBytes := 4096
  maxUnauthenticatedHandshakes := 16
  incomingQueueCapacity := 16
  maxPendingPerIdentity := 2
  replayCacheCapacity := 1024
  replayCachePerIdentityCapacity := 32
  acceptedApplications := ["pubky2pubky/chat/1"]
  disclosure :=
    PublicContactDisclosure.acknowledgePreConsentRelayMetadataExposure

theorem browserConfig_validate {relay : String}
    (h : validateTrustedRelays Reference.sample true true []
      (browserConfig relay).trustedRelays = Except.ok ()) :
    (browserConfig relay).validate Reference.sample true = Except.ok () := by
  unfold V1ClientConfig.validate
  simp only [bind_eq_ok, exists_unit]
  exact ⟨rfl, rfl, rfl, h, rfl, rfl, rfl, rfl, rfl⟩

/-- The IPv4 loopback relay of a browser can be published. -/
theorem trusted_relays_publishable_sample :
    Publishable Reference.sample (browserConfig "http://127.0.0.1:3340/") := by
  refine (trusted_relays_publishable (P := Reference.sample)
    (browserConfig_validate (by rfl))).mpr ?_
  intro relay hrelay
  rw [List.mem_singleton.mp hrelay]
  refine ⟨by decide, ?_⟩
  intro hbracketed
  exact absurd hbracketed.right.right (by decide)

/-- The browser trusts the IPv6 loopback relay, and no locator may name it. -/
theorem bracketed_relay_unpublishable :
    (browserConfig "http://[::1]:3340/").validate Reference.sample true =
        Except.ok () ∧
      ¬ Publishable Reference.sample (browserConfig "http://[::1]:3340/") := by
  refine ⟨browserConfig_validate (by rfl), ?_⟩
  intro hpublishable
  have haccepted := (validateRelays_eq_ok.mp hpublishable.relays).right.right.left
    { asStr := "http://[::1]:3340/" } List.mem_cons_self
  exact absurd (rejectIf_eq_ok.mp haccepted) (by decide)

end Client
end Pubky2Pubky
