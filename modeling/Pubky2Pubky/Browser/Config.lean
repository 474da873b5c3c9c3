import Pubky2Pubky.Foundation.Utf16
import Pubky2Pubky.Protocol.Reference
import Pubky2Pubky.Browser.SequenceStore

/-!
# Browser configurations

The package checks a configuration when it creates a transport, over the script's
texts and its URL parser. The core checks each value again when it uses it, over
bytes and the parser of the URL package.
-/

namespace Pubky2Pubky
namespace Browser

open Foundation Protocol

/-!
# The package
-/

def maxRelays : Nat := 4

/--
A script value, as far as the configuration check reads it. An array may have
holes, and only the truth value of a number is ever read.
-/
inductive JsValue where
  | undefined
  | null
  | boolean (value : Bool)
  | number (truthy : Bool)
  | string (units : Utf16)
  | array (items : List (Option JsValue))
  | record (fields : List (String × JsValue))
  | object

namespace JsValue

def get (value : JsValue) (name : String) : JsValue :=
  match value with
  | record fields => (fields.lookup name).getD undefined
  | _ => undefined

def isPlainRecord : JsValue -> Bool
  | record _ => true
  | _ => false

def truthy : JsValue -> Bool
  | undefined => false
  | null => false
  | boolean value => value
  | number value => value
  | string units => !units.isEmpty
  | array _ => true
  | record _ => true
  | object => true

def isTrue : JsValue -> Bool
  | boolean true => true
  | _ => false

def isUndefined : JsValue -> Bool
  | undefined => true
  | _ => false

end JsValue

/-- The control characters of the package's pattern. -/
def controlUnit (unit : UInt16) : Bool :=
  decide (unit.toNat ≤ 0x1f) || unit.toNat == 0x7f

def hostMark (n : Nat) : Bool :=
  n == 47 || n == 92 || n == 64 || n == 58

def requireBoundedText (value : JsValue) (maximum : Nat) (code : Failure) :
    StoreResult Utf16 :=
  match value with
  | JsValue.string units => do
      rejectIf (units = [] ∨ units.length > maximum ∨
        units.any controlUnit = true) code
      pure units
  | _ => Except.error code

/-- What `createBrowserTransport` keeps of a configuration. -/
structure BrowserConfig where
  clientId : Utf16
  httpRelay : Url
  irohRelays : List (Option Url)
  testnetHost : Option Utf16
  allowLoopbackTestnet : Bool
  deviceId : Utf16

section Package

variable (P : Primitives) [UrlParts P]

/-- The package's loopback test; a URL object writes an IPv6 host in brackets. -/
def packageLoopback (url : Url) : Prop :=
  (P.urlHostStr url = some "127.0.0.1" ∨ P.urlHostStr url = some "[::1]") ∧
    UrlParts.port P url ≠ none

instance (url : Url) : Decidable (packageLoopback P url) := by
  unfold packageLoopback
  infer_instance

/-- A URL object has no absent parts, only empty ones. -/
def part (value : Option String) : String :=
  value.getD ""

def requireUrl (value : JsValue) (authRelay allowLoopback : Bool)
    (code : Failure) : StoreResult Url := do
  let text <- requireBoundedText value 2048 code
  let url <- okOr (UrlParts.parse P (Utf16.toText text)) code
  rejectIf ((P.urlScheme url ≠ "https" ∧
        ¬ (allowLoopback = true ∧ packageLoopback P url ∧
          P.urlScheme url = "http")) ∨
      P.urlUsername url ≠ "" ∨
      part (P.urlPassword url) ≠ "" ∨
      part (P.urlQuery url) ≠ "" ∨
      part (P.urlFragment url) ≠ "" ∨
      (authRelay = false ∧ P.urlPath url ≠ "/"))
    code
  pure url

/-- The relays of an array, whose holes the script passes over. -/
def requireRelays (allowLoopback : Bool) :
    List (Option JsValue) -> StoreResult (List (Option Url))
  | [] => pure []
  | none :: rest => do
      let relays <- requireRelays allowLoopback rest
      pure (none :: relays)
  | some value :: rest => do
      let url <- requireUrl P value false allowLoopback "relay-config-invalid"
      let relays <- requireRelays allowLoopback rest
      pure (some url :: relays)

def requireIrohRelays (value : JsValue) (allowLoopback : Bool) :
    StoreResult (List (Option Url)) :=
  match value with
  | JsValue.array items => do
      rejectIf (items.length < 1 ∨ items.length > maxRelays)
        "relay-config-invalid"
      let relays <- requireRelays P allowLoopback items
      rejectIf (¬ relays.Nodup) "relay-config-invalid"
      pure relays
  | _ => Except.error "relay-config-invalid"

def requireTestnetHost (testnet : JsValue) : StoreResult (Option Utf16) :=
  if testnet.isUndefined then pure none
  else do
    rejectIf (testnet.isPlainRecord = false ∨
      (testnet.get "enabled").isTrue = false) "testnet-config-invalid"
    let host <- requireBoundedText (testnet.get "pubkyHost") 253
      "testnet-config-invalid"
    rejectIf (host.any (fun unit => hostMark unit.toNat) = true)
      "testnet-config-invalid"
    pure (some host)

def requireDeviceId (deviceId : JsValue) : StoreResult Utf16 :=
  if deviceId.isUndefined then pure (Utf16.ofText "browser")
  else requireBoundedText deviceId 64 "device-state-invalid"

def validateConfig (input : JsValue) : StoreResult BrowserConfig := do
  rejectIf (input.isPlainRecord = false) "invalid-state"
  let clientId <- requireBoundedText (input.get "clientId") 253
    "client-id-invalid"
  let allowLoopback := (input.get "testnet").truthy
  let httpRelay <- requireUrl P (input.get "httpRelay") true allowLoopback
    "auth-relay-invalid"
  rejectIf (P.urlPath httpRelay ≠ "/inbox" ∧ P.urlPath httpRelay ≠ "/inbox/")
    "auth-relay-invalid"
  let irohRelays <- requireIrohRelays P (input.get "irohRelays") allowLoopback
  let testnetHost <- requireTestnetHost (input.get "testnet")
  let deviceId <- requireDeviceId (input.get "deviceId")
  pure
    { clientId := clientId
      httpRelay := httpRelay
      irohRelays := irohRelays
      testnetHost := testnetHost
      allowLoopbackTestnet := testnetHost.isSome
      deviceId := deviceId }

/-!
# The core
-/

def maxAuthRelayBytes : Nat := 2048

def maxTestnetHostBytes : Nat := 253

def maxIrohRelays : Nat := 4

def isExplicitLoopbackHttpOrigin (url : Url) : Prop :=
  UrlParts.port P url ≠ none ∧
    (P.urlHostStr url = some "127.0.0.1" ∨ P.urlHostStr url = some "::1")

instance (url : Url) : Decidable (isExplicitLoopbackHttpOrigin P url) := by
  unfold isExplicitLoopbackHttpOrigin
  infer_instance

/-- What the core asks of every relay besides its path. -/
def unusableRelay (url : Url) (allowLoopback : Bool) : Prop :=
  ¬ (P.urlScheme url = "https" ∨ (allowLoopback = true ∧
      isExplicitLoopbackHttpOrigin P url ∧ P.urlScheme url = "http")) ∨
    P.urlHostStr url = none ∨
    P.urlUsername url ≠ "" ∨
    P.urlPassword url ≠ none ∨
    P.urlQuery url ≠ none ∨
    P.urlFragment url ≠ none

instance (url : Url) (allowLoopback : Bool) :
    Decidable (unusableRelay P url allowLoopback) := by
  unfold unusableRelay
  infer_instance

def validateAuthRelay (value : String) (allowLoopback : Bool) :
    StoreResult Url := do
  rejectIf (value = "" ∨ value.utf8ByteSize > maxAuthRelayBytes)
    "auth-relay-invalid"
  let url <- okOr (UrlParts.parse P value) "auth-relay-invalid"
  rejectIf (unusableRelay P url allowLoopback ∨
      ¬ (P.urlPath url = "/inbox" ∨ P.urlPath url = "/inbox/"))
    "auth-relay-invalid"
  pure url

/-- The loop over the relays, with the serializations seen so far. -/
def parseIrohRelays (allowLoopback : Bool) (unique : List String) :
    List String -> StoreResult (List Url)
  | [] => pure []
  | value :: rest => do
      rejectIf (value.utf8ByteSize > maxAuthRelayBytes) "relay-config-invalid"
      let url <- okOr (UrlParts.parse P value) "relay-config-invalid"
      rejectIf (unusableRelay P url allowLoopback ∨ P.urlPath url ≠ "/" ∨
        url.asStr ∈ unique) "relay-config-invalid"
      let parsed <- parseIrohRelays allowLoopback (url.asStr :: unique) rest
      pure (url :: parsed)

def validateIrohRelays (values : List String) (allowLoopback : Bool) :
    StoreResult (List Url) := do
  rejectIf (values = [] ∨ values.length > maxIrohRelays) "relay-config-invalid"
  parseIrohRelays P allowLoopback [] values

/-- The texts of a relay array; a hole is no text. -/
def relayStrings : List (Option Url) -> StoreResult (List String)
  | [] => pure []
  | relay :: rest => do
      let url <- okOr relay "relay-config-invalid"
      let strings <- relayStrings rest
      pure (url.asStr :: strings)

def publishRelays (relays : List (Option Url)) (allowLoopback : Bool) :
    StoreResult (List Url) := do
  let strings <- relayStrings relays
  validateIrohRelays P strings allowLoopback

def validateTestnetHost (host : String) : StoreResult Unit :=
  rejectIf (host = "" ∨ host.utf8ByteSize > maxTestnetHostBytes ∨
      host.toList.any (fun c => hostMark c.toNat) = true ∨
      host.toList.any isControl = true)
    "testnet-config-invalid"

/-- The core takes every value of a configuration when it is used. -/
structure CoreAccepts (config : BrowserConfig) : Prop where
  authRelay : exists url, validateAuthRelay P config.httpRelay.asStr
    config.testnetHost.isSome = Except.ok url
  irohRelays : exists urls, publishRelays P config.irohRelays
    config.allowLoopbackTestnet = Except.ok urls
  testnetHost (host : Utf16) : config.testnetHost = some host ->
    validateTestnetHost (Utf16.toText host) = Except.ok ()
  deviceId : validateDeviceId (Utf16.toText config.deviceId) = Except.ok ()

end Package

/-!
# Relays that both sides take
-/

section Relays

variable {P : Primitives} [UrlParts P] {url : Url} {allowLoopback : Bool}

/-- What the package establishes of a relay URL. -/
structure PackageUrl (P : Primitives) [UrlParts P] (url : Url)
    (allowLoopback : Bool) : Prop where
  parsed : exists text, UrlParts.parse P text = some url
  scheme : P.urlScheme url = "https" ∨ (allowLoopback = true ∧
    packageLoopback P url ∧ P.urlScheme url = "http")
  username : P.urlUsername url = ""
  password : P.urlPassword url = none
  query : part (P.urlQuery url) = ""
  fragment : part (P.urlFragment url) = ""

structure CoreUrl (P : Primitives) (url : Url) : Prop where
  bounded : url.asStr.utf8ByteSize ≤ maxAuthRelayBytes
  query : P.urlQuery url = none
  fragment : P.urlFragment url = none
  unbracketed : P.urlScheme url = "http" -> P.urlHostStr url ≠ some "[::1]"

theorem requireUrl_ok {value : JsValue} {authRelay : Bool} {code : Failure}
    (h : requireUrl P value authRelay allowLoopback code = Except.ok url) :
    PackageUrl P url allowLoopback ∧
      (authRelay = false -> P.urlPath url = "/") := by
  unfold requireUrl at h
  simp only [bind_eq_ok, okOr_eq_ok, rejectIf_eq_ok, exists_unit, pure_eq_ok,
    not_or, not_and_or, not_not, ne_eq] at h
  rcases h with ⟨units, _, found, hparse, hchecks, rfl⟩
  rcases hchecks with ⟨hscheme, husername, hpassword, hquery, hfragment, hpath⟩
  have hnone : P.urlPassword found = none := by
    cases hfound : P.urlPassword found with
    | none => rfl
    | some password =>
        rw [hfound] at hpassword
        change password = "" at hpassword
        rw [hpassword] at hfound
        exact absurd hfound (UrlParts.parse_password _ _ hparse)
  refine ⟨⟨⟨_, hparse⟩, hscheme, husername, hnone, hquery, hfragment⟩, ?_⟩
  intro hfalse
  exact hpath.resolve_left (fun hne => hne hfalse)

theorem PackageUrl.parse_asStr (h : PackageUrl P url allowLoopback) :
    UrlParts.parse P url.asStr = some url := by
  rcases h.parsed with ⟨text, htext⟩
  exact UrlParts.parse_asStr text url htext

theorem PackageUrl.asStr_ne (h : PackageUrl P url allowLoopback) :
    url.asStr ≠ "" := by
  intro hempty
  have hparse := h.parse_asStr
  rw [hempty, UrlParts.parse_empty] at hparse
  cases hparse

theorem PackageUrl.host (h : PackageUrl P url allowLoopback) :
    P.urlHostStr url ≠ none := by
  rcases h.parsed with ⟨text, htext⟩
  apply UrlParts.parse_host text url htext
  rcases h.scheme with hhttps | hhttp
  · exact Or.inl hhttps
  · exact Or.inr hhttp.right.right

theorem PackageUrl.usable_iff (h : PackageUrl P url allowLoopback) :
    (url.asStr.utf8ByteSize ≤ maxAuthRelayBytes ∧
        ¬ unusableRelay P url allowLoopback) <-> CoreUrl P url := by
  unfold unusableRelay
  simp only [not_or, not_and_or, not_not, ne_eq]
  constructor
  · intro hgood
    rcases hgood with ⟨hsize, hscheme, _, _, _, hquery, hfragment⟩
    refine ⟨hsize, hquery, hfragment, ?_⟩
    intro hhttp hbracket
    rcases hscheme with hhttps | ⟨_, hloopback, _⟩
    · rw [hhttp] at hhttps
      exact absurd hhttps (by decide)
    · rcases hloopback.right with hhost | hhost
      · rw [hbracket, Option.some.injEq] at hhost
        exact absurd hhost (by decide)
      · rw [hbracket, Option.some.injEq] at hhost
        exact absurd hhost (by decide)
  · intro hcore
    refine ⟨hcore.bounded, ?_, h.host, h.username, h.password, hcore.query,
      hcore.fragment⟩
    rcases h.scheme with hhttps | ⟨hallowed, ⟨hhost, hport⟩, hhttp⟩
    · exact Or.inl hhttps
    · rcases hhost with hhost | hhost
      · exact Or.inr ⟨hallowed, ⟨hport, Or.inl hhost⟩, hhttp⟩
      · exact absurd hhost (hcore.unbracketed hhttp)

theorem validateAuthRelay_iff (h : PackageUrl P url allowLoopback)
    (hpath : P.urlPath url = "/inbox" ∨ P.urlPath url = "/inbox/") :
    (exists found, validateAuthRelay P url.asStr allowLoopback =
      Except.ok found) <-> CoreUrl P url := by
  rw [← h.usable_iff]
  unfold validateAuthRelay
  simp only [bind_eq_ok, okOr_eq_ok, rejectIf_eq_ok, exists_unit, pure_eq_ok,
    not_or, not_and_or, not_not, gt_iff_lt, Nat.not_lt, h.parse_asStr]
  constructor
  · intro hok
    rcases hok with ⟨found, hsize, other, hother, husable, _⟩
    injection hother with hother
    rw [← hother] at husable
    exact ⟨hsize.right, husable.left⟩
  · intro hgood
    exact ⟨url, ⟨h.asStr_ne, hgood.left⟩, url, rfl, ⟨hgood.right, hpath⟩, rfl⟩

theorem relayStrings_eq_ok {relays : List (Option Url)} {strings : List String} :
    relayStrings relays = Except.ok strings <->
      exists urls : List Url, relays = urls.map some ∧
        strings = urls.map Url.asStr := by
  induction relays generalizing strings with
  | nil =>
      unfold relayStrings
      rw [pure_eq_ok]
      constructor
      · intro h
        exact ⟨[], rfl, h.symm⟩
      · intro h
        rcases h with ⟨urls, hurls, rfl⟩
        rw [List.map_eq_nil_iff.mp hurls.symm]
        rfl
  | cons relay rest ih =>
      unfold relayStrings
      simp only [bind_eq_ok, okOr_eq_ok, pure_eq_ok]
      constructor
      · intro h
        rcases h with ⟨url, rfl, found, hrest, rfl⟩
        rcases ih.mp hrest with ⟨urls, rfl, rfl⟩
        exact ⟨url :: urls, rfl, rfl⟩
      · intro h
        rcases h with ⟨urls, hurls, rfl⟩
        cases urls with
        | nil => cases hurls
        | cons url more =>
            rw [List.map_cons, List.cons.injEq] at hurls
            exact ⟨url, hurls.left, more.map Url.asStr,
              ih.mpr ⟨more, hurls.right, rfl⟩, rfl⟩

theorem parseIrohRelays_iff {unique : List String} {urls : List Url}
    (hpackage : forall url, url ∈ urls -> PackageUrl P url allowLoopback ∧
      P.urlPath url = "/") :
    (exists parsed, parseIrohRelays P allowLoopback unique
      (urls.map Url.asStr) = Except.ok parsed) <->
      (forall url, url ∈ urls -> CoreUrl P url ∧ url.asStr ∉ unique) ∧
        (urls.map Url.asStr).Nodup := by
  induction urls generalizing unique with
  | nil =>
      constructor
      · intro _
        exact ⟨fun _ hurl => absurd hurl List.not_mem_nil, List.nodup_nil⟩
      · intro _
        exact ⟨[], rfl⟩
  | cons url rest ih =>
      rcases hpackage url List.mem_cons_self with ⟨hurl, hpath⟩
      have hrest := @ih (url.asStr :: unique) fun other hother =>
        hpackage other (List.mem_cons_of_mem _ hother)
      rw [List.map_cons, List.nodup_cons]
      unfold parseIrohRelays
      simp only [bind_eq_ok, okOr_eq_ok, rejectIf_eq_ok, exists_unit, pure_eq_ok,
        not_or, not_not, gt_iff_lt, Nat.not_lt, hurl.parse_asStr, ne_eq]
      constructor
      · intro h
        rcases h with ⟨parsed, hsize, found, hfound, hchecks, more, hmore, _⟩
        injection hfound with hfound
        subst hfound
        rcases hchecks with ⟨husable, _, hnew⟩
        rcases hrest.mp ⟨more, hmore⟩ with ⟨hall, hnodup⟩
        refine ⟨?_, ?_, hnodup⟩
        · intro other hother
          rcases List.mem_cons.mp hother with rfl | hother
          · exact ⟨hurl.usable_iff.mp ⟨hsize, husable⟩, hnew⟩
          · rcases hall other hother with ⟨hcore, hfresh⟩
            exact ⟨hcore, fun hmem => hfresh (List.mem_cons_of_mem _ hmem)⟩
        · intro hmem
          rcases List.mem_map.mp hmem with ⟨other, hother, heq⟩
          exact (hall other hother).right (heq ▸ List.mem_cons_self)
      · intro h
        rcases h with ⟨hall, hnew, hnodup⟩
        rcases hall url List.mem_cons_self with ⟨hcore, hfresh⟩
        have hgood := hurl.usable_iff.mpr hcore
        have hmore : (forall other, other ∈ rest -> CoreUrl P other ∧
            other.asStr ∉ url.asStr :: unique) ∧
              (rest.map Url.asStr).Nodup := by
          refine ⟨?_, hnodup⟩
          intro other hother
          rcases hall other (List.mem_cons_of_mem _ hother) with ⟨hother', hold⟩
          refine ⟨hother', ?_⟩
          intro hmem
          rcases List.mem_cons.mp hmem with heq | hmem
          · exact hnew (heq ▸ List.mem_map_of_mem hother)
          · exact hold hmem
        rcases hrest.mpr hmore with ⟨parsed, hparsed⟩
        exact ⟨url :: parsed, hgood.left, url, rfl,
          ⟨hgood.right, hpath, hfresh⟩, parsed, hparsed, rfl⟩

theorem requireRelays_ok {items : List (Option JsValue)}
    {relays : List (Option Url)}
    (h : requireRelays P allowLoopback items = Except.ok relays) :
    relays.length = items.length ∧ forall url, some url ∈ relays ->
      PackageUrl P url allowLoopback ∧ P.urlPath url = "/" := by
  induction items generalizing relays with
  | nil =>
      unfold requireRelays at h
      rw [pure_eq_ok] at h
      rw [← h]
      exact ⟨rfl, fun _ hurl => absurd hurl List.not_mem_nil⟩
  | cons item rest ih =>
      cases item with
      | none =>
          unfold requireRelays at h
          simp only [bind_eq_ok, pure_eq_ok] at h
          rcases h with ⟨more, hmore, rfl⟩
          rcases ih hmore with ⟨hlength, hall⟩
          refine ⟨congrArg Nat.succ hlength, ?_⟩
          intro url hurl
          rcases List.mem_cons.mp hurl with heq | hurl
          · cases heq
          · exact hall url hurl
      | some value =>
          unfold requireRelays at h
          simp only [bind_eq_ok, pure_eq_ok] at h
          rcases h with ⟨found, hfound, more, hmore, rfl⟩
          rcases ih hmore with ⟨hlength, hall⟩
          refine ⟨congrArg Nat.succ hlength, ?_⟩
          intro url hurl
          rcases List.mem_cons.mp hurl with heq | hurl
          · injection heq with heq
            rw [heq]
            rcases requireUrl_ok hfound with ⟨hpackage, hpath⟩
            exact ⟨hpackage, hpath rfl⟩
          · exact hall url hurl

theorem requireIrohRelays_ok {value : JsValue} {relays : List (Option Url)}
    (h : requireIrohRelays P value allowLoopback = Except.ok relays) :
    1 ≤ relays.length ∧ relays.length ≤ maxRelays ∧ relays.Nodup ∧
      forall url, some url ∈ relays ->
        PackageUrl P url allowLoopback ∧ P.urlPath url = "/" := by
  cases value with
  | array items =>
      unfold requireIrohRelays at h
      simp only [bind_eq_ok, rejectIf_eq_ok, exists_unit, pure_eq_ok, not_or,
        not_not, gt_iff_lt, Nat.not_lt] at h
      rcases h with ⟨hlength, found, hfound, hnodup, rfl⟩
      rcases requireRelays_ok hfound with ⟨hsame, hall⟩
      rw [hsame]
      exact ⟨hlength.left, hlength.right, hnodup, hall⟩
  | undefined => cases h
  | null => cases h
  | boolean value => cases h
  | number truthy => cases h
  | string units => cases h
  | record fields => cases h
  | object => cases h

theorem publishRelays_iff {value : JsValue} {relays : List (Option Url)}
    (h : requireIrohRelays P value allowLoopback = Except.ok relays) :
    (exists urls, publishRelays P relays allowLoopback = Except.ok urls) <->
      forall relay, relay ∈ relays -> exists url, relay = some url ∧
        CoreUrl P url := by
  rcases requireIrohRelays_ok h with ⟨hsome, hbounded, hnodup, hall⟩
  unfold publishRelays validateIrohRelays
  simp only [bind_eq_ok, rejectIf_eq_ok, exists_unit, not_or, gt_iff_lt,
    Nat.not_lt]
  constructor
  · intro hok
    rcases hok with ⟨parsed, strings, hstrings, _, hparsed⟩
    rcases relayStrings_eq_ok.mp hstrings with ⟨urls, rfl, rfl⟩
    have hgood := (parseIrohRelays_iff fun url hurl =>
      hall url (List.mem_map_of_mem hurl)).mp ⟨parsed, hparsed⟩
    intro relay hrelay
    rcases List.mem_map.mp hrelay with ⟨url, hurl, rfl⟩
    exact ⟨url, rfl, (hgood.left url hurl).left⟩
  · intro hgood
    have hfull : relays = (relays.filterMap id).map some := by
      clear h hsome hbounded hnodup hall
      induction relays with
      | nil => rfl
      | cons relay rest ih =>
          rcases hgood relay List.mem_cons_self with ⟨url, rfl, _⟩
          change some url :: rest = some url :: (rest.filterMap id).map some
          rw [← ih fun other hother =>
            hgood other (List.mem_cons_of_mem _ hother)]
    let urls := relays.filterMap id
    have hmem : forall url, url ∈ urls -> some url ∈ relays := by
      intro url hurl
      rw [hfull]
      exact List.mem_map_of_mem hurl
    have hlength : urls.length = relays.length := by
      have hsame := congrArg List.length hfull
      rw [List.length_map] at hsame
      exact hsame.symm
    have hdistinct : (urls.map Url.asStr).Nodup := by
      rw [hfull] at hnodup
      refine List.Nodup.map ?_ (List.Nodup.of_map _ hnodup)
      intro first second heq
      cases first
      cases second
      exact congrArg Url.mk heq
    have hparsed : exists parsed, parseIrohRelays P allowLoopback []
        (urls.map Url.asStr) = Except.ok parsed := by
      refine (parseIrohRelays_iff fun url hurl =>
        hall url (hmem url hurl)).mpr ⟨?_, hdistinct⟩
      intro url hurl
      rcases hgood (some url) (hmem url hurl) with ⟨found, hfound, hcore⟩
      injection hfound with hfound
      rw [hfound]
      exact ⟨hcore, List.not_mem_nil⟩
    rcases hparsed with ⟨parsed, hparsed⟩
    refine ⟨parsed, urls.map Url.asStr,
      relayStrings_eq_ok.mpr ⟨urls, hfull, rfl⟩, ⟨?_, ?_⟩, hparsed⟩
    · intro hnil
      rw [List.map_eq_nil_iff] at hnil
      rw [hnil] at hlength
      change 0 = relays.length at hlength
      omega
    · rw [List.length_map, hlength]
      exact hbounded

end Relays

/-!
# Texts that both sides take
-/

section Texts

variable {units : Utf16} {maximum : Nat} {code : Failure}

/-- The control characters that the package's pattern leaves out. -/
def upperControl (c : Char) : Bool :=
  decide (0x80 ≤ c.toNat) && decide (c.toNat < 0xa0)

/-- What the core asks of a text beyond the package's checks. -/
structure CoreText (text : String) (maximum : Nat) : Prop where
  bounded : text.utf8ByteSize ≤ maximum
  controls : text.toList.any upperControl = false

theorem requireBoundedText_ok {value : JsValue}
    (h : requireBoundedText value maximum code = Except.ok units) :
    value = JsValue.string units ∧ units ≠ [] ∧
      units.any controlUnit = false := by
  cases value with
  | string found =>
      unfold requireBoundedText at h
      simp only [bind_eq_ok, rejectIf_eq_ok, exists_unit, pure_eq_ok, not_or,
        Bool.not_eq_true] at h
      rcases h with ⟨⟨hne, _, hcontrols⟩, rfl⟩
      exact ⟨rfl, hne, hcontrols⟩
  | undefined => cases h
  | null => cases h
  | boolean value => cases h
  | number truthy => cases h
  | array items => cases h
  | record fields => cases h
  | object => cases h

theorem any_isControl_toText (h : units.any controlUnit = false) :
    (Utf16.toText units).toList.any isControl =
      (Utf16.toText units).toList.any upperControl := by
  have hlow : forall c, c ∈ (Utf16.toText units).toList ->
      (decide (c.toNat ≤ 0x1f) || c.toNat == 0x7f) = false :=
    @Utf16.not_mark_of_units units (fun n => decide (n ≤ 0x1f) || n == 0x7f) h rfl
      (fun n hn => by
        rw [Bool.or_eq_false_iff, decide_eq_false_iff_not, beq_eq_false_iff_ne]
        omega)
  rw [Bool.eq_iff_iff, List.any_eq_true, List.any_eq_true]
  refine exists_congr fun c => and_congr_right ?_
  intro hc
  have hplain := hlow c hc
  rw [Bool.or_eq_false_iff, decide_eq_false_iff_not, beq_eq_false_iff_ne] at hplain
  unfold isControl upperControl
  simp only [Bool.or_eq_true, Bool.and_eq_true, decide_eq_true_eq]
  omega

theorem any_hostMark_toText
    (h : units.any (fun unit => hostMark unit.toNat) = false) :
    (Utf16.toText units).toList.any (fun c => hostMark c.toNat) = false := by
  rw [List.any_eq_false]
  intro c hc
  rw [Utf16.not_mark_of_units h rfl (fun n hn => by
    unfold hostMark
    simp only [Bool.or_eq_false_iff, beq_eq_false_iff_ne]
    omega) c hc]
  exact Bool.false_ne_true

theorem validateTestnetHost_iff (hne : units ≠ [])
    (hcontrols : units.any controlUnit = false)
    (hmarks : units.any (fun unit => hostMark unit.toNat) = false) :
    validateTestnetHost (Utf16.toText units) = Except.ok () <->
      CoreText (Utf16.toText units) maxTestnetHostBytes := by
  unfold validateTestnetHost
  simp only [rejectIf_eq_ok, not_or, gt_iff_lt, Nat.not_lt, Bool.not_eq_true,
    any_isControl_toText hcontrols, any_hostMark_toText hmarks,
    Utf16.toText_eq_empty]
  constructor
  · intro h
    exact ⟨h.right.left, h.right.right.right⟩
  · intro h
    exact ⟨hne, h.bounded, trivial, h.controls⟩

theorem validateDeviceId_iff (hne : units ≠ [])
    (hcontrols : units.any controlUnit = false) :
    validateDeviceId (Utf16.toText units) = Except.ok () <->
      CoreText (Utf16.toText units) maxDeviceIdBytes ∧
        (Utf16.toText units).toList.all isWhitespace = false := by
  unfold validateDeviceId unusableText
  simp only [rejectIf_eq_ok, not_or, gt_iff_lt, Nat.not_lt, Bool.not_eq_true,
    any_isControl_toText hcontrols, Utf16.toText_eq_empty]
  constructor
  · intro h
    exact ⟨⟨h.right.left, h.right.right.left⟩, h.right.right.right⟩
  · intro h
    exact ⟨hne, h.left.bounded, h.left.controls, h.right⟩

end Texts

/-!
# Accepted configurations
-/

section Accepted

variable {P : Primitives} [UrlParts P] {input : JsValue} {config : BrowserConfig}

/-- The URL that a value of the configuration names. -/
def JsValue.url (P : Primitives) [UrlParts P] (value : JsValue) : Option Url :=
  match value with
  | JsValue.string units => UrlParts.parse P (Utf16.toText units)
  | _ => none

/-- What the core asks of an accepted configuration beyond the package's checks. -/
structure CoreForm (P : Primitives) [UrlParts P] (input : JsValue) : Prop where
  httpRelay (url : Url) :
    (input.get "httpRelay").url P = some url -> CoreUrl P url
  irohRelays (items : List (Option JsValue)) (item : Option JsValue) :
    input.get "irohRelays" = JsValue.array items -> item ∈ items ->
      exists value url, item = some value ∧ value.url P = some url ∧
        CoreUrl P url
  pubkyHost (units : Utf16) :
    (input.get "testnet").get "pubkyHost" = JsValue.string units ->
      CoreText (Utf16.toText units) maxTestnetHostBytes
  deviceId (units : Utf16) :
    input.get "deviceId" = JsValue.string units ->
      CoreText (Utf16.toText units) maxDeviceIdBytes ∧
        (Utf16.toText units).toList.all isWhitespace = false

theorem requireUrl_url {value : JsValue} {authRelay allowLoopback : Bool}
    {code : Failure} {url : Url}
    (h : requireUrl P value authRelay allowLoopback code = Except.ok url) :
    value.url P = some url := by
  unfold requireUrl at h
  simp only [bind_eq_ok, okOr_eq_ok, exists_unit, pure_eq_ok] at h
  rcases h with ⟨units, htext, found, hparse, _, rfl⟩
  rw [(requireBoundedText_ok htext).left]
  exact hparse

theorem requireRelays_eq {items : List (Option JsValue)} {allowLoopback : Bool}
    {relays : List (Option Url)}
    (h : requireRelays P allowLoopback items = Except.ok relays) :
    relays = items.map fun item => item.bind fun value => value.url P := by
  induction items generalizing relays with
  | nil =>
      unfold requireRelays at h
      rw [pure_eq_ok] at h
      exact h.symm
  | cons item rest ih =>
      cases item with
      | none =>
          unfold requireRelays at h
          simp only [bind_eq_ok, pure_eq_ok] at h
          rcases h with ⟨more, hmore, rfl⟩
          rw [ih hmore]
          rfl
      | some value =>
          unfold requireRelays at h
          simp only [bind_eq_ok, pure_eq_ok] at h
          rcases h with ⟨found, hfound, more, hmore, rfl⟩
          rw [ih hmore, ← requireUrl_url hfound]
          rfl

theorem requireIrohRelays_eq {value : JsValue} {allowLoopback : Bool}
    {relays : List (Option Url)}
    (h : requireIrohRelays P value allowLoopback = Except.ok relays) :
    exists items, value = JsValue.array items ∧
      relays = items.map fun item => item.bind fun value => value.url P := by
  cases value with
  | array items =>
      unfold requireIrohRelays at h
      simp only [bind_eq_ok, exists_unit, pure_eq_ok] at h
      rcases h with ⟨_, found, hfound, _, rfl⟩
      exact ⟨items, rfl, requireRelays_eq hfound⟩
  | undefined => cases h
  | null => cases h
  | boolean value => cases h
  | number truthy => cases h
  | string units => cases h
  | record fields => cases h
  | object => cases h

theorem published_iff {value : JsValue} {allowLoopback : Bool}
    {relays : List (Option Url)}
    (h : requireIrohRelays P value allowLoopback = Except.ok relays) :
    (exists urls, publishRelays P relays allowLoopback = Except.ok urls) <->
      forall items item, value = JsValue.array items -> item ∈ items ->
        exists found url, item = some found ∧ found.url P = some url ∧
          CoreUrl P url := by
  rw [publishRelays_iff h]
  rcases requireIrohRelays_eq h with ⟨items, rfl, rfl⟩
  constructor
  · intro hall others item heq hitem
    injection heq with heq
    subst heq
    rcases hall _ (List.mem_map_of_mem hitem) with ⟨url, hurl, hcore⟩
    rcases Option.bind_eq_some_iff.mp hurl with ⟨found, hfound, hparsed⟩
    exact ⟨found, url, hfound, hparsed, hcore⟩
  · intro hall relay hrelay
    rcases List.mem_map.mp hrelay with ⟨item, hitem, rfl⟩
    rcases hall items item rfl hitem with ⟨found, url, rfl, hparsed, hcore⟩
    exact ⟨url, hparsed, hcore⟩

theorem requireTestnetHost_ok {testnet : JsValue} {host : Option Utf16}
    (h : requireTestnetHost testnet = Except.ok host) :
    (testnet = JsValue.undefined ∧ host = none) ∨ exists units,
      host = some units ∧
        testnet.get "pubkyHost" = JsValue.string units ∧ units ≠ [] ∧
        units.any controlUnit = false ∧
        units.any (fun unit => hostMark unit.toNat) = false := by
  unfold requireTestnetHost at h
  split at h
  · rename_i hundefined
    rw [pure_eq_ok] at h
    cases testnet with
    | undefined => exact Or.inl ⟨rfl, h.symm⟩
    | null => cases hundefined
    | boolean value => cases hundefined
    | number truthy => cases hundefined
    | string units => cases hundefined
    | array items => cases hundefined
    | record fields => cases hundefined
    | object => cases hundefined
  · simp only [bind_eq_ok, rejectIf_eq_ok, exists_unit, pure_eq_ok,
      Bool.not_eq_true] at h
    rcases h with ⟨_, units, htext, hmarks, rfl⟩
    rcases requireBoundedText_ok htext with ⟨hstring, hne, hcontrols⟩
    exact Or.inr ⟨units, rfl, hstring, hne, hcontrols, hmarks⟩

/-- Both sides read the same flag from the test network's value. -/
theorem truthy_of_requireTestnetHost {testnet : JsValue} {host : Option Utf16}
    (h : requireTestnetHost testnet = Except.ok host) :
    testnet.truthy = host.isSome := by
  rcases requireTestnetHost_ok h with ⟨rfl, rfl⟩ | ⟨units, rfl, hunits, _⟩
  · rfl
  · cases testnet with
    | record fields => rfl
    | undefined => cases hunits
    | null => cases hunits
    | boolean value => cases hunits
    | number truthy => cases hunits
    | string units => cases hunits
    | array items => cases hunits
    | object => cases hunits

theorem testnetHost_iff {testnet : JsValue} {host : Option Utf16}
    (h : requireTestnetHost testnet = Except.ok host) :
    (forall units, host = some units ->
      validateTestnetHost (Utf16.toText units) = Except.ok ()) <->
      forall units, testnet.get "pubkyHost" = JsValue.string units ->
        CoreText (Utf16.toText units) maxTestnetHostBytes := by
  rcases requireTestnetHost_ok h with
    ⟨rfl, rfl⟩ | ⟨found, rfl, hfound, hne, hcontrols, hmarks⟩
  · constructor
    · intro _ units hunits
      cases hunits
    · intro _ units hunits
      cases hunits
  · have hvalid := validateTestnetHost_iff hne hcontrols hmarks
    constructor
    · intro hall units hunits
      rw [hfound] at hunits
      injection hunits with hunits
      rw [← hunits]
      exact hvalid.mp (hall found rfl)
    · intro hall units hunits
      injection hunits with hunits
      rw [← hunits]
      exact hvalid.mpr (hall found hfound)

theorem validateDeviceId_default :
    validateDeviceId (Utf16.toText (Utf16.ofText "browser")) = Except.ok () := by
  decide

theorem deviceId_iff {deviceId : JsValue} {units : Utf16}
    (h : requireDeviceId deviceId = Except.ok units) :
    validateDeviceId (Utf16.toText units) = Except.ok () <->
      forall found, deviceId = JsValue.string found ->
        CoreText (Utf16.toText found) maxDeviceIdBytes ∧
          (Utf16.toText found).toList.all isWhitespace = false := by
  unfold requireDeviceId at h
  split at h
  · rename_i hundefined
    rw [pure_eq_ok] at h
    rw [← h]
    constructor
    · intro _ found hfound
      rw [hfound] at hundefined
      cases hundefined
    · intro _
      exact validateDeviceId_default
  · rcases requireBoundedText_ok h with ⟨rfl, hne, hcontrols⟩
    rw [validateDeviceId_iff hne hcontrols]
    constructor
    · intro hvalid found hfound
      injection hfound with hfound
      rw [← hfound]
      exact hvalid
    · intro hall
      exact hall units rfl

/--
What the package accepts, the core takes exactly when its relays name no bracketed
loopback host over HTTP, keep within the bound once serialized and have no empty
query or fragment, when the relay array has no hole, and when its texts keep
within the byte bounds, have no upper control character and name a device by more
than blanks.
-/
theorem accepted_config_taken
    (h : validateConfig P input = Except.ok config) :
    CoreAccepts P config <-> CoreForm P input := by
  unfold validateConfig at h
  simp only [bind_eq_ok, rejectIf_eq_ok, exists_unit, pure_eq_ok, not_and_or,
    not_not, ne_eq] at h
  rcases h with ⟨_, clientId, _, httpRelay, hhttp, hpath, irohRelays, hiroh,
    testnetHost, htestnet, deviceId, hdevice, rfl⟩
  have hflag := truthy_of_requireTestnetHost htestnet
  rw [hflag] at hhttp hiroh
  have hauth := validateAuthRelay_iff (requireUrl_ok hhttp).left hpath
  have hrelays := published_iff hiroh
  have hhost := testnetHost_iff htestnet
  have hid := deviceId_iff hdevice
  constructor
  · intro haccepts
    refine ⟨?_, ?_, hhost.mp haccepts.testnetHost, hid.mp haccepts.deviceId⟩
    · intro url hurl
      rw [requireUrl_url hhttp] at hurl
      injection hurl with hurl
      rw [← hurl]
      exact hauth.mp haccepts.authRelay
    · intro items item hitems hitem
      exact hrelays.mp haccepts.irohRelays items item hitems hitem
  · intro hform
    refine ⟨?_, ?_, hhost.mpr hform.pubkyHost, hid.mpr hform.deviceId⟩
    · exact hauth.mpr (hform.httpRelay httpRelay (requireUrl_url hhttp))
    · exact hrelays.mpr hform.irohRelays

end Accepted

/-!
# Loopback relays
-/

def loopbackConfig (host : String) : JsValue :=
  JsValue.record
    [("clientId", JsValue.string (Utf16.ofText "p2p.test")),
      ("httpRelay", JsValue.string (Utf16.ofText
        ("http://" ++ host ++ ":15412/inbox/"))),
      ("irohRelays", JsValue.array [some (JsValue.string (Utf16.ofText
        ("http://" ++ host ++ ":3340/")))]),
      ("testnet", JsValue.record
        [("enabled", JsValue.boolean true),
          ("pubkyHost", JsValue.string (Utf16.ofText "localhost"))])]

def keptConfig (host : String) : BrowserConfig :=
  { clientId := Utf16.ofText "p2p.test"
    httpRelay := { asStr := "http://" ++ host ++ ":15412/inbox/" }
    irohRelays := [some { asStr := "http://" ++ host ++ ":3340/" }]
    testnetHost := some (Utf16.ofText "localhost")
    allowLoopbackTestnet := true
    deviceId := Utf16.ofText "browser" }

theorem loopbackConfig_ipv4 :
    validateConfig Reference.sample (loopbackConfig "127.0.0.1") =
      Except.ok (keptConfig "127.0.0.1") := by
  rfl

theorem loopbackConfig_ipv6 :
    validateConfig Reference.sample (loopbackConfig "[::1]") =
      Except.ok (keptConfig "[::1]") := by
  rfl

theorem coreUrl_loopback (path : String)
    (h : path = ":15412/inbox/" ∨ path = ":3340/") :
    CoreUrl Reference.sample { asStr := "http://127.0.0.1" ++ path } := by
  rcases h with rfl | rfl
  · exact ⟨by decide, rfl, rfl, fun _ => by decide⟩
  · exact ⟨by decide, rfl, rfl, fun _ => by decide⟩

/-- The core takes the configuration with the IPv4 loopback relays. -/
theorem accepted_config_taken_sample :
    CoreAccepts Reference.sample (keptConfig "127.0.0.1") := by
  refine (accepted_config_taken loopbackConfig_ipv4).mpr ⟨?_, ?_, ?_, ?_⟩
  · intro url hurl
    have hparse : some url = some ({ asStr := "http://127.0.0.1:15412/inbox/" } : Url) :=
      hurl.symm.trans rfl
    injection hparse with hparse
    rw [hparse]
    exact coreUrl_loopback _ (Or.inl rfl)
  · intro items item hitems hitem
    change JsValue.array [some (JsValue.string (Utf16.ofText
      "http://127.0.0.1:3340/"))] = JsValue.array items at hitems
    injection hitems with hitems
    rw [← hitems, List.mem_singleton] at hitem
    exact ⟨_, _, hitem, rfl, coreUrl_loopback _ (Or.inr rfl)⟩
  · intro units hunits
    change JsValue.string (Utf16.ofText "localhost") = JsValue.string units at hunits
    injection hunits with hunits
    rw [← hunits]
    exact ⟨by decide, by decide⟩
  · intro units hunits
    cases hunits

/-- The package accepts the IPv6 loopback relays, and the core refuses them. -/
theorem ipv6_config_refused :
    validateConfig Reference.sample (loopbackConfig "[::1]") =
        Except.ok (keptConfig "[::1]") ∧
      validateAuthRelay Reference.sample "http://[::1]:15412/inbox/" true =
        Except.error "auth-relay-invalid" ∧
      ¬ CoreAccepts Reference.sample (keptConfig "[::1]") := by
  have hrefused : validateAuthRelay Reference.sample "http://[::1]:15412/inbox/"
      true = Except.error "auth-relay-invalid" := by
    rfl
  refine ⟨loopbackConfig_ipv6, hrefused, ?_⟩
  intro haccepts
  rcases haccepts.authRelay with ⟨url, hurl⟩
  exact absurd (hrefused.symm.trans hurl) (by simp only [reduceCtorEq, not_false_eq_true])

end Browser
end Pubky2Pubky
