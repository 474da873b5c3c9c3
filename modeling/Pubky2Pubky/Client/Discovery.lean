import Mathlib.Data.List.Forall2
import Mathlib.Data.String.Basic
import Pubky2Pubky.Protocol.Reference
import Pubky2Pubky.Client.Handshake

/-!
# Discovery of devices

The resolver lists the device paths of an identity, fetches and verifies each
record, and returns the devices in a fixed order. The dialer then tries the
devices it asked for, one after another.
-/

namespace Pubky2Pubky
namespace Client

open Foundation Protocol

def v1MaxDevices : Nat := 8

def absoluteMaxTotalBytes : Nat := 8 * v1MaxDeviceRecordBytes

/-- The bounds of discovery; durations are in milliseconds. -/
structure V1DiscoveryConfig where
  connectTimeout : Nat
  overallTimeout : Nat
  recordMaxBytes : Nat
  totalRecordMaxBytes : Nat
  currentnessMaxBytes : Nat
  allowInsecureLoopbackRelay : Bool

def V1DiscoveryConfig.validate (self : V1DiscoveryConfig) : ClientResult Unit :=
  rejectIf (self.connectTimeout = 0 ∨ self.overallTimeout = 0 ∨
      self.connectTimeout > self.overallTimeout ∨
      self.recordMaxBytes = 0 ∨
      self.recordMaxBytes > v1MaxDeviceRecordBytes ∨
      self.totalRecordMaxBytes < self.recordMaxBytes ∨
      self.totalRecordMaxBytes > absoluteMaxTotalBytes ∨
      self.currentnessMaxBytes = 0 ∨
      self.currentnessMaxBytes > v1MaxCurrentnessProofBytes)
    (ClientError.discovery "invalid v1 discovery resource bounds")

/-!
# Public storage
-/

/-- An answer of the storage, whose body arrives in chunks. -/
inductive PublicResponse where
  | elapsed
  | failed (text : String)
  | body (declared : Option Nat) (chunks : List (Except String Bytes))

structure ListEntry (P : Primitives) where
  owner : P.PublicKey
  path : String

/-- The answers of the storage, with the clock at which each is verified. -/
structure PublicStorage (P : Primitives) where
  list : String -> Except String (List (ListEntry P))
  get : String -> PublicResponse
  now : String -> UInt64

/-- Readers of the key package and of the JSON package. -/
class DiscoveryReaders (P : Primitives) where
  parsePublicKey : String -> Option P.PublicKey
  recordFromSlice : Bytes -> Option V1DeviceRecord
  parsePublicKey_z32 (key : P.PublicKey) : parsePublicKey (P.z32 key) = some key

section Resolver

variable (P : Primitives) [DiscoveryReaders P]

def canonicalIdentity (identity : String) : ClientResult String := do
  let key <- okOr (DiscoveryReaders.parsePublicKey (P := P) identity)
    (ClientError.discovery "invalid Pubky identity")
  rejectIf (P.z32 key ≠ identity)
    (ClientError.discovery "Pubky identity is not canonical")
  pure (P.z32 key)

def addressed (identity path : String) : ClientResult String := do
  let identity <- canonicalIdentity P identity
  rejectIf (path.toList.head? ≠ some '/' ∨ ['.', '.'] <:+: path.toList ∨
      path.toList.any (fun c => c == '?' || c == '#' || c == '\\') = true)
    (ClientError.discovery "invalid v1 public-storage path")
  pure ("pubky://" ++ identity ++ path)

/-- The path has a canonical digest between the leading part and the extension. -/
def validateHashPath (path leading label : String) : ClientResult Unit := do
  let invalid := ClientError.discovery ("invalid " ++ label ++ " path")
  rejectIf (leading.toList.isPrefixOf path.toList = false) invalid
  let name := path.toList.drop leading.toList.length
  rejectIf (".json".toList.isSuffixOf name = false) invalid
  let digest := String.ofList (name.take (name.length - 5))
  rejectIf ('/' ∈ digest.toList) invalid
  let bytes <- okOr (P.base64Decode digest) invalid
  rejectIf (bytes.length ≠ 32 ∨ P.base64Encode bytes ≠ digest) invalid

def validateDevicePath (path : String) : ClientResult Unit :=
  validateHashPath P path v1DeviceRecordPathPrefix "v1 device record"

def validateCurrentnessPath (path : String) : ClientResult Unit :=
  validateHashPath P path v1CurrentnessPathPrefix "v1 currentness proof"

def readChunks (maximum : Nat) (bytes : Bytes) :
    List (Except String Bytes) -> ClientResult Bytes
  | [] => pure bytes
  | Except.error text :: _ => Except.error (ClientError.discovery text)
  | Except.ok chunk :: rest => do
      rejectIf (chunk.length > maximum - bytes.length)
        (ClientError.discovery "v1 discovery record exceeds byte limit")
      readChunks maximum (bytes ++ chunk) rest

def fetchBounded (storage : PublicStorage P) (address : String)
    (maximum : Nat) : ClientResult Bytes :=
  match storage.get address with
  | PublicResponse.elapsed =>
      Except.error (ClientError.timeout "connecting to v1 Pubky public storage")
  | PublicResponse.failed text => Except.error (ClientError.discovery text)
  | PublicResponse.body declared chunks => do
      rejectIf (declared.any (fun length => decide (length > maximum)) = true)
        (ClientError.discovery "v1 discovery record declares an oversized body")
      readChunks maximum [] chunks

def decodeAndVerify (input : Bytes) (expectedIdentity : String) (now : UInt64)
    (allowLoopbackDev : Bool) (minimumSequence : Option UInt64) :
    Result V1DeviceRecord := do
  rejectIf (input.length > v1MaxDeviceRecordBytes)
    (ProtocolError.invalidEncoding "v1 device record size")
  let record <- okOr (DiscoveryReaders.recordFromSlice (P := P) input)
    ProtocolError.json
  record.verify P expectedIdentity now allowLoopbackDev minimumSequence
  pure record

def fetchRecordInner (config : V1DiscoveryConfig) (storage : PublicStorage P)
    (identity path : String) : ClientResult ResolvedV1Device := do
  validateDevicePath P path
  let address <- addressed P identity path
  let bytes <- fetchBounded P storage address config.recordMaxBytes
  let record <- fromProtocol (decodeAndVerify P bytes identity
    (storage.now address) config.allowInsecureLoopbackRelay none)
  let found <- fromProtocol (record.path P)
  rejectIf (found ≠ path) ClientError.unexpectedPeer
  pure { path := path, record := record }

/-- The paths of the listing, each valid, owned by the identity and listed once. -/
def listedPaths (identity : String) (unique : List String) :
    List (ListEntry P) -> ClientResult (List String)
  | [] => pure []
  | entry :: rest => do
      rejectIf (P.z32 entry.owner ≠ identity) ClientError.unexpectedPeer
      validateDevicePath P entry.path
      rejectIf (entry.path ∈ unique)
        (ClientError.discovery "duplicate v1 device listing entry")
      let paths <- listedPaths identity (entry.path :: unique) rest
      pure (entry.path :: paths)

/-- The first record that cannot be used ends the listing. -/
def resolvePaths (config : V1DiscoveryConfig) (storage : PublicStorage P)
    (identity : String) (total : Nat) :
    List String -> ClientResult (List ResolvedV1Device)
  | [] => pure []
  | path :: rest => do
      let device <- fetchRecordInner P config storage identity path
      let sum := total + (P.jsonToVec device.record.toJson).length
      rejectIf (sum > config.totalRecordMaxBytes)
        (ClientError.discovery
          "v1 device records exceed aggregate byte limit")
      let devices <- resolvePaths config storage identity sum rest
      pure (device :: devices)

def deviceOrder (left right : ResolvedV1Device) : Bool :=
  let l := left.record.certificate.claims
  let r := right.record.certificate.claims
  decide (l.deviceId < r.deviceId ∨
    (l.deviceId = r.deviceId ∧ l.controlSigningKey ≤ r.controlSigningKey))

def resolveInner (config : V1DiscoveryConfig) (storage : PublicStorage P)
    (identity : String) : ClientResult (List ResolvedV1Device) := do
  let identity <- canonicalIdentity P identity
  let prefixAddress <- addressed P identity v1DeviceRecordPathPrefix
  let entries <-
    match storage.list prefixAddress with
    | Except.ok entries => pure entries
    | Except.error text => Except.error (ClientError.discovery text)
  rejectIf (entries.length > v1MaxDevices)
    (ClientError.discovery "v1 device listing exceeds the eight-device limit")
  let paths <- listedPaths P identity [] entries
  let sorted := paths.mergeSort fun left right => decide (left ≤ right)
  let devices <- resolvePaths P config storage identity 0 sorted
  pure (devices.mergeSort deviceOrder)

def resolveDevices (config : V1DiscoveryConfig) (storage : PublicStorage P)
    (elapsed : Bool) (identity : String) :
    ClientResult (List ResolvedV1Device) := do
  config.validate
  rejectIf (elapsed = true) (ClientError.timeout "listing v1 Pubky devices")
  resolveInner P config storage identity

end Resolver

/-!
# Dialing the devices
-/

/-- Attempts end with the first success. The attempted devices are kept. -/
def attemptEach (attempt : ResolvedV1Device -> ClientResult Peer) :
    List ResolvedV1Device -> List ResolvedV1Device × Option Peer
  | [] => ([], none)
  | candidate :: rest =>
      match attempt candidate with
      | Except.ok peer => ([candidate], some peer)
      | Except.error _ =>
          let (attempted, found) := attemptEach attempt rest
          (candidate :: attempted, found)

def candidates (devices : List ResolvedV1Device)
    (targetDeviceId : Option String) : List ResolvedV1Device :=
  ((devices.mergeSort deviceOrder).filter fun device =>
    targetDeviceId.all fun wanted =>
      device.record.certificate.claims.deviceId == wanted).take maxActiveRecords

def dialInner (attempt : ResolvedV1Device -> ClientResult Peer)
    (devices : List ResolvedV1Device) (targetDeviceId : Option String) :
    List ResolvedV1Device × ClientResult Peer :=
  let wanted := candidates devices targetDeviceId
  if wanted = [] then
    ([], Except.error (ClientError.discovery
      "requested v1 device is not currently published"))
  else
    match attemptEach attempt wanted with
    | (attempted, some peer) => (attempted, Except.ok peer)
    | (attempted, none) =>
        (attempted, Except.error (ClientError.iroh ("all " ++
          toString attempted.length ++ " bounded v1 device attempts failed")))

/-!
# Fetching one record
-/

theorem digest_of_path {leading digest other : String}
    (h : leading ++ digest ++ ".json" = leading ++ other ++ ".json") :
    digest = other := by
  have hchars := congrArg String.toList h
  rw [String.toList_append, String.toList_append, String.toList_append,
    String.toList_append, List.append_cancel_right_eq, List.append_cancel_left_eq]
    at hchars
  exact String.toList_injective hchars


/-- The storage delivers these bytes, within the bound and without a failure. -/
def PublicResponse.Serves (self : PublicResponse) (maximum : Nat)
    (bytes : Bytes) : Prop :=
  exists (declared : Option Nat) (parts : List Bytes),
    self = PublicResponse.body declared (parts.map Except.ok) ∧
    (forall length, declared = some length -> length ≤ maximum) ∧
    parts.flatten = bytes ∧ bytes.length ≤ maximum

/-- The answer at the path of the device is its record, valid for the identity. -/
def Live (P : Primitives) [DiscoveryReaders P] (config : V1DiscoveryConfig)
    (storage : PublicStorage P) (identity : String)
    (device : ResolvedV1Device) : Prop :=
  let address := "pubky://" ++ identity ++ device.path
  exists bytes, (storage.get address).Serves config.recordMaxBytes bytes ∧
    DiscoveryReaders.recordFromSlice (P := P) bytes = some device.record ∧
    device.record.verify P identity (storage.now address)
      config.allowInsecureLoopbackRelay none = Except.ok () ∧
    device.record.path P = Except.ok device.path

section Fetching

variable {P : Primitives} {config : V1DiscoveryConfig} {identity path : String}

theorem readChunks_eq_ok {maximum : Nat} {start bytes : Bytes}
    {chunks : List (Except String Bytes)} (hstart : start.length ≤ maximum) :
    readChunks maximum start chunks = Except.ok bytes <->
      exists parts : List Bytes, chunks = parts.map Except.ok ∧
        start ++ parts.flatten = bytes ∧ bytes.length ≤ maximum := by
  induction chunks generalizing start with
  | nil =>
      unfold readChunks
      rw [pure_eq_ok]
      constructor
      · intro h
        rw [← h]
        exact ⟨[], rfl, List.append_nil start, hstart⟩
      · intro h
        rcases h with ⟨parts, hparts, hbytes, _⟩
        rw [List.map_eq_nil_iff.mp hparts.symm] at hbytes
        rw [← hbytes]
        exact (List.append_nil start).symm
  | cons chunk rest ih =>
      cases chunk with
      | error text =>
          unfold readChunks
          constructor
          · intro h
            cases h
          · intro h
            rcases h with ⟨parts, hparts, _⟩
            cases parts with
            | nil => cases hparts
            | cons part more => cases hparts
      | ok chunk =>
          unfold readChunks
          simp only [bind_eq_ok, rejectIf_eq_ok, exists_unit, gt_iff_lt, Nat.not_lt]
          constructor
          · intro h
            rcases h with ⟨hfits, hrest⟩
            have hlonger : (start ++ chunk).length ≤ maximum := by
              rw [List.length_append]
              omega
            rcases (ih hlonger).mp hrest with ⟨parts, rfl, hbytes, hbound⟩
            rw [List.append_assoc] at hbytes
            exact ⟨chunk :: parts, rfl, hbytes, hbound⟩
          · intro h
            rcases h with ⟨parts, hparts, hbytes, hbound⟩
            cases parts with
            | nil => cases hparts
            | cons part more =>
                rw [List.map_cons, List.cons.injEq] at hparts
                rcases hparts with ⟨hpart, hmore⟩
                injection hpart with hpart
                rw [List.flatten_cons, ← List.append_assoc, ← hpart] at hbytes
                have hlonger : (start ++ chunk).length ≤ maximum := by
                  rw [← hbytes, List.length_append] at hbound
                  omega
                refine ⟨?_, (ih hlonger).mpr ⟨more, hmore, hbytes, hbound⟩⟩
                rw [List.length_append] at hlonger
                omega

theorem fetchBounded_eq_ok {storage : PublicStorage P} {address : String}
    {maximum : Nat} {bytes : Bytes} :
    fetchBounded P storage address maximum = Except.ok bytes <->
      (storage.get address).Serves maximum bytes := by
  unfold fetchBounded PublicResponse.Serves
  cases storage.get address with
  | elapsed =>
      constructor
      · intro h
        cases h
      · intro h
        rcases h with ⟨declared, parts, hbody, _⟩
        cases hbody
  | failed text =>
      constructor
      · intro h
        cases h
      · intro h
        rcases h with ⟨declared, parts, hbody, _⟩
        cases hbody
  | body declared chunks =>
      have hdeclared :
          (declared.any (fun length => decide (length > maximum)) ≠ true) <->
            forall length, declared = some length -> length ≤ maximum := by
        cases declared with
        | none =>
            constructor
            · intro _ length hlength
              cases hlength
            · intro _
              exact Bool.false_ne_true
        | some declared =>
            change decide (declared > maximum) ≠ true <-> _
            rw [ne_eq, decide_eq_true_eq, gt_iff_lt, Nat.not_lt]
            constructor
            · intro hle length hlength
              injection hlength with hlength
              rw [← hlength]
              exact hle
            · intro hall
              exact hall declared rfl
      simp only [bind_eq_ok, rejectIf_eq_ok, exists_unit]
      rw [← ne_eq, hdeclared, readChunks_eq_ok (Nat.zero_le _)]
      constructor
      · intro h
        rcases h with ⟨hbound, parts, rfl, hbytes, hlength⟩
        exact ⟨declared, parts, rfl, hbound, hbytes, hlength⟩
      · intro h
        rcases h with ⟨found, parts, hbody, hbound, hbytes, hlength⟩
        injection hbody with hfound hchunks
        rw [hfound]
        exact ⟨hbound, parts, hchunks, hbytes, hlength⟩

/-- A valid path is made of the leading part, a digest and the extension. -/
theorem validateHashPath_ok {leading label : String}
    (h : validateHashPath P path leading label = Except.ok ()) :
    exists bytes, bytes.length = 32 ∧ path.toList = leading.toList ++
      ((P.base64Encode bytes).toList ++ ".json".toList) := by
  unfold validateHashPath at h
  simp only [bind_eq_ok, okOr_eq_ok, rejectIf_eq_ok, exists_unit, not_or, not_not,
    ne_eq, Bool.not_eq_false] at h
  rcases h with ⟨hleading, hextension, _, bytes, _, hsize, hcanonical⟩
  refine ⟨bytes, hsize, ?_⟩
  rcases List.isPrefixOf_iff_prefix.mp hleading with ⟨name, hname⟩
  have hdrop : path.toList.drop leading.toList.length = name := by
    rw [← hname, List.drop_left]
  rw [hdrop] at hextension hcanonical
  rcases List.isSuffixOf_iff_suffix.mp hextension with ⟨digest, hdigest⟩
  have hlength : name.length - 5 = digest.length := by
    rw [← hdigest, List.length_append]
    exact Nat.add_sub_cancel _ 5
  have htake : name.take (name.length - 5) = digest := by
    rw [hlength, ← hdigest, List.take_left]
  rw [htake] at hcanonical
  rw [hcanonical, String.toList_ofList, hdigest, hname]

/-- A character that neither ends nor climbs in a storage path. -/
def pathChar (c : Char) : Bool :=
  c != '.' && c != '?' && c != '#' && c != '\\'

/-- A path with one dot and without a query, a fragment or a backslash. -/
structure PlainPath (leading path : String) : Prop where
  rooted : leading.toList.head? = some '/' -> path.toList.head? = some '/'
  dots : path.toList.count '.' = 1
  slashes : path.toList.count '/' = leading.toList.count '/'
  unmarked : forall c, c ∈ path.toList -> c ≠ '?' ∧ c ≠ '#' ∧ c ≠ '\\'

theorem hashPath_plain [P.UrlSafe] {leading label : String}
    (hleading : leading.toList.all pathChar = true)
    (h : validateHashPath P path leading label = Except.ok ()) :
    PlainPath leading path := by
  rcases validateHashPath_ok h with ⟨bytes, _, hpath⟩
  have hplain : forall c : Char, pathChar c = true ->
      c ≠ '.' ∧ c ≠ '?' ∧ c ≠ '#' ∧ c ≠ '\\' := by
    intro c hc
    unfold pathChar at hc
    simp only [Bool.and_eq_true, bne_iff_ne] at hc
    exact ⟨hc.left.left.left, hc.left.left.right, hc.left.right, hc.right⟩
  have halphabet : base64UrlAlphabet.toList.all pathChar = true := by decide
  have hdigest : forall c, c ∈ (P.base64Encode bytes).toList ->
      c ≠ '.' ∧ c ≠ '?' ∧ c ≠ '#' ∧ c ≠ '\\' := fun c hc =>
    hplain c (List.all_eq_true.mp halphabet c
      (Primitives.UrlSafe.base64Encode_chars bytes c hc))
  have hbefore : forall c, c ∈ leading.toList ->
      c ≠ '.' ∧ c ≠ '?' ∧ c ≠ '#' ∧ c ≠ '\\' := fun c hc =>
    hplain c (List.all_eq_true.mp hleading c hc)
  have hending : ".json".toList.all
      (fun c => c != '?' && c != '#' && c != '\\') = true := by
    decide
  have hafter : forall c, c ∈ ".json".toList -> c ≠ '?' ∧ c ≠ '#' ∧ c ≠ '\\' := by
    intro c hc
    have hchar := List.all_eq_true.mp hending c hc
    simp only [Bool.and_eq_true, bne_iff_ne] at hchar
    exact ⟨hchar.left.left, hchar.left.right, hchar.right⟩
  constructor
  · intro hroot
    rw [hpath, List.head?_append, hroot]
    rfl
  · have hnone : (P.base64Encode bytes).toList.count '.' = 0 :=
      List.count_eq_zero.mpr fun hdot => (hdigest '.' hdot).left rfl
    have hfirst : leading.toList.count '.' = 0 :=
      List.count_eq_zero.mpr fun hdot => (hbefore '.' hdot).left rfl
    have hextension : ".json".toList.count '.' = 1 := by decide
    rw [hpath, List.count_append, List.count_append, hnone, hfirst, hextension]
  · have hnone : (P.base64Encode bytes).toList.count '/' = 0 :=
      List.count_eq_zero.mpr fun hslash => absurd
        (Primitives.UrlSafe.base64Encode_chars bytes '/' hslash) (by decide)
    have hextension : ".json".toList.count '/' = 0 := by decide
    rw [hpath, List.count_append, List.count_append, hnone, hextension]
    rfl
  · intro c hc
    rw [hpath] at hc
    rcases List.mem_append.mp hc with hc | hc
    · exact (hbefore c hc).right
    · rcases List.mem_append.mp hc with hc | hc
      · exact (hdigest c hc).right
      · exact hafter c hc

theorem validateHashPath_of_bytes [P.Lawful] [P.UrlSafe] {bytes : Bytes}
    (h : bytes.length = 32) (leading label : String) :
    validateHashPath P (leading ++ P.base64Encode bytes ++ ".json") leading label =
      Except.ok () := by
  have hpath : (leading ++ P.base64Encode bytes ++ ".json").toList =
      leading.toList ++ ((P.base64Encode bytes).toList ++ ".json".toList) := by
    rw [String.toList_append, String.toList_append, List.append_assoc]
  have hdigest : String.ofList (((P.base64Encode bytes).toList ++
      ".json".toList).take (((P.base64Encode bytes).toList ++
        ".json".toList).length - 5)) = P.base64Encode bytes := by
    have hlength : ((P.base64Encode bytes).toList ++ ".json".toList).length - 5 =
        (P.base64Encode bytes).toList.length := by
      rw [List.length_append]
      exact Nat.add_sub_cancel _ 5
    rw [hlength, List.take_left, String.ofList_toList]
  have hslash : '/' ∉ (P.base64Encode bytes).toList := by
    intro hmem
    exact absurd (Primitives.UrlSafe.base64Encode_chars bytes '/' hmem)
      (by decide)
  unfold validateHashPath
  simp only [bind_eq_ok, okOr_eq_ok, rejectIf_eq_ok, exists_unit, not_or, not_not,
    ne_eq, Bool.not_eq_false, hpath, List.drop_left, hdigest]
  exact ⟨List.isPrefixOf_iff_prefix.mpr (List.prefix_append _ _),
    List.isSuffixOf_iff_suffix.mpr (List.suffix_append _ _), hslash, bytes,
    Primitives.Lawful.base64Decode_encode bytes, h, rfl⟩

theorem validateDevicePath_of_bytes [P.Lawful] [P.UrlSafe] {bytes : Bytes}
    (h : bytes.length = 32) :
    validateDevicePath P (v1DeviceRecordPathPrefix ++ P.base64Encode bytes ++
      ".json") = Except.ok () :=
  validateHashPath_of_bytes h _ _

theorem validateDevicePath_path [P.Lawful] [P.UrlSafe] {record : V1DeviceRecord}
    (h : record.path P = Except.ok path) :
    validateDevicePath P path = Except.ok () := by
  unfold V1DeviceRecord.path v1DeviceRecordPath at h
  simp only [bind_eq_ok, pure_eq_ok] at h
  rcases h with ⟨_, _, _, _, rfl⟩
  exact validateDevicePath_of_bytes (Primitives.Lawful.sha256_length _)

variable [DiscoveryReaders P]

theorem canonicalIdentity_z32 (key : P.PublicKey) :
    canonicalIdentity P (P.z32 key) = Except.ok (P.z32 key) := by
  unfold canonicalIdentity
  rw [DiscoveryReaders.parsePublicKey_z32]
  change (rejectIf _ _ >>= _) = _
  rw [rejectIf_of_not (not_not.mpr rfl), ok_bind]
  rfl

theorem addressed_of_plain (key : P.PublicKey) {path : String}
    (hroot : path.toList.head? = some '/') (hdots : path.toList.count '.' ≤ 1)
    (hplain : forall c, c ∈ path.toList -> c ≠ '?' ∧ c ≠ '#' ∧ c ≠ '\\') :
    addressed P (P.z32 key) path =
      Except.ok ("pubky://" ++ P.z32 key ++ path) := by
  unfold addressed
  rw [canonicalIdentity_z32, ok_bind, rejectIf_of_not, ok_bind]
  · rfl
  · rw [not_or, not_or]
    refine ⟨not_not.mpr hroot, ?_, ?_⟩
    · intro hinfix
      have hcount := hinfix.sublist.count_le '.'
      change 2 ≤ path.toList.count '.' at hcount
      omega
    · rw [List.any_eq_true]
      intro h
      rcases h with ⟨c, hc, hmark⟩
      simp only [Bool.or_eq_true, beq_iff_eq] at hmark
      rcases hplain c hc with ⟨hquestion, hhash, hslash⟩
      rcases hmark with (heq | heq) | heq
      · exact hquestion heq
      · exact hhash heq
      · exact hslash heq

theorem addressed_device [P.UrlSafe] (key : P.PublicKey)
    (h : validateDevicePath P path = Except.ok ()) :
    addressed P (P.z32 key) path =
      Except.ok ("pubky://" ++ P.z32 key ++ path) := by
  have hplain := hashPath_plain (by decide) h
  exact addressed_of_plain key (hplain.rooted rfl) (Nat.le_of_eq hplain.dots)
    hplain.unmarked

theorem fetchRecordInner_eq_ok [P.UrlSafe] {storage : PublicStorage P}
    {key : P.PublicKey} {device : ResolvedV1Device}
    (hbounded : config.recordMaxBytes ≤ v1MaxDeviceRecordBytes)
    (hpath : validateDevicePath P path = Except.ok ()) :
    fetchRecordInner P config storage (P.z32 key) path = Except.ok device <->
      device.path = path ∧ Live P config storage (P.z32 key) device := by
  unfold fetchRecordInner decodeAndVerify Live
  rw [hpath, ok_bind, addressed_device key hpath, ok_bind]
  simp only [bind_eq_ok, fetchBounded_eq_ok, fromProtocol_eq_ok, rejectIf_eq_ok,
    okOr_eq_ok, exists_unit, pure_eq_ok, gt_iff_lt, Nat.not_lt, not_not]
  constructor
  · intro h
    rcases h with ⟨bytes, hserves, record, ⟨_, found, hfound, hverify, rfl⟩, other,
      hother, rfl, rfl⟩
    exact ⟨rfl, bytes, hserves, hfound, hverify, hother⟩
  · intro h
    rcases h with ⟨rfl, bytes, hserves, hrecord, hverify, hown⟩
    have hsize : bytes.length ≤ v1MaxDeviceRecordBytes := by
      rcases hserves with ⟨_, _, _, _, _, hlength⟩
      exact Nat.le_trans hlength hbounded
    exact ⟨bytes, hserves, device.record,
      ⟨hsize, device.record, hrecord, hverify, rfl⟩, device.path, hown, rfl, rfl⟩

end Fetching

/-!
# Resolving a listing
-/

section Resolving

variable {P : Primitives} [DiscoveryReaders P] {config : V1DiscoveryConfig}
  {storage : PublicStorage P} {identity : String} {entries : List (ListEntry P)}

omit [DiscoveryReaders P] in
theorem listedPaths_eq_ok {unique : List String}
    (howned : forall entry, entry ∈ entries -> P.z32 entry.owner = identity)
    (hvalid : forall entry, entry ∈ entries ->
      validateDevicePath P entry.path = Except.ok ())
    (hnew : forall entry, entry ∈ entries -> entry.path ∉ unique)
    (hdistinct : (entries.map ListEntry.path).Nodup) :
    listedPaths P identity unique entries =
      Except.ok (entries.map ListEntry.path) := by
  induction entries generalizing unique with
  | nil => rfl
  | cons entry rest ih =>
      rw [List.map_cons, List.nodup_cons] at hdistinct
      have hrest := @ih (entry.path :: unique)
        (fun other hother => howned other (List.mem_cons_of_mem _ hother))
        (fun other hother => hvalid other (List.mem_cons_of_mem _ hother))
        (fun other hother hmem => by
          rcases List.mem_cons.mp hmem with heq | hmem
          · exact hdistinct.left (heq ▸ List.mem_map_of_mem hother)
          · exact hnew other (List.mem_cons_of_mem _ hother) hmem)
        hdistinct.right
      unfold listedPaths
      rw [rejectIf_of_not (not_not.mpr (howned entry List.mem_cons_self)), ok_bind,
        hvalid entry List.mem_cons_self, ok_bind,
        rejectIf_of_not (hnew entry List.mem_cons_self), ok_bind, hrest]
      rfl

omit [DiscoveryReaders P] in
/-- An accepted listing has only valid paths of the identity, each listed once. -/
theorem listedPaths_ok {unique paths : List String}
    (h : listedPaths P identity unique entries = Except.ok paths) :
    paths = entries.map ListEntry.path ∧
      (forall entry, entry ∈ entries -> P.z32 entry.owner = identity ∧
        validateDevicePath P entry.path = Except.ok () ∧
        entry.path ∉ unique) ∧
      (entries.map ListEntry.path).Nodup := by
  induction entries generalizing unique paths with
  | nil =>
      unfold listedPaths at h
      rw [pure_eq_ok] at h
      exact ⟨h.symm, nofun, List.nodup_nil⟩
  | cons entry rest ih =>
      unfold listedPaths at h
      simp only [bind_eq_ok, rejectIf_eq_ok, exists_unit, pure_eq_ok, not_not] at h
      rcases h with ⟨howned, hvalid, hnew, others, hothers, rfl⟩
      rcases ih hothers with ⟨rfl, hrest, hdistinct⟩
      refine ⟨rfl, ?_, ?_⟩
      · intro other hother
        rcases List.mem_cons.mp hother with rfl | hother
        · exact ⟨howned, hvalid, hnew⟩
        · rcases hrest other hother with ⟨hother, hform, hfresh⟩
          exact ⟨hother, hform, fun hmem => hfresh (List.mem_cons_of_mem _ hmem)⟩
      · rw [List.map_cons, List.nodup_cons]
        refine ⟨?_, hdistinct⟩
        intro hmem
        rcases List.mem_map.mp hmem with ⟨other, hother, hsame⟩
        exact (hrest other hother).right.right (hsame ▸ List.mem_cons_self)

/-- Bytes of a record as the aggregate bound counts them. -/
def encodedSize (P : Primitives) (device : ResolvedV1Device) : Nat :=
  (P.jsonToVec device.record.toJson).length

/-- Every record has to be usable, and their sum has to keep within the bound. -/
theorem resolvePaths_eq_ok {total : Nat} {paths : List String}
    {devices : List ResolvedV1Device}
    (htotal : total ≤ config.totalRecordMaxBytes) :
    resolvePaths P config storage identity total paths = Except.ok devices <->
      List.Forall₂ (fun path device => fetchRecordInner P config storage identity
        path = Except.ok device) paths devices ∧
        total + (devices.map (encodedSize P)).sum ≤
          config.totalRecordMaxBytes := by
  induction paths generalizing total devices with
  | nil =>
      unfold resolvePaths
      rw [pure_eq_ok, List.forall₂_nil_left_iff]
      constructor
      · intro h
        rw [← h]
        exact ⟨rfl, htotal⟩
      · intro h
        exact h.left.symm
  | cons path rest ih =>
      unfold resolvePaths
      simp only [bind_eq_ok, rejectIf_eq_ok, exists_unit, pure_eq_ok, gt_iff_lt,
        Nat.not_lt]
      constructor
      · intro h
        rcases h with ⟨device, hdevice, hsum, others, hothers, rfl⟩
        rcases (ih hsum).mp hothers with ⟨hall, hbound⟩
        refine ⟨List.Forall₂.cons hdevice hall, ?_⟩
        rw [List.map_cons, List.sum_cons, ← Nat.add_assoc]
        exact hbound
      · intro h
        rcases h with ⟨hall, hbound⟩
        cases hall with
        | cons hdevice hrest =>
            rw [List.map_cons, List.sum_cons, ← Nat.add_assoc] at hbound
            have hsum := Nat.le_trans (Nat.le_add_right _ _) hbound
            exact ⟨_, hdevice, hsum, _, (ih hsum).mpr ⟨hrest, hbound⟩, rfl⟩

theorem deviceOrder_trans (a b c : ResolvedV1Device)
    (hab : deviceOrder a b = true) (hbc : deviceOrder b c = true) :
    deviceOrder a c = true := by
  unfold deviceOrder at hab hbc ⊢
  simp only [decide_eq_true_eq] at hab hbc ⊢
  rcases hab with hab | ⟨hab, hkeys⟩
  · rcases hbc with hbc | ⟨hbc, _⟩
    · exact Or.inl (lt_trans hab hbc)
    · exact Or.inl (hbc ▸ hab)
  · rcases hbc with hbc | ⟨hbc, hmore⟩
    · exact Or.inl (hab ▸ hbc)
    · exact Or.inr ⟨hab.trans hbc, le_trans hkeys hmore⟩

theorem deviceOrder_total (a b : ResolvedV1Device) :
    (deviceOrder a b || deviceOrder b a) = true := by
  unfold deviceOrder
  simp only [Bool.or_eq_true, decide_eq_true_eq]
  rcases lt_trichotomy a.record.certificate.claims.deviceId
    b.record.certificate.claims.deviceId with hlt | heq | hgt
  · exact Or.inl (Or.inl hlt)
  · rcases le_total a.record.certificate.claims.controlSigningKey
      b.record.certificate.claims.controlSigningKey with hle | hle
    · exact Or.inl (Or.inr ⟨heq, hle⟩)
    · exact Or.inr (Or.inr ⟨heq.symm, hle⟩)
  · exact Or.inr (Or.inl hgt)

/-- A listing of at most eight valid paths of the identity. -/
structure Listed (P : Primitives) [DiscoveryReaders P]
    (config : V1DiscoveryConfig) (storage : PublicStorage P) (identity : String)
    (entries : List (ListEntry P)) : Prop where
  canonical : exists key, P.z32 key = identity
  sound : config.validate = Except.ok ()
  list : storage.list ("pubky://" ++ identity ++ v1DeviceRecordPathPrefix) =
    Except.ok entries
  bounded : entries.length ≤ v1MaxDevices
  owned (entry : ListEntry P) : entry ∈ entries -> P.z32 entry.owner = identity
  wellFormed (entry : ListEntry P) : entry ∈ entries ->
    validateDevicePath P entry.path = Except.ok ()
  distinct : (entries.map ListEntry.path).Nodup

/-- A listing whose live records are within the total as well. -/
structure Listing (P : Primitives) [DiscoveryReaders P]
    (config : V1DiscoveryConfig) (storage : PublicStorage P) (identity : String)
    (entries : List (ListEntry P)) : Prop
    extends Listed P config storage identity entries where
  withinTotal (devices : List ResolvedV1Device) : devices.Nodup ->
    (forall device, device ∈ devices ->
      device.path ∈ entries.map ListEntry.path ∧
        Live P config storage identity device) ->
    (devices.map (encodedSize P)).sum ≤ config.totalRecordMaxBytes

/-- Devices are tried in order, up to the first that answers. -/
def Tried (attempt : ResolvedV1Device -> ClientResult Peer)
    (wanted : List ResolvedV1Device)
    (run : List ResolvedV1Device × ClientResult Peer) : Prop :=
  (exists before device after peer, wanted = before ++ device :: after ∧
    run = (before ++ [device], Except.ok peer) ∧
    attempt device = Except.ok peer ∧
    forall earlier, earlier ∈ before ->
      exists error, attempt earlier = Except.error error) ∨
  (run.1 = wanted ∧ (exists error, run.2 = Except.error error) ∧
    forall device, device ∈ wanted ->
      exists error, attempt device = Except.error error)

/-- Exactly the devices with a valid record, in order, all within reach of a dial. -/
structure Found (P : Primitives) [DiscoveryReaders P]
    (config : V1DiscoveryConfig) (storage : PublicStorage P) (identity : String)
    (entries : List (ListEntry P)) (devices : List ResolvedV1Device) : Prop where
  members (device : ResolvedV1Device) : device ∈ devices <->
    device.path ∈ entries.map ListEntry.path ∧
      Live P config storage identity device
  distinct : devices.Nodup
  ordered : devices.Pairwise fun left right => deviceOrder left right = true
  dialed (attempt : ResolvedV1Device -> ClientResult Peer)
    (targetDeviceId : Option String) : Tried attempt
      (devices.filter fun device => targetDeviceId.all fun wanted =>
        device.record.certificate.claims.deviceId == wanted)
      (dialInner attempt devices targetDeviceId)

theorem attemptEach_cases (attempt : ResolvedV1Device -> ClientResult Peer)
    (wanted : List ResolvedV1Device) :
    (exists before device after peer, wanted = before ++ device :: after ∧
      attemptEach attempt wanted = (before ++ [device], some peer) ∧
      attempt device = Except.ok peer ∧
      forall earlier, earlier ∈ before ->
        exists error, attempt earlier = Except.error error) ∨
    (attemptEach attempt wanted = (wanted, none) ∧
      forall device, device ∈ wanted ->
        exists error, attempt device = Except.error error) := by
  induction wanted with
  | nil => exact Or.inr ⟨rfl, fun _ hdevice => absurd hdevice List.not_mem_nil⟩
  | cons candidate rest ih =>
      cases hattempt : attempt candidate with
      | ok peer =>
          refine Or.inl ⟨[], candidate, rest, peer, rfl, ?_, hattempt, ?_⟩
          · rw [attemptEach, hattempt]
            rfl
          · intro earlier hearlier
            cases hearlier
      | error error =>
          have hfirst : forall others : List ResolvedV1Device,
              (forall earlier, earlier ∈ others ->
                exists error, attempt earlier = Except.error error) ->
              forall earlier, earlier ∈ candidate :: others ->
                exists error, attempt earlier = Except.error error := by
            intro others hothers earlier hearlier
            rcases List.mem_cons.mp hearlier with rfl | hearlier
            · exact ⟨error, hattempt⟩
            · exact hothers earlier hearlier
          rcases ih with
            ⟨before, device, after, peer, hsplit, hrun, hpeer, hfailed⟩ |
              ⟨hrun, hfailed⟩
          · refine Or.inl ⟨candidate :: before, device, after, peer, ?_, ?_, hpeer,
              hfirst before hfailed⟩
            · rw [hsplit]
              rfl
            · rw [attemptEach, hattempt, hrun]
              rfl
          · refine Or.inr ⟨?_, hfirst rest hfailed⟩
            rw [attemptEach, hattempt, hrun]

theorem dialInner_tried {devices : List ResolvedV1Device}
    (hordered : devices.Pairwise fun left right =>
      deviceOrder left right = true)
    (hbounded : devices.length ≤ maxActiveRecords)
    (attempt : ResolvedV1Device -> ClientResult Peer)
    (targetDeviceId : Option String) :
    Tried attempt
      (devices.filter fun device => targetDeviceId.all fun wanted =>
        device.record.certificate.claims.deviceId == wanted)
      (dialInner attempt devices targetDeviceId) := by
  have hcandidates : candidates devices targetDeviceId =
      devices.filter fun device => targetDeviceId.all fun wanted =>
        device.record.certificate.claims.deviceId == wanted := by
    unfold candidates
    rw [List.mergeSort_of_pairwise hordered, List.take_of_length_le]
    exact Nat.le_trans (List.length_filter_le _ _) hbounded
  unfold dialInner
  dsimp only
  rw [hcandidates]
  split
  · rename_i hempty
    rw [hempty]
    exact Or.inr ⟨rfl, ⟨_, rfl⟩, fun _ hdevice => absurd hdevice List.not_mem_nil⟩
  · rcases attemptEach_cases attempt (devices.filter fun device =>
        targetDeviceId.all fun wanted =>
          device.record.certificate.claims.deviceId == wanted) with
      ⟨before, device, after, peer, hsplit, hrun, hpeer, hfailed⟩ |
        ⟨hrun, hfailed⟩
    · rw [hrun]
      exact Or.inl ⟨before, device, after, peer, hsplit, rfl, hpeer, hfailed⟩
    · rw [hrun]
      exact Or.inr ⟨rfl, ⟨_, rfl⟩, hfailed⟩

def sortedPaths (entries : List (ListEntry P)) : List String :=
  (entries.map ListEntry.path).mergeSort fun left right => decide (left ≤ right)

omit [DiscoveryReaders P] in
theorem mem_sortedPaths {path : String} :
    path ∈ sortedPaths entries <-> path ∈ entries.map ListEntry.path :=
  (List.mergeSort_perm _ _).mem_iff

theorem addressed_directory (key : P.PublicKey) :
    addressed P (P.z32 key) v1DeviceRecordPathPrefix =
      Except.ok ("pubky://" ++ P.z32 key ++ v1DeviceRecordPathPrefix) := by
  apply addressed_of_plain
  · rfl
  · decide
  · intro c hc
    have hall : v1DeviceRecordPathPrefix.toList.all (fun c =>
        c != '?' && c != '#' && c != '\\') = true := by
      decide
    have hsafe := List.all_eq_true.mp hall c hc
    simp only [Bool.and_eq_true, bne_iff_ne] at hsafe
    exact ⟨hsafe.left.left, hsafe.left.right, hsafe.right⟩

theorem Listed.resolveDevices_eq_ok
    (h : Listed P config storage identity entries)
    {result : List ResolvedV1Device} :
    resolveDevices P config storage false identity = Except.ok result <->
      exists devices, resolvePaths P config storage identity 0
          (sortedPaths entries) = Except.ok devices ∧
        devices.mergeSort deviceOrder = result := by
  rcases h.canonical with ⟨key, rfl⟩
  have hpaths : listedPaths P (P.z32 key) [] entries =
      Except.ok (entries.map ListEntry.path) :=
    listedPaths_eq_ok h.owned h.wellFormed (fun _ _ => List.not_mem_nil) h.distinct
  unfold resolveDevices resolveInner
  rw [h.sound, ok_bind, rejectIf_of_not Bool.false_ne_true, ok_bind,
    canonicalIdentity_z32, ok_bind, addressed_directory, ok_bind, h.list]
  change (rejectIf _ _ >>= _) = _ <-> _
  rw [rejectIf_of_not (Nat.not_lt.mpr h.bounded), ok_bind, hpaths, ok_bind,
    bind_eq_ok]
  exact exists_congr fun devices => and_congr_right fun _ => pure_eq_ok

theorem Listed.recordMaxBytes_le
    (h : Listed P config storage identity entries) :
    config.recordMaxBytes ≤ v1MaxDeviceRecordBytes := by
  have hsound := h.sound
  unfold V1DiscoveryConfig.validate at hsound
  rw [rejectIf_eq_ok] at hsound
  simp only [not_or, gt_iff_lt, Nat.not_lt] at hsound
  exact hsound.right.right.right.right.left

theorem Listed.fetched_iff [P.UrlSafe]
    (h : Listed P config storage identity entries) {path : String}
    (hpath : path ∈ entries.map ListEntry.path) {device : ResolvedV1Device} :
    fetchRecordInner P config storage identity path = Except.ok device <->
      device.path = path ∧ Live P config storage identity device := by
  rcases h.canonical with ⟨key, rfl⟩
  rcases List.mem_map.mp hpath with ⟨entry, hentry, rfl⟩
  exact fetchRecordInner_eq_ok h.recordMaxBytes_le (h.wellFormed entry hentry)

theorem forall₂_fetched {fetch : String -> ClientResult ResolvedV1Device}
    {paths : List String} {devices : List ResolvedV1Device}
    (hfetch : forall path device, path ∈ paths ->
      fetch path = Except.ok device -> device.path = path)
    (h : List.Forall₂ (fun path device => fetch path = Except.ok device) paths
      devices) :
    devices.map ResolvedV1Device.path = paths ∧
      (forall path, path ∈ paths ->
        exists device, device ∈ devices ∧ fetch path = Except.ok device) ∧
      forall device, device ∈ devices -> fetch device.path = Except.ok device := by
  induction h with
  | nil =>
      refine ⟨rfl, ?_, ?_⟩
      · intro path hpath
        cases hpath
      · intro device hdevice
        cases hdevice
  | cons hfirst hrest ih =>
      rename_i path device rest others
      have hpath := hfetch path device List.mem_cons_self hfirst
      rcases ih fun path device hmem =>
        hfetch path device (List.mem_cons_of_mem _ hmem) with ⟨hmap, hall, hback⟩
      refine ⟨?_, ?_, ?_⟩
      · rw [List.map_cons, hmap, hpath]
      · intro other hother
        rcases List.mem_cons.mp hother with rfl | hother
        · exact ⟨device, List.mem_cons_self, hfirst⟩
        · rcases hall other hother with ⟨found, hfound, hok⟩
          exact ⟨found, List.mem_cons_of_mem _ hfound, hok⟩
      · intro other hother
        rcases List.mem_cons.mp hother with rfl | hother
        · rw [hpath]
          exact hfirst
        · exact hback other hother

theorem forall₂_of_each {fetch : String -> ClientResult ResolvedV1Device}
    {paths : List String}
    (h : forall path, path ∈ paths -> exists device, fetch path = Except.ok device) :
    exists devices, List.Forall₂
      (fun path device => fetch path = Except.ok device) paths devices := by
  induction paths with
  | nil => exact ⟨[], List.Forall₂.nil⟩
  | cons path rest ih =>
      rcases h path List.mem_cons_self with ⟨device, hdevice⟩
      rcases ih fun other hother => h other (List.mem_cons_of_mem _ hother) with
        ⟨devices, hdevices⟩
      exact ⟨device :: devices, List.Forall₂.cons hdevice hdevices⟩

theorem Listing.found [P.UrlSafe]
    (h : Listing P config storage identity entries)
    {devices : List ResolvedV1Device}
    (hdevices : List.Forall₂ (fun path device => fetchRecordInner P config storage
      identity path = Except.ok device) (sortedPaths entries) devices) :
    Found P config storage identity entries (devices.mergeSort deviceOrder) ∧
      devices.Nodup ∧ forall device, device ∈ devices ->
        device.path ∈ entries.map ListEntry.path ∧
          Live P config storage identity device := by
  rcases forall₂_fetched (fun path device hpath hok =>
      ((h.toListed.fetched_iff (mem_sortedPaths.mp hpath)).mp hok).left) hdevices with
    ⟨hmap, hall, hback⟩
  have hperm := List.mergeSort_perm devices deviceOrder
  have hnodup : devices.Nodup := by
    apply List.Nodup.of_map ResolvedV1Device.path
    rw [hmap]
    exact (List.mergeSort_perm _ _).nodup_iff.mpr h.distinct
  have hlive : forall device, device ∈ devices ->
      device.path ∈ entries.map ListEntry.path ∧
        Live P config storage identity device := by
    intro device hdevice
    have hpath : device.path ∈ entries.map ListEntry.path := by
      rw [← mem_sortedPaths, ← hmap]
      exact List.mem_map_of_mem hdevice
    exact ⟨hpath, ((h.toListed.fetched_iff hpath).mp (hback device hdevice)).right⟩
  have hordered := List.pairwise_mergeSort deviceOrder_trans deviceOrder_total
    devices
  have hbounded : (devices.mergeSort deviceOrder).length ≤ maxActiveRecords := by
    have hlength := congrArg List.length hmap
    rw [List.length_map] at hlength
    unfold sortedPaths at hlength
    rw [(List.mergeSort_perm _ _).length_eq, List.length_map] at hlength
    rw [hperm.length_eq, hlength]
    exact h.bounded
  refine ⟨⟨?_, hperm.nodup_iff.mpr hnodup, hordered,
    dialInner_tried hordered hbounded⟩, hnodup, hlive⟩
  intro device
  rw [hperm.mem_iff]
  constructor
  · exact hlive device
  · intro hdevice
    rcases hall device.path (mem_sortedPaths.mpr hdevice.left) with
      ⟨found, hfound, hok⟩
    rw [(h.toListed.fetched_iff hdevice.left).mpr ⟨rfl, hdevice.right⟩] at hok
    injection hok with hok
    rw [hok]
    exact hfound

end Resolving

/-!
# Two sample devices
-/

namespace Sample

open Protocol.Reference

def client (keys : DeviceKeys) : V1Client :=
  { credential := keys.credential
    trustedRelays := [DeviceKeys.relay]
    instanceNonce := DeviceKeys.instanceNonce
    acceptedApplications := ["chat"]
    allowInsecureLoopbackRelay := false
    resolverAllowsLoopback := false }

def active (keys : DeviceKeys) : ActiveRecords :=
  [(keys.record.digest sample, keys.record)]

theorem currentRecord_eq (keys : DeviceKeys) :
    currentRecord sample (client keys) [] keys.sequence 900 1000 =
      Except.ok (active keys, keys.record) := by
  have hlocator : V1SignedLocator.sign sample (client keys).credential
      (client keys).trustedRelays (client keys).instanceNonce keys.sequence 1000
      (1000 + 900) = Except.ok keys.locator := keys.locator_sign
  unfold currentRecord
  rw [rejectIf_of_not (by decide), ok_bind, rejectIf_of_not (by decide), ok_bind]
  dsimp only
  rw [if_neg (show ¬ (client keys).allowInsecureLoopbackRelay = true from
    Bool.false_ne_true), hlocator]
  change (Except.ok keys.locator >>= _) = _
  rw [ok_bind]
  have hrecord : V1DeviceRecord.new sample (client keys).credential keys.locator
      1000 (client keys).allowInsecureLoopbackRelay =
        Except.ok keys.record := keys.record_new
  rw [hrecord]
  rfl

/-- The text without the spaces behind it, which a JSON reader skips. -/
def trimmed (bytes : Bytes) : Bytes :=
  (bytes.reverse.dropWhile fun byte => byte == 0x20).reverse

theorem trimmed_spaces (front : Bytes) (count : Nat) :
    trimmed (front ++ [0x7d] ++ List.replicate count 0x20) = front ++ [0x7d] := by
  unfold trimmed
  induction count with
  | zero =>
      rw [List.replicate_zero, List.append_nil, List.reverse_append,
        List.reverse_singleton, List.singleton_append,
        List.dropWhile_cons_of_neg (by decide), List.reverse_cons,
        List.reverse_reverse]
  | succ count ih =>
      rw [List.replicate_succ', ← List.append_assoc, List.reverse_append,
        List.reverse_singleton, List.singleton_append,
        List.dropWhile_cons_of_pos (by decide)]
      exact ih

theorem trimmed_record (keys : DeviceKeys) (count : Nat) :
    trimmed (sample.jsonToVec keys.record.toJson ++ List.replicate count 0x20) =
      sample.jsonToVec keys.record.toJson := by
  change trimmed (utf8 (_ ++ ['}']) ++ _) = utf8 (_ ++ ['}'])
  rw [utf8_append]
  exact trimmed_spaces _ count

/-- The readers know the records of the two devices. -/
instance : DiscoveryReaders sample where
  parsePublicKey := sample.tryFromZ32
  recordFromSlice bytes :=
    [laptop.record, phone.record].find? fun record =>
      sample.jsonToVec record.toJson == trimmed bytes
  parsePublicKey_z32 := Primitives.Lawful.tryFromZ32_z32 (P := sample)

abbrev owner : String := sample.z32 (keyOf 1)

def device (keys : DeviceKeys) : ResolvedV1Device :=
  { path := keys.path
    record := keys.record }

theorem device_path_ne : (device laptop).path ≠ (device phone).path := by
  intro heq
  have hdigest := base64Encode_injective (P := sample) (digest_of_path heq)
  revert hdigest
  unfold DeviceKeys.pathDigest
  decide +kernel

theorem address_ne : "pubky://" ++ owner ++ (device phone).path ≠
    "pubky://" ++ owner ++ (device laptop).path := by
  intro heq
  have hchars := congrArg String.toList heq
  rw [String.toList_append, String.toList_append (s := _ ++ _),
    List.append_cancel_left_eq] at hchars
  exact device_path_ne (String.toList_injective hchars).symm

theorem device_path_valid (keys : DeviceKeys) :
    validateDevicePath sample (device keys).path = Except.ok () :=
  validateDevicePath_path keys.record_path

/-- Only the record of the laptop is there, whatever paths are listed. -/
def storage (paths : List String) : PublicStorage sample :=
  { list := fun _ => Except.ok (paths.map fun path =>
      { owner := keyOf 1, path := path })
    get := fun address =>
      if address = "pubky://" ++ owner ++ (device laptop).path then
        PublicResponse.body none
          [Except.ok (sample.jsonToVec laptop.record.toJson)]
      else PublicResponse.failed "404 Not Found"
    now := fun _ => 1060 }

end Sample

end Client
end Pubky2Pubky
