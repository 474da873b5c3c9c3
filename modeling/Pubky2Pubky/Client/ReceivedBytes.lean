import Mathlib.Algebra.Order.BigOperators.Group.List
import Pubky2Pubky.Client.StoragePaths

/-!
# Received bytes

A body is counted chunk by chunk against the bound of one record. The bound on
all records together counts the compact text of each decoded record instead of
the body it came in, so it bounds the received bytes where the bodies are not
longer than these texts.
-/

namespace Pubky2Pubky
namespace Client

open Foundation Protocol

def PublicResponse.delivered : PublicResponse -> Nat
  | PublicResponse.body _ chunks =>
      (chunks.map fun chunk =>
        match chunk with
        | Except.ok bytes => bytes.length
        | Except.error _ => 0).sum
  | _ => 0

/-- The buffers that the loop over the chunks holds, one after another. -/
def heldChunks (maximum : Nat) (bytes : Bytes) :
    List (Except String Bytes) -> List Bytes
  | [] => [bytes]
  | Except.error _ :: _ => [bytes]
  | Except.ok chunk :: rest =>
      if chunk.length > maximum - bytes.length then [bytes]
      else bytes :: heldChunks maximum (bytes ++ chunk) rest

/-- The buffers of one fetch; a body declared too long is not read. -/
def PublicResponse.held (self : PublicResponse) (maximum : Nat) : List Bytes :=
  match self with
  | PublicResponse.body declared chunks =>
      if declared.any (fun length => decide (length > maximum)) = true then []
      else heldChunks maximum [] chunks
  | _ => []

/-- Bytes received for the record of a device. -/
def receivedBytes {P : Primitives} (storage : PublicStorage P)
    (identity : String) (device : ResolvedV1Device) : Nat :=
  (storage.get ("pubky://" ++ identity ++ device.path)).delivered

/-- What one fetch returns and what it holds meanwhile. -/
structure FetchLaw (response : PublicResponse) (maximum : Nat)
    (result : ClientResult Bytes) : Prop where
  returned {declared : Option Nat} {parts : List Bytes} :
    response = PublicResponse.body declared (parts.map Except.ok) ->
    parts.flatten.length ≤ maximum ->
    (forall length, declared = some length -> length ≤ maximum) ->
    result = Except.ok parts.flatten
  refused :
    (forall (declared : Option Nat) (parts : List Bytes),
      response = PublicResponse.body declared (parts.map Except.ok) ->
      maximum < parts.flatten.length ∨
        exists length, declared = some length ∧ maximum < length) ->
    exists error, result = Except.error error
  held (buffer : Bytes) : buffer ∈ response.held maximum ->
    buffer.length ≤ maximum
  lastHeld {bytes : Bytes} : result = Except.ok bytes ->
    (response.held maximum).getLast? = some bytes

/-- What the resolver has received when it returns these devices. -/
structure Received (P : Primitives) [DiscoveryReaders P]
    (config : V1DiscoveryConfig) (storage : PublicStorage P) (identity : String)
    (devices : List ResolvedV1Device) : Prop where
  listed : exists entries, Listed P config storage identity entries ∧
    (devices.map ResolvedV1Device.path).Perm (entries.map ListEntry.path)
  live (device : ResolvedV1Device) : device ∈ devices ->
    Live P config storage identity device
  perRecord (device : ResolvedV1Device) : device ∈ devices ->
    receivedBytes storage identity device ≤ config.recordMaxBytes
  encoded : (devices.map (encodedSize P)).sum ≤ config.totalRecordMaxBytes
  compact : (forall device, device ∈ devices ->
      receivedBytes storage identity device ≤ encodedSize P device) ->
    (devices.map (receivedBytes storage identity)).sum ≤
      config.totalRecordMaxBytes

section Fetching

theorem heldChunks_le {maximum : Nat} {bytes : Bytes}
    {chunks : List (Except String Bytes)} (hbytes : bytes.length ≤ maximum)
    {buffer : Bytes} (h : buffer ∈ heldChunks maximum bytes chunks) :
    buffer.length ≤ maximum := by
  induction chunks generalizing bytes with
  | nil =>
      rw [List.mem_singleton.mp h]
      exact hbytes
  | cons chunk rest ih =>
      cases chunk with
      | error text =>
          rw [List.mem_singleton.mp h]
          exact hbytes
      | ok chunk =>
          unfold heldChunks at h
          split at h
          · rw [List.mem_singleton.mp h]
            exact hbytes
          · rename_i hfits
            rcases List.mem_cons.mp h with hfirst | hlater
            · rw [hfirst]
              exact hbytes
            · apply ih _ hlater
              rw [List.length_append]
              omega

theorem PublicResponse.held_le {response : PublicResponse} {maximum : Nat}
    {buffer : Bytes} (h : buffer ∈ response.held maximum) :
    buffer.length ≤ maximum := by
  cases response with
  | elapsed => cases h
  | failed text => cases h
  | body declared chunks =>
      unfold held at h
      dsimp only at h
      split at h
      · cases h
      · exact heldChunks_le (Nat.zero_le maximum) h

theorem readChunks_held {maximum : Nat} {start bytes : Bytes}
    {chunks : List (Except String Bytes)}
    (h : readChunks maximum start chunks = Except.ok bytes) :
    (heldChunks maximum start chunks).getLast? = some bytes := by
  induction chunks generalizing start with
  | nil =>
      unfold readChunks at h
      rw [pure_eq_ok] at h
      rw [h]
      rfl
  | cons chunk rest ih =>
      cases chunk with
      | error text =>
          unfold readChunks at h
          cases h
      | ok chunk =>
          unfold readChunks at h
          simp only [bind_eq_ok, rejectIf_eq_ok, exists_unit] at h
          unfold heldChunks
          rw [if_neg h.left, List.getLast?_cons, ih h.right]
          rfl

theorem PublicResponse.Serves.delivered_eq {response : PublicResponse}
    {maximum : Nat} {bytes : Bytes} (h : response.Serves maximum bytes) :
    response.delivered = bytes.length := by
  rcases h with ⟨declared, parts, hbody, _, hbytes, _⟩
  rw [hbody, ← hbytes, List.length_flatten]
  show ((parts.map Except.ok).map _).sum = _
  rw [List.map_map]
  rfl

theorem fetchBounded_law {P : Primitives} (storage : PublicStorage P)
    (address : String) (maximum : Nat) :
    FetchLaw (storage.get address) maximum
      (fetchBounded P storage address maximum) := by
  constructor
  · intro declared parts hbody hfits hdeclared
    apply fetchBounded_eq_ok.mpr
    exact ⟨declared, parts, hbody, hdeclared, rfl, hfits⟩
  · intro hrefused
    cases hresult : fetchBounded P storage address maximum with
    | error error => exact ⟨error, rfl⟩
    | ok bytes =>
        rcases fetchBounded_eq_ok.mp hresult with
          ⟨declared, parts, hbody, hdeclared, rfl, hfits⟩
        rcases hrefused declared parts hbody with hlong | hlong
        · exact absurd hfits (Nat.not_le.mpr hlong)
        · rcases hlong with ⟨length, hlength, hlong⟩
          exact absurd (hdeclared length hlength) (Nat.not_le.mpr hlong)
  · intro buffer hheld
    exact PublicResponse.held_le hheld
  · intro bytes hresult
    unfold fetchBounded at hresult
    cases hresponse : storage.get address with
    | elapsed =>
        rw [hresponse] at hresult
        cases hresult
    | failed text =>
        rw [hresponse] at hresult
        cases hresult
    | body declared chunks =>
        rw [hresponse] at hresult
        simp only [bind_eq_ok, rejectIf_eq_ok, exists_unit] at hresult
        rcases hresult with ⟨hdeclared, hread⟩
        unfold PublicResponse.held
        dsimp only
        rw [if_neg hdeclared]
        exact readChunks_held hread

end Fetching

section Resolving

variable {P : Primitives} [DiscoveryReaders P] {config : V1DiscoveryConfig}
  {storage : PublicStorage P} {identity : String}

/-- A successful resolution has gone through a listing, before its timeout. -/
theorem resolveDevices_listed {elapsed : Bool} {devices : List ResolvedV1Device}
    (h : resolveDevices P config storage elapsed identity = Except.ok devices) :
    elapsed = false ∧
      exists entries, Listed P config storage identity entries := by
  unfold resolveDevices resolveInner at h
  simp only [bind_eq_ok, rejectIf_eq_ok, exists_unit, Bool.not_eq_true] at h
  rcases h with ⟨hsound, helapsed, canonical, hcanonical, address, haddress, h⟩
  unfold canonicalIdentity at hcanonical
  simp only [bind_eq_ok, okOr_eq_ok, rejectIf_eq_ok, exists_unit, pure_eq_ok,
    not_not] at hcanonical
  rcases hcanonical with ⟨key, _, rfl, rfl⟩
  rw [addressed_directory] at haddress
  cases haddress
  cases hlist : storage.list ("pubky://" ++ P.z32 key ++
      v1DeviceRecordPathPrefix) with
  | error text =>
      simp only [hlist] at h
      cases h
  | ok entries =>
      simp only [hlist, bind_eq_ok, rejectIf_eq_ok, exists_unit, pure_eq_ok] at h
      rcases h with ⟨_, rfl, hbounded, paths, hpaths, _⟩
      rcases listedPaths_ok hpaths with ⟨_, hall, hdistinct⟩
      exact ⟨helapsed, entries, ⟨key, rfl⟩, hsound, hlist,
        Nat.not_lt.mp hbounded, fun entry hentry => (hall entry hentry).left,
        fun entry hentry => (hall entry hentry).right.left, hdistinct⟩

theorem Live.received_le {device : ResolvedV1Device}
    (h : Live P config storage identity device) :
    receivedBytes storage identity device ≤ config.recordMaxBytes := by
  rcases h with ⟨bytes, hserves, _⟩
  unfold receivedBytes
  rw [hserves.delivered_eq]
  rcases hserves with ⟨_, _, _, _, _, hlength⟩
  exact hlength

theorem resolveDevices_received [P.UrlSafe] {elapsed : Bool}
    {devices : List ResolvedV1Device}
    (h : resolveDevices P config storage elapsed identity = Except.ok devices) :
    Received P config storage identity devices := by
  rcases resolveDevices_listed h with ⟨helapsed, entries, hlisted⟩
  subst helapsed
  rcases hlisted.resolveDevices_eq_ok.mp h with ⟨fetched, hfetched, hsorted⟩
  rcases (resolvePaths_eq_ok (Nat.zero_le _)).mp hfetched with ⟨hall, hsum⟩
  rw [Nat.zero_add] at hsum
  rcases forall₂_fetched (fun path device hpath hok =>
      ((hlisted.fetched_iff (mem_sortedPaths.mp hpath)).mp hok).left) hall with
    ⟨hmap, _, hback⟩
  have hperm : devices.Perm fetched := by
    rw [← hsorted]
    exact List.mergeSort_perm fetched deviceOrder
  have hlive : forall device, device ∈ devices ->
      Live P config storage identity device := by
    intro device hdevice
    have hmem := hperm.mem_iff.mp hdevice
    have hpath : device.path ∈ entries.map ListEntry.path := by
      rw [← mem_sortedPaths, ← hmap]
      exact List.mem_map_of_mem hmem
    exact ((hlisted.fetched_iff hpath).mp (hback device hmem)).right
  have hencoded : (devices.map (encodedSize P)).sum ≤
      config.totalRecordMaxBytes := by
    rw [(hperm.map (encodedSize P)).sum_eq]
    exact hsum
  refine ⟨⟨entries, hlisted, ?_⟩, hlive,
    fun device hdevice => (hlive device hdevice).received_le, hencoded, ?_⟩
  · apply (hperm.map ResolvedV1Device.path).trans
    rw [hmap]
    exact List.mergeSort_perm _ _
  · intro hcompact
    exact Nat.le_trans (List.sum_le_sum hcompact) hencoded

end Resolving

/--
A fetch returns the body exactly when it is complete, within the bound and not
declared longer, and never holds more; a resolution returns live records whose
compact texts together keep within the total.
-/
theorem discovery_bounds (P : Primitives) [DiscoveryReaders P] [P.UrlSafe]
    (config : V1DiscoveryConfig) (storage : PublicStorage P) :
    (forall address : String,
      FetchLaw (storage.get address) config.recordMaxBytes
        (fetchBounded P storage address config.recordMaxBytes)) ∧
    forall (identity : String) (elapsed : Bool) (devices : List ResolvedV1Device),
      resolveDevices P config storage elapsed identity = Except.ok devices ->
      Received P config storage identity devices :=
  ⟨fun address => fetchBounded_law storage address config.recordMaxBytes,
    fun _ _ _ h => resolveDevices_received h⟩

/-!
# Padded records
-/

namespace Padded

open Sample (device device_path_ne owner trimmed trimmed_record)
open Protocol.Reference

def config : V1DiscoveryConfig :=
  { connectTimeout := 10000
    overallTimeout := 30000
    recordMaxBytes := v1MaxDeviceRecordBytes
    totalRecordMaxBytes := v1MaxDeviceRecordBytes
    currentnessMaxBytes := v1MaxCurrentnessProofBytes
    allowInsecureLoopbackRelay := false }

def body (keys : DeviceKeys) : Bytes :=
  sample.jsonToVec keys.record.toJson ++ List.replicate 20000 0x20

/-- Two devices with padded records, and an answer that declares a wrong length. -/
def storage : PublicStorage sample :=
  { list := fun _ => Except.ok
      [{ owner := keyOf 1, path := (device laptop).path },
       { owner := keyOf 1, path := (device phone).path }]
    get := fun address =>
      if address = "pubky://" ++ owner ++ (device laptop).path then
        PublicResponse.body none [Except.ok (body laptop)]
      else if address = "pubky://" ++ owner ++ (device phone).path then
        PublicResponse.body none [Except.ok (body phone)]
      else PublicResponse.body (some 40000) [Except.ok [0x7b, 0x7d]]
    now := fun _ => 1060 }

theorem record_ne : laptop.record ≠ phone.record := by
  intro heq
  have hpath := laptop.record_path
  rw [heq, phone.record_path] at hpath
  injection hpath with hpath
  exact device_path_ne hpath.symm

theorem text_ne : sample.jsonToVec laptop.record.toJson ≠
    sample.jsonToVec phone.record.toJson := by
  intro heq
  have hvalue := Json.render_injective (utf8_injective heq)
  exact record_ne (V1DeviceRecord.canonical_injective (congrArg canonical hvalue))

theorem body_length (keys : DeviceKeys) :
    20000 ≤ (body keys).length ∧ (body keys).length ≤ v1MaxDeviceRecordBytes := by
  have hsize := keys.record_size
  have hlength : (body keys).length = keys.record.toJson.size + 20000 := by
    unfold body
    rw [List.length_append, List.length_replicate,
      Primitives.Lawful.jsonToVec_length]
  have hmax : v1MaxDeviceRecordBytes = 32768 := rfl
  omega

theorem recordFromSlice_body {keys : DeviceKeys}
    (hkeys : keys = laptop ∨ keys = phone) :
    DiscoveryReaders.recordFromSlice (P := sample) (body keys) =
      some keys.record := by
  change [laptop.record, phone.record].find? (fun record =>
    sample.jsonToVec record.toJson == trimmed (body keys)) = _
  unfold body
  rw [trimmed_record]
  rcases hkeys with rfl | rfl
  · rw [List.find?_cons_of_pos (by simp)]
  · rw [List.find?_cons_of_neg (by simpa using text_ne),
      List.find?_cons_of_pos (by simp)]

theorem storage_get {keys : DeviceKeys} (hkeys : keys = laptop ∨ keys = phone) :
    storage.get ("pubky://" ++ owner ++ (device keys).path) =
      PublicResponse.body none [Except.ok (body keys)] := by
  rcases hkeys with rfl | rfl
  · exact if_pos rfl
  · change (if _ then _ else if _ then _ else _) = _
    rw [if_neg Sample.address_ne, if_pos rfl]

theorem served_body {keys : DeviceKeys} (hkeys : keys = laptop ∨ keys = phone) :
    (storage.get ("pubky://" ++ owner ++ (device keys).path)).Serves
      config.recordMaxBytes (body keys) := by
  rw [storage_get hkeys]
  refine ⟨none, [body keys], rfl, nofun, ?_, (body_length keys).right⟩
  rw [List.flatten_cons, List.flatten_nil, List.append_nil]

theorem device_live {keys : DeviceKeys} (hkeys : keys = laptop ∨ keys = phone) :
    Live sample config storage owner (device keys) := by
  refine ⟨body keys, served_body hkeys, recordFromSlice_body hkeys, ?_,
    keys.record_path⟩
  exact keys.record_verify (show (1000 : UInt64) ≤ 1060 by decide)
    (show (1060 : UInt64) < 1900 by decide)

theorem listed : Listed sample config storage owner
    [{ owner := keyOf 1, path := (device laptop).path },
     { owner := keyOf 1, path := (device phone).path }] := by
  constructor
  · exact ⟨keyOf 1, rfl⟩
  · exact rejectIf_of_not (by decide)
  · rfl
  · decide
  · intro entry hentry
    rcases List.mem_pair.mp hentry with rfl | rfl
    · rfl
    · rfl
  · intro entry hentry
    rcases List.mem_pair.mp hentry with rfl | rfl
    · exact Sample.device_path_valid laptop
    · exact Sample.device_path_valid phone
  · show [(device laptop).path, (device phone).path].Nodup
    simpa using device_path_ne

theorem fetched_path {path : String} {found : ResolvedV1Device}
    (hpath : path ∈ sortedPaths ([{ owner := keyOf 1, path := (device laptop).path },
      { owner := keyOf 1, path := (device phone).path }] :
        List (ListEntry sample)))
    (h : fetchRecordInner sample config storage owner path = Except.ok found) :
    exists keys : DeviceKeys, (keys = laptop ∨ keys = phone) ∧
      path = (device keys).path ∧ found = device keys := by
  have hmem := mem_sortedPaths.mp hpath
  have hkeys : exists keys : DeviceKeys, (keys = laptop ∨ keys = phone) ∧
      path = (device keys).path := by
    rcases List.mem_pair.mp hmem with rfl | rfl
    · exact ⟨laptop, Or.inl rfl, rfl⟩
    · exact ⟨phone, Or.inr rfl, rfl⟩
  rcases hkeys with ⟨keys, hkeys, rfl⟩
  have hlive := (listed.fetched_iff hmem).mpr ⟨rfl, device_live hkeys⟩
  rw [hlive] at h
  injection h with h
  exact ⟨keys, hkeys, rfl, h.symm⟩

/-- Both padded records are accepted, and their bodies exceed the total. -/
theorem resolved : exists devices,
    resolveDevices sample config storage false owner = Except.ok devices ∧
      config.totalRecordMaxBytes <
        (devices.map (receivedBytes storage owner)).sum := by
  have heach : forall path, path ∈ sortedPaths
      ([{ owner := keyOf 1, path := (device laptop).path },
        { owner := keyOf 1, path := (device phone).path }] :
          List (ListEntry sample)) ->
      exists found, fetchRecordInner sample config storage owner path =
        Except.ok found := by
    intro path hpath
    have hmem := mem_sortedPaths.mp hpath
    rcases List.mem_pair.mp hmem with rfl | rfl
    · exact ⟨_, (listed.fetched_iff hmem).mpr ⟨rfl, device_live (Or.inl rfl)⟩⟩
    · exact ⟨_, (listed.fetched_iff hmem).mpr ⟨rfl, device_live (Or.inr rfl)⟩⟩
  rcases forall₂_of_each heach with ⟨devices, hdevices⟩
  have hlength : devices.length = 2 := by
    rw [← hdevices.length_eq]
    exact (List.mergeSort_perm _ _).length_eq
  rcases forall₂_fetched (fun path found hpath hok =>
      ((listed.fetched_iff (mem_sortedPaths.mp hpath)).mp hok).left) hdevices with
    ⟨hmap, _, hback⟩
  have hkeys (found : ResolvedV1Device) (hfound : found ∈ devices) :
      exists keys : DeviceKeys, (keys = laptop ∨ keys = phone) ∧
        found = device keys := by
    have hpath : found.path ∈ sortedPaths
        ([{ owner := keyOf 1, path := (device laptop).path },
          { owner := keyOf 1, path := (device phone).path }] :
            List (ListEntry sample)) := by
      rw [← hmap]
      exact List.mem_map_of_mem hfound
    rcases fetched_path hpath (hback found hfound) with ⟨keys, hkeys, _, hsame⟩
    exact ⟨keys, hkeys, hsame⟩
  have hsizes (found : ResolvedV1Device) (hfound : found ∈ devices) :
      encodedSize sample found ≤ 4300 ∧
        20000 ≤ receivedBytes storage owner found := by
    rcases hkeys found hfound with ⟨keys, hkeys, rfl⟩
    refine ⟨?_, ?_⟩
    · unfold encodedSize
      rw [Primitives.Lawful.jsonToVec_length]
      exact keys.record_size
    · unfold receivedBytes
      have hdelivered := (served_body hkeys).delivered_eq
      rw [hdelivered]
      exact (body_length keys).left
  rcases List.length_eq_two.mp hlength with ⟨first, second, rfl⟩
  have hfirst := hsizes first List.mem_cons_self
  have hsecond := hsizes second (List.mem_cons_of_mem _ List.mem_cons_self)
  have htotal : config.totalRecordMaxBytes = 32768 := rfl
  have hperm := List.mergeSort_perm [first, second] deviceOrder
  refine ⟨[first, second].mergeSort deviceOrder,
    listed.resolveDevices_eq_ok.mpr ⟨[first, second], ?_, rfl⟩, ?_⟩
  · rw [resolvePaths_eq_ok (Nat.zero_le _)]
    refine ⟨hdevices, ?_⟩
    simp only [List.map_cons, List.map_nil, List.sum_cons, List.sum_nil]
    omega
  · rw [(hperm.map (receivedBytes storage owner)).sum_eq]
    simp only [List.map_cons, List.map_nil, List.sum_cons, List.sum_nil]
    omega

end Padded

open Sample (device owner) in
open Padded Protocol.Reference in
/-- The padded records are within the total by their compact texts. -/
theorem discovery_bounds_sample : exists devices,
    resolveDevices sample config storage false owner = Except.ok devices ∧
      (devices.map (encodedSize sample)).sum ≤ v1MaxDeviceRecordBytes := by
  rcases resolved with ⟨devices, hdevices, _⟩
  exact ⟨devices, hdevices,
    ((discovery_bounds sample config storage).right owner false devices
      hdevices).encoded⟩

open Sample (device owner) in
open Padded Protocol.Reference in
/-- A short body declared too long is refused, and padded bodies pass the total. -/
theorem received_bytes_exceed :
    config.validate = Except.ok () ∧
      storage.get "" = PublicResponse.body (some 40000)
        [Except.ok [0x7b, 0x7d]] ∧
      fetchBounded sample storage "" config.recordMaxBytes =
        Except.error (ClientError.discovery
          "v1 discovery record declares an oversized body") ∧
      exists devices,
        resolveDevices sample config storage false owner = Except.ok devices ∧
          config.totalRecordMaxBytes <
            (devices.map (receivedBytes storage owner)).sum := by
  have hother (path : String) : "" ≠ "pubky://" ++ owner ++ path := by
    intro heq
    have hchars := congrArg String.toList heq
    rw [String.toList_append, String.toList_append] at hchars
    cases hchars
  have hget : storage.get "" =
      PublicResponse.body (some 40000) [Except.ok [0x7b, 0x7d]] := by
    unfold storage
    dsimp only
    rw [if_neg (hother _), if_neg (hother _)]
  refine ⟨listed.sound, hget, ?_, resolved⟩
  unfold fetchBounded
  rw [hget]
  rfl

end Client
end Pubky2Pubky
