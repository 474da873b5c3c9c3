import Pubky2Pubky.Protocol.Primitives

/-!
# Relay URLs

A locator names one to four relay URLs. Production relays use HTTPS; a
development policy also admits plain HTTP on a loopback host.
-/

namespace Pubky2Pubky
namespace Protocol

open Foundation

def v1MaxRelayUrls : Nat := 4

def maxRelayUrlBytes : Nat := 2048

/-!
# Loopback addresses

The textual IP address parser of the standard library. A parser takes the unread
text and returns what it read together with the rest.
-/

abbrev Parser (α : Type) := List Char -> Option (α × List Char)

def digitValue (radix : Nat) (c : Char) : Option Nat :=
  let n := c.toNat
  let value :=
    if 48 ≤ n ∧ n ≤ 57 then some (n - 48)
    else if 97 ≤ n ∧ n ≤ 122 then some (n - 87)
    else if 65 ≤ n ∧ n ≤ 90 then some (n - 55)
    else none
  value.filter (fun v => v < radix)

def readChar (c : Char) : Parser Unit
  | d :: rest => if d = c then some ((), rest) else none
  | [] => none

/-- Read all digits that follow; their count and value are bounded. -/
def readNumber (radix maxDigits maximum : Nat) (allowZeroPrefix : Bool) :
    Parser Nat := fun input =>
  let digits := input.takeWhile fun c => (digitValue radix c).isSome
  let value := digits.foldl
    (fun acc c => acc * radix + (digitValue radix c).getD 0) 0
  if digits = [] ∨ digits.length > maxDigits ∨ value > maximum ∨
      (allowZeroPrefix = false ∧ digits.head? = some '0' ∧ digits.length > 1)
  then none
  else some (value, input.drop digits.length)

def readIpv4Addr : Parser (List Nat) := fun input => do
  let (a, input) <- readNumber 10 3 255 false input
  let ((), input) <- readChar '.' input
  let (b, input) <- readNumber 10 3 255 false input
  let ((), input) <- readChar '.' input
  let (c, input) <- readNumber 10 3 255 false input
  let ((), input) <- readChar '.' input
  let (d, input) <- readNumber 10 3 255 false input
  pure ([a, b, c, d], input)

/--
Read at most `limit` 16-bit groups separated by colons, the first at the given
index. The flag reports that the last two groups were written as an IPv4 address.
-/
def readGroups : Nat -> Nat -> List Char -> List Nat × Bool × List Char
  | 0, _, input => ([], false, input)
  | limit + 1, index, input =>
      let separated :=
        if index = 0 then some input
        else (readChar ':' input).map (fun read => read.2)
      match separated with
      | none => ([], false, input)
      | some start =>
          match if limit = 0 then none else readIpv4Addr start with
          | some ([a, b, c, d], rest) => ([a * 256 + b, c * 256 + d], true, rest)
          | _ =>
              match readNumber 16 4 65535 true start with
              | none => ([], false, input)
              | some (group, rest) =>
                  let (groups, ipv4, rest) := readGroups limit (index + 1) rest
                  (group :: groups, ipv4, rest)

def readIpv6Addr : Parser (List Nat) := fun input =>
  let (head, headIpv4, rest) := readGroups 8 0 input
  if head.length = 8 then some (head, rest)
  else if headIpv4 = true then none
  else do
    let ((), rest) <- readChar ':' rest
    let ((), rest) <- readChar ':' rest
    let (tail, _, rest) := readGroups (8 - (head.length + 1)) 0 rest
    let zeros := List.replicate (8 - head.length - tail.length) 0
    pure (head ++ zeros ++ tail, rest)

/-- The host parses as an IP address, and the address is a loopback address. -/
def isLoopbackAddress (host : String) : Bool :=
  match readIpv4Addr host.toList with
  | some (octets, rest) => rest.isEmpty && octets.head? == some 127
  | none =>
      match readIpv6Addr host.toList with
      | some (groups, rest) =>
          rest.isEmpty && groups == [0, 0, 0, 0, 0, 0, 0, 1]
      | none => false

example : isLoopbackAddress "127.0.0.1" = true := by decide

example : isLoopbackAddress "0:0::1" = true := by decide

example : isLoopbackAddress "127.0.0.01" = false := by decide

def toAsciiLowercase (c : Char) : Char :=
  if 65 ≤ c.toNat ∧ c.toNat ≤ 90 then Char.ofNat (c.toNat + 32) else c

def eqIgnoreAsciiCase (a b : String) : Bool :=
  a.toList.map toAsciiLowercase == b.toList.map toAsciiLowercase

/-!
# Relay checks
-/

variable (P : Primitives)

def localRelayHost (url : Url) : Bool :=
  match P.urlHostStr url with
  | none => false
  | some host => eqIgnoreAsciiCase host "localhost" || isLoopbackAddress host

def validateRelayUrl (url : Url) (allowLoopbackDev : Bool) : Result Unit :=
  let secure := P.urlScheme url = "https"
  let loopbackDev := allowLoopbackDev = true ∧ P.urlScheme url = "http" ∧
    localRelayHost P url = true
  rejectIf (url.asStr.utf8ByteSize > maxRelayUrlBytes ∨
      (¬ secure ∧ ¬ loopbackDev) ∨
      P.urlHostStr url = none ∨
      P.urlUsername url ≠ "" ∨
      P.urlPassword url ≠ none ∨
      P.urlPath url ≠ "/" ∨
      P.urlQuery url ≠ none ∨
      P.urlFragment url ≠ none)
    (ProtocolError.invalidEncoding "v1 relay URL")

/-- The loop over the relays, with the serializations seen so far. -/
def validateRelaysLoop (allowLoopbackDev : Bool) (unique : List String) :
    List Url -> Result Unit
  | [] => pure ()
  | relay :: rest => do
      validateRelayUrl P relay allowLoopbackDev
      rejectIf (relay.asStr ∈ unique)
        (ProtocolError.invalidEncoding "duplicate v1 relay URL")
      validateRelaysLoop allowLoopbackDev (relay.asStr :: unique) rest

def validateRelays (relays : List Url) (allowLoopbackDev : Bool) :
    Result Unit := do
  rejectIf (relays = [] ∨ relays.length > v1MaxRelayUrls)
    (ProtocolError.invalidEncoding "v1 relay URLs")
  validateRelaysLoop P allowLoopbackDev [] relays

/-!
# Accepted relay lists
-/

variable {P}

theorem validateRelaysLoop_eq_ok {allowLoopbackDev : Bool}
    {unique : List String} {relays : List Url} :
    validateRelaysLoop P allowLoopbackDev unique relays = Except.ok () <->
      (forall relay, relay ∈ relays ->
        validateRelayUrl P relay allowLoopbackDev = Except.ok () ∧
          relay.asStr ∉ unique) ∧
      (relays.map Url.asStr).Nodup := by
  induction relays generalizing unique with
  | nil =>
      simp [validateRelaysLoop, pure_eq_ok]
  | cons relay rest ih =>
      unfold validateRelaysLoop
      simp only [bind_eq_ok, rejectIf_eq_ok, exists_unit, ih, List.mem_cons,
        not_or, List.map_cons, List.nodup_cons, List.mem_map, not_exists,
        not_and]
      constructor
      · intro h
        rcases h with ⟨hurl, hnew, hrest, hnodup⟩
        refine ⟨?_, fun other hother heq => (hrest other hother).right.left heq,
          hnodup⟩
        intro other hother
        rcases hother with rfl | hother
        · exact ⟨hurl, hnew⟩
        · exact ⟨(hrest other hother).left, (hrest other hother).right.right⟩
      · intro h
        rcases h with ⟨hall, hfresh, hnodup⟩
        refine ⟨(hall relay (Or.inl rfl)).left, (hall relay (Or.inl rfl)).right,
          ?_, hnodup⟩
        intro other hother
        have hone := hall other (Or.inr hother)
        exact ⟨hone.left, hfresh other hother, hone.right⟩

/-- An accepted list has one to four distinct relays, each of which is accepted. -/
theorem validateRelays_eq_ok {allowLoopbackDev : Bool} {relays : List Url} :
    validateRelays P relays allowLoopbackDev = Except.ok () <->
      relays ≠ [] ∧ relays.length ≤ v1MaxRelayUrls ∧
      (forall relay, relay ∈ relays ->
        validateRelayUrl P relay allowLoopbackDev = Except.ok ()) ∧
      (relays.map Url.asStr).Nodup := by
  unfold validateRelays
  simp only [bind_eq_ok, rejectIf_eq_ok, exists_unit, not_or, gt_iff_lt,
    Nat.not_lt, validateRelaysLoop_eq_ok, List.not_mem_nil, not_false_eq_true,
    and_true, and_assoc]

end Protocol
end Pubky2Pubky
