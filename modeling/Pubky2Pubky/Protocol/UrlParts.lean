import Pubky2Pubky.Protocol.Relay

/-!
# Parts of parsed URLs

The clients also read the typed host, the port and the origin of a URL. The text
of an IPv4 host is its address, and the text of an IPv6 host is in brackets.
-/

namespace Pubky2Pubky
namespace Protocol

open Foundation

inductive Host where
  | domain (text : String)
  | ipv4 (octets : List Nat)
  | ipv6 (groups : List Nat)
  deriving DecidableEq

def Host.ipv4Localhost : Host :=
  Host.ipv4 [127, 0, 0, 1]

def Host.ipv6Localhost : Host :=
  Host.ipv6 [0, 0, 0, 0, 0, 0, 0, 1]

/-- The origin of a URL whose scheme has a default port. -/
structure Origin where
  scheme : String
  host : String
  port : Nat

/--
Further readers of the URL package. A web URL has a host, an empty password is
dropped, and a serialized URL parses to itself.
-/
class UrlParts (P : Primitives) where
  parse : String -> Option Url
  host : Url -> Option Host
  port : Url -> Option Nat
  origin : Url -> Option Origin
  parse_asStr (text : String) (url : Url) :
    parse text = some url -> parse url.asStr = some url
  parse_empty : parse "" = none
  parse_host (text : String) (url : Url) :
    parse text = some url ->
    P.urlScheme url = "https" ∨ P.urlScheme url = "http" ->
    P.urlHostStr url ≠ none
  parse_password (text : String) (url : Url) :
    parse text = some url -> P.urlPassword url ≠ some ""
  hostStr_ipv4 (url : Url) (octets : List Nat) :
    host url = some (Host.ipv4 octets) -> exists text,
      P.urlHostStr url = some text ∧ readIpv4Addr text.toList = some (octets, [])
  hostStr_ipv6 (url : Url) (groups : List Nat) :
    host url = some (Host.ipv6 groups) -> exists text,
      P.urlHostStr url = some ("[" ++ text ++ "]")

variable {P : Primitives} [UrlParts P] {url : Url}

theorem readNumber_bracket (radix maxDigits maximum : Nat)
    (allowZeroPrefix : Bool) (rest : List Char) :
    readNumber radix maxDigits maximum allowZeroPrefix ('[' :: rest) = none := by
  have hdigit : digitValue radix '[' = none := by
    unfold digitValue
    rfl
  unfold readNumber
  rw [List.takeWhile_cons_of_neg (by rw [hdigit]; exact Bool.false_ne_true)]
  exact if_pos (Or.inl rfl)

theorem isLoopbackAddress_bracket (text : String) :
    isLoopbackAddress ("[" ++ text) = false := by
  have htext : ("[" ++ text).toList = '[' :: text.toList := String.toList_append
  have hipv4 : readIpv4Addr ('[' :: text.toList) = none := by
    unfold readIpv4Addr
    rw [readNumber_bracket]
    rfl
  have hgroups : readGroups 8 0 ('[' :: text.toList) =
      ([], false, '[' :: text.toList) := by
    unfold readGroups
    dsimp only
    rw [if_pos rfl]
    dsimp only
    rw [if_neg (by decide), hipv4, readNumber_bracket]
  have hipv6 : readIpv6Addr ('[' :: text.toList) = none := by
    unfold readIpv6Addr
    rw [hgroups]
    rfl
  unfold isLoopbackAddress
  rw [htext, hipv4, hipv6]

theorem eqIgnoreAsciiCase_bracket (text : String) :
    eqIgnoreAsciiCase ("[" ++ text) "localhost" = false := by
  have htext : ("[" ++ text).toList = '[' :: text.toList := String.toList_append
  unfold eqIgnoreAsciiCase
  rw [htext, List.map_cons, beq_eq_false_iff_ne]
  intro heq
  injection heq with hhead _
  exact absurd hhead (by decide)

/-- The bracketed text of an IPv6 host is no loopback address to the protocol. -/
theorem localRelayHost_ipv6 {groups : List Nat}
    (h : UrlParts.host P url = some (Host.ipv6 groups)) :
    localRelayHost P url = false := by
  rcases UrlParts.hostStr_ipv6 url groups h with ⟨text, htext⟩
  unfold localRelayHost
  rw [htext, String.append_assoc]
  dsimp only
  rw [eqIgnoreAsciiCase_bracket, isLoopbackAddress_bracket]
  rfl

theorem localRelayHost_ipv4Localhost
    (h : UrlParts.host P url = some Host.ipv4Localhost) :
    localRelayHost P url = true := by
  rcases UrlParts.hostStr_ipv4 url _ h with ⟨text, htext, hread⟩
  have hloopback : isLoopbackAddress text = true := by
    unfold isLoopbackAddress
    rw [hread]
    rfl
  unfold localRelayHost
  rw [htext]
  dsimp only
  rw [hloopback, Bool.or_true]

end Protocol
end Pubky2Pubky
