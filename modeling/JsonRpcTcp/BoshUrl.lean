import JsonRpcTcp.Framer
import JsonRpcTcp.Lib.Numeral
import JsonRpcTcp.Lib.TextSearch

namespace JsonRpcTcp
open TextSearch

/-! `ADXmppProxy::parseBoshUrl`, and the URLs it is meant for. -/

abbrev colon : Byte := 0x3a

abbrev slash : Byte := 0x2f

structure BoshUrlComponents where
  protocol : List Byte
  host : List Byte
  port : Int
  path : List Byte
  deriving DecidableEq, Repr

/-- The end of `parseBoshUrl`, with what `std::stoi` throws. -/
def splitHostPort (protocol hostPort path : List Byte) : Except StoiException BoshUrlComponents :=
  match rfind [colon] hostPort with
  | some portPos =>
    (stoi (hostPort.drop (portPos + 1))).map fun port =>
      { protocol := protocol, host := hostPort.take portPos, port := port, path := path }
  | none => .ok { protocol := protocol, host := hostPort, port := if protocol = ascii "https" then 443 else 80
                  path := path }

def parseBoshUrl (url : List Byte) : Except StoiException BoshUrlComponents :=
  let protocolEnd := find (ascii "://") url
  let protocol := match protocolEnd with
    | some place => url.take place
    | none => ascii "http"
  let pos := match protocolEnd with
    | some place => place + 3
    | none => 0
  let pathStart := findFrom [slash] url pos
  let hostPort := match pathStart with
    | some place => (url.drop pos).take (place - pos)
    | none => url.drop pos
  let path := match pathStart with
    | some place => url.drop place
    | none => [slash]
  splitHostPort protocol hostPort path

/-- An IPv4 address as it is written. -/
def dotted (a b c d : UInt8) : List Byte :=
  decimalNat a.toNat ++ ascii "." ++ decimalNat b.toNat ++ ascii "." ++ decimalNat c.toNat ++ ascii "." ++
    decimalNat d.toNat

/-- An IPv6 address in brackets. -/
def Bracketed (host : List Byte) : Prop :=
  ∃ address, host = ascii "[" ++ address ++ ascii "]" ∧ colon ∈ address ∧ slash ∉ address

/-- The hosts of URLs: names, IPv4 addresses and IPv6 addresses in brackets. -/
inductive BoshHost : List Byte → Prop
  | name {host : List Byte} : colon ∉ host → slash ∉ host → BoshHost host
  | ipv4 (a b c d : UInt8) : BoshHost (dotted a b c d)
  | ipv6 {host : List Byte} : Bracketed host → BoshHost host

/-- A URL, from its parts. -/
def formatBoshUrl (protocol host : List Byte) (port : Option Nat) (path : Option (List Byte)) : List Byte :=
  protocol ++ ascii "://" ++ host ++ (port.map fun n => colon :: decimalNat n).getD [] ++ path.getD []

/-- The parts with their defaults. -/
def boshParts (protocol host : List Byte) (port : Option Nat) (path : Option (List Byte)) : BoshUrlComponents where
  protocol := protocol
  host := host
  port := match port with
    | some n => n
    | none => if protocol = ascii "https" then 443 else 80
  path := path.getD [slash]

theorem decimalNat_plain (n : Nat) : colon ∉ decimalNat n ∧ slash ∉ decimalNat n := by
  have digits := decimalNat_digits n
  refine ⟨fun member => ?_, fun member => ?_⟩
  · exact absurd (digits colon member) (by decide)
  · exact absurd (digits slash member) (by decide)

theorem dotted_plain (a b c d : UInt8) : colon ∉ dotted a b c d ∧ slash ∉ dotted a b c d := by
  have dot : colon ∉ ascii "." ∧ slash ∉ ascii "." := by decide
  unfold dotted
  simp only [List.mem_append, not_or]
  exact ⟨⟨⟨⟨⟨⟨⟨(decimalNat_plain _).1, dot.1⟩, (decimalNat_plain _).1⟩, dot.1⟩, (decimalNat_plain _).1⟩, dot.1⟩,
    (decimalNat_plain _).1⟩, ⟨⟨⟨⟨⟨(decimalNat_plain _).2, dot.2⟩, (decimalNat_plain _).2⟩, dot.2⟩,
    (decimalNat_plain _).2⟩, dot.2⟩, (decimalNat_plain _).2⟩

theorem Bracketed.colon_mem {host : List Byte} (bracketed : Bracketed host) : colon ∈ host := by
  obtain ⟨address, rfl, inside, _⟩ := bracketed
  exact List.mem_append_left _ (List.mem_append_right _ inside)

theorem BoshHost.slash_absent {host : List Byte} (isHost : BoshHost host) : slash ∉ host := by
  cases isHost with
  | name _ absent => exact absent
  | ipv4 a b c d => exact (dotted_plain a b c d).2
  | ipv6 bracketed =>
    obtain ⟨address, rfl, _, absent⟩ := bracketed
    have brackets : slash ∉ ascii "[" ∧ slash ∉ ascii "]" := by decide
    simp only [List.mem_append, not_or]
    exact ⟨⟨brackets.1, absent⟩, brackets.2⟩

/-- Only the addresses in brackets have colons. -/
theorem BoshHost.colon_iff {host : List Byte} (isHost : BoshHost host) : colon ∈ host ↔ Bracketed host := by
  refine ⟨fun member => ?_, Bracketed.colon_mem⟩
  cases isHost with
  | name absent _ => exact absurd member absent
  | ipv4 a b c d => exact absurd member (dotted_plain a b c d).1
  | ipv6 bracketed => exact bracketed

section
variable {protocol host : List Byte} {path : Option (List Byte)}

/-- The part of a URL between the protocol and the path. -/
def hostPort (host : List Byte) (port : Option Nat) : List Byte :=
  host ++ (port.map fun n => colon :: decimalNat n).getD []

theorem hostPort_slash (absent : slash ∉ host) (port : Option Nat) : slash ∉ hostPort host port := by
  unfold hostPort
  rw [List.mem_append]
  rintro (inHost | inPort)
  · exact absent inHost
  · cases port with
    | none => exact absurd inPort List.not_mem_nil
    | some n =>
      rcases List.mem_cons.mp inPort with same | inDigits
      · exact absurd same (by decide)
      · exact (decimalNat_plain n).2 inDigits

/-- The protocol ends at the first colon, and the path begins at the first slash behind it. -/
theorem parse_format (plain : colon ∉ protocol) (absent : slash ∉ host) (port : Option Nat)
    (absolute : ∀ text ∈ path, text.head? = some slash) :
    parseBoshUrl (formatBoshUrl protocol host port path) =
      splitHostPort protocol (hostPort host port) (path.getD [slash]) := by
  have shape : formatBoshUrl protocol host port path =
      protocol ++ (ascii "://" ++ (hostPort host port ++ path.getD [])) := by
    simp only [formatBoshUrl, hostPort, List.append_assoc]
  have protocolEnd : find (ascii "://") (formatBoshUrl protocol host port path) = some protocol.length := by
    rw [shape]
    exact find_append plain (by decide)
  have front : (formatBoshUrl protocol host port path).take protocol.length = protocol := by
    rw [shape, List.take_left]
  have rest : (formatBoshUrl protocol host port path).drop (protocol.length + 3) =
      hostPort host port ++ path.getD [] := by
    rw [shape, ← List.append_assoc]
    exact List.drop_left' (by rw [List.length_append]; rfl)
  have inside : protocol.length + 3 ≤ (formatBoshUrl protocol host port path).length := by
    have separator : (ascii "://").length = 3 := rfl
    rw [shape, List.length_append, List.length_append]
    omega
  have pathStart : findFrom [slash] (formatBoshUrl protocol host port path) (protocol.length + 3) =
      path.map fun _ => protocol.length + 3 + (hostPort host port).length := by
    rw [findFrom, if_pos inside, rest]
    cases path with
    | none =>
      rw [Option.getD_none, List.append_nil, find_none (hostPort_slash absent port) rfl]
      rfl
    | some text =>
      obtain ⟨later, rfl⟩ := List.head?_eq_some_iff.mp (absolute text rfl)
      have found : find [slash] (hostPort host port ++ ([slash] ++ later)) = some (hostPort host port).length :=
        find_append (hostPort_slash absent port) rfl
      show (find [slash] (hostPort host port ++ ([slash] ++ later))).map _ = _
      rw [found]
      rfl
  unfold parseBoshUrl
  simp only [protocolEnd, front, pathStart, rest]
  cases path with
  | none =>
    rw [Option.getD_none, List.append_nil]
    rfl
  | some text =>
    have behind : (formatBoshUrl protocol host port (some text)).drop
        (protocol.length + 3 + (hostPort host port).length) = text := by
      rw [← List.drop_drop, rest]
      exact List.drop_left
    simp only [Option.map_some, Option.getD_some, behind, Nat.add_sub_cancel_left, List.take_left]

/-- Without a colon the host is all there is, and the port is that of the protocol. -/
theorem parse_plain_host (plain : colon ∉ protocol) (isHost : BoshHost host) (name : colon ∉ host)
    (absolute : ∀ text ∈ path, text.head? = some slash) :
    parseBoshUrl (formatBoshUrl protocol host none path) = .ok (boshParts protocol host none path) := by
  have whole : hostPort host none = host := List.append_nil host
  rw [parse_format plain isHost.slash_absent none absolute, whole, splitHostPort, rfind_none name]
  rfl

/-- A port that is given stands behind the last colon. -/
theorem parse_port (plain : colon ∉ protocol) (isHost : BoshHost host) {port : Nat} (small : port ≤ 65535)
    (absolute : ∀ text ∈ path, text.head? = some slash) :
    parseBoshUrl (formatBoshUrl protocol host (some port) path) = .ok (boshParts protocol host (some port) path) := by
  have whole : hostPort host (some port) = host ++ colon :: decimalNat port := rfl
  have number : stoi (decimalNat port) = .ok (port : Int) := by
    have value := readNat_decimalNat port
    have reads := stoi_numeral (numeral_decimalNat port) (by omega)
    rwa [value] at reads
  have behind : (host ++ colon :: decimalNat port).drop (host.length + 1) = decimalNat port := by
    rw [← List.drop_drop, List.drop_left, List.drop_one, List.tail_cons]
  rw [parse_format plain isHost.slash_absent (some port) absolute, whole, splitHostPort,
    rfind_last (decimalNat_plain port).1]
  simp only [behind, number, List.take_left]
  rfl

/-- Without a port the last colon of an address in brackets is taken for that of the port. -/
theorem parse_bracketed (plain : colon ∉ protocol) (isHost : BoshHost host) (bracketed : Bracketed host)
    (absolute : ∀ text ∈ path, text.head? = some slash) {parts : BoshUrlComponents}
    (parsed : parseBoshUrl (formatBoshUrl protocol host none path) = .ok parts) :
    parts.host.length < host.length := by
  have whole : hostPort host none = host := List.append_nil host
  obtain ⟨place, found, inside⟩ := exists_rfind bracketed.colon_mem
  rw [parse_format plain isHost.slash_absent none absolute, whole, splitHostPort, found] at parsed
  dsimp only at parsed
  cases reads : stoi (host.drop (place + 1)) with
  | error thrown =>
    rw [reads] at parsed
    cases parsed
  | ok number =>
    rw [reads] at parsed
    cases parsed
    rw [List.length_take]
    exact lt_of_le_of_lt (Nat.min_le_left _ _) inside

end

/-- A URL is parsed into its parts, unless it has an address in brackets and no port. -/
theorem parse_inverts_format (protocol host : List Byte) (port : Option Nat) (path : Option (List Byte))
    (plain : colon ∉ protocol) (isHost : BoshHost host) (small : ∀ n ∈ port, n ≤ 65535)
    (absolute : ∀ text ∈ path, text.head? = some slash) :
    parseBoshUrl (formatBoshUrl protocol host port path) = .ok (boshParts protocol host port path) ↔
      ¬ (Bracketed host ∧ port = none) := by
  constructor
  · rintro parsed ⟨bracketed, rfl⟩
    exact absurd (parse_bracketed plain isHost bracketed absolute parsed) (Nat.lt_irrefl host.length)
  · intro meant
    cases port with
    | none =>
      refine parse_plain_host plain isHost (fun member => meant ⟨isHost.colon_iff.mp member, rfl⟩) absolute
    | some n => exact parse_port plain isHost (small n rfl) absolute

/-- An address in brackets with a port, and a name without. -/
theorem parse_inverts_format_server :
    parseBoshUrl (ascii "http://[::1]:5281/bosh") =
      .ok { protocol := ascii "http", host := ascii "[::1]", port := 5281, path := ascii "/bosh" } ∧
    parseBoshUrl (ascii "https://xmpp.example") =
      .ok { protocol := ascii "https", host := ascii "xmpp.example", port := 443, path := ascii "/" } := by
  have bracketed : Bracketed (ascii "[::1]") := ⟨ascii "::1", by decide, by decide, by decide⟩
  have name : BoshHost (ascii "xmpp.example") := .name (by decide) (by decide)
  constructor
  · exact (parse_inverts_format (ascii "http") (ascii "[::1]") (some 5281) (some (ascii "/bosh")) (by decide)
      (.ipv6 bracketed) (by decide) (by decide)).mpr fun misread => Option.some_ne_none 5281 misread.2
  · exact (parse_inverts_format (ascii "https") (ascii "xmpp.example") none none (by decide) name (by decide)
      (by decide)).mpr fun misread => absurd misread.1.colon_mem (by decide)

/-- The loopback address has its last colon in front of the 1, and the unspecified one has nothing there
that is a number. -/
theorem bracketed_host_misread :
    BoshHost (ascii "[::1]") ∧
    parseBoshUrl (formatBoshUrl (ascii "https") (ascii "[::1]") none (some (ascii "/bosh"))) =
      .ok { protocol := ascii "https", host := ascii "[:", port := 1, path := ascii "/bosh" } ∧
    parseBoshUrl (formatBoshUrl (ascii "https") (ascii "[::1]") none (some (ascii "/bosh"))) ≠
      .ok (boshParts (ascii "https") (ascii "[::1]") none (some (ascii "/bosh"))) ∧
    parseBoshUrl (formatBoshUrl (ascii "http") (ascii "[::]") none none) = .error .invalidArgument := by
  have bracketed : Bracketed (ascii "[::1]") := ⟨ascii "::1", by decide, by decide, by decide⟩
  exact ⟨.ipv6 bracketed, by decide +kernel, by decide +kernel, by decide +kernel⟩

end JsonRpcTcp
