import CheckIn.Proofs.Net.Literal
import CheckIn.Udp.Session

/-! Endpoints whose host is the text of an address, with any brackets around it: they are
recognised, go to that address without asking anyone, and leave the host out of the request. -/
namespace CheckIn

open Net

namespace Endpoint

section

variable (e : Endpoint)

theorem exists_brackets : ∃ opening closing, e.host.toList =
    List.replicate opening '[' ++ e.bareHost ++ List.replicate closing ']' := by
  obtain ⟨opening, front⟩ := Text.exists_dropLeading '[' e.host.toList
  obtain ⟨closing, back⟩ := Text.exists_dropTrailing ']' (Text.dropLeading '[' e.host.toList)
  refine ⟨opening, closing, ?_⟩
  rw [List.append_assoc, bareHost, ← back, ← front]

theorem getLast?_bareHost : e.bareHost.getLast? ≠ some ']' := Text.getLast?_dropTrailing ']' _

theorem head?_bareHost : e.bareHost.head? ≠ some '[' := by
  intro first
  obtain ⟨closing, back⟩ := Text.exists_dropTrailing ']' (Text.dropLeading '[' e.host.toList)
  refine Text.head?_dropLeading '[' e.host.toList ?_
  rw [back, List.head?_append]
  exact Option.or_eq_some_iff.mpr (.inl first)

variable {e}

theorem bareHost_eq {opening closing : Nat} {cs : List Char}
    (host : e.host.toList = List.replicate opening '[' ++ cs ++ List.replicate closing ']')
    (first : cs.head? ≠ some '[') (last : cs.getLast? ≠ some ']') : e.bareHost = cs := by
  have begins : (cs ++ List.replicate closing ']').head? ≠ some '[' := by
    cases cs with
    | nil => cases closing <;> simp [List.replicate_succ]
    | cons => exact first
  rw [bareHost, host, List.append_assoc, Text.dropLeading_replicate,
    Text.dropLeading_eq_self begins, Text.dropTrailing_append last]

theorem literal?_eq_some_iff {a : Address} : e.literal? = some a ↔ Spells e.bareHost a :=
  Address.parse?_eq_some_iff

theorem isLiteral_iff : e.isLiteral = true ↔ ∃ a, Spells e.bareHost a := by
  rw [isLiteral, Option.isSome_iff_exists]
  exact exists_congr fun a => literal?_eq_some_iff

theorem literal?_of_brackets {opening closing : Nat} {cs : List Char} {a : Address}
    (host : e.host.toList = List.replicate opening '[' ++ cs ++ List.replicate closing ']')
    (spells : Spells cs a) : e.literal? = some a := by
  have first : cs.head? ≠ some '[' :=
    fun first => (spells.not_bracket (List.mem_of_head? first)).1 rfl
  have last : cs.getLast? ≠ some ']' :=
    fun last => (spells.not_bracket (List.mem_of_getLast? last)).2 rfl
  rw [literal?_eq_some_iff, bareHost_eq host first last]
  exact spells

theorem uriHost_of_v4 {opening closing : Nat} {q : Ipv4} (host : e.host.toList =
    List.replicate opening '[' ++ q.display.toList ++ List.replicate closing ']') :
    e.uriHost = e.host := by
  have none : ':' ∉ e.host.toList := by
    simp [host, q.colon_not_mem_display, List.mem_replicate]
  simp [uriHost, none]

theorem uriHost_of_v6 {opening closing : Nat} {cs : List Char} {a : Ipv6}
    (host : e.host.toList = List.replicate opening '[' ++ cs ++ List.replicate closing ']')
    (spells : SpellsIpv6 cs a) :
    e.uriHost = if opening = 0 then "[" ++ e.host ++ "]" else e.host := by
  have colon : ':' ∈ e.host.toList := by simp [host, spells.colon_mem]
  cases opening with
  | zero =>
    have first : e.host.toList.head? ≠ some '[' := by
      obtain ⟨c, cs, rfl⟩ := List.exists_cons_of_ne_nil (List.ne_nil_of_mem spells.colon_mem)
      have other : c ≠ '[' := ((Spells.v6 spells).not_bracket List.mem_cons_self).1
      simpa [host] using other
    simp [uriHost, colon, first]
  | succ opening =>
    have first : e.host.toList.head? = some '[' := by simp [host, List.replicate_succ]
    simp [uriHost, first]

end

end Endpoint

namespace Udp

theorem resolve_literal {m : Type → Type} [Monad m] (setup : Setup m) {e : Endpoint} {a : Address}
    (literal : e.literal? = some a) : resolve setup e = pure (some (.ok ⟨a, e.port⟩)) := by
  rw [resolve, literal]

/-- The options of a request that name its host. -/
def hostOptions (p : Coap.Packet) : Coap.Options := p.options.filter (·.1 == Coap.uriHost)

theorem hostOptions_packet (id : UInt16) (r : Transport.Request) :
    hostOptions (packet id r) = if r.endpoint.isLiteral then []
      else [(Coap.uriHost, Text.Utf8.ofString r.endpoint.host)] := by
  have other : (Coap.uriPath == Coap.uriHost) = false := by decide
  have path (segments : List (List Char)) : (segments.map fun s =>
      (Coap.uriPath, Text.Utf8.encode s)).filter (·.1 == Coap.uriHost) = [] := by
    rw [List.filter_eq_nil_iff]
    rintro o member
    obtain ⟨s, -, rfl⟩ := List.mem_map.mp member
    simp [other]
  have format : ([(Coap.contentFormat, Coap.cborFormat)] : Coap.Options).filter
      (·.1 == Coap.uriHost) = [] := by decide
  simp only [hostOptions, packet, List.filter_append, path, List.append_nil]
  split <;> split <;> simp [format]

theorem packet_literal {e e' : Endpoint} (literal : e.isLiteral = true)
    (literal' : e'.isLiteral = true) (path : e.path = e'.path) (id : UInt16) (method : Coap.Method)
    (payload : List UInt8) : packet id ⟨method, e, payload⟩ = packet id ⟨method, e', payload⟩ := by
  simp only [packet, literal, literal', path, if_true]

end Udp

namespace Endpoint

section pair

variable {host : String} {a : Ipv6} (spells : SpellsIpv6 host.toList a) (port : UInt16)
  (path : String)

theorem toList_host_plain : (make host port path).host.toList =
    List.replicate 0 '[' ++ host.toList ++ List.replicate 0 ']' := by
  simp [make]

theorem toList_host_pair : (make ("[" ++ host ++ "]") port path).host.toList =
    List.replicate 1 '[' ++ host.toList ++ List.replicate 1 ']' := by
  simp [make, String.toList_append]

include spells

theorem literal?_plain : (make host port path).literal? = some (.v6 a) :=
  literal?_of_brackets (toList_host_plain port path) (.v6 spells)

theorem literal?_pair : (make ("[" ++ host ++ "]") port path).literal? = some (.v6 a) :=
  literal?_of_brackets (toList_host_pair port path) (.v6 spells)

theorem uri_pair : (make ("[" ++ host ++ "]") port path).uri = (make host port path).uri := by
  have shown : (make ("[" ++ host ++ "]") port path).uriHost = (make host port path).uriHost := by
    rw [uriHost_of_v6 (toList_host_plain port path) spells,
      uriHost_of_v6 (toList_host_pair port path) spells]
    rfl
  rw [uri, shown]
  rfl

end pair

/-- The address of a host without its brackets decides everything: whether the host is a literal,
where its requests go and whether they name it. A pair of brackets around an IPv6 text changes
nothing at all. -/
theorem literals_recognised_exactly (host : String) (port : UInt16) (path : String) :
    let e := make host port path
    (∃ opening closing, host.toList =
        List.replicate opening '[' ++ e.bareHost ++ List.replicate closing ']' ∧
      e.bareHost.head? ≠ some '[' ∧ e.bareHost.getLast? ≠ some ']') ∧
    (e.isLiteral = true ↔ ∃ a, Spells e.bareHost a) ∧
    (∀ a, Spells e.bareHost a →
      (∀ {m : Type → Type} [Monad m] (setup : Udp.Setup m),
        Udp.resolve setup e = pure (some (.ok ⟨a, port⟩))) ∧
      ∀ id method payload, Udp.hostOptions (Udp.packet id ⟨method, e, payload⟩) = []) ∧
    ((¬∃ a, Spells e.bareHost a) → ∀ id method payload,
      Udp.hostOptions (Udp.packet id ⟨method, e, payload⟩) =
        [(Coap.uriHost, Text.Utf8.ofString host)]) ∧
    ∀ a, SpellsIpv6 host.toList a →
      let e' := make ("[" ++ host ++ "]") port path
      e'.uri = e.uri ∧
      (∀ {m : Type → Type} [Monad m] (setup : Udp.Setup m),
        Udp.resolve setup e = pure (some (.ok ⟨.v6 a, port⟩)) ∧
        Udp.resolve setup e' = pure (some (.ok ⟨.v6 a, port⟩))) ∧
      ∀ id method payload,
        Udp.packet id ⟨method, e', payload⟩ = Udp.packet id ⟨method, e, payload⟩ := by
  intro e
  refine ⟨?_, isLiteral_iff, ?_, ?_, ?_⟩
  · obtain ⟨opening, closing, split⟩ := e.exists_brackets
    exact ⟨opening, closing, split, e.head?_bareHost, e.getLast?_bareHost⟩
  · intro a spells
    have literal : e.isLiteral = true := isLiteral_iff.mpr ⟨a, spells⟩
    refine ⟨fun setup => Udp.resolve_literal setup (literal?_eq_some_iff.mpr spells), ?_⟩
    intro id method payload
    rw [Udp.hostOptions_packet, if_pos literal]
  · intro none id method payload
    have noLiteral : ¬ e.isLiteral = true := fun literal => none (isLiteral_iff.mp literal)
    rw [Udp.hostOptions_packet, if_neg noLiteral]
    rfl
  · intro a spells e'
    have literal : e.literal? = some (.v6 a) := literal?_plain spells port path
    have literal' : e'.literal? = some (.v6 a) := literal?_pair spells port path
    have both : e'.isLiteral = true ∧ e.isLiteral = true := by simp [isLiteral, literal, literal']
    exact ⟨uri_pair spells port path,
      fun setup => ⟨Udp.resolve_literal setup literal, Udp.resolve_literal setup literal'⟩,
      Udp.packet_literal both.1 both.2 rfl⟩

/-- 2001:db8::c000:221, whose last two groups read as 192.0.2.33. -/
def embeddingAddress : Ipv6 := ⟨[0x2001, 0xdb8, 0, 0, 0, 0, 0xc000, 0x221], rfl⟩

theorem embedding_literal_recognised :
    (let e := make "[[2001:DB8::192.0.2.33" 5683 "hb"
     Spells e.bareHost (.v6 embeddingAddress) ∧
     (∀ setup : Udp.Setup Id,
       Udp.resolve setup e = some (.ok ⟨.v6 embeddingAddress, 5683⟩)) ∧
     Udp.hostOptions (Udp.packet 1 ⟨.post, e, [0xa0]⟩) = []) ∧
    (let e := make "coap.example.org" 5683 "hb"
     (¬∃ a, Spells e.bareHost a) ∧
     Udp.hostOptions (Udp.packet 1 ⟨.post, e, [0xa0]⟩) =
       [(Coap.uriHost, Text.Utf8.ofString "coap.example.org")]) ∧
    SpellsIpv6 "2001:DB8::192.0.2.33".toList embeddingAddress ∧
    (make "[2001:DB8::192.0.2.33]" 5683 "hb").uri =
      (make "2001:DB8::192.0.2.33" 5683 "hb").uri := by
  have opened : Spells (make "[[2001:DB8::192.0.2.33" 5683 "hb").bareHost (.v6 embeddingAddress) :=
    literal?_eq_some_iff.mp (by decide)
  have named : ¬∃ a, Spells (make "coap.example.org" 5683 "hb").bareHost a := by
    rw [← isLiteral_iff]
    decide
  have plain : SpellsIpv6 "2001:DB8::192.0.2.33".toList embeddingAddress :=
    Ipv6.parse?_eq_some_iff.mp (by decide)
  obtain ⟨-, -, recognised, -⟩ := literals_recognised_exactly "[[2001:DB8::192.0.2.33" 5683 "hb"
  obtain ⟨-, -, -, other, -⟩ := literals_recognised_exactly "coap.example.org" 5683 "hb"
  obtain ⟨-, -, -, -, paired⟩ := literals_recognised_exactly "2001:DB8::192.0.2.33" 5683 "hb"
  obtain ⟨resolved, unnamed⟩ := recognised _ opened
  exact ⟨⟨opened, fun setup => resolved setup, unnamed 1 .post [0xa0]⟩,
    ⟨named, other named 1 .post [0xa0]⟩, plain, (paired _ plain).1⟩

end Endpoint

end CheckIn
