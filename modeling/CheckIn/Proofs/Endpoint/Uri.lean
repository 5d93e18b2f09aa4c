import CheckIn.Proofs.Endpoint.Literal

/-! URIs of endpoints: which of them fix their endpoint, and which of them show the address that a
literal host stands for. -/
namespace CheckIn

open Net

namespace Endpoint

theorem toList_uri (e : Endpoint) : e.uri.toList = "coap://".toList ++
    ((e.uriHost.toList ++ ':' :: Nat.toDigits 10 e.port.toNat) ++ '/' :: e.path.toList) := by
  have colon : ":".toList = [':'] := rfl
  have slash : "/".toList = ['/'] := rfl
  simp [uri, String.toList_append, colon, slash]

theorem slash_not_mem_authority {e : Endpoint} (host : '/' ∉ e.host.toList) :
    '/' ∉ e.uriHost.toList ++ ':' :: Nat.toDigits 10 e.port.toNat := by
  have shown : '/' ∉ e.uriHost.toList := by
    rw [uriHost]
    split
    · simpa [String.toList_append] using host
    · exact host
  intro member
  rcases List.mem_append.mp member with inHost | rest
  · exact shown inHost
  · rcases List.mem_cons.mp rest with colon | inPort
    · cases colon
    · exact Text.not_mem_toDigits (by decide) (fun _ => Nat.digitChar_ne _ rfl) _ inPort

/-- The host, the port and the path of a URI whose host holds no slash can be told apart. -/
theorem uri_inj_parts (e e' : Endpoint) (host : '/' ∉ e.host.toList)
    (host' : '/' ∉ e'.host.toList) (same : e.uri = e'.uri) :
    e.uriHost = e'.uriHost ∧ e.port = e'.port ∧ e.path = e'.path := by
  have text : e.uri.toList = e'.uri.toList := congrArg String.toList same
  rw [toList_uri, toList_uri] at text
  obtain ⟨authority, path⟩ := Text.append_sep_inj (slash_not_mem_authority host)
    (slash_not_mem_authority host') (List.append_cancel_left text)
  have noColon (n : Nat) : ':' ∉ Nat.toDigits 10 n :=
    Text.not_mem_toDigits (by decide) (fun _ => Nat.digitChar_ne _ rfl) n
  obtain ⟨hosts, digits⟩ := Text.append_last_sep_inj (noColon _) (noColon _) authority
  have ports : e.port.toNat = e'.port.toNat := by
    have numbers := congrArg (Nat.ofDigitChars 10 · 0) digits
    simpa only [Nat.ofDigitChars_ten_toDigits] using numbers
  exact ⟨String.toList_inj.mp hosts, UInt16.toNat_inj.mp ports, String.toList_inj.mp path⟩

theorem uriHost_inj (e e' : Endpoint) (plain : e.host.toList.head? ≠ some '[')
    (plain' : e'.host.toList.head? ≠ some '[') (same : e.uriHost = e'.uriHost) :
    e.host = e'.host := by
  have opened (s : String) : ("[" ++ s ++ "]").toList.head? = some '[' := by
    have bracket : "[".toList = ['['] := rfl
    simp [String.toList_append, bracket]
  rw [uriHost, uriHost] at same
  split at same
  · split at same
    · rwa [String.append_left_inj, String.append_right_inj] at same
    · exact absurd (same ▸ opened e.host) plain'
  · split at same
    · exact absurd (same ▸ opened e'.host) plain
    · exact same

/-- A URI fixes the endpoint that it shows, as long as its host holds no slash and does not begin
with a bracket. Slashes in front of a path are no part of it. -/
theorem uri_fixes_endpoint :
    (∀ (host host' : String) (port port' : UInt16) (path path' : String),
      '/' ∉ host.toList → host.toList.head? ≠ some '[' →
      '/' ∉ host'.toList → host'.toList.head? ≠ some '[' →
      (make host port path).uri = (make host' port' path').uri →
      host = host' ∧ port = port' ∧ (make host port path).path = (make host' port' path').path) ∧
    ∀ (host : String) (port : UInt16) (path : String),
      (make host port path).path.toList.head? ≠ some '/' ∧
      (∃ n, path.toList = List.replicate n '/' ++ (make host port path).path.toList) ∧
      ∀ n, make host port (String.ofList (List.replicate n '/' ++ path.toList)) =
        make host port path := by
  constructor
  · intro host host' port port' path path' noSlash plain noSlash' plain' same
    let e := make host port path
    let e' := make host' port' path'
    obtain ⟨hosts, ports, paths⟩ := uri_inj_parts e e' noSlash noSlash' same
    exact ⟨uriHost_inj e e' plain plain' hosts, ports, paths⟩
  · intro host port path
    simp only [make, String.toList_ofList]
    refine ⟨Text.head?_dropLeading '/' _, Text.exists_dropLeading '/' _, fun n => ?_⟩
    rw [Text.dropLeading_replicate]

/-- A host may hold brackets and what looks like a port. -/
theorem uri_of_port_in_host :
    let host := "::1]:5683"
    '/' ∉ host.toList ∧ host.toList.head? ≠ some '[' ∧
      (make host 80 "//hb").uri = (make host 80 "hb").uri ∧
      (make host 80 "//hb").path = (make host 80 "hb").path := by
  intro host
  have noSlash : '/' ∉ host.toList := by decide
  have plain : host.toList.head? ≠ some '[' := by decide
  have same : (make host 80 "//hb").uri = (make host 80 "hb").uri := by decide
  obtain ⟨-, -, paths⟩ := uri_fixes_endpoint.1 host host 80 80 "//hb" "hb" noSlash plain noSlash
    plain same
  exact ⟨noSlash, plain, same, paths⟩

/-- The forms of an address in a URI: an IPv6 text in one pair of brackets, an IPv4 text without. -/
inductive HostForm : List Char → Address → Prop where
  | v4 (q : Ipv4) : HostForm q.display.toList (.v4 q)
  | v6 : SpellsIpv6 cs a → HostForm ('[' :: (cs ++ [']'])) (.v6 a)

/-- The URI of the endpoint is well formed and shows the address. -/
def ShowsAddress (e : Endpoint) (a : Address) : Prop :=
  ∃ shown : String, HostForm shown.toList a ∧
    e.uri = "coap://" ++ shown ++ ":" ++ toString e.port.toNat ++ "/" ++ e.path

theorem showsAddress_iff_hostForm {e : Endpoint} {a : Address} :
    e.ShowsAddress a ↔ HostForm e.uriHost.toList a := by
  constructor
  · rintro ⟨shown, form, same⟩
    simp only [uri, String.append_left_inj, String.append_right_inj] at same
    rw [same]
    exact form
  · intro form
    exact ⟨e.uriHost, form, rfl⟩

/-- How many brackets an address has around it in a URI. -/
def brackets : Address → Nat
  | .v4 _ => 0
  | .v6 _ => 1

theorem hostForm_iff {cs : List Char} {a : Address} : HostForm cs a ↔ ∃ text, Spells text a ∧
    cs = List.replicate (brackets a) '[' ++ text ++ List.replicate (brackets a) ']' := by
  constructor
  · intro form
    cases form with
    | v4 q => exact ⟨q.display.toList, .v4 q, by simp [brackets]⟩
    | v6 spells => exact ⟨_, .v6 spells, rfl⟩
  · rintro ⟨text, spells, rfl⟩
    cases spells with
    | v4 q => simpa [brackets] using HostForm.v4 q
    | v6 spells => exact .v6 spells

theorem brackets_inj {opening closing opening' closing' : Nat} {cs cs' : List Char}
    (bare : ∀ c ∈ cs, c ≠ '[' ∧ c ≠ ']') (bare' : ∀ c ∈ cs', c ≠ '[' ∧ c ≠ ']')
    (same : List.replicate opening '[' ++ cs ++ List.replicate closing ']' =
      List.replicate opening' '[' ++ cs' ++ List.replicate closing' ']') :
    opening = opening' ∧ cs = cs' ∧ closing = closing' := by
  have none {cs : List Char} (bare : ∀ c ∈ cs, c ≠ '[' ∧ c ≠ ']') :
      cs.count '[' = 0 ∧ cs.count ']' = 0 :=
    ⟨List.count_eq_zero.mpr fun member => (bare _ member).1 rfl,
      List.count_eq_zero.mpr fun member => (bare _ member).2 rfl⟩
  obtain rfl : opening = opening' := by
    simpa [List.count_replicate, none bare, none bare'] using congrArg (List.count '[') same
  obtain rfl : closing = closing' := by
    simpa [List.count_replicate, none bare, none bare'] using congrArg (List.count ']') same
  exact ⟨rfl, List.append_cancel_left (List.append_cancel_right same), rfl⟩

theorem toList_uriHost {e : Endpoint} {opening closing : Nat} {cs : List Char} {a : Address}
    (host : e.host.toList = List.replicate opening '[' ++ cs ++ List.replicate closing ']')
    (spells : Spells cs a) : e.uriHost.toList =
      if opening < brackets a then
        List.replicate (opening + 1) '[' ++ cs ++ List.replicate (closing + 1) ']'
      else List.replicate opening '[' ++ cs ++ List.replicate closing ']' := by
  cases spells with
  | v4 q => simp [uriHost_of_v4 host, host, brackets]
  | v6 spells =>
    have opened : "[".toList = ['['] := rfl
    have closed : "]".toList = [']'] := rfl
    cases opening with
    | zero =>
      simp [uriHost_of_v6 host spells, brackets, host, String.toList_append, opened, closed,
        List.replicate_succ']
    | succ opening => simp [uriHost_of_v6 host spells, brackets, host]

/-- Of all ways to put brackets around an address, the URI is well formed for those without any,
and for an IPv6 text in one pair. -/
theorem showsAddress_iff {e : Endpoint} {opening closing : Nat} {cs : List Char} {a b : Address}
    (host : e.host.toList = List.replicate opening '[' ++ cs ++ List.replicate closing ']')
    (spells : Spells cs a) : e.ShowsAddress b ↔
      b = a ∧ (opening = 0 ∧ closing = 0 ∨ opening = brackets a ∧ closing = brackets a) := by
  have form {opening closing : Nat} :
      HostForm (List.replicate opening '[' ++ cs ++ List.replicate closing ']') b ↔
        b = a ∧ opening = brackets a ∧ closing = brackets a := by
    rw [hostForm_iff]
    constructor
    · rintro ⟨text, other, same⟩
      obtain ⟨front, rfl, back⟩ :=
        brackets_inj (fun _ => spells.not_bracket) (fun _ => other.not_bracket) same
      obtain rfl := other.inj spells
      exact ⟨rfl, front, back⟩
    · rintro ⟨rfl, rfl, rfl⟩
      exact ⟨cs, spells, rfl⟩
  rw [showsAddress_iff_hostForm, toList_uriHost host spells]
  have one : brackets a ≤ 1 := by cases a <;> simp [brackets]
  split
  · next short =>
    rw [form]
    exact and_congr_right fun _ => by omega
  · next enough =>
    rw [form]
    exact and_congr_right fun _ => by omega

/-- A literal host goes to the address between its brackets, however many there are. The URI shows
that address, and never another, if the brackets are balanced as a URI has them or left out. -/
theorem literal_shown_iff_balanced (host : String) (port : UInt16) (path : String)
    (literal : (make host port path).isLiteral = true) :
    let e := make host port path
    ∃ a opening closing, Spells e.bareHost a ∧
      host.toList = List.replicate opening '[' ++ e.bareHost ++ List.replicate closing ']' ∧
      (∀ {m : Type → Type} [Monad m] (setup : Udp.Setup m),
        Udp.resolve setup e = pure (some (.ok ⟨a, port⟩))) ∧
      ∀ b, e.ShowsAddress b ↔
        b = a ∧ (opening = 0 ∧ closing = 0 ∨ opening = brackets a ∧ closing = brackets a) := by
  intro e
  obtain ⟨a, spells⟩ := isLiteral_iff.mp literal
  obtain ⟨opening, closing, split⟩ := e.exists_brackets
  exact ⟨a, opening, closing, spells, split,
    fun setup => Udp.resolve_literal setup (literal?_eq_some_iff.mpr spells),
    fun b => showsAddress_iff split spells⟩

def loopback : Ipv6 := ⟨[0, 0, 0, 0, 0, 0, 0, 1], rfl⟩

theorem bracketed_loopback_shown :
    let e := make "[::1]" 5683 "hb"
    e.isLiteral = true ∧ e.ShowsAddress (.v6 loopback) := by
  intro e
  have literal : e.isLiteral = true := by decide
  obtain ⟨a, opening, closing, spells, split, -, shows⟩ :=
    literal_shown_iff_balanced "[::1]" 5683 "hb" literal
  have text : Spells "::1".toList (.v6 loopback) := Address.parse?_eq_some_iff.mp (by decide)
  have balanced : "[::1]".toList =
      List.replicate 1 '[' ++ "::1".toList ++ List.replicate 1 ']' := by decide
  obtain ⟨front, bare, back⟩ :=
    brackets_inj (fun _ => text.not_bracket) (fun _ => spells.not_bracket)
      (balanced.symm.trans split)
  have same : Address.v6 loopback = a := text.inj (bare ▸ spells)
  exact ⟨literal, (shows _).mpr ⟨same, .inr (same ▸ ⟨front.symm, back.symm⟩)⟩⟩

/-- A bracket left behind a literal is not seen when the host is put into brackets. -/
theorem stray_bracket_shown :
    let e := make "::1]" 5683 "hb"
    e.isLiteral = true ∧
      (∀ setup : Udp.Setup Id, Udp.resolve setup e = some (.ok ⟨.v6 loopback, 5683⟩)) ∧
      e.uri = "coap://[::1]]:5683/hb" ∧ ∀ b, ¬ e.ShowsAddress b := by
  intro e
  have text : Spells "::1".toList (.v6 loopback) := Address.parse?_eq_some_iff.mp (by decide)
  have stray : e.host.toList =
      List.replicate 0 '[' ++ "::1".toList ++ List.replicate 1 ']' := by decide
  have literal : e.literal? = some (.v6 loopback) := literal?_of_brackets stray text
  refine ⟨by decide, fun setup => Udp.resolve_literal setup literal, by decide, fun b shows => ?_⟩
  obtain ⟨-, balanced⟩ := (showsAddress_iff stray text).mp shows
  simp [brackets] at balanced

end Endpoint

end CheckIn
