import CheckIn.Proofs.Coap.Options
import CheckIn.Proofs.Text.Fields
import CheckIn.Proofs.Text.Utf8
import CheckIn.Udp.Transfer

/-! How a request is laid out in its packet. The packet says what the request says, and so do its
bytes, from which it is read back. -/
namespace CheckIn.Udp

open Coap

def numbered (number : Nat) (values : List (List UInt8)) : Options := values.map (number, ·)

def optionValues (number : Nat) (os : Options) : List (List UInt8) :=
  (os.filter (·.1 == number)).map Prod.snd

theorem optionValues_append (number : Nat) (os os' : Options) :
    optionValues number (os ++ os') = optionValues number os ++ optionValues number os' := by
  simp [optionValues]

theorem optionValues_numbered (number number' : Nat) (values : List (List UInt8)) :
    optionValues number (numbered number' values) = if number' = number then values else [] := by
  unfold optionValues numbered
  induction values with
  | nil => simp
  | cons v values ih =>
    split at ih
    · next same => simp_all
    · next other => simp_all

def segments (path : String) : List (List Char) :=
  if path = "" then [] else path.toList.splitOn '/'

theorem encode_intercalate (sep : List Char) (fs : List (List Char)) :
    Text.Utf8.encode (sep.intercalate fs) =
      (Text.Utf8.encode sep).intercalate (fs.map Text.Utf8.encode) := by
  induction fs with
  | nil => rfl
  | cons f fs ih => cases fs with
    | nil => simp
    | cons g fs =>
      rw [List.map_cons] at ih
      rw [List.intercalate_cons_cons, Text.Utf8.encode_append, Text.Utf8.encode_append, ih,
        List.map_cons, List.map_cons, List.intercalate_cons_cons]

/-- Segments joined by slashes are the path that they come from. -/
theorem intercalate_segments (path : String) :
    List.intercalate [0x2f] ((segments path).map Text.Utf8.encode) = Text.Utf8.ofString path := by
  have slash : Text.Utf8.encode ['/'] = [0x2f] := by decide
  unfold segments
  split
  · next empty =>
    subst empty
    rfl
  · rw [← slash, ← encode_intercalate, List.intercalate_splitOn]
    rfl

section

variable (host : String) (port : UInt16) (path : String) (id : UInt16) (payload : List UInt8)

theorem fields_eq_segments :
    let fs := Text.fields '/' (Endpoint.make host port path).path.toList
    (if fs.head? = some [] then fs.drop 1 else fs) =
      segments (Endpoint.make host port path).path := by
  intro fs
  have first : (Endpoint.make host port path).path.toList.head? ≠ some '/' := by
    simpa [Endpoint.make] using Text.head?_dropLeading '/' path.toList
  unfold segments
  cases text : (Endpoint.make host port path).path.toList with
  | nil =>
    have empty : (Endpoint.make host port path).path = "" := String.toList_eq_nil_iff.mp text
    simp [fs, empty, Text.fields]
  | cons c cs =>
    have filled : (Endpoint.make host port path).path ≠ "" := by
      intro empty
      rw [empty] at text
      cases text
    have other : c ≠ '/' := fun hit => first (by rw [text, hit]; rfl)
    have head : fs.head? ≠ some [] := by
      simp only [fs, text, Text.fields, if_neg other]
      split <;> simp
    rw [if_neg head, if_neg filled, ← text, ← Text.fields_eq_splitOn]

def hostValues (e : Endpoint) : List (List UInt8) :=
  if e.isLiteral then [] else [Text.Utf8.ofString e.host]

def pathValues (e : Endpoint) : List (List UInt8) := (segments e.path).map Text.Utf8.encode

def formatValues (payload : List UInt8) : List (List UInt8) :=
  if payload = [] then [] else [cborFormat]

theorem options_packet :
    let e := Endpoint.make host port path
    (packet id (.post e payload)).options = numbered uriHost (hostValues e) ++
      numbered uriPath (pathValues e) ++ numbered contentFormat (formatValues payload) := by
  intro e
  have format : numbered contentFormat (formatValues payload) =
      if payload.isEmpty then [] else [(contentFormat, cborFormat)] := by
    cases payload <;> rfl
  have host : numbered uriHost (hostValues e) =
      if e.isLiteral then [] else [(uriHost, Text.Utf8.ofString e.host)] := by
    unfold hostValues
    split <;> rfl
  rw [format, host, pathValues, ← fields_eq_segments, numbered, List.map_map]
  rfl

theorem optionValues_packet :
    let e := Endpoint.make host port path
    let os := (packet id (.post e payload)).options
    optionValues uriHost os = hostValues e ∧ optionValues uriPath os = pathValues e ∧
      optionValues contentFormat os = formatValues payload := by
  intro e os
  have apart : uriHost ≠ uriPath ∧ uriHost ≠ contentFormat ∧ uriPath ≠ contentFormat := by decide
  obtain ⟨hostPath, hostFormat, pathFormat⟩ := apart
  simp [os, options_packet, optionValues_append, optionValues_numbered, hostPath, hostFormat,
    pathFormat, hostPath.symm, hostFormat.symm, pathFormat.symm, e]

theorem number_of_mem_options :
    ∀ o ∈ (packet id (.post (.make host port path) payload)).options,
      o.1 = uriHost ∨ o.1 = uriPath ∨ o.1 = contentFormat := by
  have number {n : Nat} {values : List (List UInt8)} {o : Nat × List UInt8}
      (member : o ∈ numbered n values) : o.1 = n := by
    obtain ⟨v, -, rfl⟩ := List.mem_map.mp member
    rfl
  intro o member
  rw [options_packet, List.mem_append, List.mem_append] at member
  exact or_assoc.mp (member.imp (.imp number number) number)

theorem wellPlaced_packet
    (fits : (packet id (.post (.make host port path) payload)).encode.length ≤ optionLimit) :
    WellPlaced 0 (packet id (.post (.make host port path) payload)).options where
  ascending := by
    have numbers (number : Nat) (values : List (List UInt8)) :
        (numbered number values).map Prod.fst = List.replicate values.length number := by
      simp [numbered]
    refine List.Pairwise.isChain (List.pairwise_cons.mpr ⟨fun _ _ => Nat.zero_le _, ?_⟩)
    rw [options_packet, List.map_append, List.map_append, numbers, numbers, numbers]
    simp only [List.pairwise_append, List.pairwise_replicate, List.mem_append, List.mem_replicate]
    refine ⟨⟨.inr (Nat.le_refl _), .inr (Nat.le_refl _), ?_⟩, .inr (Nat.le_refl _), ?_⟩
    · rintro _ ⟨-, rfl⟩ _ ⟨-, rfl⟩
      decide
    · rintro _ (⟨-, rfl⟩ | ⟨-, rfl⟩) _ ⟨-, rfl⟩ <;> decide
  known o member := by
    rcases number_of_mem_options host port path id payload o member with same | same | same <;>
      rw [same] <;> decide
  fits _ member := Nat.le_trans (length_le_encode member) fits

end

/-- The packet of a request holds what the request holds, and every packet of a request that is
short enough to be sent is read back from its bytes as it was. -/
theorem request_read_back (host : String) (port : UInt16) (path : String) (id : UInt16)
    (payload : List UInt8) :
    let e := Endpoint.make host port path
    let p := packet id (.post e payload)
    (p.kind = .confirmable ∧ p.code.raw = 0x02 ∧ p.messageId = id ∧ p.token = [] ∧
      p.payload = payload) ∧
    optionValues uriHost p.options =
      (if e.isLiteral then [] else [Text.Utf8.ofString host]) ∧
    (optionValues uriPath p.options =
        (if e.path = "" then [] else (e.path.toList.splitOn '/').map Text.Utf8.encode) ∧
      List.intercalate [0x2f] (optionValues uriPath p.options) = Text.Utf8.ofString e.path) ∧
    optionValues contentFormat p.options = (if payload = [] then [] else [[60]]) ∧
    (∀ o ∈ p.options, o.1 = uriHost ∨ o.1 = uriPath ∨ o.1 = contentFormat) ∧
    (p.encode.length ≤ Packet.sizeLimit → Packet.parse? p.encode = some p) := by
  intro e p
  obtain ⟨hosts, paths, formats⟩ := optionValues_packet host port path id payload
  refine ⟨⟨rfl, rfl, rfl, rfl, rfl⟩, hosts, ⟨?_, ?_⟩, formats,
    number_of_mem_options host port path id payload, fun short => ?_⟩
  · rw [paths, pathValues, segments]
    split <;> rfl
  · rw [paths]
    exact intercalate_segments e.path
  · have fits : p.encode.length ≤ optionLimit := Nat.le_trans short (by decide)
    exact parse?_encode (Nat.zero_le _) (wellPlaced_packet host port path id payload fits)

/-- A host whose length takes two bytes, and a path with an empty segment inside and one at its
end; slashes before it do not count. -/
theorem long_host_read_back :
    let host := String.ofList (List.replicate 270 'h')
    let p := packet 7 (.post (.make host 5683 "/a//b/") [0xa0])
    p.encode.length ≤ Packet.sizeLimit ∧
      optionValues uriHost p.options = [List.replicate 270 0x68] ∧
      optionValues uriPath p.options = [[0x61], [], [0x62], []] ∧
      Packet.parse? p.encode = some p := by
  intro host p
  have text : host.toList = List.replicate 270 'h' := String.toList_ofList
  have named : (Endpoint.make host 5683 "/a//b/").isLiteral = false := by
    rw [Endpoint.isLiteral, Endpoint.literal?, Endpoint.bareHost, Endpoint.make, text]
    decide +kernel
  have bytes : Text.Utf8.ofString host = List.replicate 270 0x68 := by
    rw [Text.Utf8.ofString, text]
    decide +kernel
  have path : pathValues (Endpoint.make host 5683 "/a//b/") = [[0x61], [], [0x62], []] := by
    change (segments (String.ofList (Text.dropLeading '/' "/a//b/".toList))).map _ = _
    decide +kernel
  have options : p.options = numbered uriHost [List.replicate 270 0x68] ++
      numbered uriPath [[0x61], [], [0x62], []] ++ numbered contentFormat [cborFormat] := by
    rw [options_packet, hostValues, named, path, Endpoint.make, bytes]
    rfl
  have short : p.encode.length ≤ Packet.sizeLimit := by
    have whole : p = ⟨.confirmable, ⟨0x02⟩, 7, [], p.options, [0xa0]⟩ := rfl
    rw [whole, options]
    decide +kernel
  obtain ⟨-, hosts, ⟨paths, -⟩, -, -, readBack⟩ := request_read_back host 5683 "/a//b/" 7 [0xa0]
  rw [named, if_neg Bool.false_ne_true, bytes] at hosts
  exact ⟨short, hosts, paths.trans (by decide +kernel), readBack short⟩

end CheckIn.Udp
