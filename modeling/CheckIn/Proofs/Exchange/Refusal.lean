import CheckIn.Proofs.Exchange.OutcomeLaw
import CheckIn.Proofs.Text.Repair

/-! The body of a refusal against the bytes that came: it is their repair, so text comes through as
it was sent, and a body that is sent back as its bytes means the same refusal. -/
namespace CheckIn

open Text Text.Utf8

theorem Outcome.bodyText_eq_none_iff (payload : List UInt8) :
    bodyText payload = none ↔ payload = [] := by
  rw [bodyText]
  split <;> simp_all

theorem Outcome.bodyText_eq_some_iff (payload : List UInt8) (text : String) :
    bodyText payload = some text ↔ payload ≠ [] ∧ Repaired payload text.toList := by
  rw [bodyText, repaired_iff]
  split
  · next empty => simp_all
  · next nonempty =>
    simp only [List.isEmpty_iff] at nonempty
    simp only [Option.some.injEq, ne_eq, nonempty, not_false_eq_true, true_and]
    constructor
    · rintro rfl
      exact String.toList_ofList
    · intro letters
      rw [← letters, String.ofList_toList]

theorem Outcome.bodyText_ofString {text : String} (nonempty : ofString text ≠ []) :
    bodyText (ofString text) = some text := by
  rw [bodyText_eq_some_iff]
  refine ⟨nonempty, repaired_iff.mpr ?_⟩
  exact (lossy_encode text.toList).symm

theorem Outcome.ofString_ne_nil_of_bodyText {payload : List UInt8} {text : String}
    (body : bodyText payload = some text) : ofString text ≠ [] := by
  obtain ⟨nonempty, repaired⟩ := (bodyText_eq_some_iff payload text).mp body
  have shown : text.toList ≠ [] := mt repaired.eq_nil_iff.mp nonempty
  obtain ⟨c, cs, split⟩ := List.exists_cons_of_ne_nil shown
  simp [ofString, encode, split, String.utf8EncodeChar_ne_nil]

namespace Exchange

/-- The body of a refusal is none exactly for an empty payload and else the repair of the payload:
stretches of text stand in it as they were sent, a payload that is text is the body, and the bytes of
a body under the same code are the same refusal again. -/
theorem refusal_body_repaired (code : Coap.Code) (payload : List UInt8) (refused : code.raw ≠ 0x45) :
    ∃ body, Outcome.ofResponse ⟨code, payload⟩ = .protocolError code body ∧
      (body = none ↔ payload = []) ∧
      (∀ text, body = some text ↔ payload ≠ [] ∧ Repaired payload text.toList) ∧
      (∀ text before stretch after, body = some text → stretch ≠ [] →
        payload = before ++ encode stretch ++ after → ∃ front back, Repaired before front ∧
          Repaired after back ∧ text.toList = front ++ stretch ++ back) ∧
      (∀ text, payload ≠ [] → payload = ofString text → body = some text) ∧
      ∀ text, body = some text →
        Outcome.ofResponse ⟨code, ofString text⟩ = Outcome.ofResponse ⟨code, payload⟩ := by
  have judged (bytes : List UInt8) :
      Outcome.ofResponse ⟨code, bytes⟩ = .protocolError code (Outcome.bodyText bytes) :=
    (Outcome.ofResponse_protocolError_iff ⟨code, bytes⟩ code _).mpr ⟨rfl, refused, rfl⟩
  refine ⟨Outcome.bodyText payload, judged payload, Outcome.bodyText_eq_none_iff payload,
    Outcome.bodyText_eq_some_iff payload, ?_, ?_, ?_⟩
  · intro text before stretch after body nonempty split
    obtain ⟨-, repaired⟩ := (Outcome.bodyText_eq_some_iff payload text).mp body
    refine ⟨lossy before, lossy after, repaired_iff.mpr rfl, repaired_iff.mpr rfl, ?_⟩
    rw [repaired_iff.mp repaired, split, lossy_stretch before after nonempty]
  · rintro text nonempty rfl
    exact Outcome.bodyText_ofString nonempty
  · intro text body
    rw [judged, judged, body,
      Outcome.bodyText_ofString (Outcome.ofString_ne_nil_of_bodyText body)]

/-- A character that the next one cuts off, and a byte that begins none. -/
theorem refusal_with_cut_character :
    (⟨0x84⟩ : Coap.Code).raw ≠ 0x45 ∧
      Outcome.ofResponse ⟨⟨0x84⟩, [0xe2, 0x82, 0x41, 0xff]⟩ =
        .protocolError ⟨0x84⟩ (some "\uFFFDA\uFFFD") ∧
      Repaired [0xe2, 0x82, 0x41, 0xff] ['\uFFFD', 'A', '\uFFFD'] ∧
      Outcome.ofResponse ⟨⟨0x84⟩, ofString "\uFFFDA\uFFFD"⟩ =
        Outcome.ofResponse ⟨⟨0x84⟩, [0xe2, 0x82, 0x41, 0xff]⟩ := by
  have refused : (⟨0x84⟩ : Coap.Code).raw ≠ 0x45 := by decide
  obtain ⟨body, judged, -, repaired, -, -, again⟩ :=
    refusal_body_repaired ⟨0x84⟩ [0xe2, 0x82, 0x41, 0xff] refused
  have shown : Repaired [0xe2, 0x82, 0x41, 0xff] ['\uFFFD', 'A', '\uFFFD'] :=
    repaired_iff.mpr (by decide +kernel)
  have some_body : body = some "\uFFFDA\uFFFD" := (repaired _).mpr ⟨by simp, shown⟩
  exact ⟨refused, by rw [judged, some_body], shown, again _ some_body⟩

end Exchange

end CheckIn
