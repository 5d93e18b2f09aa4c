import CheckIn.Json.Record
import Mathlib.Algebra.Group.Action.Defs
import Mathlib.Tactic.SplitIfs

/-! A record is read alike whatever it holds before: a text either has one fault, or it makes one
change to every record. Changes are elements of a monoid that acts on records, so that the changes
of a text's members, one after the other, are a change again. -/
namespace CheckIn.Json

/-- A computation on a record that fails alike for all of them, or makes one change to all. -/
inductive Alike (ω : Type) {σ : Type} [Monoid ω] [MulAction ω σ] {β : Type}
    (x : σ → Except Fault (σ × β)) : Prop where
  | changes (o : ω) (b : β) : (∀ s, x s = .ok (o • s, b)) → Alike ω x
  | fails (fault : Fault) : (∀ s, x s = .error fault) → Alike ω x

namespace Alike

variable {ω σ β γ : Type} [Monoid ω] [MulAction ω σ]

theorem ok (b : β) : Alike ω fun s : σ => .ok (s, b) :=
  .changes 1 b fun s => by rw [one_smul]

theorem error (fault : Fault) : Alike ω fun _ : σ => (.error fault : Except Fault (σ × β)) :=
  .fails fault fun _ => rfl

theorem bind {x : σ → Except Fault (σ × β)} {f : β → σ → Except Fault (σ × γ)}
    (first : Alike ω x) (second : ∀ b, Alike ω (f b)) :
    Alike ω fun s => x s >>= fun r => f r.2 r.1 := by
  cases first with
  | fails fault failed =>
    refine .fails fault fun s => ?_
    rw [failed]
    rfl
  | changes o b changed =>
    cases second b with
    | fails fault failed =>
      refine .fails fault fun s => ?_
      rw [changed]
      exact failed (o • s)
    | changes o' b' changed' =>
      refine .changes (o' * o) b' fun s => ?_
      rw [changed, mul_smul]
      exact changed' (o • s)

theorem after {α : Type} (x : Except Fault α) {f : α → σ → Except Fault (σ × β)}
    (second : ∀ a, Alike ω (f a)) : Alike ω fun s => x >>= fun a => f a s := by
  cases x with
  | error fault => exact .error fault
  | ok a => exact second a

theorem ite {p : Prop} [Decidable p] {x y : σ → Except Fault (σ × β)} (yes : Alike ω x)
    (no : Alike ω y) : Alike ω fun s => if p then x s else y s := by
  by_cases holds : p
  · simpa only [holds, if_true] using yes
  · simpa only [holds, if_false] using no

end Alike

section

variable {ω σ : Type} [Monoid ω] [MulAction ω σ]

/-- A reader of a record that reads alike. -/
def Uniform (ω : Type) {σ : Type} [Monoid ω] [MulAction ω σ] (read : σ → Reader σ) : Prop :=
  ∀ c, Alike ω fun s => read s c

variable {fields : List (FieldReader σ)} (uniform : ∀ field ∈ fields, Uniform ω field.read)
include uniform

theorem alike_member (seen : List String) (c : Cursor) {β : Type}
    {f : List String → Cursor → σ → Except Fault (σ × β)} (rest : ∀ seen c, Alike ω (f seen c)) :
    Alike ω fun s => member fields seen s c >>= fun r => f r.1.2 r.2 r.1.1 := by
  simp only [member, bind_assoc]
  refine .after (string c) fun (key, c) => ?_
  dsimp only
  cases found : fields.find? (·.name == key) with
  | none =>
    simp only [bind_assoc]
    refine .after (colon c) fun (_, c) => ?_
    exact .after (skipValue c) fun (_, c) => rest seen c
  | some field =>
    have listed : field ∈ fields := List.mem_of_find?_eq_some found
    dsimp only
    by_cases repeated : seen.contains key = true
    · simp only [if_pos repeated]
      exact .error _
    · simp only [if_neg repeated, bind_assoc]
      refine .after (colon c) fun (_, c) => ?_
      exact .bind (uniform field listed c) fun c => rest (key :: seen) c

theorem alike_members (fuel : Nat) (seen : List String) (c : Cursor) :
    Alike ω fun s => members fields fuel seen s c := by
  induction fuel generalizing seen c with
  | zero => exact .error _
  | succ fuel ih =>
    let f seen c s := behindMember (members fields fuel seen) s c
    refine alike_member uniform seen c.next (f := f) fun seen c => ?_
    dsimp only [f, behindMember]
    cases c.skipBlanks.peek? with
    | none => exact .error _
    | some b =>
      refine .ite (.ok _) (.ite ?_ (.error _))
      exact .ite (ih ..) (.ite (.error _) (.ite (.error _) (.error _)))

theorem uniform_object : Uniform ω (object fields) := by
  intro c
  exact .ite (.ok _) (.ite (alike_members uniform ..) (.ite (.error _) (.error _)))

theorem alike_elements (first : Bool) (c : Cursor) :
    Alike ω fun s => elements fields first s c := by
  induction fields generalizing first c with
  | nil =>
    simp only [elements]
    cases arrayEnd c with
    | error fault => exact .error fault
    | ok r => exact .ok _
  | cons field fields ih =>
    have head := uniform field List.mem_cons_self
    have ih := ih fun field listed => uniform field (List.mem_cons_of_mem _ listed)
    refine .ite (.error _) (.ite (.ok _) (.ite ?_ (.ite ?_ (.error _))))
    · exact .bind (head _) fun c => ih false c
    · refine .ite (.error _) (.ite (.error _) ?_)
      exact .bind (head _) fun c => ih false c

omit uniform in
theorem unexpected_fails (expected : String) (c : Cursor) :
    ∃ fault, (unexpected expected c : Except Fault (σ × Cursor)) = .error fault := by
  have behind {α : Type} (x : Except Fault α) (f : α → Fault) :
      ∃ fault, (x.bind fun a => (.error (f a) : Except Fault (σ × Cursor))) = .error fault := by
    cases x <;> exact ⟨_, rfl⟩
  unfold unexpected
  cases c.peek? with
  | none => exact ⟨_, rfl⟩
  | some b =>
    dsimp only [Cursor.fail, Cursor.failAhead]
    split_ifs
    iterate 6 apply behind
    all_goals exact ⟨_, rfl⟩

/-- A record whose fields read alike reads alike, from an object and from an array. -/
theorem uniform_record (expected : String) : Uniform ω (record expected fields) := by
  intro c
  refine .ite (alike_elements uniform ..) (.ite (uniform_object uniform _) ?_)
  obtain ⟨fault, failed⟩ := unexpected_fails (σ := σ) expected c.skipBlanks
  exact .fails fault fun _ => failed

end

theorem alike_document {ω σ : Type} [Monoid ω] [MulAction ω σ] {read : σ → Reader σ}
    (uniform : Uniform ω read) (bs : List UInt8) :
    (∃ o : ω, ∀ s, document (read s) bs = .ok (o • s)) ∨
      ∃ fault, ∀ s, document (read s) bs = .error fault := by
  cases uniform (.start bs) with
  | fails fault failed =>
    refine .inr ⟨fault, fun s => ?_⟩
    rw [document, failed]
    rfl
  | changes o c changed =>
    by_cases ended : c.skipBlanks.rest.isEmpty = true
    · refine .inl ⟨o, fun s => ?_⟩
      rw [document, changed]
      exact if_pos ended
    · let behind := c.skipBlanks.next
      refine .inr ⟨⟨.trailingCharacters, behind.line, behind.column⟩, fun s => ?_⟩
      rw [document, changed]
      exact if_neg ended

end CheckIn.Json
