import CheckIn.Text.Fields

/-! Texts cut at separators and trimmed, against what they are cut from. -/
namespace CheckIn.Text

section

variable {sep : Char} {front back cs : List Char}

theorem fields_eq_splitOn (sep : Char) (cs : List Char) : fields sep cs = cs.splitOn sep := by
  induction cs with
  | nil => rfl
  | cons c cs ih =>
    rw [fields, ih, List.splitOn_cons_eq_if_modifyHead]
    by_cases hit : c = sep
    · simp [hit]
    · obtain ⟨f, fs, split⟩ := List.exists_cons_of_ne_nil (List.splitOn_ne_nil sep cs)
      simp [hit, split]

theorem append_sep_inj {front' back' : List Char} (none : sep ∉ front) (none' : sep ∉ front')
    (same : front ++ sep :: back = front' ++ sep :: back') : front = front' ∧ back = back' := by
  have cut := congrArg (List.splitOn sep) same
  rw [List.splitOn_append_cons_self_of_not_mem none,
    List.splitOn_append_cons_self_of_not_mem none'] at cut
  obtain rfl := (List.cons.inj cut).1
  exact ⟨rfl, (List.cons.inj (List.append_cancel_left same)).2⟩

theorem append_last_sep_inj {front' back' : List Char} (none : sep ∉ back) (none' : sep ∉ back')
    (same : front ++ sep :: back = front' ++ sep :: back') : front = front' ∧ back = back' := by
  have mirrored := congrArg List.reverse same
  rw [List.reverse_append, List.reverse_cons, List.append_assoc, List.reverse_append,
    List.reverse_cons, List.append_assoc] at mirrored
  obtain ⟨backs, fronts⟩ :=
    append_sep_inj (mt List.mem_reverse.mp none) (mt List.mem_reverse.mp none') mirrored
  exact ⟨List.reverse_inj.mp fronts, List.reverse_inj.mp backs⟩

theorem cutPair?_cons {c : Char} (other : c ≠ sep) (cs : List Char) :
    cutPair? sep (c :: cs) = (cutPair? sep cs).map fun r => (c :: r.1, r.2) := by
  cases cs with
  | nil => rfl
  | cons d cs => rw [cutPair?, if_neg fun both => other both.1]

theorem cutPair?_append (none_front : sep ∉ front) (cs : List Char) :
    cutPair? sep (front ++ cs) = (cutPair? sep cs).map fun r => (front ++ r.1, r.2) := by
  induction front with
  | nil => simp
  | cons c front ih =>
    have other : c ≠ sep := (List.ne_of_not_mem_cons none_front).symm
    have later : sep ∉ front := List.not_mem_of_not_mem_cons none_front
    rw [List.cons_append, cutPair?_cons other, ih later, Option.map_map]
    rfl

theorem cutPair?_eq_none (none_front : sep ∉ cs) : cutPair? sep cs = none := by
  simpa [cutPair?] using cutPair?_append none_front []

theorem cutPair?_pair (none_front : sep ∉ front) (back : List Char) :
    cutPair? sep (front ++ sep :: sep :: back) = some (front, back) := by
  simp [cutPair?_append none_front, cutPair?]

theorem cutPair?_single (none_front : sep ∉ front) (alone : cs.head? ≠ some sep) :
    cutPair? sep (front ++ sep :: cs) =
      (cutPair? sep cs).map fun r => (front ++ sep :: r.1, r.2) := by
  rw [cutPair?_append none_front]
  cases cs with
  | nil => rfl
  | cons c cs =>
    have other : c ≠ sep := fun hit => alone (congrArg some hit)
    rw [cutPair?, if_neg fun both => other both.2, Option.map_map]
    rfl

theorem eq_of_cutPair? (cut : cutPair? sep cs = some (front, back)) :
    cs = front ++ sep :: sep :: back := by
  induction cs generalizing front with
  | nil => cases cut
  | cons c cs ih =>
    cases cs with
    | nil => cases cut
    | cons d cs =>
      rw [cutPair?] at cut
      split at cut
      · next both =>
        obtain ⟨rfl, rfl⟩ := both
        cases cut
        rfl
      · obtain ⟨⟨later, rest⟩, found, same⟩ := Option.map_eq_some_iff.mp cut
        cases same
        rw [ih found]
        rfl

end

section

variable (c : Char) (s : List Char)

theorem exists_dropLeading : ∃ n, s = List.replicate n c ++ dropLeading c s := by
  refine ⟨(s.takeWhile (· == c)).length, ?_⟩
  have same : List.replicate (s.takeWhile (· == c)).length c = s.takeWhile (· == c) := by
    refine (List.eq_replicate_iff.mpr ⟨rfl, fun d member => ?_⟩).symm
    exact beq_iff_eq.mp (List.all_eq_true.mp List.all_takeWhile d member)
  rw [same]
  exact List.takeWhile_append_dropWhile.symm

theorem head?_dropLeading : (dropLeading c s).head? ≠ some c := by
  intro first
  have stopped := List.head?_dropWhile_not (· == c) s
  rw [← dropLeading, first] at stopped
  simp at stopped

theorem dropLeading_replicate (n : Nat) :
    dropLeading c (List.replicate n c ++ s) = dropLeading c s := by
  simp [dropLeading]

variable {c s}

theorem dropLeading_eq_self (first : s.head? ≠ some c) : dropLeading c s = s := by
  cases s with
  | nil => rfl
  | cons d s =>
    have other : d ≠ c := fun hit => first (congrArg some hit)
    simp [dropLeading, other]

theorem dropTrailing_eq_reverse : dropTrailing c s = (dropLeading c s.reverse).reverse := rfl

variable (c s)

theorem exists_dropTrailing : ∃ n, s = dropTrailing c s ++ List.replicate n c := by
  obtain ⟨n, split⟩ := exists_dropLeading c s.reverse
  refine ⟨n, ?_⟩
  rw [dropTrailing_eq_reverse, ← List.reverse_replicate, ← List.reverse_append, ← split,
    List.reverse_reverse]

theorem getLast?_dropTrailing : (dropTrailing c s).getLast? ≠ some c := by
  rw [dropTrailing_eq_reverse, List.getLast?_reverse]
  exact head?_dropLeading c s.reverse

variable {c s}

theorem dropTrailing_append (last : s.getLast? ≠ some c) (n : Nat) :
    dropTrailing c (s ++ List.replicate n c) = s := by
  rw [List.getLast?_eq_head?_reverse] at last
  rw [dropTrailing_eq_reverse, List.reverse_append, List.reverse_replicate, dropLeading_replicate,
    dropLeading_eq_self last, List.reverse_reverse]

end

end CheckIn.Text
