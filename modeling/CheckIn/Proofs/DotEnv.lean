import CheckIn.DotEnv
import CheckIn.Proofs.Text.Utf8

/-! What a file of variables makes of an environment: a variable with a text keeps it, and any other
one gets the first value that the file assigns to it. -/
namespace CheckIn

namespace Environment

variable (env : Environment) (name other : String) (value : List UInt8)

theorem lookup_filter_ne (entries : List (String × List UInt8)) (different : other ≠ name) :
    (entries.filter (·.1 != name)).lookup other = entries.lookup other := by
  induction entries with
  | nil => rfl
  | cons entry entries ih =>
    obtain ⟨key, held⟩ := entry
    by_cases dropped : key = name
    · subst dropped
      rw [List.filter_cons_of_neg (by simp), ih, List.lookup_cons,
        beq_eq_false_iff_ne.mpr different]
    · rw [List.filter_cons_of_pos (by simpa using dropped), List.lookup_cons, List.lookup_cons, ih]

theorem value?_set : (env.set name value).value? other =
    if other = name then some value else env.value? other := by
  by_cases same : other = name
  · subst same
    simp [set, value?]
  · rw [if_neg same, value?, set, List.lookup_cons, beq_eq_false_iff_ne.mpr same]
    exact lookup_filter_ne name other env.entries same

theorem text?_of_encode {env : Environment} {name : String} {cs : List Char}
    (held : env.value? name = some (Text.Utf8.encode cs)) :
    env.text? name = some (String.ofList cs) := by
  simp [text?, held, Text.Utf8.decode?_eq_some_iff.mpr rfl]

theorem text?_setText (env : Environment) (name other value : String) :
    (env.setText name value).text? other =
      if other = name then some value else env.text? other := by
  have held := value?_set env name other (Text.Utf8.ofString value)
  by_cases same : other = name
  · rw [if_pos same] at held
    rw [if_pos same, setText, text?_of_encode held, String.ofList_toList]
  · rw [if_neg same] at held
    rw [if_neg same, setText, text?, held]
    rfl

section

variable (env : Environment) (name : String)

theorem value?_adopt (other : String) (value : List Char) :
    (env.adopt other value).value? name =
      if name = other ∧ env.text? name = none then some (Text.Utf8.encode value)
      else env.value? name := by
  unfold adopt
  by_cases same : name = other
  · subst same
    cases held : env.text? name with
    | none => simp [value?_set]
    | some text => simp
  · by_cases held : (env.text? other).isSome
    · rw [if_pos held, if_neg fun changed => same changed.1]
    · rw [if_neg held, value?_set, if_neg same, if_neg fun changed => same changed.1]

theorem text?_adopt (other : String) (value : List Char) :
    (env.adopt other value).text? name =
      if name = other ∧ env.text? name = none then some (String.ofList value)
      else env.text? name := by
  have changed := value?_adopt env name other value
  by_cases its : name = other ∧ env.text? name = none
  · rw [if_pos its] at changed ⊢
    exact text?_of_encode changed
  · rw [if_neg its] at changed ⊢
    rw [text?, changed]
    rfl

def adoptAll (as : List (String × List Char)) : Environment :=
  as.foldl (fun env a => env.adopt a.1 a.2) env

theorem adoptAll_cons (a : String × List Char) (as : List (String × List Char)) :
    env.adoptAll (a :: as) = (env.adopt a.1 a.2).adoptAll as := rfl

theorem value?_adoptAll_of_text (as : List (String × List Char)) (present : env.text? name ≠ none) :
    (env.adoptAll as).value? name = env.value? name := by
  induction as generalizing env with
  | nil => rfl
  | cons a as ih =>
    have kept : (env.adopt a.1 a.2).value? name = env.value? name := by
      rw [value?_adopt, if_neg fun changed => present changed.2]
    have stillPresent : (env.adopt a.1 a.2).text? name ≠ none := by
      rw [text?, kept]
      exact present
    rw [adoptAll_cons, ih _ stillPresent, kept]

theorem value?_adoptAll_of_no_text (as : List (String × List Char))
    (absent : env.text? name = none) : (env.adoptAll as).value? name =
      ((as.lookup name).map Text.Utf8.encode).or (env.value? name) := by
  induction as generalizing env with
  | nil => rfl
  | cons a as ih =>
    obtain ⟨other, value⟩ := a
    have changed := value?_adopt env name other value
    rw [adoptAll_cons, List.lookup_cons]
    by_cases same : name = other
    · subst same
      rw [if_pos ⟨rfl, absent⟩] at changed
      have present : (env.adopt name value).text? name ≠ none := by
        rw [text?_of_encode changed]
        exact Option.some_ne_none _
      rw [value?_adoptAll_of_text _ name as present, changed, beq_self_eq_true]
      rfl
    · rw [if_neg fun its => same its.1] at changed
      have stillAbsent : (env.adopt other value).text? name = none := by
        rw [text?, changed]
        exact absent
      rw [ih _ stillAbsent, changed, beq_eq_false_iff_ne.mpr same]

theorem text?_adoptAll (as : List (String × List Char)) : (env.adoptAll as).text? name =
    (env.text? name).or ((as.lookup name).map String.ofList) := by
  cases held : env.text? name with
  | some text =>
    have kept := value?_adoptAll_of_text env name as (by simp [held])
    rw [text?, kept, ← text?, held]
    rfl
  | none =>
    have changed := value?_adoptAll_of_no_text env name as held
    cases assigned : as.lookup name with
    | none =>
      rw [assigned] at changed
      rw [text?, changed]
      exact held
    | some value =>
      rw [assigned] at changed
      rw [text?_of_encode changed]
      rfl

end

end Environment

namespace DotEnv

/-- The assignments of some lines in their order, up to the first line that is wrong, as if each
value could be set. -/
def assignmentsFrom (env : Environment) (assigned : List (String × List Char)) :
    List (List Char) → List (String × List Char)
  | [] => []
  | line :: rest => match Line.parse? (known env assigned) line with
    | none => []
    | some .nothing => assignmentsFrom env assigned rest
    | some (.assign name value) =>
      (name, value) :: assignmentsFrom (env.adopt name value) ((name, value) :: assigned) rest

def assignments (env : Environment) (file : List UInt8) : List (String × List Char) :=
  assignmentsFrom env [] (lines file)

theorem assign_eq (env : Environment) (name : String) (value : List Char) :
    assign env name value = .ok (env.adopt name value) ∨
      assign env name value = .error ⟨name, value⟩ := by
  unfold assign
  split
  · exact .inr rfl
  · exact .inl rfl

theorem runLines_eq_foldlM (env : Environment) (assigned : List (String × List Char))
    (ls : List (List Char)) : runLines env assigned ls =
      (assignmentsFrom env assigned ls).foldlM (fun env a => assign env a.1 a.2) env := by
  induction ls generalizing env assigned with
  | nil => rfl
  | cons line rest ih =>
    rw [runLines, assignmentsFrom]
    cases Line.parse? (known env assigned) line with
    | none => rfl
    | some effect =>
      cases effect with
      | nothing => exact ih env assigned
      | assign name value =>
        dsimp only
        rw [List.foldlM_cons]
        rcases assign_eq env name value with fits | unfit
        · rw [fits]
          exact ih (env.adopt name value) ((name, value) :: assigned)
        · rw [unfit]
          rfl

/-- What some assignments first give to a variable without a text, although none can have it. -/
def Breaks (env : Environment) (as : List (String × List Char)) (u : Unfit) : Prop :=
  env.text? u.name = none ∧ as.lookup u.name = some u.value ∧ '\x00' ∈ u.value

theorem not_breaks_nil (env : Environment) (u : Unfit) : ¬Breaks env [] u := fun breaks => by
  cases breaks.2.1

theorem breaks_cons {env : Environment} {name : String} {value : List Char}
    {as : List (String × List Char)} (fits : assign env name value = .ok (env.adopt name value))
    (u : Unfit) : Breaks env ((name, value) :: as) u ↔ Breaks (env.adopt name value) as u := by
  unfold Breaks
  rw [Environment.text?_adopt, List.lookup_cons]
  by_cases same : u.name = name
  · rw [same, beq_self_eq_true]
    cases held : env.text? name with
    | some text => simp
    | none =>
      simp only [true_and, if_true, Option.some.injEq, reduceCtorEq, false_and, iff_false]
      rintro ⟨rfl, zero⟩
      unfold assign at fits
      rw [if_pos ⟨by rw [held]; rfl, List.contains_iff_mem.mpr zero⟩] at fits
      cases fits
  · rw [beq_eq_false_iff_ne.mpr same, if_neg fun its => same its.1]

/-- All values are set, or none is behind one that cannot be set. -/
theorem foldlM_assign (env : Environment) (as : List (String × List Char)) :
    (as.foldlM (fun env a => assign env a.1 a.2) env = .ok (env.adoptAll as) ∧
      ∀ u, ¬Breaks env as u) ∨
    ∃ u, as.foldlM (fun env a => assign env a.1 a.2) env = .error u ∧ Breaks env as u := by
  induction as generalizing env with
  | nil => exact .inl ⟨rfl, nofun⟩
  | cons a as ih =>
    obtain ⟨name, value⟩ := a
    rw [List.foldlM_cons]
    rcases assign_eq env name value with fits | unfit
    · dsimp only
      rw [fits]
      simp only [breaks_cons fits]
      exact ih (env.adopt name value)
    · dsimp only
      refine .inr ⟨⟨name, value⟩, by rw [unfit]; rfl, ?_⟩
      unfold assign at unfit
      split at unfit
      · next zero =>
        exact ⟨Option.isNone_iff_eq_none.mp zero.1, by simp,
          List.contains_iff_mem.mp zero.2⟩
      · cases unfit

end DotEnv

end CheckIn
