import CheckIn.DotEnv
import CheckIn.Proofs.Text.Fields

/-! Which file of variables is read: the one in the working directory or, where there is none, the
one in the nearest directory above it. -/
namespace CheckIn

namespace Path

/-- Names that stand for themselves in a path. -/
def Proper (names : List String) : Prop := ∀ name ∈ names, name ≠ "" ∧ '/' ∉ name.toList

theorem names_absolute {names : List String} (proper : Proper names) :
    Path.names ("/" ++ "/".intercalate names) = names := by
  have parts : (Text.fields '/' ("/" ++ "/".intercalate names).toList).filter (!·.isEmpty) =
      names.map String.toList := by
    rw [Text.fields_eq_splitOn, String.toList_append, String.toList_intercalate]
    cases names with
    | nil => rfl
    | cons name names =>
      have apart : ∀ cs ∈ (name :: names).map String.toList, '/' ∉ cs := by
        intro cs member
        obtain ⟨name', inside, rfl⟩ := List.mem_map.mp member
        exact (proper name' inside).2
      have split := List.splitOn_intercalate '/' apart (by simp)
      have leading : ("/" : String).toList ++ ("/" : String).toList.intercalate
          ((name :: names).map String.toList) =
            [] ++ '/' :: ['/'].intercalate ((name :: names).map String.toList) := rfl
      rw [leading, List.splitOn_append_cons_self_of_not_mem List.not_mem_nil, split]
      have kept : ∀ cs ∈ (name :: names).map String.toList, (!cs.isEmpty) = true := by
        intro cs member
        obtain ⟨name', inside, rfl⟩ := List.mem_map.mp member
        have nonempty : name'.toList ≠ [] := fun empty =>
          (proper name' inside).1 (String.toList_inj.mp empty)
        simpa using nonempty
      rw [List.filter_cons_of_neg (by simp), List.filter_eq_self.mpr kept]
  rw [Path.names, parts, List.map_map]
  have identity : String.ofList ∘ String.toList = id := funext fun s => String.ofList_toList
  rw [identity, List.map_id]

end Path

namespace DotEnv

variable (files : FixedFiles)

/-- The file of variables in a directory is missing, or it is a directory. -/
def Passed (directory : String) : Prop :=
  files.read (Path.join directory fileName) = .error .noSuchFile ∨
    files.read (Path.join directory fileName) = .error .isDirectory

theorem nearest_state {σ : Type} (directories : List String) (w : σ) :
    (nearest files.asFiles directories : StateM σ (Option (List UInt8))) w =
      (Id.run (nearest files.asFiles directories), w) := by
  induction directories with
  | nil => rfl
  | cons directory rest ih =>
    have content : files.asFiles.read (Path.join directory fileName) =
      (pure (files.read (Path.join directory fileName)) : StateM σ _) := rfl
    have content' : files.asFiles.read (Path.join directory fileName) =
      (pure (files.read (Path.join directory fileName)) : Id _) := rfl
    rw [nearest, nearest, content, content', pure_bind, pure_bind]
    cases files.read (Path.join directory fileName) with
    | ok bs => rfl
    | error cause =>
      dsimp only
      by_cases goesOn : cause = .noSuchFile ∨ cause = .isDirectory
      · rw [if_pos goesOn, if_pos goesOn, ih]
      · rw [if_neg goesOn, if_neg goesOn]
        rfl

variable {files} {directory : String}

theorem nearest_of_passed (passed : Passed files directory) (rest : List String) :
    Id.run (nearest files.asFiles (directory :: rest)) = Id.run (nearest files.asFiles rest) := by
  have content : files.asFiles.read (Path.join directory fileName) =
    (pure (files.read (Path.join directory fileName)) : Id _) := rfl
  rw [nearest, content, pure_bind]
  rcases passed with missing | isDirectory
  · rw [missing]
    rfl
  · rw [isDirectory]
    rfl

/-- Above directories that are passed over, the search goes on as if they were not there. -/
theorem nearest_above {way : Nat → String} {n length : Nat} (inside : n ≤ length)
    (passed : ∀ m, n < m → m ≤ length → Passed files (way m)) :
    Id.run (nearest files.asFiles ((List.range (length + 1)).reverse.map way)) =
      Id.run (nearest files.asFiles ((List.range (n + 1)).reverse.map way)) := by
  induction inside with
  | refl => rfl
  | step inside ih =>
    rw [List.range_succ, List.reverse_append, List.reverse_singleton, List.singleton_append,
      List.map_cons, nearest_of_passed (passed _ (Nat.lt_succ_of_le inside) (Nat.le_refl _))]
    exact ih fun m above below => passed m above (by omega)

end DotEnv

end CheckIn
