import NatSpec.Proofs.Files.Walk

set_option autoImplicit false

namespace NatSpec.FileSystem

structure Grown (start : Place) (names : List String) (fs grown : FileSystem) : Prop where
  workDir : grown.workDir = fs.workDir
  kept : ∀ place entry, fs.find? place = some entry → grown.find? place = some entry
  made : ∀ place, fs.find? place = none → grown.find? place = none ∨
    (grown.find? place = some .directory ∧
      ∃ steps, steps <+: names ∧ grown.walk start steps = .ok place)

variable {fs middle grown changed : FileSystem} {start place : Place} {names : List String}

theorem grown_keeps (grows : Grown start names fs grown) : KeepsDirectories fs grown :=
  ⟨grows.workDir, fun place => grows.kept place .directory⟩

theorem grown_refl (start : Place) (names : List String) (fs : FileSystem) :
    Grown start names fs fs :=
  ⟨rfl, fun _ _ found => found, fun _ missing => .inl missing⟩

theorem grown_longer {longer : List String} (grows : Grown start names fs grown)
    (leads : names <+: longer) : Grown start longer fs grown where
  workDir := grows.workDir
  kept := grows.kept
  made := by
    intro place missing
    rcases grows.made place missing with still | ⟨directory, steps, through, walked⟩
    · exact .inl still
    · exact .inr ⟨directory, steps, through.trans leads, walked⟩

theorem grown_trans (first : Grown start names fs middle)
    (second : Grown start names middle grown) : Grown start names fs grown where
  workDir := second.workDir.trans first.workDir
  kept := fun place entry found => second.kept place entry (first.kept place entry found)
  made := by
    intro place missing
    rcases first.made place missing with still | ⟨directory, steps, through, walked⟩
    · exact second.made place still
    · exact .inr ⟨second.kept place _ directory, steps, through,
        walk_kept (grown_keeps second) walked⟩

theorem put_directory_grown (walked : fs.walk start names = .ok place)
    (missing : fs.find? place = none) : Grown start names fs (fs.put place .directory) := by
  have notRoot : place ≠ [] := by
    intro root
    rw [root, find_root] at missing
    cases missing
  have kept (other : Place) (entry : Entry) (found : fs.find? other = some entry) :
      (fs.put place .directory).find? other = some entry := by
    have different : other ≠ place := by
      intro same
      rw [same, missing] at found
      cases found
    rw [find?_put fs place other _ notRoot, if_neg different]
    exact found
  refine ⟨rfl, kept, ?_⟩
  intro other absent
  rw [find?_put fs place other _ notRoot]
  by_cases same : other = place
  · subst other
    rw [if_pos rfl]
    have keeps : KeepsDirectories fs (fs.put place .directory) :=
      ⟨rfl, fun other => kept other .directory⟩
    exact .inr ⟨rfl, names, List.prefix_rfl, walk_kept keeps walked⟩
  · rw [if_neg same]
    exact .inl absent

theorem make_dir_grown (made : makeDir start names fs = .ok changed) :
    Grown start names fs changed := by
  obtain ⟨place, walked, placing⟩ := bind_ok made
  cases missing : fs.find? place with
  | some entry => simp [missing] at placing
  | none =>
    simp only [missing, Except.ok.injEq] at placing
    rw [← placing]
    exact put_directory_grown walked missing

theorem require_dir_same (required : requireDir start names fs = .ok changed) : changed = fs := by
  obtain ⟨place, _, checking⟩ := bind_ok required
  cases found : fs.find? place with
  | none => simp [found] at checking
  | some entry =>
    cases entry with
    | file text => simp [found] at checking
    | directory =>
      simp only [found, Except.ok.injEq] at checking
      exact checking.symm

theorem ensure_dir_grown (ensured : ensureDir start names fs = .ok changed) :
    Grown start names fs changed := by
  unfold ensureDir at ensured
  split at ensured
  · split at ensured
    · cases ensured
      exact grown_refl start names fs
    · cases ensured
  · exact make_dir_grown ensured

-- The induction is on the names still to go up; `get` is another way to get a directory at the
-- lowest level only.
theorem ensure_dirs_grown (start : Place)
    {get : List String → FileSystem → Except OsError FileSystem}
    (grows : ∀ names fs changed, get names fs = .ok changed → Grown start names fs changed)
    (upward : List String) (fs : FileSystem) :
    Grown start upward.reverse fs (ensureDirs start get upward fs).2 := by
  induction upward generalizing get fs with
  | nil => exact grown_refl start _ fs
  | cons name above ih =>
    have leads : above.reverse <+: (name :: above).reverse := by
      rw [List.reverse_cons]
      exact List.prefix_append ..
    have aboveGrown := grown_longer (ih (fun _ _ _ => ensure_dir_grown) fs) leads
    unfold ensureDirs
    cases tried : get (name :: above).reverse fs with
    | ok changed => exact grows _ fs changed tried
    | error error =>
      by_cases absent : error = .notFound
      · subst error
        cases first : ensureDirs start (ensureDir start) above fs with
        | mk result middle =>
          rw [first] at aboveGrown
          cases result with
          | error error => exact aboveGrown
          | ok done =>
            dsimp only
            cases again : get (name :: above).reverse middle with
            | error error => exact aboveGrown
            | ok changed => exact grown_trans aboveGrown (grows _ middle changed again)
      · cases error with
        | notFound => exact absurd rfl absent
        | _ => exact grown_refl start _ fs

theorem get_dir_grown (present : Bool)
    (got : (if present then requireDir start else ensureDir start) names fs = .ok changed) :
    Grown start names fs changed := by
  cases present with
  | false => exact ensure_dir_grown got
  | true =>
    rw [require_dir_same got]
    exact grown_refl start names fs

theorem make_dirs_grown (path : String) (fs : FileSystem) :
    Grown (fs.startOf path) (Path.names path) fs (makeDirs path fs).2 := by
  unfold makeDirs
  cases checkPath path with
  | error error => exact grown_refl _ _ fs
  | ok allowed =>
    have grows := ensure_dirs_grown (fs.startOf path)
      (fun _ _ _ => get_dir_grown (Path.endsInDot path)) (Path.names path).reverse fs
    rw [List.reverse_reverse] at grows
    exact grows

end NatSpec.FileSystem
