import Dimming.Disk
import Mathlib.Data.List.Induction
import Mathlib.Tactic.Common

/-!
# Files that are written

What is written to a path is read from there. The directories that a path leads through can be made exactly
when no file is in the way at any of its steps. After that there is a directory at each of these steps, and
nowhere else where there was none. So a path can be written to, once this is done, exactly when it ends in a
name, and neither a directory nor one of its own steps is where it leads.
-/

set_option autoImplicit false

namespace Dimming

/-- Where some steps and one more lead. -/
theorem Place.afterAll_concat (place : Place) (steps : List Step) (step : Step) :
    place.afterAll (steps ++ [step]) = (place.afterAll steps).after step := by
  simp [Place.afterAll]

namespace Disk

variable {disk after made : Disk} {place : Place} {steps front : List Step} {path text : String}

/-! ## Places -/

/-- What a directory is: the root, what lies above where one stands or above a directory that was made, and
what lies above a file. -/
theorem isDirectory_iff : disk.isDirectory place = true ↔
    place = [] ∨ place <+: disk.here ∨ (∃ made ∈ disk.directories, place <+: made) ∨
      ∃ entry ∈ disk.files, place <+: entry.1 ∧ entry.1 ≠ place := by
  simp only [isDirectory, Bool.or_eq_true, List.isEmpty_iff, List.any_eq_true, List.isPrefixOf_iff_prefix,
    Bool.and_eq_true, decide_eq_true_eq, or_assoc]

/-- What lies above a directory is one. -/
theorem isDirectory_of_isPrefix {above : Place} (habove : above <+: place)
    (h : disk.isDirectory place = true) : disk.isDirectory above = true := by
  rw [isDirectory_iff] at h ⊢
  rcases h with rfl | hhere | ⟨made, hmade, hbelow⟩ | ⟨entry, hentry, hbelow, hne⟩
  · exact Or.inl (List.prefix_nil.mp habove)
  · exact Or.inr (Or.inl (habove.trans hhere))
  · exact Or.inr (Or.inr (Or.inl ⟨made, hmade, habove.trans hbelow⟩))
  · refine Or.inr (Or.inr (Or.inr ⟨entry, hentry, habove.trans hbelow, ?_⟩))
    rintro rfl
    exact hne (habove.eq_of_length (Nat.le_antisymm habove.length_le hbelow.length_le))

/-- One stands in a directory. -/
theorem isDirectory_here (disk : Disk) : disk.isDirectory disk.here = true :=
  isDirectory_iff.mpr (Or.inr (Or.inl (List.prefix_refl _)))

/-- From a directory only a name leads to something else than a directory. -/
theorem isDirectory_after (h : disk.isDirectory place = true) {step : Step}
    (hstep : ∀ name, step ≠ .name name) : disk.isDirectory (place.after step) = true := by
  cases step with
  | root => exact isDirectory_iff.mpr (Or.inl rfl)
  | here => exact h
  | up => exact isDirectory_of_isPrefix (List.dropLast_prefix place) h
  | name text => exact absurd rfl (hstep text)

/-! ## Following a path -/

/-- Every step is taken from a directory. -/
def Passes (disk : Disk) (place : Place) (steps : List Step) : Prop :=
  ∀ front, front <+: steps → front ≠ steps → disk.isDirectory (place.afterAll front) = true

/-- The first step is taken from the place where one begins, and the others from where it leads. -/
theorem passes_cons {step : Step} : disk.Passes place (step :: steps) ↔
    disk.isDirectory place = true ∧ disk.Passes (place.after step) steps := by
  constructor
  · intro h
    refine ⟨h [] List.nil_prefix (List.cons_ne_nil _ _).symm, ?_⟩
    intro front hfront hne
    exact h (step :: front) (List.cons_prefix_cons.mpr ⟨rfl, hfront⟩) (by simpa using hne)
  · rintro ⟨hplace, h⟩ front hfront hne
    cases front with
    | nil => exact hplace
    | cons first rest =>
      obtain ⟨rfl, hrest⟩ := List.cons_prefix_cons.mp hfront
      exact h rest hrest (by simpa using hne)

/-- The steps before the last one, some of them or all. -/
theorem isPrefix_and_ne_concat_iff {others : List Step} {last : Step} :
    others <+: front ++ [last] ∧ others ≠ front ++ [last] ↔ others <+: front := by
  rw [List.prefix_concat_iff]
  constructor
  · rintro ⟨h | h, hne⟩
    · exact absurd h hne
    · exact h
  · intro h
    refine ⟨Or.inr h, ?_⟩
    rintro rfl
    have hlength := h.length_le
    rw [List.length_append, List.length_singleton] at hlength
    omega

/-- The steps up to the last one lead through directories. -/
theorem passes_concat {last : Step} : disk.Passes place (front ++ [last]) ↔
    ∀ others, others <+: front → disk.isDirectory (place.afterAll others) = true := by
  refine forall_congr' fun others => ?_
  rw [← @isPrefix_and_ne_concat_iff front others last, and_imp]

/-- Steps can be followed when each of them is taken from a directory. If not, there is one that is taken from
a file or from where nothing is. -/
theorem walk_cases (disk : Disk) (place : Place) (steps : List Step) :
    disk.Passes place steps ∧ disk.walk place steps = .ok (place.afterAll steps) ∨
    ∃ front, front <+: steps ∧ front ≠ steps ∧ disk.isDirectory (place.afterAll front) = false ∧
      (disk.walk place steps = .error .notFound ∨
        disk.walk place steps = .error .notDirectory ∧
          (disk.file? (place.afterAll front)).isSome = true) := by
  induction steps generalizing place with
  | nil =>
    refine Or.inl ⟨?_, rfl⟩
    intro front hfront hne
    exact absurd (List.prefix_nil.mp hfront) hne
  | cons step rest ih =>
    rw [walk]
    cases hplace : disk.isDirectory place with
    | false =>
      refine Or.inr ⟨[], List.nil_prefix, (List.cons_ne_nil _ _).symm, hplace, ?_⟩
      rw [if_neg Bool.false_ne_true]
      by_cases hfile : (disk.file? place).isSome = true
      · exact Or.inr ⟨if_pos hfile, hfile⟩
      · exact Or.inl (if_neg hfile)
    | true =>
      rw [if_pos rfl]
      rcases ih (place.after step) with ⟨hpasses, hwalk⟩ | ⟨front, hfront, hne, hfalse, hwalk⟩
      · exact Or.inl ⟨passes_cons.mpr ⟨hplace, hpasses⟩, hwalk⟩
      · exact Or.inr ⟨step :: front, List.cons_prefix_cons.mpr ⟨rfl, hfront⟩, by simpa using hne, hfalse,
          hwalk⟩

/-- Some steps are followed from where one stands when there are any, when no name in them is broken, and when
each of them is taken from a directory. -/
theorem follow_eq_ok : disk.follow steps = .ok place ↔
    steps ≠ [] ∧ (∀ step ∈ steps, step.isBroken = false) ∧ disk.Passes disk.here steps ∧
      place = disk.here.afterAll steps := by
  unfold follow
  by_cases hempty : steps = []
  · simp [hempty]
  by_cases hbroken : steps.any Step.isBroken = true
  · rw [if_neg (by simpa using hempty), if_pos hbroken]
    obtain ⟨step, hstep, hname⟩ := List.any_eq_true.mp hbroken
    refine ⟨nofun, fun h => ?_⟩
    exact absurd hname (by simp [h.2.1 step hstep])
  · have hwhole : ∀ step ∈ steps, step.isBroken = false := by
      simpa [List.any_eq_true] using hbroken
    rw [if_neg (by simpa using hempty), if_neg hbroken]
    rcases disk.walk_cases disk.here steps with ⟨hpasses, hwalk⟩ | ⟨front, hfront, hne, hfalse, hwalk⟩
    · rw [hwalk, Except.ok.injEq]
      exact ⟨fun h => ⟨hempty, hwhole, hpasses, h.symm⟩, fun h => h.2.2.2.symm⟩
    · refine ⟨fun h => ?_, fun h => ?_⟩
      · rcases hwalk with hwalk | ⟨hwalk, -⟩ <;> cases hwalk.symm.trans h
      · exact absurd (h.2.2.1 front hfront hne) (by simp [hfalse])

/-- What is there stays there, so a path that can be followed can still be followed. -/
theorem Passes.mono (h : disk.Passes place steps)
    (hkept : ∀ other, disk.isDirectory other = true → after.isDirectory other = true) :
    after.Passes place steps :=
  fun front hfront hne => hkept _ (h front hfront hne)

/-! ## Making directories -/

/-- No name in some steps is broken, and none of them leads to a file, nor does one start from a file. -/
structure Open (disk : Disk) (steps : List Step) : Prop where
  unbroken : ∀ step ∈ steps, step.isBroken = false
  noFile : ∀ front, front <+: steps →
    disk.isDirectory (disk.here.afterAll front) = true ∨ disk.file? (disk.here.afterAll front) = none

/-- On a disk there are now directories where some steps lead one after the other, and no others than before
besides. -/
structure Raised (disk made : Disk) (steps : List Step) : Prop where
  files_eq : made.files = disk.files
  here_eq : made.here = disk.here
  isDirectory_iff : ∀ place, made.isDirectory place = true ↔
    disk.isDirectory place = true ∨ ∃ front, front <+: steps ∧ place = disk.here.afterAll front

/-- What is not in the way of some steps is not in the way of the first ones of them. -/
theorem Open.of_append {last : Step} (h : disk.Open (front ++ [last])) : disk.Open front where
  unbroken step hstep := h.unbroken step (List.mem_append_left _ hstep)
  noFile others hothers := h.noFile others (hothers.trans (List.prefix_append _ _))

/-- Where one stands there is a directory already. -/
theorem raised_nil (disk : Disk) : Raised disk disk [] where
  files_eq := rfl
  here_eq := rfl
  isDirectory_iff place := by
    refine ⟨Or.inl, ?_⟩
    rintro (h | ⟨front, hfront, rfl⟩)
    · exact h
    · rw [List.prefix_nil.mp hfront]
      exact disk.isDirectory_here

/-- One directory more, where one step more leads. -/
theorem Raised.concat (h : Raised disk made front) {last : Step} (hfiles : after.files = made.files)
    (hhere : after.here = made.here)
    (hmade : ∀ other, after.isDirectory other = true ↔
      made.isDirectory other = true ∨ other = disk.here.afterAll (front ++ [last])) :
    Raised disk after (front ++ [last]) where
  files_eq := hfiles.trans h.files_eq
  here_eq := hhere.trans h.here_eq
  isDirectory_iff other := by
    rw [hmade, h.isDirectory_iff, or_assoc]
    refine or_congr_right ⟨?_, ?_⟩
    · rintro (⟨steps, hsteps, rfl⟩ | rfl)
      · exact ⟨steps, hsteps.trans (List.prefix_append _ _), rfl⟩
      · exact ⟨_, List.prefix_refl _, rfl⟩
    · rintro ⟨steps, hsteps, rfl⟩
      rcases List.prefix_concat_iff.mp hsteps with rfl | hsteps
      · exact Or.inr rfl
      · exact Or.inl ⟨steps, hsteps, rfl⟩

/-- Where there are directories along some steps, one step more can be taken. -/
theorem Raised.passes (h : Raised disk made front) {last : Step} :
    made.Passes made.here (front ++ [last]) := by
  rw [h.here_eq]
  exact passes_concat.mpr fun steps hsteps => (h.isDirectory_iff _).mpr (Or.inr ⟨steps, hsteps, rfl⟩)

/-- The same files are found where the files are the same. -/
theorem file?_congr (h : made.files = disk.files) (place : Place) :
    made.file? place = disk.file? place := by
  rw [file?, h, file?]

/-- A directory that is made where steps lead is the only one more. -/
theorem isDirectory_made {last : Step} (hpasses : disk.Passes disk.here (front ++ [last]))
    (hvacant : disk.isDirectory (disk.here.afterAll (front ++ [last])) = false) (other : Place) :
    { disk with directories := disk.here.afterAll (front ++ [last]) :: disk.directories }.isDirectory
        other = true ↔
      disk.isDirectory other = true ∨ other = disk.here.afterAll (front ++ [last]) := by
  have hsplit : { disk with
        directories := disk.here.afterAll (front ++ [last]) :: disk.directories }.isDirectory other = true ↔
      disk.isDirectory other = true ∨ other <+: disk.here.afterAll (front ++ [last]) := by
    simp only [isDirectory_iff, List.mem_cons, exists_eq_or_imp]
    grind
  have hfront : disk.isDirectory (disk.here.afterAll front) = true :=
    hpasses front (List.prefix_append _ _) (by simp)
  rw [hsplit]
  constructor
  · rintro (h | habove)
    · exact Or.inl h
    rw [Place.afterAll_concat] at hvacant habove ⊢
    by_cases hname : ∃ text, last = .name text
    · -- what lies above the new directory lies above the one that it is made in
      obtain ⟨text, rfl⟩ := hname
      rcases List.prefix_concat_iff.mp habove with rfl | habove
      · exact Or.inr rfl
      · exact Or.inl (isDirectory_of_isPrefix habove hfront)
    · have hthere := isDirectory_after hfront (fun name hlast => hname ⟨name, hlast⟩)
      exact absurd (hvacant.symm.trans hthere) Bool.false_ne_true
  · rintro (h | rfl)
    · exact Or.inl h
    · exact Or.inr (List.prefix_refl _)

/-- Where steps cannot be followed there is nothing at one of them yet, or something is in the way. -/
theorem follow_eq_error {cause : DiskError} (hne : steps ≠ []) (h : disk.follow steps = .error cause) :
    (cause = .notFound ∧ ∀ step ∈ steps, step.isBroken = false) ∨
      (cause ≠ .notFound ∧ ¬ disk.Open steps) := by
  unfold follow at h
  rw [if_neg (by simpa using hne)] at h
  by_cases hbroken : steps.any Step.isBroken = true
  · rw [if_pos hbroken] at h
    cases h
    obtain ⟨step, hstep, hname⟩ := List.any_eq_true.mp hbroken
    refine Or.inr ⟨nofun, fun hopen => ?_⟩
    exact absurd ((hopen.unbroken step hstep).symm.trans hname) Bool.false_ne_true
  · rw [if_neg hbroken] at h
    rcases disk.walk_cases disk.here steps with ⟨-, hwalk⟩ | ⟨front, hfront, -, hfalse, hwalk⟩
    · cases hwalk.symm.trans h
    rcases hwalk with hwalk | ⟨hwalk, hfile⟩
    · cases hwalk.symm.trans h
      exact Or.inl ⟨rfl, by simpa [List.any_eq_true] using hbroken⟩
    · cases hwalk.symm.trans h
      refine Or.inr ⟨nofun, fun hopen => ?_⟩
      rcases hopen.noFile front hfront with hdirectory | hnone
      · exact absurd (hfalse.symm.trans hdirectory) Bool.false_ne_true
      · rw [hnone] at hfile
        cases hfile

/-- Where steps cannot be followed no directory is made. -/
theorem ensureDirectory_of_error {cause : DiskError} (h : disk.follow steps = .error cause) :
    disk.ensureDirectory steps = (.error cause, disk) := by
  simp [ensureDirectory, makeDirectory, leadsToDirectory, h]

/-- Where steps can be followed a directory is made, unless there is one or a file is in the way. -/
theorem ensureDirectory_of_ok {last : Step} (h : disk.follow (front ++ [last]) = .ok place) :
    (disk.isDirectory place = true ∨ disk.file? place = none) ∧
        (∃ made, disk.ensureDirectory (front ++ [last]) = (.ok (), made) ∧
          made.files = disk.files ∧ made.here = disk.here ∧
          ∀ other, made.isDirectory other = true ↔ disk.isDirectory other = true ∨ other = place) ∨
      ¬ (disk.isDirectory place = true ∨ disk.file? place = none) ∧
        disk.ensureDirectory (front ++ [last]) = (.error .alreadyExists, disk) := by
  obtain ⟨-, -, hpasses, hplace⟩ := follow_eq_ok.mp h
  cases hdirectory : disk.isDirectory place with
  | true =>
    refine Or.inl ⟨Or.inl rfl, disk, ?_, rfl, rfl, ?_⟩
    · simp [ensureDirectory, makeDirectory, leadsToDirectory, h, hdirectory]
    · intro other
      refine ⟨Or.inl, ?_⟩
      rintro (hother | rfl)
      · exact hother
      · exact hdirectory
  | false =>
    cases hfile : disk.file? place with
    | none =>
      refine Or.inl ⟨Or.inr rfl, { disk with directories := place :: disk.directories }, ?_, rfl, rfl, ?_⟩
      · simp [ensureDirectory, makeDirectory, h, hdirectory, hfile]
      · subst hplace
        exact isDirectory_made hpasses hdirectory
    | some bytes =>
      refine Or.inr ⟨by simp, ?_⟩
      simp [ensureDirectory, makeDirectory, leadsToDirectory, h, hdirectory, hfile]

/-- Steps that can be followed lead through directories. -/
theorem raised_of_passes {last : Step} (h : disk.Passes disk.here (front ++ [last])) :
    Raised disk disk front where
  files_eq := rfl
  here_eq := rfl
  isDirectory_iff place := by
    refine ⟨Or.inl, ?_⟩
    rintro (hplace | ⟨steps, hsteps, rfl⟩)
    · exact hplace
    · exact passes_concat.mp h steps hsteps

/-- Once there are directories along some steps, one more can be made where one step more leads, unless a file
is in the way. -/
theorem ensureDirectory_of_raised (hopen : disk.Open front) (h : Raised disk made front) {last : Step}
    (hunbroken : ∀ step ∈ front ++ [last], step.isBroken = false) :
    disk.Open (front ++ [last]) ∧ (∃ after, made.ensureDirectory (front ++ [last]) = (.ok (), after) ∧
      Raised disk after (front ++ [last])) ∨
    ¬ disk.Open (front ++ [last]) ∧
      made.ensureDirectory (front ++ [last]) = (.error .alreadyExists, made) := by
  have hlead : made.follow (front ++ [last]) = .ok (disk.here.afterAll (front ++ [last])) := by
    exact follow_eq_ok.mpr ⟨by simp, hunbroken, h.passes, by rw [h.here_eq]⟩
  have hfree : made.isDirectory (disk.here.afterAll (front ++ [last])) = true ∨
      made.file? (disk.here.afterAll (front ++ [last])) = none ↔ disk.Open (front ++ [last]) := by
    rw [h.isDirectory_iff, file?_congr h.files_eq]
    constructor
    · intro hplace
      refine ⟨hunbroken, fun steps hsteps => ?_⟩
      rcases List.prefix_concat_iff.mp hsteps with rfl | hsteps
      · rcases hplace with (hdirectory | ⟨steps, hsteps, hsame⟩) | hnone
        · exact Or.inl hdirectory
        · rw [hsame]
          exact hopen.noFile steps hsteps
        · exact Or.inr hnone
      · exact hopen.noFile steps hsteps
    · intro hplace
      exact (hplace.noFile _ (List.prefix_refl _)).imp_left Or.inl
  rcases ensureDirectory_of_ok hlead with
    ⟨hplace, after, hensure, hfiles, hhere, hmade⟩ | ⟨hplace, hensure⟩
  · exact Or.inl ⟨hfree.mp hplace, after, hensure, h.concat hfiles hhere hmade⟩
  · exact Or.inr ⟨fun hopen => hplace (hfree.mpr hopen), hensure⟩

/-- The directories along some steps can be made exactly when nothing is in the way. If they are, there is a
directory wherever these steps lead; if not, no file is touched all the same. -/
theorem ensureUpwards_cases (disk : Disk) (steps : List Step) :
    disk.Open steps ∧ (∃ made, disk.ensureUpwards steps.reverse = (.ok (), made) ∧
      Raised disk made steps) ∨
    ¬ disk.Open steps ∧ ∃ cause after, disk.ensureUpwards steps.reverse = (.error cause, after) ∧
      after.files = disk.files := by
  induction steps using List.reverseRecOn with
  | nil =>
    refine Or.inl ⟨⟨nofun, ?_⟩, disk, rfl, disk.raised_nil⟩
    intro front hfront
    rw [List.prefix_nil.mp hfront]
    exact Or.inl disk.isDirectory_here
  | append_singleton front last ih =>
    have hreverse : (last :: front.reverse).reverse = front ++ [last] := by simp
    rw [List.reverse_append, List.reverse_singleton, List.singleton_append, ensureUpwards, hreverse]
    cases hfollow : disk.follow (front ++ [last]) with
    | ok place =>
      -- the directory above is there already
      obtain ⟨-, hunbroken, hpasses, -⟩ := follow_eq_ok.mp hfollow
      have habove := raised_of_passes hpasses
      have hopen : disk.Open front :=
        ⟨fun step hstep => hunbroken step (List.mem_append_left _ hstep),
          fun steps hsteps => Or.inl ((habove.isDirectory_iff _).mpr (Or.inr ⟨steps, hsteps, rfl⟩))⟩
      rcases ensureDirectory_of_raised hopen habove hunbroken with
        ⟨hfree, after, hensure, hraised⟩ | ⟨hblocked, hensure⟩
      · exact Or.inl ⟨hfree, after, by rw [hensure], hraised⟩
      · exact Or.inr ⟨hblocked, _, disk, by rw [hensure], rfl⟩
    | error cause =>
      rw [ensureDirectory_of_error hfollow]
      rcases follow_eq_error (by simp) hfollow with ⟨rfl, hunbroken⟩ | ⟨hcause, hblocked⟩
      · rcases ih with ⟨hopen, made, hmade, habove⟩ | ⟨hblocked, cause, after, hfails, hfiles⟩
        · -- the directory above is made first
          simp only [hmade]
          rcases ensureDirectory_of_raised hopen habove hunbroken with
            ⟨hfree, after, hensure, hraised⟩ | ⟨hblocked, hensure⟩
          · exact Or.inl ⟨hfree, after, hensure, hraised⟩
          · exact Or.inr ⟨hblocked, _, made, hensure, habove.files_eq⟩
        · exact Or.inr ⟨fun hopen => hblocked hopen.of_append, cause, after, by simp only [hfails],
            hfiles⟩
      · refine Or.inr ⟨hblocked, cause, disk, ?_, rfl⟩
        cases cause <;> first | rfl | exact absurd rfl hcause

/-! ## Writing and reading -/

/-- What comes of writing to a path that can be followed. -/
theorem write_eq_ok : disk.write path text = .ok after ↔
    ∃ place, disk.follow (Path.trail path) = .ok place ∧ disk.isDirectory place = false ∧
      Path.endsInSlash path = false ∧ after = disk.withFile place text.toUTF8 := by
  unfold write
  cases disk.follow (Path.trail path) with
  | error cause => simp
  | ok place =>
    cases hdirectory : disk.isDirectory place with
    | true => simp [hdirectory]
    | false =>
      cases hslash : Path.endsInSlash path with
      | true => simp
      | false =>
        simp only [hdirectory, Bool.or_self, Bool.false_eq_true, if_false, Except.ok.injEq]
        constructor
        · intro h
          exact ⟨place, rfl, hdirectory, trivial, h.symm⟩
        · rintro ⟨_, rfl, -, -, hafter⟩
          exact hafter.symm

/-- What is made of a text is read as this text. -/
theorem fromUTF8?_toUTF8 (text : String) : String.fromUTF8? text.toUTF8 = some text := by
  unfold String.fromUTF8?
  rw [String.toUTF8_eq_toByteArray, dif_pos text.isValidUTF8]
  rfl

/-- A file that was put to a place is found there. -/
theorem file?_withFile (bytes : ByteArray) : (disk.withFile place bytes).file? place = some bytes := by
  have hothers : (disk.files.filter (fun entry => decide (entry.1 ≠ place))).find?
      (fun entry => decide (entry.1 = place)) = none := by
    rw [List.find?_eq_none]
    intro entry hentry
    simpa using (List.mem_filter.mp hentry).2
  rw [file?, withFile, List.find?_append, hothers]
  simp

/-- What was a directory is still one when a file was put to a place. -/
theorem isDirectory_withFile_of_isDirectory {other : Place} (h : disk.isDirectory other = true)
    (bytes : ByteArray) : (disk.withFile place bytes).isDirectory other = true := by
  rcases isDirectory_iff.mp h with hroot | hhere | hmade | ⟨entry, hentry, hbelow, hne⟩
  · exact isDirectory_iff.mpr (Or.inl hroot)
  · exact isDirectory_iff.mpr (Or.inr (Or.inl hhere))
  · exact isDirectory_iff.mpr (Or.inr (Or.inr (Or.inl hmade)))
  · refine isDirectory_iff.mpr (Or.inr (Or.inr (Or.inr ?_)))
    by_cases hsame : entry.1 = place
    · -- the file that was at the place is replaced by the new one
      exact ⟨(place, bytes), by simp [withFile], hsame ▸ hbelow, hsame ▸ hne⟩
    · exact ⟨entry, List.mem_append_left _ (List.mem_filter.mpr ⟨hentry, by simpa using hsame⟩), hbelow,
        hne⟩

/-- The place that a file was put to is no directory. -/
theorem isDirectory_withFile (h : disk.isDirectory place = false) (bytes : ByteArray) :
    (disk.withFile place bytes).isDirectory place = false := by
  by_contra hdirectory
  refine Bool.false_ne_true (h.symm.trans (isDirectory_iff.mpr ?_))
  rcases isDirectory_iff.mp (eq_true_of_ne_false hdirectory) with
    hroot | hhere | hmade | ⟨entry, hentry, hbelow, hne⟩
  · exact Or.inl hroot
  · exact Or.inr (Or.inl hhere)
  · exact Or.inr (Or.inr (Or.inl hmade))
  · rcases List.mem_append.mp hentry with hold | hnew
    · exact Or.inr (Or.inr (Or.inr ⟨entry, (List.mem_filter.mp hold).1, hbelow, hne⟩))
    · obtain rfl := List.mem_singleton.mp hnew
      exact absurd rfl hne

/-- What was written is read. -/
theorem read_of_write (h : disk.write path text = .ok after) : after.read path = .ok text := by
  obtain ⟨place, hfollow, hvacant, hslash, rfl⟩ := write_eq_ok.mp h
  obtain ⟨hne, hunbroken, hpasses, hplace⟩ := follow_eq_ok.mp hfollow
  have hlead : (disk.withFile place text.toUTF8).follow (Path.trail path) = .ok place :=
    follow_eq_ok.mpr ⟨hne, hunbroken,
      hpasses.mono (fun _ hother => isDirectory_withFile_of_isDirectory hother _), hplace⟩
  have hbytes : (disk.withFile place text.toUTF8).readBytes path = .ok text.toUTF8 := by
    rw [readBytes, hlead]
    dsimp only
    rw [isDirectory_withFile hvacant, file?_withFile, hslash]
    rfl
  rw [read, hbytes]
  simp only [fromUTF8?_toUTF8]

/-! ## Room for a file -/

/-- A file can be put where a path leads, once the directories are made that it leads through. -/
structure Admits (disk : Disk) (path : String) : Prop where
  /-- The path ends in a name, with neither a slash nor a dot behind it. -/
  exists_name : ∃ front name, Path.trail path = front ++ [.name name]
  noSlash : Path.endsInSlash path = false
  /-- No name in it is broken. -/
  unbroken : ∀ step ∈ Path.trail path, step.isBroken = false
  /-- No step before the last one leads to a file. -/
  noFile : ∀ front, front <+: Path.trail path → front ≠ Path.trail path →
    disk.isDirectory (disk.here.afterAll front) = true ∨ disk.file? (disk.here.afterAll front) = none
  /-- There is no directory where the path leads. -/
  vacant : disk.isDirectory (disk.here.afterAll (Path.trail path)) = false
  /-- The path does not lead back to one of its own steps, where a directory is made. -/
  apart : ∀ front, front <+: Path.trail path → front ≠ Path.trail path →
    disk.here.afterAll front ≠ disk.here.afterAll (Path.trail path)

/-- A path that ends in a name leads through all its steps but that name. -/
theorem steps_eq_of_trail {name : List Char} (h : Path.trail path = front ++ [.name name]) :
    Path.steps path = front ++ [.name name] := by
  unfold Path.trail at h
  dsimp only at h
  split at h
  · have hlast := congrArg List.getLast? h
    rw [List.getLast?_concat, List.getLast?_concat] at hlast
    cases hlast
  · rwa [List.append_nil] at h

/-- What has to be so of a path that directories were made for and that a text was written to. -/
theorem Admits.of_write (hmade : disk.makeParents path = (.ok (), made))
    (hwrite : made.write path text = .ok after) : disk.Admits path := by
  obtain ⟨place, hfollow, hvacant, hslash, -⟩ := write_eq_ok.mp hwrite
  obtain ⟨hne, hunbroken, hpasses, rfl⟩ := follow_eq_ok.mp hfollow
  obtain ⟨front, last, htrail⟩ := (List.eq_nil_or_concat _).resolve_left hne
  rw [List.concat_eq_append] at htrail
  rw [htrail] at hvacant hunbroken hpasses
  -- only a name leads from a directory to something else
  obtain ⟨name, rfl⟩ : ∃ name, last = .name name := by
    by_contra hother
    rw [Place.afterAll_concat] at hvacant
    have hthere := isDirectory_after (passes_concat.mp hpasses front (List.prefix_refl _))
      (fun name hlast => hother ⟨name, hlast⟩)
    exact Bool.false_ne_true (hvacant.symm.trans hthere)
  rw [makeParents, steps_eq_of_trail htrail, List.dropLast_concat] at hmade
  rcases disk.ensureUpwards_cases front with ⟨hopen, last, hlast, hraised⟩ | ⟨-, cause, last, hlast, -⟩
  · obtain rfl : last = made := congrArg Prod.snd (hlast.symm.trans hmade)
    have hnone := fun h => Bool.false_ne_true (hvacant.symm.trans ((hraised.isDirectory_iff _).mpr h))
    rw [hraised.here_eq] at hnone
    exact {
      exists_name := ⟨front, name, htrail⟩
      noSlash := hslash
      unbroken := htrail ▸ hunbroken
      noFile := fun others hothers hne => by
        rw [htrail] at hothers hne
        exact hopen.noFile others (isPrefix_and_ne_concat_iff.mp ⟨hothers, hne⟩)
      vacant := by
        rw [htrail]
        exact eq_false_of_ne_true fun h => hnone (Or.inl h)
      apart := fun others hothers hne hsame => by
        rw [htrail] at hothers hne hsame
        exact hnone (Or.inr ⟨others, isPrefix_and_ne_concat_iff.mp ⟨hothers, hne⟩, hsame.symm⟩) }
  · cases hlast.symm.trans hmade

/-- Where there is room for a file the directories can be made, and a text can be written after that. -/
theorem Admits.exists_write (h : disk.Admits path) (text : String) :
    ∃ made, disk.makeParents path = (.ok (), made) ∧ ∃ after, made.write path text = .ok after := by
  obtain ⟨front, name, htrail⟩ := h.exists_name
  obtain ⟨-, hslash, hunbroken, hnoFile, hvacant, hapart⟩ := h
  rw [htrail] at hunbroken hnoFile hvacant hapart
  have hbefore : ∀ others, others <+: front →
      others <+: front ++ [.name name] ∧ others ≠ front ++ [.name name] :=
    fun _ => isPrefix_and_ne_concat_iff.mpr
  have hopen : disk.Open front := {
    unbroken := fun step hstep => hunbroken step (List.mem_append_left _ hstep)
    noFile := fun others hothers => hnoFile others (hbefore others hothers).1 (hbefore others hothers).2 }
  rw [makeParents, steps_eq_of_trail htrail, List.dropLast_concat]
  rcases disk.ensureUpwards_cases front with ⟨-, made, hmade, hraised⟩ | ⟨hblocked, -⟩
  · refine ⟨made, hmade, made.withFile (disk.here.afterAll (front ++ [.name name])) text.toUTF8, ?_⟩
    refine write_eq_ok.mpr ⟨_, ?_, ?_, hslash, rfl⟩
    · rw [htrail]
      exact follow_eq_ok.mpr ⟨by simp, hunbroken, hraised.passes, by rw [hraised.here_eq]⟩
    · refine eq_false_of_ne_true fun hdirectory => ?_
      rcases (hraised.isDirectory_iff _).mp hdirectory with hthere | ⟨others, hothers, hsame⟩
      · exact Bool.false_ne_true (hvacant.symm.trans hthere)
      · exact hapart others (hbefore others hothers).1 (hbefore others hothers).2 hsame.symm
  · exact absurd hopen hblocked

/-- Making directories touches no file. -/
theorem files_makeParents (disk : Disk) (path : String) :
    (disk.makeParents path).2.files = disk.files := by
  rw [makeParents]
  rcases disk.ensureUpwards_cases (Path.steps path).dropLast with
    ⟨-, made, hmade, hraised⟩ | ⟨-, cause, made, hmade, hfiles⟩
  · rw [hmade]
    exact hraised.files_eq
  · rw [hmade]
    exact hfiles

end Disk

end Dimming
