import Dimming.Config
import Mathlib.Data.List.Nodup

/-!
# Settings are ordered

The names in the settings are sorted, and no name is there twice. Putting a value under a key keeps that,
so all settings that are read from a text are ordered. What is put in one after the other under different
keys is what is there in the end, in whatever order it comes.
-/

set_option autoImplicit false

namespace Dimming

namespace Config

/-- Finding a pair by its key is looking up the key. -/
theorem find?_eq_lookup {α κ : Type} [DecidableEq κ] (items : List (κ × α)) (key : κ) :
    items.find? (fun item => decide (item.1 = key)) = (items.lookup key).map (key, ·) := by
  induction items with
  | nil => rfl
  | cons first rest ih =>
    obtain ⟨other, value⟩ := first
    rw [List.find?_cons, List.lookup_cons, ih]
    by_cases h : other = key
    · simp [h]
    · simp [h, beq_false_of_ne (Ne.symm h)]

/-- Keys and values as they are kept: sorted by keys, with no key twice. -/
def Sorted {α : Type} (items : List (String × α)) : Prop := items.Pairwise (fun a b => a.1 < b.1)

section Sorted

variable {α : Type} {items : List (String × α)} {key : String} {value : α}

/-- There is what was put in, and what was there under other keys. -/
theorem mem_insertSorted (h : Sorted items) (item : String × α) :
    item ∈ insertSorted key value items ↔ item = (key, value) ∨ item ∈ items ∧ item.1 ≠ key := by
  induction items with
  | nil => simp [insertSorted]
  | cons first rest ih =>
    obtain ⟨other, old⟩ := first
    obtain ⟨hfirst, hrest⟩ := List.pairwise_cons.mp h
    rw [insertSorted]
    split
    · next hless =>
      have hbeyond : ∀ entry ∈ (other, old) :: rest, entry.1 ≠ key := by
        intro entry hentry
        rcases List.mem_cons.mp hentry with rfl | hentry
        · exact (String.ne_of_lt hless).symm
        · exact (String.ne_of_lt (String.lt_trans hless (hfirst entry hentry))).symm
      rw [List.mem_cons]
      exact or_congr_right ⟨fun hmem => ⟨hmem, hbeyond item hmem⟩, And.left⟩
    · split
      · next hsame =>
        subst hsame
        rw [List.mem_cons]
        refine or_congr_right ⟨fun hmem => ?_, fun ⟨hmem, hkey⟩ => ?_⟩
        · exact ⟨List.mem_cons_of_mem _ hmem, (String.ne_of_lt (hfirst item hmem)).symm⟩
        · rcases List.mem_cons.mp hmem with rfl | hmem
          · exact absurd rfl hkey
          · exact hmem
      · next hother =>
        rw [List.mem_cons, ih hrest, List.mem_cons]
        constructor
        · rintro (rfl | rfl | ⟨hmem, hkey⟩)
          · exact Or.inr ⟨Or.inl rfl, Ne.symm hother⟩
          · exact Or.inl rfl
          · exact Or.inr ⟨Or.inr hmem, hkey⟩
        · rintro (rfl | ⟨rfl | hmem, hkey⟩)
          · exact Or.inr (Or.inl rfl)
          · exact Or.inl rfl
          · exact Or.inr (Or.inr ⟨hmem, hkey⟩)

/-- Values stay sorted when one is put in. -/
theorem Sorted.insert (h : Sorted items) : Sorted (insertSorted key value items) := by
  induction items with
  | nil => exact List.pairwise_singleton _ _
  | cons first rest ih =>
    obtain ⟨other, old⟩ := first
    obtain ⟨hfirst, hrest⟩ := List.pairwise_cons.mp h
    rw [insertSorted]
    split
    · next hless =>
      refine List.pairwise_cons.mpr ⟨fun entry hentry => ?_, h⟩
      rcases List.mem_cons.mp hentry with rfl | hentry
      · exact hless
      · exact String.lt_trans hless (hfirst entry hentry)
    · next hless =>
      split
      · next hsame =>
        subst hsame
        exact List.pairwise_cons.mpr ⟨hfirst, hrest⟩
      · next hother =>
        refine List.pairwise_cons.mpr ⟨fun entry hentry => ?_, ih hrest⟩
        rcases (mem_insertSorted hrest entry).mp hentry with rfl | ⟨hentry, -⟩
        · refine Decidable.byContradiction fun hgreater => hother ?_
          exact String.le_antisymm (String.not_lt.mp hgreater) (String.not_lt.mp hless)
        · exact hfirst entry hentry

/-- No key is there twice. -/
theorem Sorted.nodup (h : Sorted items) : (items.map (·.1)).Nodup := by
  rw [List.nodup_iff_pairwise_ne, List.pairwise_map]
  exact h.imp fun hless => String.ne_of_lt hless

/-- Sorted lists with the same members are the same. -/
theorem Sorted.ext {others : List (String × α)} (h : Sorted items) (hothers : Sorted others)
    (hmem : ∀ item, item ∈ items ↔ item ∈ others) : items = others := by
  refine List.Perm.eq_of_pairwise ?_ h hothers ?_
  · intro a b _ _ hab hba
    exact absurd hba (String.lt_asymm hab)
  · exact (List.perm_ext_iff_of_nodup (List.Nodup.of_map _ h.nodup) (List.Nodup.of_map _ hothers.nodup)).mpr hmem

/-- In a sorted list exactly what is a member is found. -/
theorem Sorted.lookup_eq_some (h : Sorted items) :
    items.lookup key = some value ↔ (key, value) ∈ items := by
  induction items with
  | nil => simp
  | cons first rest ih =>
    obtain ⟨other, old⟩ := first
    obtain ⟨hfirst, hrest⟩ := List.pairwise_cons.mp h
    rw [List.lookup_cons, List.mem_cons]
    by_cases hsame : key = other
    · subst hsame
      have habsent : (key, value) ∉ rest := fun hmem => String.lt_irrefl key (hfirst (key, value) hmem)
      simp [habsent, eq_comm]
    · rw [beq_false_of_ne hsame]
      simp [hsame, ih hrest]

/-- Values that are put in one after the other, none under a key that is there already. -/
theorem mem_foldl_insertSorted (entries : List (String × α)) (h : Sorted items)
    (hdistinct : (entries.map (·.1)).Nodup) (hnew : ∀ entry ∈ entries, ∀ item ∈ items, item.1 ≠ entry.1)
    (item : String × α) :
    item ∈ entries.foldl (fun done entry => insertSorted entry.1 entry.2 done) items ↔
      item ∈ entries ∨ item ∈ items := by
  induction entries generalizing items with
  | nil => simp
  | cons first rest ih =>
    rw [List.map_cons, List.nodup_cons] at hdistinct
    obtain ⟨hfirst, hdistinct⟩ := hdistinct
    have hother : ∀ item ∈ items, item.1 ≠ first.1 := hnew first List.mem_cons_self
    rw [List.foldl_cons, ih h.insert hdistinct, mem_insertSorted h, List.mem_cons]
    · constructor
      · rintro (hmem | rfl | ⟨hmem, -⟩)
        · exact Or.inl (Or.inr hmem)
        · exact Or.inl (Or.inl rfl)
        · exact Or.inr hmem
      · rintro ((rfl | hmem) | hmem)
        · exact Or.inr (Or.inl rfl)
        · exact Or.inl hmem
        · exact Or.inr (Or.inr ⟨hmem, hother item hmem⟩)
    · intro entry hentry item hitem hsame
      rcases (mem_insertSorted h item).mp hitem with rfl | ⟨hitem, -⟩
      · exact hfirst (List.mem_map.mpr ⟨entry, hentry, hsame.symm⟩)
      · exact hnew entry (List.mem_cons_of_mem first hentry) item hitem hsame

/-- Values stay sorted when others are put in one after the other. -/
theorem Sorted.foldl (entries : List (String × α)) (h : Sorted items) :
    Sorted (entries.foldl (fun done entry => insertSorted entry.1 entry.2 done) items) := by
  induction entries generalizing items with
  | nil => exact h
  | cons first rest ih => exact ih h.insert

/-- A sorted list is what comes of putting in its members, in whatever order. -/
theorem Sorted.foldl_perm (h : Sorted items) {entries : List (String × α)} (hperm : entries.Perm items) :
    entries.foldl (fun done entry => insertSorted entry.1 entry.2 done) [] = items := by
  refine (Sorted.foldl entries List.Pairwise.nil).ext h fun item => ?_
  have hdistinct : (entries.map (·.1)).Nodup := (hperm.map _).nodup_iff.mpr h.nodup
  rw [mem_foldl_insertSorted entries List.Pairwise.nil hdistinct (fun _ _ _ => nofun), hperm.mem_iff]
  simp

end Sorted

/-- The settings name each language and each rule set once, in order. -/
structure Ordered (config : Config) : Prop where
  languages : Sorted config.languages
  ruleSets : Sorted config.ruleSets

/-- The standard settings are ordered. -/
theorem ordered_default : default.Ordered := ⟨.nil, .nil⟩

/-- A table is read by reading its values and putting them in one after the other. -/
theorem decodeMap_table {α : Type} (decode : Toml → Option α) (origin : TableOrigin)
    (entries : List (String × Toml)) :
    decodeMap decode (.table origin entries) =
      (entries.mapM fun entry => (decode entry.2).map (entry.1, ·)).map fun items =>
        items.foldl (fun done item => insertSorted item.1 item.2 done) [] := by
  -- told for a fold from anywhere, since a failure on the way is kept to the end
  have hfold : ∀ done : Option (List (String × α)), entries.foldl
      (fun done entry => do
        let done ← done
        let value ← decode entry.2
        return insertSorted entry.1 value done) done =
      done.bind fun done => (entries.mapM fun entry => (decode entry.2).map (entry.1, ·)).map fun items =>
        items.foldl (fun done item => insertSorted item.1 item.2 done) done := by
    induction entries with
    | nil => intro done; cases done <;> rfl
    | cons first rest ih =>
      intro done
      rw [List.foldl_cons, ih, List.mapM_cons]
      cases done with
      | none => rfl
      | some done =>
        cases decode first.2 with
        | none => rfl
        | some value =>
          cases rest.mapM (fun entry => (decode entry.2).map (entry.1, ·)) <;> simp
  exact hfold (some [])

/-- A table is read into a sorted list. -/
theorem sorted_of_decodeMap {α : Type} {decode : Toml → Option α} {value : Toml}
    {items : List (String × α)} (h : decodeMap decode value = some items) : Sorted items := by
  cases value with
  | table origin entries =>
    rw [decodeMap_table, Option.map_eq_some_iff] at h
    obtain ⟨read, -, rfl⟩ := h
    exact Sorted.foldl read .nil
  | _ => cases h

/-- A field that is not there, or is there and is read, has what its default and its reader promise. -/
theorem of_field {α : Type} {P : α → Prop} {record : Toml} {key : String} {index : Nat} {standard value : α}
    {decode : Toml → Option α} (h : field record key index standard decode = some value)
    (hstandard : P standard) (hdecode : ∀ toml value, decode toml = some value → P value) : P value := by
  unfold field at h
  split at h
  · cases h
  · exact Option.some.inj h ▸ hstandard
  · exact hdecode _ _ h

/-- Settings that are read are ordered. -/
theorem ordered_of_decode {entries : List (String × Toml)} {config : Config}
    (h : decode entries = some config) : config.Ordered := by
  simp only [decode, Option.bind_eq_bind, Option.bind_eq_some_iff] at h
  obtain ⟨highlight, -, overlay, -, level, -, feature, -, style, -, lighter, -, flag, -, languages,
    hlanguages, ruleSets, hruleSets, hconfig⟩ := h
  cases hconfig
  exact ⟨of_field hlanguages .nil fun _ _ => sorted_of_decodeMap,
    of_field hruleSets .nil fun _ _ => sorted_of_decodeMap⟩

/-- Settings that are loaded from a file are ordered. -/
theorem ordered_of_loadFrom {disk : Disk} {path : String} {config : Config}
    (h : loadFrom disk path = .ok config) : config.Ordered := by
  unfold loadFrom at h
  split at h
  · cases h
  · split at h
    · cases h
    · next text _ _ hread =>
      cases h
      obtain ⟨entries, -, hdecode⟩ := Option.bind_eq_some_iff.mp hread
      exact ordered_of_decode hdecode

end Config

end Dimming
