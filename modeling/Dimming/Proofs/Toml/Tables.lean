import Dimming.Toml.Read
import Mathlib.Tactic.Common

/-!
# Tables inside tables

A settings text is written table by table, so that each line adds to the last entry of its table. A path then
leads to one place, and what is changed there is put back into the whole.
-/

set_option autoImplicit false

namespace Dimming

namespace Toml

variable {entries : List (String × Toml)} {key : String} {value : Toml}

/-- A key that is not there is not found. -/
theorem find?_of_not_mem (h : key ∉ entries.map (·.1)) : find? entries key = none := by
  rw [find?, Option.map_eq_none_iff, List.find?_eq_none]
  intro entry hentry
  simpa using fun hsame => h (List.mem_map.mpr ⟨entry, hentry, hsame⟩)

/-- A key that is put at the end is found. -/
theorem find?_concat (h : key ∉ entries.map (·.1)) (value : Toml) :
    find? (entries ++ [(key, value)]) key = some value := by
  have hfront : entries.find? (fun entry => entry.1 == key) = none :=
    Option.map_eq_none_iff.mp (find?_of_not_mem h)
  simp [find?, List.find?_append, hfront]

/-- A new key is put at the end. -/
theorem put_of_not_mem (h : key ∉ entries.map (·.1)) (value : Toml) :
    put entries key value = entries ++ [(key, value)] := by
  have hnone : entries.any (fun entry => entry.1 == key) = false := by
    rw [List.any_eq_false]
    intro entry hentry
    simpa using fun hsame => h (List.mem_map.mpr ⟨entry, hentry, hsame⟩)
  simp [put, hnone]

/-- A value at the end is replaced there. -/
theorem put_concat (h : key ∉ entries.map (·.1)) (old value : Toml) :
    put (entries ++ [(key, old)]) key value = entries ++ [(key, value)] := by
  have hfront : entries.map (fun entry => if entry.1 = key then (key, value) else entry) = entries := by
    conv => rhs; rw [← List.map_id entries]
    refine List.map_congr_left fun entry hentry => if_neg fun hsame => ?_
    exact h (List.mem_map.mpr ⟨entry, hentry, hsame⟩)
  simp [put, hfront]

end Toml

namespace TomlText

open Toml

/-- A path leads to one place: what is changed there is plugged into the whole. -/
def LeadsTo (path : List String) (origin : TableOrigin)
    (plug : List (String × Toml) → List (String × Toml)) : Prop :=
  ∀ change inner, reach false change path .header (plug inner) = (change origin inner).map plug

/-- A path is followed part by part. -/
theorem reach_append (dotted : Bool)
    (change : TableOrigin → List (String × Toml) → Option (List (String × Toml)))
    (path more : List String) (origin : TableOrigin) (entries : List (String × Toml)) :
    reach dotted change (path ++ more) origin entries =
      reach dotted (fun origin inner => reach dotted change more origin inner) path origin entries := by
  induction path generalizing origin entries with
  | nil => rfl
  | cons key path ih =>
    rw [List.cons_append, reach, reach]
    cases find? entries key with
    | none => simp only [ih]
    | some value => cases value <;> simp only [ih]

namespace LeadsTo

/-- The empty path leads to the top. -/
theorem top : LeadsTo [] .header id := by
  intro change inner
  rw [reach, Option.map_id, id, id]

variable {path : List String} {origin : TableOrigin} {plug : List (String × Toml) → List (String × Toml)}
  {before inner : List (String × Toml)} {key : String}

/-- The path goes on through a table that is the last entry. -/
theorem table (h : LeadsTo path origin plug) (hkey : key ∉ before.map (·.1)) {next : TableOrigin}
    (hnext : next ≠ .braces) :
    LeadsTo (path ++ [key]) next (fun inner => plug (before ++ [(key, .table next inner)])) := by
  intro change inner
  have hopen : ¬ (next = .braces ∨ ((false : Bool) = true ∧ next = .header)) := by simp [hnext]
  rw [reach_append, h, reach, find?_concat hkey]
  simp only [if_neg hopen, put_concat hkey, reach, Option.map_map]
  rfl

/-- The path goes on through the last of the blocks that are the last entry. -/
theorem blocks (h : LeadsTo path origin plug) (hkey : key ∉ before.map (·.1))
    (items : List (List (String × Toml))) :
    LeadsTo (path ++ [key]) .header (fun inner => plug (before ++ [(key, .blocks (items ++ [inner]))])) := by
  intro change inner
  rw [reach_append, h, reach, find?_concat hkey]
  simp only [put_concat hkey, reach, Option.map_map, List.getLast?_concat, Option.getD_some,
    List.dropLast_concat]
  rfl

/-- A new key gets its value. -/
theorem assign (h : LeadsTo path origin plug) (hkey : key ∉ inner.map (·.1)) (item : Toml) :
    assign [key] item path (plug inner) = some (plug (inner ++ [(key, item)])) := by
  unfold TomlText.assign
  rw [h]
  simp [reach, find?_of_not_mem hkey]

/-- A table of a new name is opened empty. -/
theorem openTable (h : LeadsTo path origin plug) (hkey : key ∉ inner.map (·.1)) :
    openTable (path ++ [key]) (plug inner) = some (plug (inner ++ [(key, .table .header [])])) := by
  unfold TomlText.openTable
  rw [List.dropLast_concat, h]
  simp [find?_of_not_mem hkey]

/-- The first block of a new name is opened empty. -/
theorem openBlock_first (h : LeadsTo path origin plug) (hkey : key ∉ inner.map (·.1)) :
    openBlock (path ++ [key]) (plug inner) = some (plug (inner ++ [(key, .blocks [[]])])) := by
  unfold openBlock
  rw [List.dropLast_concat, h]
  simp [find?_of_not_mem hkey]

/-- The next block of a name is opened empty behind the others. -/
theorem openBlock_next (h : LeadsTo path origin plug) (hkey : key ∉ before.map (·.1))
    (items : List (List (String × Toml))) :
    openBlock (path ++ [key]) (plug (before ++ [(key, .blocks items)])) =
      some (plug (before ++ [(key, .blocks (items ++ [[]]))])) := by
  unfold openBlock
  rw [List.dropLast_concat, h]
  simp [find?_concat hkey, put_concat hkey]

/-- A table that no header names comes into being with its first block. -/
theorem openBlock_implied (h : LeadsTo path origin plug) (hkey : key ∉ inner.map (·.1)) (name : String) :
    openBlock (path ++ [key] ++ [name]) (plug inner) =
      some (plug (inner ++ [(key, .table .implied [(name, .blocks [[]])])])) := by
  unfold openBlock
  rw [List.dropLast_concat, reach_append, h, reach, find?_of_not_mem hkey]
  simp [reach, find?, put_of_not_mem hkey]

end LeadsTo

end TomlText

end Dimming
