import Dimming.Proofs.Toml.Tables
import Dimming.Proofs.Toml.Values

/-!
# Lines

The lines that settings are written in: blank lines, headers, and keys with values. Each is read in one step,
and what the step does is told by the line alone, so that reading a text is running its lines.
-/

set_option autoImplicit false

namespace Dimming

namespace TomlText

/-- A path that a header can name. -/
structure Title where
  path : List String
  ne_nil : path ≠ []
  bounded : path.length ≤ depthLimit

/-- A key, what is written for its value, and the value as which that is read. -/
structure Pair where
  key : String
  written : String
  item : Toml
  reads : ReadAs written.toList item

namespace Pair

/-- What the pair adds to a table. -/
def entry (pair : Pair) : String × Toml := (pair.key, pair.item)

def ofText (key text : String) : Pair := ⟨key, writeText text, .text text, readAs_writeText text⟩

def ofFlag (key : String) (flag : Bool) : Pair := ⟨key, toString flag, .flag flag, readAs_flag flag⟩

def ofCount (key : String) (n : Nat) (h : (n : Int) ≤ Toml.wholeRange.2) : Pair :=
  ⟨key, toString n, .whole n, readAs_count h⟩

def hollow (key : String) : Pair := ⟨key, "[]", .list [], readAs_hollow⟩

end Pair

/-- A line of a settings text. -/
inductive Line where
  | gap
  | table (title : Title)
  | block (title : Title)
  | pair (given : Pair)

def writePath : List String → List Char
  | [] => []
  | key :: others => (writeKey key).toList ++ others.flatMap fun key => '.' :: (writeKey key).toList

/-- A path of one key is written as that key. -/
theorem writePath_singleton (key : String) : writePath [key] = (writeKey key).toList := List.append_nil _

/-- The keys of a path are separated by dots. -/
theorem writePath_cons_cons (key second : String) (others : List String) :
    writePath (key :: second :: others) = (writeKey key).toList ++ '.' :: writePath (second :: others) := rfl

/-- Where keys are added, and the entries of the top table. -/
abbrev Progress := List String × List (String × Toml)

namespace Line

def text : Line → List Char
  | gap => ['\n']
  | table title => '[' :: (writePath title.path ++ [']', '\n'])
  | block title => '[' :: '[' :: (writePath title.path ++ [']', ']', '\n'])
  | pair given => (writeLine given.key given.written).toList

/-- What a line does. -/
def perform (progress : Progress) : Line → Option Progress
  | gap => some progress
  | table title => (openTable title.path progress.2).map (title.path, ·)
  | block title => (openBlock title.path progress.2).map (title.path, ·)
  | pair given => (assign [given.key] given.item progress.1 progress.2).map (progress.1, ·)

end Line

/-! ## Paths -/

/-- A character that starts a key is none that can neither stand in a bare key nor quote one. -/
theorem StartsKey.ne {c d : Char} (h : StartsKey c) (hbare : isBare d = false) (hdouble : d ≠ '"')
    (hsingle : d ≠ '\'') : c ≠ d := by
  rintro rfl
  rcases h with h | h | h
  · cases hbare.symm.trans h
  · exact hdouble h
  · exact hsingle h

/-- No blank is skipped before a key. -/
theorem skipBlank_of_startsKey {c : Char} (h : StartsKey c) (rest : List Char) :
    skipBlank (c :: rest) = c :: rest :=
  skipBlank_of_ne (h.ne (by decide) (by decide) (by decide)) (h.ne (by decide) (by decide) (by decide)) rest

/-- A written path starts as a key does. -/
theorem exists_startsKey_writePath {path : List String} (h : path ≠ []) :
    ∃ c more, writePath path = c :: more ∧ StartsKey c := by
  obtain ⟨key, others, rfl⟩ := List.exists_cons_of_ne_nil h
  obtain ⟨c, more, hkey, hstart⟩ := exists_startsKey key
  exact ⟨c, _, by rw [writePath, hkey, List.cons_append], hstart⟩

/-- What is written for a path is read as the path, if neither a key nor a path can go on behind it. -/
theorem keyPath_writePath {path : List String} (hne : path ≠ []) {fuel : Nat} (hfuel : path.length ≤ fuel)
    {c : Char} {rest : List Char} (hbare : isBare c = false)
    (hdot : ∀ more, skipBlank (c :: rest) ≠ '.' :: more) :
    keyPath fuel (writePath path ++ c :: rest) = some (path, skipBlank (c :: rest)) := by
  induction path generalizing fuel with
  | nil => exact absurd rfl hne
  | cons key others ih =>
    obtain ⟨fuel, rfl⟩ : ∃ more, fuel = more + 1 :=
      ⟨fuel - 1, by rw [List.length_cons] at hfuel; omega⟩
    obtain ⟨first, more, hkey, hstart⟩ := exists_startsKey key
    have hskip : ∀ behind, skipBlank ((writeKey key).toList ++ behind) = (writeKey key).toList ++ behind := by
      intro behind
      rw [hkey, List.cons_append, skipBlank_of_startsKey hstart]
    cases others with
    | nil =>
      rw [writePath_singleton, keyPath, hskip, simpleKey_writeKey key hbare]
      dsimp only
      split
      · next hsame => exact absurd hsame (hdot _)
      · rfl
    | cons second others =>
      have hmore := ih (by simp) (Nat.le_of_succ_le_succ hfuel)
      have hdotted : ∀ text, skipBlank ('.' :: text) = '.' :: text := fun _ => rfl
      rw [writePath_cons_cons, List.append_assoc, List.cons_append, keyPath, hskip,
        simpleKey_writeKey key (by decide)]
      dsimp only
      rw [hdotted]
      simp only [hmore, Option.map_some]

/-! ## Steps -/

variable {fuel : Nat} {here : List String} {entries : List (String × Toml)}

/-- A line ends at a line feed. -/
theorem lineEnd_feed (rest : List Char) : lineEnd ('\n' :: rest) = some rest := rfl

/-- A written path is read as the path of a header. -/
theorem header_writePath (title : Title) (closing rest : List Char) :
    header (']' :: closing) (writePath title.path ++ ']' :: (closing ++ rest)) = some (title.path, rest) := by
  have hclosing : (']' :: closing).isPrefixOf (']' :: (closing ++ rest)) = true :=
    List.isPrefixOf_iff_prefix.mpr (List.prefix_append (']' :: closing) rest)
  have hskip : skipBlank (']' :: (closing ++ rest)) = ']' :: (closing ++ rest) := rfl
  rw [header, keyPath_writePath title.ne_nil title.bounded (by decide) (by simp [hskip]), hskip]
  simp [hclosing]

/-- The header of a table opens it. -/
theorem lines_table (title : Title) (rest : List Char) :
    lines (fuel + 1) here entries ('[' :: (writePath title.path ++ ']' :: '\n' :: rest)) =
      (openTable title.path entries).bind fun entries => lines fuel title.path entries rest := by
  obtain ⟨c, more, hcons, hstart⟩ := exists_startsKey_writePath title.ne_nil
  have hbracket : c ≠ '[' := hstart.ne (by decide) (by decide) (by decide)
  have hskip : ∀ text, skipBlank ('[' :: text) = '[' :: text := fun _ => rfl
  rw [lines]
  dsimp only
  rw [hskip]
  split
  · next hempty => cases hempty
  · next hblock =>
    rw [hcons] at hblock
    exact absurd (List.cons.inj (List.cons.inj hblock).2).1 hbracket
  · next htable =>
    obtain ⟨-, rfl⟩ := List.cons.inj htable
    have hheader : header [']'] (writePath title.path ++ ']' :: '\n' :: rest) =
        some (title.path, '\n' :: rest) := header_writePath title [] ('\n' :: rest)
    rw [hheader]
    dsimp only
    rw [lineEnd_feed]
    cases openTable title.path entries <;> rfl
  · next _ hother => exact absurd rfl (hother _)

/-- The header of a block opens a new one. -/
theorem lines_block (title : Title) (rest : List Char) :
    lines (fuel + 1) here entries ('[' :: '[' :: (writePath title.path ++ ']' :: ']' :: '\n' :: rest)) =
      (openBlock title.path entries).bind fun entries => lines fuel title.path entries rest := by
  have hskip : ∀ text, skipBlank ('[' :: '[' :: text) = '[' :: '[' :: text := fun _ => rfl
  have hheader : header [']', ']'] (writePath title.path ++ ']' :: ']' :: '\n' :: rest) =
      some (title.path, '\n' :: rest) := header_writePath title [']'] ('\n' :: rest)
  rw [lines]
  dsimp only
  rw [hskip]
  simp only [hheader, lineEnd_feed]
  cases openBlock title.path entries <;> rfl

/-- The line of a pair assigns it. -/
theorem lines_pair (entry : Pair) (rest : List Char) :
    lines (fuel + 1) here entries ((writeLine entry.key entry.written).toList ++ rest) =
      (assign [entry.key] entry.item here entries).bind fun entries => lines fuel here entries rest := by
  obtain ⟨key, written, item, hreads⟩ := entry
  obtain ⟨c, more, hcons, hstart⟩ := exists_startsKey key
  have hline : (writeLine key written).toList ++ rest =
      (writeKey key).toList ++ ' ' :: '=' :: ' ' :: (written.toList ++ '\n' :: rest) := by
    simp [writeLine]
  have hpair : pair (value depthLimit) ((writeLine key written).toList ++ rest) =
      some (([key], item), '\n' :: rest) := by
    have hpath : keyPath depthLimit
        (writePath [key] ++ ' ' :: '=' :: ' ' :: (written.toList ++ '\n' :: rest)) =
        some ([key], '=' :: ' ' :: (written.toList ++ '\n' :: rest)) :=
      keyPath_writePath (by simp) (by simp [depthLimit]) (by decide) (fun _ => by simp [skipBlank])
    rw [writePath_singleton] at hpath
    have hskip : skipBlank (' ' :: (written.toList ++ '\n' :: rest)) = written.toList ++ '\n' :: rest :=
      hreads.skipBlank rest
    rw [hline, pair, hpath]
    simp [hskip, hreads.value]
  have hbracket : c ≠ '[' := hstart.ne (by decide) (by decide) (by decide)
  have hskip : skipBlank ((writeLine key written).toList ++ rest) = (writeLine key written).toList ++ rest := by
    rw [hline, hcons, List.cons_append, skipBlank_of_startsKey hstart]
  have hend : lineEnd ((writeLine key written).toList ++ rest) = none := by
    have hmark : c ≠ '#' := hstart.ne (by decide) (by decide) (by decide)
    have hfeed : c ≠ '\n' := hstart.ne (by decide) (by decide) (by decide)
    have hreturn : c ≠ '\r' := hstart.ne (by decide) (by decide) (by decide)
    rw [lineEnd, hskip, hline, hcons, List.cons_append]
    simp [skipComment, lineBreak, hmark, hfeed, hreturn]
  rw [lines]
  dsimp only
  rw [hskip]
  split
  · next hempty =>
    rw [hline, hcons] at hempty
    cases hempty
  · next hblock =>
    rw [hline, hcons] at hblock
    exact absurd (List.cons.inj hblock).1 hbracket
  · next htable =>
    rw [hline, hcons] at htable
    exact absurd (List.cons.inj htable).1 hbracket
  · rw [hend, hpair]
    dsimp only
    rw [lineEnd_feed]
    cases assign [key] item here entries <;> rfl

/-- A line is read in one step, which does what the line does. -/
theorem lines_line (line : Line) (rest : List Char) :
    lines (fuel + 1) here entries (line.text ++ rest) =
      (line.perform (here, entries)).bind fun progress => lines fuel progress.1 progress.2 rest := by
  cases line with
  | gap => rfl
  | table title =>
    have hstep := @lines_table fuel here entries title rest
    simp only [Line.text, Line.perform, List.cons_append, List.append_assoc, List.nil_append, hstep]
    cases openTable title.path entries <;> rfl
  | block title =>
    have hstep := @lines_block fuel here entries title rest
    simp only [Line.text, Line.perform, List.cons_append, List.append_assoc, List.nil_append, hstep]
    cases openBlock title.path entries <;> rfl
  | pair pair =>
    have hstep := @lines_pair fuel here entries pair rest
    simp only [Line.text, Line.perform, hstep]
    cases assign [pair.key] pair.item here entries <;> rfl

/-- Reading a text is running its lines. -/
theorem lines_text {all : List Line} (hfuel : all.length < fuel) :
    lines fuel here entries (all.flatMap Line.text) =
      (all.foldlM Line.perform (here, entries)).map (·.2) := by
  induction all generalizing fuel here entries with
  | nil =>
    obtain ⟨fuel, rfl⟩ : ∃ more, fuel = more + 1 := ⟨fuel - 1, by omega⟩
    rfl
  | cons line more ih =>
    obtain ⟨fuel, rfl⟩ : ∃ more, fuel = more + 1 := ⟨fuel - 1, by omega⟩
    rw [List.flatMap_cons, lines_line line, List.foldlM_cons]
    cases line.perform (here, entries) with
    | none => rfl
    | some progress => exact ih (Nat.lt_of_succ_lt_succ hfuel)

/-- There are no more lines than the text has characters. -/
theorem length_le_text (all : List Line) : all.length ≤ (all.flatMap Line.text).length := by
  induction all with
  | nil => exact Nat.le_refl _
  | cons line more ih =>
    have hline : 0 < line.text.length := by
      cases line with
      | pair pair =>
        simp only [Line.text, writeLine, String.toList_append, List.length_append]
        exact Nat.lt_add_left _ (by decide)
      | _ => exact Nat.zero_lt_succ _
    rw [List.length_cons, List.flatMap_cons, List.length_append]
    omega

/-! ## Runs -/

/-- Lines lead from one progress to another. -/
def Runs (all : List Line) (before after : Progress) : Prop := all.foldlM Line.perform before = some after

/-- Without lines nothing changes. -/
theorem Runs.nil (progress : Progress) : Runs [] progress progress := rfl

/-- Lines are run part by part. -/
theorem Runs.append {first second : List Line} {before middle after : Progress}
    (hfirst : Runs first before middle) (hsecond : Runs second middle after) :
    Runs (first ++ second) before after := by
  unfold Runs at *
  rw [List.foldlM_append, hfirst]
  exact hsecond

/-- The first line is run, and then the others. -/
theorem Runs.cons {line : Line} {more : List Line} {before middle after : Progress}
    (hline : line.perform before = some middle) (hmore : Runs more middle after) :
    Runs (line :: more) before after := by
  unfold Runs at *
  rw [List.foldlM_cons, hline]
  exact hmore

/-- A text that starts with a header is read by running its lines. -/
theorem read_of_runs {all : List Line} {text : String} (htext : text.toList = all.flatMap Line.text)
    (hstart : text.toList.head? = some '[') {after : Progress} (hruns : Runs all ([], []) after) :
    read text = some after.2 := by
  have hlength := length_le_text all
  have hmark : ∀ rest, text.toList ≠ '\uFEFF' :: rest := by
    intro rest hsame
    rw [hsame] at hstart
    cases hstart
  unfold read
  split
  · next rest hsame => exact absurd hsame (hmark rest)
  · rw [htext]
    have hfuel : all.length < (all.flatMap Line.text).length + 2 := by omega
    exact (lines_text hfuel).trans (congrArg (Option.map (·.2)) hruns)

namespace LeadsTo

variable {path : List String} {origin : TableOrigin} {plug : List (String × Toml) → List (String × Toml)}
  {inner : List (String × Toml)} {key : String}

/-- Keys with their values are added one after the other. -/
theorem run_pairs (h : LeadsTo path origin plug) (pairs : List Pair)
    (hkeys : (inner.map (·.1) ++ pairs.map Pair.key).Nodup) :
    Runs (pairs.map .pair) (path, plug inner) (path, plug (inner ++ pairs.map Pair.entry)) := by
  induction pairs generalizing inner with
  | nil => simpa using Runs.nil (path, plug inner)
  | cons pair more ih =>
    have hnew : pair.key ∉ inner.map (·.1) := by
      intro hmem
      exact (List.nodup_append.mp hkeys).2.2 pair.key hmem pair.key (by simp) rfl
    have hmore := @ih (inner ++ [pair.entry]) (by simpa [Pair.entry] using hkeys)
    rw [List.append_assoc] at hmore
    refine Runs.cons ?_ hmore
    rw [Line.perform, h.assign hnew]
    rfl

/-- A table is opened behind a blank line. -/
theorem run_title (h : LeadsTo path origin plug) (hkey : key ∉ inner.map (·.1)) {title : Title}
    (htitle : title.path = path ++ [key]) (here : List String) :
    Runs [.gap, .table title] (here, plug inner) (title.path, plug (inner ++ [(key, .table .header [])])) := by
  refine Runs.cons rfl (Runs.cons ?_ (Runs.nil _))
  rw [Line.perform, htitle, h.openTable hkey]
  rfl

end LeadsTo

end TomlText

end Dimming
