import Dimming.Proofs.Settings.Written

/-!
# Settings are read back

Running the lines of some settings gives tables that hold all of the settings, and decoding the tables gives
the settings back. Rule sets without entries come before those with entries, but the names are sorted when
they are decoded, so the order is that of the settings.
-/

set_option autoImplicit false

namespace Dimming

open TomlText

namespace Config

/-! ## What the lines give -/

def entryBlock (entry : Entry) : List (String × Toml) := (entryPairs entry).map Pair.entry

/-- What the rule sets with entries give, each a sequence of blocks. -/
def blockValues (sets : List (String × List Entry)) : List (String × Toml) :=
  (sets.filter fun set => !set.2.isEmpty).map fun set => (set.1, .blocks (set.2.map entryBlock))

/-- The top table, with some entries of the overlay. -/
def inOverlay (config : Config) (inner : List (String × Toml)) : List (String × Toml) :=
  [("highlight", .table .header [("level", .whole config.level)]), ("overlay", .table .header inner)]

/-- The top table, with some entries of the languages. -/
def inLanguages (config : Config) (inner : List (String × Toml)) : List (String × Toml) :=
  config.inOverlay (config.overlayPairs.map Pair.entry ++ [("languages", .table .header inner)])

/-- The top table, with some entries of the rule sets. -/
def inSets (config : Config) (origin : TableOrigin) (inner : List (String × Toml)) : List (String × Toml) :=
  config.inOverlay (config.overlayPairs.map Pair.entry
    ++ [("languages", .table .header (config.languagePairs.map Pair.entry))]
    ++ [("rule_sets", .table origin inner)])

variable {config : Config}

/-- The overlay table is found under its name. -/
theorem leadsTo_overlay : LeadsTo ["overlay"] .header config.inOverlay := by
  have hnew : "overlay" ∉ ([("highlight", .table .header [("level", .whole config.level)])] :
      List (String × Toml)).map (·.1) := by simp
  exact LeadsTo.top.table hnew nofun

/-- The map of languages is found in the overlay table. -/
theorem leadsTo_languages : LeadsTo ["overlay", "languages"] .header config.inLanguages :=
  leadsTo_overlay.table (by simp [overlayPairs, Pair.entry, Pair.ofText, Pair.ofFlag]) nofun

/-- The rule sets are found in the overlay table. -/
theorem leadsTo_sets {origin : TableOrigin} (h : origin ≠ .braces) :
    LeadsTo ["overlay", "rule_sets"] origin (config.inSets origin) :=
  leadsTo_overlay.table (by simp [overlayPairs, Pair.entry, Pair.ofText, Pair.ofFlag]) h

/-- The lines up to the rule sets give all that is not in them. -/
theorem run_headLines (h : Sorted config.languages) (hlevel : (config.level : Int) ≤ Toml.wholeRange.2) :
    Runs (config.headLines hlevel) ([], [])
      (["overlay", "languages"], config.inLanguages (config.languagePairs.map Pair.entry)) := by
  let counted : List (String × Toml) := [("highlight", .table .header [("level", .whole config.level)])]
  have hcounted : Runs [.table highlightTitle, .pair (.ofCount "level" config.level hlevel)] ([], [])
      (["highlight"], counted) := rfl
  have hoverlay : Runs (titleLines overlayTitle) (["highlight"], counted) (["overlay"], config.inOverlay []) :=
    LeadsTo.top.run_title (by simp) rfl ["highlight"]
  have hvalues : Runs (config.overlayPairs.map .pair) (["overlay"], config.inOverlay [])
      (["overlay"], config.inOverlay (config.overlayPairs.map Pair.entry)) :=
    leadsTo_overlay.run_pairs config.overlayPairs (by simp [overlayPairs, Pair.ofText, Pair.ofFlag])
  have htitle : Runs (titleLines languagesTitle)
      (["overlay"], config.inOverlay (config.overlayPairs.map Pair.entry))
      (["overlay", "languages"], config.inLanguages []) :=
    leadsTo_overlay.run_title (by simp [overlayPairs, Pair.entry, Pair.ofText, Pair.ofFlag]) rfl ["overlay"]
  have hlanguages : Runs (config.languagePairs.map .pair) (["overlay", "languages"], config.inLanguages [])
      (["overlay", "languages"], config.inLanguages (config.languagePairs.map Pair.entry)) := by
    refine leadsTo_languages.run_pairs config.languagePairs ?_
    have hkeys : config.languagePairs.map Pair.key = config.languages.map (·.1) := by
      simp [languagePairs, Pair.ofText, Function.comp_def]
    rw [hkeys]
    exact h.nodup
  exact (((hcounted.append hoverlay).append hvalues).append htitle).append hlanguages

variable {origin : TableOrigin} {before : List (String × Toml)} {name : String}

/-- An entry fills the block that was opened for it. -/
theorem run_block (h : origin ≠ .braces) (hname : name ∉ before.map (·.1)) (items : List (List (String × Toml)))
    (entry : Entry) (here : List String) {entries : List (String × Toml)}
    (hopen : openBlock ["overlay", "rule_sets", name] entries =
      some (config.inSets origin (before ++ [(name, .blocks (items ++ [[]]))]))) :
    Runs (blockLines name entry) (here, entries) (["overlay", "rule_sets", name],
      config.inSets origin (before ++ [(name, .blocks (items ++ [entryBlock entry]))])) := by
  have hlead := (@leadsTo_sets config origin h).blocks hname items
  have hkeys : (([] : List (String × Toml)).map (·.1) ++ (entryPairs entry).map Pair.key).Nodup := by
    rw [entryPairs]
    cases entry.style <;> simp [Pair.ofText]
  have hpairs := hlead.run_pairs (entryPairs entry) hkeys
  refine Runs.cons rfl (Runs.cons ?_ hpairs)
  rw [Line.perform, setTitle, hopen]
  rfl

/-- The entries of a rule set fill one block each, behind those that are there. -/
theorem run_blocks (h : origin ≠ .braces) (hname : name ∉ before.map (·.1))
    (items : List (List (String × Toml))) (entries : List Entry) (here : List String) :
    ∃ place, Runs (entries.flatMap (blockLines name))
      (here, config.inSets origin (before ++ [(name, .blocks items)]))
      (place, config.inSets origin (before ++ [(name, .blocks (items ++ entries.map entryBlock))])) := by
  induction entries generalizing items here with
  | nil => exact ⟨here, by simpa using Runs.nil _⟩
  | cons entry more ih =>
    have hopen := (@leadsTo_sets config origin h).openBlock_next hname items
    have hblock := run_block h hname items entry here hopen
    obtain ⟨place, hmore⟩ := ih (items ++ [entryBlock entry]) ["overlay", "rule_sets", name]
    rw [List.append_assoc] at hmore
    exact ⟨place, hblock.append hmore⟩

/-- A rule set with entries fills the blocks of its name, of which the first was opened for it. -/
theorem run_set (h : origin ≠ .braces) {set : String × List Entry} (hname : set.1 ∉ before.map (·.1))
    (hne : set.2 ≠ []) (here : List String) {entries : List (String × Toml)}
    (hopen : openBlock ["overlay", "rule_sets", set.1] entries =
      some (config.inSets origin (before ++ [(set.1, .blocks [[]])]))) :
    ∃ place, Runs (setLines set) (here, entries)
      (place, config.inSets origin (before ++ [(set.1, .blocks (set.2.map entryBlock))])) := by
  obtain ⟨entry, more, hset⟩ := List.exists_cons_of_ne_nil hne
  have hblock := run_block h hname [] entry here hopen
  obtain ⟨place, hmore⟩ := run_blocks h hname [entryBlock entry] more ["overlay", "rule_sets", set.1]
  refine ⟨place, ?_⟩
  rw [setLines, hset]
  exact hblock.append hmore

/-- A rule set without entries has no blocks. -/
theorem blockValues_cons_of_empty {set : String × List Entry} (h : set.2 = [])
    (more : List (String × List Entry)) : blockValues (set :: more) = blockValues more := by
  simp [blockValues, h]

/-- A rule set with entries has a block for each of them. -/
theorem blockValues_cons {set : String × List Entry} (h : set.2 ≠ []) (more : List (String × List Entry)) :
    blockValues (set :: more) = (set.1, .blocks (set.2.map entryBlock)) :: blockValues more := by
  simp [blockValues, h]

/-- The lines of rule sets put their blocks behind those that are there. -/
theorem run_sets (h : origin ≠ .braces) (sets : List (String × List Entry))
    (hnames : ((before ++ blockValues sets).map (·.1)).Nodup) (here : List String) :
    ∃ place, Runs (sets.flatMap setLines) (here, config.inSets origin before)
      (place, config.inSets origin (before ++ blockValues sets)) := by
  induction sets generalizing before here with
  | nil => exact ⟨here, by simpa [blockValues] using Runs.nil _⟩
  | cons set more ih =>
    rw [List.flatMap_cons]
    by_cases hempty : set.2 = []
    · rw [blockValues_cons_of_empty hempty] at hnames ⊢
      rw [setLines, hempty, List.flatMap_nil]
      exact ih hnames here
    -- the blocks of this set become part of what the next one finds before it
    · rw [blockValues_cons hempty, List.append_cons] at hnames ⊢
      have hname : set.1 ∉ before.map (·.1) := by
        rw [List.map_append, List.map_append] at hnames
        intro hmem
        exact (List.nodup_append.mp (List.nodup_append.mp hnames).1).2.2 set.1 hmem set.1 (by simp) rfl
      have hopen := (@leadsTo_sets config origin h).openBlock_first hname
      obtain ⟨middle, hset⟩ := run_set h hname hempty here hopen
      obtain ⟨place, hmore⟩ := ih hnames middle
      exact ⟨place, hset.append hmore⟩

/-- All entries of the rule sets: those without entries come first. -/
def setValues (config : Config) : List (String × Toml) :=
  config.hollowPairs.map Pair.entry ++ blockValues config.ruleSets

/-- The rule sets with and without entries are all there are. -/
theorem perm_ruleSets (config : Config) :
    (config.hollowSets ++ config.ruleSets.filter fun set => !set.2.isEmpty).Perm config.ruleSets :=
  List.filter_append_perm _ _

/-- No rule set is there twice. -/
theorem nodup_setValues (h : Sorted config.ruleSets) : (config.setValues.map (·.1)).Nodup := by
  have hkeys : config.setValues.map (·.1) =
      (config.hollowSets ++ config.ruleSets.filter fun set => !set.2.isEmpty).map (·.1) := by
    simp [setValues, hollowPairs, blockValues, Pair.entry, Pair.hollow, Function.comp_def]
  rw [hkeys]
  exact ((perm_ruleSets config).map _).nodup_iff.mpr h.nodup

/-- Nothing else in the overlay table has the name of the rule sets. -/
theorem rule_sets_not_mem (config : Config) : "rule_sets" ∉ (config.overlayPairs.map Pair.entry ++
    [("languages", Toml.table .header (config.languagePairs.map Pair.entry))]).map (·.1) := by
  simp [overlayPairs, Pair.entry, Pair.ofText, Pair.ofFlag]

/-- A header opens the table of rule sets, and what has no entries is a value there. -/
theorem run_bareSets (h : Sorted config.ruleSets) :
    ∃ place, Runs (titleLines setsTitle ++ config.hollowPairs.map .pair ++ config.ruleSets.flatMap setLines)
      (["overlay", "languages"], config.inLanguages (config.languagePairs.map Pair.entry))
      (place, config.inSets .header config.setValues) := by
  have horigin : TableOrigin.header ≠ .braces := nofun
  have hnodup := nodup_setValues h
  have htitle : Runs (titleLines setsTitle)
      (["overlay", "languages"], config.inLanguages (config.languagePairs.map Pair.entry))
      (["overlay", "rule_sets"], config.inSets .header []) :=
    leadsTo_overlay.run_title (rule_sets_not_mem config) rfl ["overlay", "languages"]
  have hhollow : Runs (config.hollowPairs.map .pair) (["overlay", "rule_sets"], config.inSets .header [])
      (["overlay", "rule_sets"], config.inSets .header (config.hollowPairs.map Pair.entry)) := by
    refine (leadsTo_sets horigin).run_pairs config.hollowPairs ?_
    rw [setValues, List.map_append] at hnodup
    simpa [Pair.entry, Function.comp_def] using (List.nodup_append.mp hnodup).1
  obtain ⟨place, hsets⟩ := run_sets horigin config.ruleSets hnodup ["overlay", "rule_sets"]
  exact ⟨place, (htitle.append hhollow).append hsets⟩

/-- Without a header the first block makes the table of rule sets. -/
theorem run_blockSets (h : Sorted config.ruleSets) (hbare : config.bare = false) :
    ∃ place, Runs (config.hollowPairs.map .pair ++ config.ruleSets.flatMap setLines)
      (["overlay", "languages"], config.inLanguages (config.languagePairs.map Pair.entry))
      (place, config.inSets .implied config.setValues) := by
  have horigin : TableOrigin.implied ≠ .braces := nofun
  have hnodup := nodup_setValues h
  rw [bare, Bool.or_eq_false_iff, Bool.not_eq_false', List.isEmpty_iff, List.isEmpty_eq_false_iff] at hbare
  obtain ⟨hsome, hhollow⟩ := hbare
  -- only the first set makes the table; the others find it there
  obtain ⟨set, more, hsplit⟩ := List.exists_cons_of_ne_nil hsome
  have hset : set.2 ≠ [] := by
    intro hempty
    have hmem : set ∈ config.hollowSets := by simp [hollowSets, hsplit, hempty]
    rw [hhollow] at hmem
    cases hmem
  have hopen : openBlock ["overlay", "rule_sets", set.1]
      (config.inLanguages (config.languagePairs.map Pair.entry)) =
      some (config.inSets .implied ([] ++ [(set.1, .blocks [[]])])) :=
    leadsTo_overlay.openBlock_implied (rule_sets_not_mem config) set.1
  obtain ⟨middle, hfirst⟩ := run_set horigin List.not_mem_nil hset ["overlay", "languages"] hopen
  have hvalues : config.setValues = [] ++ [(set.1, .blocks (set.2.map entryBlock))] ++ blockValues more := by
    rw [setValues, hollowPairs, hhollow, hsplit, blockValues_cons hset]
    rfl
  have hpairs : config.hollowPairs.map Line.pair = [] := by
    rw [hollowPairs, hhollow]
    rfl
  rw [hvalues] at hnodup ⊢
  obtain ⟨place, hmore⟩ := run_sets horigin more hnodup middle
  rw [hpairs, hsplit, List.flatMap_cons]
  exact ⟨place, hfirst.append hmore⟩

/-- Running the lines of the settings gives tables that hold all of them. -/
theorem run_allLines (h : config.Ordered) (hlevel : (config.level : Int) ≤ Toml.wholeRange.2) :
    ∃ place origin,
      Runs (config.allLines hlevel) ([], []) (place, config.inSets origin config.setValues) := by
  have hhead := run_headLines h.languages hlevel
  rw [allLines, List.append_assoc, List.append_assoc]
  cases hbare : config.bare with
  | true =>
    obtain ⟨place, hsets⟩ := run_bareSets h.ruleSets
    rw [List.append_assoc] at hsets
    exact ⟨place, .header, hhead.append hsets⟩
  | false =>
    obtain ⟨place, hsets⟩ := run_blockSets h.ruleSets hbare
    exact ⟨place, .implied, hhead.append hsets⟩

/-! ## Decoding -/

/-- What is encoded item by item is decoded item by item. -/
theorem mapM_map_eq_some {α β : Type} {encode : α → β} {decode : β → Option α} {items : List α}
    (h : ∀ item ∈ items, decode (encode item) = some item) :
    (items.map encode).mapM decode = some items := by
  induction items with
  | nil => rfl
  | cons first rest ih =>
    rw [List.map_cons, List.mapM_cons, h first List.mem_cons_self,
      ih fun item hitem => h item (List.mem_cons_of_mem first hitem)]
    rfl

/-- The block of an entry is decoded as this entry. -/
theorem decodeEntry_entryBlock (entry : Entry) :
    decodeEntry (.table .header (entryBlock entry)) = some entry := by
  obtain ⟨pattern, style⟩ := entry
  cases style <;> rfl

/-- A table of encoded members is decoded, if its members are those of a sorted list. -/
theorem decodeMap_encoded {α : Type} {decode : Toml → Option α} {encode : String × α → Toml}
    {items members : List (String × α)} (h : Sorted items) (hperm : members.Perm items)
    (hdecode : ∀ member ∈ members, decode (encode member) = some member.2) (origin : TableOrigin) :
    decodeMap decode (.table origin (members.map fun member => (member.1, encode member))) = some items := by
  have hread : (members.map fun member => (member.1, encode member)).mapM
      (fun entry => (decode entry.2).map (entry.1, ·)) = some members := by
    refine mapM_map_eq_some fun member hmember => ?_
    rw [hdecode member hmember]
    rfl
  rw [decodeMap_table, hread, Option.map_some, h.foldl_perm hperm]

/-- The map of languages is decoded as it was. -/
theorem decodeMap_languages (h : Sorted config.languages) :
    decodeMap decodeText (.table .header (config.languagePairs.map Pair.entry)) = some config.languages := by
  have hvalues : config.languagePairs.map Pair.entry =
      config.languages.map fun setting => (setting.1, Toml.text setting.2) := by
    simp [languagePairs, Pair.entry, Pair.ofText, Function.comp_def]
  rw [hvalues]
  exact decodeMap_encoded h (List.Perm.refl _) (fun _ _ => rfl) .header

def encodeSet (set : String × List Entry) : Toml :=
  if set.2.isEmpty then .list [] else .blocks (set.2.map entryBlock)

/-- The value of a rule set is decoded as its entries. -/
theorem decodeEntries_encodeSet (set : String × List Entry) :
    decodeEntries (encodeSet set) = some set.2 := by
  rw [encodeSet]
  split
  · next hempty =>
    rw [List.isEmpty_iff.mp hempty]
    rfl
  · exact mapM_map_eq_some fun entry _ => decodeEntry_entryBlock entry

/-- The rule sets are decoded as they were. -/
theorem decodeMap_setValues (h : Sorted config.ruleSets) (origin : TableOrigin) :
    decodeMap decodeEntries (.table origin config.setValues) = some config.ruleSets := by
  have hvalues : config.setValues =
      (config.hollowSets ++ config.ruleSets.filter fun set => !set.2.isEmpty).map fun set =>
        (set.1, encodeSet set) := by
    rw [List.map_append, setValues]
    congr 1
    · rw [hollowPairs, List.map_map]
      refine List.map_congr_left fun set hset => ?_
      rw [encodeSet, if_pos (List.mem_filter.mp hset).2]
      rfl
    · refine List.map_congr_left fun set hset => ?_
      rw [encodeSet, if_neg (by simpa using (List.mem_filter.mp hset).2)]
  rw [hvalues]
  exact decodeMap_encoded h (perm_ruleSets config) (fun set _ => decodeEntries_encodeSet set) origin

/-- The tables give the settings back. -/
theorem decode_inSets (h : config.Ordered) (origin : TableOrigin) :
    decode (config.inSets origin config.setValues) = some config := by
  have hlanguages := decodeMap_languages h.languages
  have hsets := decodeMap_setValues h.ruleSets origin
  simp [decode, inSets, inOverlay, field, slot?, Toml.find?, overlayPairs, Pair.entry, Pair.ofText, Pair.ofFlag,
    decodeText, decodeFlag, decodeCount, hlanguages, hsets]

/-- Settings whose level can be written are read back from their text. -/
theorem ofText_render (h : config.Ordered) (hlevel : (config.level : Int) ≤ Toml.wholeRange.2) :
    ofText config.render = some config := by
  obtain ⟨place, origin, hruns⟩ := run_allLines h hlevel
  have htext := toList_render config hlevel
  have hstart : config.render.toList.head? = some '[' := by
    rw [htext]
    rfl
  rw [ofText, read_of_runs htext hstart hruns]
  exact decode_inSets h origin

end Config

end Dimming
