import Dimming.Proofs.Patterns.Captured
import Dimming.Proofs.Patterns.First
import Dimming.Proofs.Patterns.Known

/-!
# Where patterns fit

A pattern fits siblings when its parts fit the siblings and the nodes inside of them. Each way to fit has
its roots, the nodes that the pattern matches first, and the nodes that its captures name. Every match
that a search finds is such a way. A capture that is put behind the pattern names roots only, and it
names all of them unless some of them already have as many names as a node can have.
-/

set_option autoImplicit false

namespace Dimming

namespace Matching

/-- How far a pattern for one node may look. -/
def seekOf (spec : NodeSpec) (seek : Seek) : Seek :=
  if spec.anchored && seek == .far then .near else seek

mutual

/-- A pattern fits siblings, of which some are left behind the match. The captures that the pattern binds
stand in the order of matching; the roots are the nodes that it matches first. -/
inductive Fits : Pattern → Seek → List Node → List Node → Bindings → List Node → Prop
  | node {spec : NodeSpec} {items : List Pattern} {seek : Seek} {siblings behind inside : List Node}
      {node : Node} {bound : Bindings} {roots : List Node}
      (hfound : (node, behind) ∈ candidates (seekOf spec seek) siblings)
      (hmeets : meets spec node behind = true)
      (hinside : FitsRow items .far node.children inside bound roots) :
    Fits (.node spec items) seek siblings behind
      (spec.captures.map (fun capture => (capture, node)) ++ bound) [node]
  | group {items : List Pattern} {seek : Seek} {siblings behind : List Node} {bound : Bindings}
      {roots : List Node} (h : FitsRow items seek siblings behind bound roots) :
    Fits (.group items) seek siblings behind bound roots
  | choice {options : List Pattern} {option : Pattern} {seek : Seek} {siblings behind : List Node}
      {bound : Bindings} {roots : List Node} (hoption : option ∈ options)
      (h : Fits option seek siblings behind bound roots) :
    Fits (.choice options) seek siblings behind bound roots
  | once {part : Pattern} {once : Bool} {seek : Seek} {siblings behind : List Node}
      {bound : Bindings} {roots : List Node} (h : Fits part seek siblings behind bound roots) :
    Fits (.repeated part once) seek siblings behind bound roots
  | again {part : Pattern} {once : Bool} {seek : Seek} {siblings middle behind : List Node}
      {bound more : Bindings} {roots others : List Node}
      (h : Fits part seek siblings middle bound roots)
      (hmore : Fits (.repeated part once) .near middle behind more others) :
    Fits (.repeated part once) seek siblings behind (bound ++ more) (roots ++ others)
  | never {part : Pattern} {seek : Seek} {siblings : List Node} :
    Fits (.repeated part false) seek siblings siblings [] []
  | present {part : Pattern} {seek : Seek} {siblings behind : List Node} {bound : Bindings}
      {roots : List Node} (h : Fits part seek siblings behind bound roots) :
    Fits (.optional part) seek siblings behind bound roots
  | absent {part : Pattern} {seek : Seek} {siblings : List Node} :
    Fits (.optional part) seek siblings siblings [] []

/-- Patterns in a row fit siblings. What stands behind a pattern that may be passed over has roots of the
row as well. -/
inductive FitsRow : List Pattern → Seek → List Node → List Node → Bindings → List Node → Prop
  | nil {seek : Seek} {siblings : List Node} : FitsRow [] seek siblings siblings [] []
  | cons {first : Pattern} {rest : List Pattern} {seek : Seek} {siblings middle behind : List Node}
      {bound more : Bindings} {roots others : List Node}
      (hfirst : Fits first seek siblings middle bound roots)
      (hrest : FitsRow rest .far middle behind more others) :
    FitsRow (first :: rest) seek siblings behind (bound ++ more)
      (roots ++ if first.isSkippable then others else [])

end

/-- Some siblings of a tree, from one of them on. -/
inductive Row (nodes : List Node) : List Node → Prop
  | all : Row nodes nodes
  | behind {node : Node} {rest : List Node} (h : Row nodes (node :: rest)) : Row nodes rest
  | inside {node : Node} {rest : List Node} (h : Row nodes (node :: rest)) : Row nodes node.children

/-- A pattern matches somewhere below some nodes. -/
def Occurs (pattern : Pattern) (nodes : List Node) (bound : Bindings) (roots : List Node) : Prop :=
  ∃ siblings behind, Row nodes siblings ∧ Fits pattern .here siblings behind bound roots

mutual

/-- A match binds captures of the pattern only. -/
theorem Fits.lt_of_mem {pattern : Pattern} {seek : Seek} {siblings behind : List Node}
    {bound : Bindings} {roots : List Node} {limit : Nat} :
    Fits pattern seek siblings behind bound roots → pattern.Below limit →
      ∀ entry ∈ bound, entry.1 < limit
  | .node _ _ hinside, .node hspec hitems => by
    intro entry hentry
    obtain hentry | hentry := List.mem_append.mp hentry
    · obtain ⟨capture, hcapture, rfl⟩ := List.mem_map.mp hentry
      exact hspec capture hcapture
    · exact hinside.lt_of_mem hitems entry hentry
  | .group h, .group hitems => h.lt_of_mem hitems
  | .choice hoption h, .choice hoptions => h.lt_of_mem (hoptions _ hoption)
  | .once h, .repeated hpart => h.lt_of_mem hpart
  | .again h hmore, .repeated hpart => by
    intro entry hentry
    obtain hentry | hentry := List.mem_append.mp hentry
    · exact h.lt_of_mem hpart entry hentry
    · exact hmore.lt_of_mem (.repeated hpart) entry hentry
  | .never, _ => List.forall_mem_nil _
  | .present h, .optional hpart => h.lt_of_mem hpart
  | .absent, _ => List.forall_mem_nil _

/-- A row binds only numbers below a bound for those of its items. -/
theorem FitsRow.lt_of_mem {items : List Pattern} {seek : Seek} {siblings behind : List Node}
    {bound : Bindings} {roots : List Node} {limit : Nat} :
    FitsRow items seek siblings behind bound roots → (∀ item ∈ items, item.Below limit) →
      ∀ entry ∈ bound, entry.1 < limit
  | .nil, _ => List.forall_mem_nil _
  | .cons hfirst hrest, hitems => by
    intro entry hentry
    obtain hentry | hentry := List.mem_append.mp hentry
    · exact hfirst.lt_of_mem (hitems _ List.mem_cons_self) entry hentry
    · exact hrest.lt_of_mem (fun item hitem => hitems item (List.mem_cons_of_mem _ hitem)) entry hentry

end

/-! ## A capture behind a pattern -/

/-- Puts a capture behind what is asked of a node, if one is given. -/
def withMark : Option Nat → NodeSpec → NodeSpec
  | none, spec => spec
  | some capture, spec => spec.addCapture capture

/-- A mark does not change which nodes a node pattern meets. -/
theorem meets_withMark (mark : Option Nat) (spec : NodeSpec) (node : Node) (behind : List Node) :
    meets (withMark mark spec) node behind = meets spec node behind := by
  cases mark with
  | none => rfl
  | some capture =>
    rw [withMark, NodeSpec.addCapture]
    split <;> rfl

/-- A mark does not change how a node pattern seeks. -/
theorem seekOf_withMark (mark : Option Nat) (spec : NodeSpec) (seek : Seek) :
    seekOf (withMark mark spec) seek = seekOf spec seek := by
  cases mark with
  | none => rfl
  | some capture =>
    rw [withMark, NodeSpec.addCapture]
    split <;> rfl

/-- How what is added to the captures of a match with a mark behind the pattern differs from what the
pattern binds: by the mark, which names roots, and all of them when there is room. -/
structure Marks (mark : Option Nat) (room : Prop) (bound : Bindings) (roots : List Node)
    (added : Bindings) : Prop where
  only : ∀ entry ∈ added, entry ∈ bound ∨ (mark = some entry.1 ∧ entry.2 ∈ roots)
  kept : ∀ entry ∈ bound, entry ∈ added
  all : room → ∀ capture, mark = some capture → ∀ node ∈ roots, (capture, node) ∈ added

variable {mark : Option Nat} {room : Prop}

/-- Where nothing is bound no mark is set. -/
theorem Marks.nil : Marks mark room [] [] [] where
  only := List.forall_mem_nil _
  kept := List.forall_mem_nil _
  all _ _ _ := List.forall_mem_nil _

/-- Marks are set all the same where there is room in more cases. -/
theorem Marks.of_imp {room' : Prop} {bound added : Bindings} {roots : List Node}
    (h : Marks mark room bound roots added) (himp : room' → room) :
    Marks mark room' bound roots added :=
  ⟨h.only, h.kept, fun hroom => h.all (himp hroom)⟩

/-- The marks of two steps are those of the one and then those of the other. -/
theorem Marks.append {bound more added further : Bindings} {roots others : List Node}
    (h : Marks mark room bound roots added) (hmore : Marks mark room more others further) :
    Marks mark room (bound ++ more) (roots ++ others) (added ++ further) where
  only entry hentry := by
    obtain hentry | hentry := List.mem_append.mp hentry
    · obtain hbound | ⟨hmark, hroot⟩ := h.only entry hentry
      · exact Or.inl (List.mem_append_left more hbound)
      · exact Or.inr ⟨hmark, List.mem_append_left others hroot⟩
    · obtain hbound | ⟨hmark, hroot⟩ := hmore.only entry hentry
      · exact Or.inl (List.mem_append_right bound hbound)
      · exact Or.inr ⟨hmark, List.mem_append_right roots hroot⟩
  kept entry hentry := by
    obtain hentry | hentry := List.mem_append.mp hentry
    · exact List.mem_append_left further (h.kept entry hentry)
    · exact List.mem_append_right added (hmore.kept entry hentry)
  all hroom capture hmark node hnode := by
    obtain hnode | hnode := List.mem_append.mp hnode
    · exact List.mem_append_left further (h.all hroom capture hmark node hnode)
    · exact List.mem_append_right added (hmore.all hroom capture hmark node hnode)

/-- Without a mark the roots do not matter. -/
theorem Marks.of_unmarked {room' : Prop} {bound added : Bindings} {roots : List Node}
    (h : Marks none room' bound roots added) : Marks mark room bound [] added where
  only entry hentry := by
    obtain hbound | ⟨hmark, -⟩ := h.only entry hentry
    · exact Or.inl hbound
    · cases hmark
  kept := h.kept
  all _ _ _ := List.forall_mem_nil _

/-- One node of a match. -/
theorem Marks.node (spec : NodeSpec) (node : Node)
    (hroom : room → spec.captures.length < NodeSpec.captureLimit) :
    Marks mark room (spec.captures.map (fun capture => (capture, node))) [node]
      ((withMark mark spec).captures.map (fun capture => (capture, node))) := by
  cases mark with
  | none => exact ⟨fun entry hentry => Or.inl hentry, fun entry hentry => hentry, nofun⟩
  | some capture =>
    rw [withMark, NodeSpec.addCapture]
    split
    · rw [List.map_append]
      refine ⟨fun entry hentry => ?_, fun entry hentry => List.mem_append_left _ hentry, ?_⟩
      · obtain hentry | hentry := List.mem_append.mp hentry
        · exact Or.inl hentry
        · rw [List.mem_singleton.mp hentry]
          exact Or.inr ⟨rfl, List.mem_singleton.mpr rfl⟩
      · rintro - _ ⟨⟩ root hroot
        rw [List.mem_singleton.mp hroot]
        exact List.mem_append_right _ List.mem_cons_self
    · rename_i hfull
      exact ⟨fun entry hentry => Or.inl hentry, fun entry hentry => hentry,
        fun h => absurd (hroom h) hfull⟩

/-- A result of a run with a mark behind the pattern, told by how the pattern fits. -/
def Told (mark : Option Nat) (room : Prop) (fits : Bindings → List Node → Prop)
    (from_ result : Reached) : Prop :=
  ∃ bound roots added, fits bound roots ∧ result.bindings = from_.bindings ++ added
    ∧ Marks mark room bound roots added

variable {fits fits' both : Bindings → List Node → Prop} {from_ middle result : Reached}

/-- A step that stays where it is adds nothing. -/
theorem Told.nothing (h : fits [] []) : Told mark room fits from_ from_ :=
  ⟨[], [], [], h, (List.append_nil _).symm, .nil⟩

/-- What is told of a step can be told more weakly. -/
theorem Told.imp {room' : Prop} (h : Told mark room fits from_ result)
    (hfits : ∀ {bound roots}, fits bound roots → fits' bound roots) (hroom : room' → room) :
    Told mark room' fits' from_ result := by
  obtain ⟨bound, roots, added, hfit, hadded, hmarks⟩ := h
  exact ⟨bound, roots, added, hfits hfit, hadded, hmarks.of_imp hroom⟩

/-- What is told of two steps, one after the other. -/
theorem Told.append (h : Told mark room fits from_ middle) (hmore : Told mark room fits' middle result)
    (hboth : ∀ {bound roots more others}, fits bound roots → fits' more others →
      both (bound ++ more) (roots ++ others)) : Told mark room both from_ result := by
  obtain ⟨bound, roots, added, hfit, hadded, hmarks⟩ := h
  obtain ⟨more, others, further, hfit', hadded', hmarks'⟩ := hmore
  refine ⟨_, _, added ++ further, hboth hfit hfit', ?_, hmarks.append hmarks'⟩
  rw [hadded', hadded, List.append_assoc]

/-- What is matched without the mark has no roots to be marked. -/
theorem Told.of_unmarked {room' : Prop} (h : Told none room' fits from_ result) :
    Told mark room (fun bound roots => roots = [] ∧ ∃ others, fits bound others) from_ result := by
  obtain ⟨bound, roots, added, hfit, hadded, hmarks⟩ := h
  exact ⟨bound, [], added, ⟨rfl, roots, hfit⟩, hadded, hmarks.of_unmarked⟩

/-- What is inside of a node is matched without the mark. -/
theorem told_node {spec : NodeSpec} {items : List Pattern} {seek : Seek} {node : Node}
    {behind : List Node} (hfound : (node, behind) ∈ candidates (seekOf spec seek) from_.rest)
    (hmeets : meets spec node behind = true)
    (hinside : Told none False
      (fun bound roots => ∃ inside, FitsRow items .far node.children inside bound roots)
      ⟨from_.bindings ++ (withMark mark spec).captures.map (fun capture => (capture, node)),
        node.children⟩ result) :
    Told mark (Pattern.HasRoom (.node spec items)) (Fits (.node spec items) seek from_.rest behind)
      from_ ⟨result.bindings, behind⟩ := by
  have hroom : Pattern.HasRoom (.node spec items) → spec.captures.length < NodeSpec.captureLimit :=
    fun hroom => hroom spec (List.mem_singleton.mpr rfl)
  obtain ⟨bound, roots, added, ⟨inside, hfits⟩, hadded, hmarks⟩ := hinside
  exact ⟨_, [node], _, .node hfound hmeets hfits, hadded.trans (List.append_assoc _ _ _),
    (Marks.node spec node hroom).append hmarks.of_unmarked⟩

/-- A result of some rounds is one of the first round, or the other rounds go on behind the first. -/
theorem mem_rounds_succ {step : Seek → Reached → List Reached} {fuel : Nat} {seek : Seek}
    {results : List Reached} (h : result ∈ rounds step (fuel + 1) seek results) :
    (∃ from_ ∈ results, result ∈ step seek from_) ∨
      ∃ forward, (∀ middle ∈ forward, ∃ from_ ∈ results, middle ∈ step seek from_) ∧
        result ∈ rounds step fuel .near forward := by
  rw [rounds] at h
  split at h
  · exact Or.inl (List.mem_flatMap.mp (mem_of_mem_distinctReached h))
  · obtain h | h := List.mem_append.mp (mem_of_mem_distinctReached h)
    · exact Or.inl (List.mem_flatMap.mp (mem_of_mem_distinctReached h))
    · exact Or.inr ⟨_, fun middle hmiddle =>
        List.mem_flatMap.mp (mem_of_mem_distinctReached (List.mem_filter.mp hmiddle).1), h⟩

/-- What each round of a repetition is, all rounds together are. -/
theorem exists_of_mem_rounds {step : Seek → Reached → List Reached}
    {Many : Seek → Reached → Reached → Prop}
    (hone : ∀ {seek from_ result}, result ∈ step seek from_ → Many seek from_ result)
    (hagain : ∀ {seek from_ middle result}, middle ∈ step seek from_ → Many .near middle result →
      Many seek from_ result)
    (fuel : Nat) (seek : Seek) (results : List Reached)
    (h : result ∈ rounds step (fuel + 1) seek results) :
    ∃ from_ ∈ results, Many seek from_ result := by
  induction fuel generalizing seek results with
  | zero =>
    -- without fuel the rounds end with what the first one has reached
    obtain ⟨from_, hfrom, hstep⟩ | ⟨forward, hforward, hresult⟩ := mem_rounds_succ h
    · exact ⟨from_, hfrom, hone hstep⟩
    · obtain ⟨from_, hfrom, hstep⟩ := hforward result hresult
      exact ⟨from_, hfrom, hone hstep⟩
  | succ fuel ih =>
    obtain ⟨from_, hfrom, hstep⟩ | ⟨forward, hforward, hmore⟩ := mem_rounds_succ h
    · exact ⟨from_, hfrom, hone hstep⟩
    · obtain ⟨middle, hmiddle, hmany⟩ := ih .near forward hmore
      obtain ⟨from_, hfrom, hstep⟩ := hforward middle hmiddle
      exact ⟨from_, hfrom, hagain hstep hmany⟩

/-- What is told of a repetition follows from what is told of the pattern that is repeated. -/
theorem told_repeated {part : Pattern} {once : Bool} {seek : Seek}
    (hstep : ∀ (seek : Seek) (from_ result : Reached),
      result ∈ run (part.mapFirst (withMark mark)) seek from_ →
        Told mark part.HasRoom (Fits part seek from_.rest result.rest) from_ result)
    (h : result ∈ run (.repeated (part.mapFirst (withMark mark)) once) seek from_) :
    Told mark part.HasRoom (Fits (.repeated part once) seek from_.rest result.rest) from_ result := by
  let Many (seek : Seek) (from_ result : Reached) : Prop :=
    Told mark part.HasRoom (Fits (.repeated part once) seek from_.rest result.rest) from_ result
  have hone {seek : Seek} {from_ result : Reached}
      (hresult : result ∈ run (part.mapFirst (withMark mark)) seek from_) : Many seek from_ result :=
    (hstep seek from_ result hresult).imp .once id
  have hagain {seek : Seek} {from_ middle result : Reached}
      (hmiddle : middle ∈ run (part.mapFirst (withMark mark)) seek from_)
      (hmore : Many .near middle result) : Many seek from_ result :=
    (hstep seek from_ middle hmiddle).append hmore .again
  have hmany (hmem : result ∈ rounds (fun seek from_ => run (part.mapFirst (withMark mark)) seek from_)
      (from_.rest.length + 1) seek [from_]) : Many seek from_ result := by
    obtain ⟨start, hstart, htold⟩ := exists_of_mem_rounds hone hagain _ _ _ hmem
    rwa [List.mem_singleton.mp hstart] at htold
  rw [run] at h
  cases once with
  | true => exact hmany h
  | false =>
    obtain h | h := List.mem_append.mp (mem_of_mem_distinctReached h)
    · exact hmany h
    · rw [List.mem_singleton.mp h]
      exact Told.nothing .never

mutual

/-- Every result of a run is told by how the pattern fits. -/
theorem told_run : ∀ (pattern : Pattern) (mark : Option Nat) (seek : Seek) (from_ result : Reached),
    result ∈ run (pattern.mapFirst (withMark mark)) seek from_ →
      Told mark pattern.HasRoom (Fits pattern seek from_.rest result.rest) from_ result
  | .node spec items, mark, seek, from_, result => by
    intro h
    rw [Pattern.mapFirst, run] at h
    dsimp only at h
    obtain ⟨⟨node, behind⟩, hfound, h⟩ := List.mem_flatMap.mp h
    have hfound' : (node, behind) ∈ candidates (seekOf spec seek) from_.rest := by
      rw [← seekOf_withMark mark]
      exact hfound
    dsimp only at h
    split at h
    · rename_i hmeets
      rw [meets_withMark] at hmeets
      obtain ⟨inner, hinner, rfl⟩ := List.mem_map.mp (mem_of_mem_distinctReached h)
      refine told_node hfound' hmeets ?_
      split at hinner
      · rename_i hempty
        rw [List.mem_singleton.mp hinner, List.isEmpty_iff.mp hempty]
        exact Told.nothing ⟨node.children, .nil⟩
      · rw [← Pattern.mapHead_id items] at hinner
        exact (told_runRow items none .far _ inner hinner).imp (fun hfits => ⟨_, hfits⟩) False.elim
    · cases h
  | .group items, mark, seek, from_, result => by
    intro h
    rw [Pattern.mapFirst, run] at h
    exact (told_runRow items mark seek from_ result h).imp .group id
  | .choice options, mark, seek, from_, result => by
    intro h
    rw [Pattern.mapFirst, run] at h
    obtain ⟨option, hoption, hspecs, htold⟩ :=
      told_runChoice options mark seek from_ result (mem_of_mem_distinctReached h)
    exact htold.imp (.choice hoption) fun hroom spec hspec => hroom spec (hspecs spec hspec)
  | .repeated part once, mark, seek, from_, result => told_repeated (told_run part mark)
  | .optional part, mark, seek, from_, result => by
    intro h
    rw [Pattern.mapFirst, run] at h
    obtain h | h := List.mem_append.mp (mem_of_mem_distinctReached h)
    · exact (told_run part mark seek from_ result h).imp .present id
    · rw [List.mem_singleton.mp h]
      exact Told.nothing .absent

/-- What a run of a row with a mark on its first nodes adds to a run without it. -/
theorem told_runRow : ∀ (items : List Pattern) (mark : Option Nat) (seek : Seek)
    (from_ result : Reached), result ∈ runRow (Pattern.mapHead (withMark mark) items) seek from_ →
      Told mark (∀ spec ∈ Pattern.headSpecs items, spec.captures.length < NodeSpec.captureLimit)
        (FitsRow items seek from_.rest result.rest) from_ result
  | [], mark, seek, from_, result => by
    intro h
    rw [Pattern.mapHead, runRow] at h
    rw [List.mem_singleton.mp h]
    exact Told.nothing .nil
  | first :: rest, mark, seek, from_, result => by
    intro h
    rw [Pattern.mapHead, runRow] at h
    obtain ⟨middle, hmiddle, h⟩ := List.mem_flatMap.mp (mem_of_mem_distinctReached h)
    have hfirst := (told_run first mark seek from_ middle hmiddle).imp id
      fun (hroom : ∀ spec ∈ Pattern.headSpecs (first :: rest),
        spec.captures.length < NodeSpec.captureLimit) spec hspec =>
          hroom spec (List.mem_append_left _ hspec)
    -- the mark goes on behind what may be passed over, and only there
    by_cases hskip : first.isSkippable = true
    · rw [if_pos hskip] at h
      have hrest := (told_runRow rest mark .far middle result h).imp id
        fun (hroom : ∀ spec ∈ Pattern.headSpecs (first :: rest),
          spec.captures.length < NodeSpec.captureLimit) spec hspec =>
            hroom spec (List.mem_append_right _ (by rwa [if_pos hskip]))
      refine hfirst.append hrest fun hfits hfits' => ?_
      have hrow := FitsRow.cons hfits hfits'
      rwa [if_pos hskip] at hrow
    · rw [if_neg hskip, ← Pattern.mapHead_id rest] at h
      refine hfirst.append (told_runRow rest none .far middle result h).of_unmarked ?_
      rintro bound roots more _ hfits ⟨rfl, others, hfits'⟩
      have hrow := FitsRow.cons hfits hfits'
      rwa [if_neg hskip] at hrow

/-- What a run of a choice with a mark on its first nodes adds to a run of one of its options without it. -/
theorem told_runChoice : ∀ (options : List Pattern) (mark : Option Nat) (seek : Seek)
    (from_ result : Reached), result ∈ runChoice (Pattern.mapAll (withMark mark) options) seek from_ →
      ∃ option ∈ options, (∀ spec ∈ option.firstSpecs, spec ∈ Pattern.optionSpecs options) ∧
        Told mark option.HasRoom (Fits option seek from_.rest result.rest) from_ result
  | [], mark, seek, from_, result => by
    intro h
    rw [Pattern.mapAll, runChoice] at h
    cases h
  | first :: rest, mark, seek, from_, result => by
    intro h
    rw [Pattern.mapAll, runChoice] at h
    obtain h | h := List.mem_append.mp h
    · exact ⟨first, List.mem_cons_self, fun spec hspec => List.mem_append_left _ hspec,
        told_run first mark seek from_ result h⟩
    · obtain ⟨option, hoption, hspecs, htold⟩ := told_runChoice rest mark seek from_ result h
      exact ⟨option, List.mem_cons_of_mem first hoption,
        fun spec hspec => List.mem_append_right _ (hspecs spec hspec), htold⟩

end

/-! ## Searches -/

mutual

/-- A match that is found below a node starts in some row of nodes there. -/
theorem exists_row_of_mem_search {pattern : Pattern} {nodes : List Node} {bindings : Bindings} :
    ∀ (node : Node) (behind : List Node), Row nodes (node :: behind) →
      bindings ∈ search pattern behind node →
        ∃ siblings, Row nodes siblings ∧
          ∃ result ∈ run pattern .here ⟨[], siblings⟩, result.bindings = bindings
  | .mk index label start stop children, behind, hrow => by
    intro h
    rw [search] at h
    obtain h | h := List.mem_append.mp h
    · exact ⟨_, hrow, List.mem_map.mp h⟩
    · exact exists_row_of_mem_searchAll children hrow.inside h

/-- A match that a search finds starts at siblings of the tree. -/
theorem exists_row_of_mem_searchAll {pattern : Pattern} {nodes : List Node} {bindings : Bindings} :
    ∀ siblings : List Node, Row nodes siblings → bindings ∈ searchAll pattern siblings →
      ∃ siblings, Row nodes siblings ∧
        ∃ result ∈ run pattern .here ⟨[], siblings⟩, result.bindings = bindings
  | [], _ => by
    intro h
    rw [searchAll] at h
    cases h
  | node :: behind, hrow => by
    intro h
    rw [searchAll] at h
    obtain h | h := List.mem_append.mp h
    · exact exists_row_of_mem_search node behind hrow h
    · exact exists_row_of_mem_searchAll behind hrow.behind h

end

/-- What a search finds with a mark behind the pattern is told by where the pattern occurs. -/
theorem told_searchAll {pattern : Pattern} (mark : Option Nat) {nodes : List Node}
    {bindings : Bindings} (h : bindings ∈ searchAll (pattern.mapFirst (withMark mark)) nodes) :
    ∃ bound roots, Occurs pattern nodes bound roots
      ∧ Marks mark pattern.HasRoom bound roots bindings := by
  obtain ⟨siblings, hrow, result, hresult, rfl⟩ := exists_row_of_mem_searchAll nodes .all h
  obtain ⟨bound, roots, added, hfits, hadded, hmarks⟩ := told_run pattern mark .here _ result hresult
  rw [List.nil_append] at hadded
  exact ⟨bound, roots, ⟨siblings, result.rest, hrow, hfits⟩, hadded ▸ hmarks⟩

end Matching

end Dimming
