import Fleet.Proofs.NormalForms
import Fleet.Proofs.Spellings

/-!
# Detours

The directory of a repository really lies at or below where the normal form of its root leads. The
root as it is spelled may lead elsewhere: its normal form cancels `..` against the name in front,
while the system follows that name first, and if it is a link, goes up from the link's target. Both
agree on a root that takes no link back, and on any path, from wherever it is followed, that meets
no link at all.

* `Leads.step_normal`, `Leads.normal`: segments that take no link back lead where their normal form
  leads.
* `contains_of_no_link_back`: where the directory of a repository really lies.
* `Straight.step`, `Straight.run`: moves that meet no link end where the names of their normal form
  lead.
* `walk_normalize?`: a path that meets no link and its normal form lead to one place.
-/

namespace Fleet

open Fleet.Path (IsName stepOf normalizeFrom?)

namespace FileTree

variable {t : FileTree} {here middle there : Location} {names segments : List String}
  {segment : String} {links links' : Nat}

/-- Whether none of the names that `..` cancels in an absolute path is a link. -/
def TakesNoLinkBack (t : FileTree) (segments : List String) : Prop :=
  ∀ before after names name place links, segments = before ++ ".." :: after →
    normalizeFrom? ⟨true, []⟩ (before.map stepOf) = some ⟨true, names ++ [name]⟩ →
      t.Leads [] names links place → ∀ target, t.find? (place ++ [name]) ≠ some (.link target)

/-- One more segment leads where the normal form with one more step leads, if names lead to where
it is taken, and no link is taken back. -/
theorem Leads.step_normal (proper : ∀ name ∈ names, IsName name)
    (named : segment ≠ ".." → IsName segment) (reached : t.Leads [] names links middle)
    (onward : t.Leads middle [segment] links' there)
    (kept : segment = ".." → ∀ front name place links, names = front ++ [name] →
      t.Leads [] front links place → ∀ target, t.find? (place ++ [name]) ≠ some (.link target)) :
    ∃ names' links, NormalPath.step ⟨true, names⟩ (stepOf segment) = some ⟨true, names'⟩ ∧
      (∀ name ∈ names', IsName name) ∧ t.Leads [] names' links there := by
  by_cases up : segment = ".."
  · subst up
    have fewer : ∀ name ∈ names.dropLast, IsName name :=
      fun name mem => proper name ((List.dropLast_prefix names).subset mem)
    suffices back : ∃ links, t.Leads [] names.dropLast links middle.dropLast by
      obtain ⟨links, back⟩ := back
      rw [← onward.singleton_up] at back
      exact ⟨names.dropLast, links, Climb.step_up names, fewer, back⟩
    rcases List.eq_nil_or_concat names with rfl | ⟨front, name, whole⟩
    · cases reached
      exact ⟨0, .arrived⟩
    · rw [List.concat_eq_append] at whole
      rw [whole] at reached proper ⊢
      -- The last name leads to an entry of its own, so going up leads to where it was taken.
      obtain ⟨place, links₁, _, _, before, last⟩ := reached.split
      have own := proper name (List.mem_append_right front List.mem_cons_self)
      rw [last.singleton_name own.notHere own.notUp
        (kept rfl front name place links₁ whole before), List.dropLast_concat, List.dropLast_concat]
      exact ⟨links₁, before⟩
  · have down : stepOf segment = .down segment := if_neg up
    rw [down]
    refine ⟨names ++ [segment], links + links', rfl, ?_, reached.append onward⟩
    intro name mem
    rcases List.mem_append.1 mem with mem | mem
    · exact proper name mem
    · exact List.mem_singleton.1 mem ▸ named up

/-- Segments that take no link back lead where their normal form leads. -/
theorem Leads.normal {taken : List String} (kept : t.TakesNoLinkBack (taken ++ segments))
    (form : normalizeFrom? ⟨true, []⟩ (taken.map stepOf) = some ⟨true, names⟩)
    (proper : ∀ name ∈ names, IsName name)
    (named : ∀ segment ∈ segments, segment ≠ ".." → IsName segment)
    (reached : t.Leads [] names links middle) (onward : t.Leads middle segments links' there) :
    ∃ names' links, normalizeFrom? ⟨true, []⟩ ((taken ++ segments).map stepOf) =
      some ⟨true, names'⟩ ∧ t.Leads [] names' links there := by
  -- What was taken stays in front of what is left, so that the condition is about the whole.
  induction segments generalizing taken names links links' middle with
  | nil =>
    cases onward
    rw [List.append_nil]
    exact ⟨names, links, form, reached⟩
  | cons segment rest ih =>
    obtain ⟨next, links₁, links₂, rfl, one, others⟩ := onward.uncons
    obtain ⟨names', links, step, proper', reached⟩ :=
      reached.step_normal proper (named segment List.mem_cons_self) one <| by
        rintro rfl front name place links rfl
        exact kept taken rest front name place links rfl form
    have form' : normalizeFrom? ⟨true, []⟩ ((taken ++ [segment]).map stepOf) =
        some ⟨true, names'⟩ := by
      rw [List.map_append, Path.normalizeFrom?_append, form, Option.bind_some]
      exact (Option.bind_fun_some _).trans step
    have whole : taken ++ segment :: rest = taken ++ [segment] ++ rest := by
      rw [List.append_assoc, List.singleton_append]
    rw [whole] at kept ⊢
    exact ih kept form' proper' (fun other mem => named other (List.mem_cons_of_mem segment mem))
      reached others

end FileTree

namespace World

variable {w : World} {root path base : String} {names : List String} {denoted : Location}
  {directory : NormalPath}

/-- Whether the working directory, if it has a path, is where that path leads. -/
def IsPlaced (w : World) : Prop :=
  ∀ here, w.here? = some here → w.IsIn (FileTree.pathOf here) here

/-- Where a root leads as it is spelled, the moves of its absolute form lead. -/
theorem leads_base (placed : w.IsPlaced) (full : Path.absolute w.currentPath root = .ok base)
    (led : w.tree.resolve w.here? root = .ok denoted) :
    ∃ links, w.tree.Leads [] (Path.moves base) links denoted := by
  obtain ⟨start, links, starts, _, leads⟩ := FileTree.resolve_eq_ok_iff.1 led
  obtain ⟨_, starts⟩ := FileTree.startOf_eq_ok_iff.1 starts
  obtain ⟨_, moves⟩ := Path.absolute_spec (fun _ => isAbsolute_currentPath) full
  by_cases absolute : Path.isAbsolute root = true
  · rw [if_pos absolute] at starts moves
    subst starts
    rw [moves]
    exact ⟨links, leads.moves⟩
  · rw [if_neg absolute] at starts moves
    obtain ⟨here, known, moves⟩ := moves
    rw [currentPath, starts] at known
    obtain rfl := Except.ok.inj known
    obtain ⟨before, toHere⟩ := (placed start starts).leads
    rw [moves]
    exact ⟨before + links, toHere.moves.append leads.moves⟩

/-- A root that takes no link back leads where its normal form leads. -/
theorem eq_of_no_link_back {realBase : Location} (placed : w.IsPlaced)
    (full : Path.absolute w.currentPath root = .ok base)
    (normal : Path.normalize? base = some ⟨true, names⟩)
    (kept : w.tree.TakesNoLinkBack (Path.moves base))
    (led : w.tree.resolve w.here? root = .ok denoted)
    (real : w.tree.resolve w.here? (FileTree.pathOf names) = .ok realBase) :
    realBase = denoted := by
  have proper := Path.isName_of_normalize? normal
  obtain ⟨links, leads⟩ := leads_base placed full led
  have named : ∀ segment ∈ Path.moves base, segment ≠ ".." → IsName segment :=
    fun _ => Path.isName_of_mem_moves
  have top : normalizeFrom? ⟨true, []⟩ (([] : List String).map stepOf) = some ⟨true, []⟩ := rfl
  obtain ⟨names', links', form, leads⟩ :=
    FileTree.Leads.normal kept top (fun _ mem => absurd mem List.not_mem_nil) named .arrived leads
  have same : names' = names := by
    rw [Path.normalize?_of_isAbsolute (isAbsolute_base full)] at normal
    exact congrArg NormalPath.names (Option.some.inj (form.symm.trans normal))
  obtain ⟨start, _, starts, _, realLeads⟩ := FileTree.resolve_eq_ok_iff.1 real
  obtain rfl := FileTree.eq_root_of_startOf (Path.isAbsolute_pathOf names) starts
  have realLeads := realLeads.moves
  rw [Path.moves, Path.segments_pathOf proper, ← same] at realLeads
  exact (realLeads.unique leads).2

/-- The directory of a repository really lies at or below where the normal form of the root leads,
and if the root takes no link back, that is where the root itself leads. -/
theorem contains_of_no_link_back
    (found : w.repositoryDirectory root path = .ok directory) :
    ∃ base names realBase real, Path.absolute w.currentPath root = .ok base ∧
      Path.normalize? base = some ⟨true, names⟩ ∧
      w.tree.resolve w.here? (FileTree.pathOf names) = .ok realBase ∧
      w.tree.resolve w.here? directory.toPath = .ok real ∧ realBase <+: real ∧
      (w.IsPlaced → w.tree.TakesNoLinkBack (Path.moves base) →
        ∀ denoted, w.tree.resolve w.here? root = .ok denoted → realBase = denoted) := by
  obtain ⟨base, full, _⟩ := of_bind_ok (show _ >>= _ = _ from found)
  have full := of_mapError_ok full
  obtain ⟨names, normal⟩ := Path.exists_normalize? (isAbsolute_base full)
  obtain ⟨real, realBase, led, ledBase, below⟩ :=
    ((repositoryDirectory_of_normal full normal).1 found).contained
  have ledBase := resolve_of_realLocation ledBase
  exact ⟨base, names, realBase, real, full, normal, ledBase, resolve_of_realLocation led, below,
    fun placed kept denoted rootLed => eq_of_no_link_back placed full normal kept rootLed ledBase⟩

open Session (besides apart resolve_apart_link shallow_apart)

/-- Only the name of a directory is taken back. -/
theorem takesNoLinkBack_apart : apart.TakesNoLinkBack ["o", "..", "p", "link"] := by
  intro before after names name place links whole form leads target stands
  have alone : before = ["o"] := by
    match before, whole with
    | [], whole => exact absurd (List.cons.inj whole).1 (by decide)
    | [first], whole => rw [(List.cons.inj whole).1]
    | _ :: _ :: rest, whole =>
      have later : ["p", "link"] = rest ++ ".." :: after :=
        (List.cons.inj (List.cons.inj whole).2).2
      have mem : ".." ∈ ["p", "link"] := later ▸ List.mem_append_right rest List.mem_cons_self
      exact absurd mem (by decide)
  subst alone
  have taken : [] ++ ["o"] = names ++ [name] :=
    congrArg NormalPath.names (Option.some.inj form)
  obtain ⟨rfl, last⟩ := List.append_inj' taken rfl
  obtain rfl := List.singleton_inj.1 last
  cases leads
  cases stands

/-- A root that goes up from a directory, and then through a link. -/
theorem resolve_apart_roundabout :
    apart.resolve (some ["o"]) "/o/../p/link" = .ok ["p", "sub"] := by
  have root : apart.HoldsDirectory [] := ⟨0, rfl⟩
  have segments : FileTree.walkSegments "/o/../p/link" = ["o", "..", "p", "link"] := by
    decide +kernel
  have target : FileTree.walkSegments "sub" = ["sub"] := by decide +kernel
  have sub : apart.Leads ["p"] (FileTree.walkSegments "sub" ++ []) 0 ["p", "sub"] := by
    rw [target]
    exact .down ⟨2, rfl⟩ ⟨by decide, by decide, by decide⟩ ⟨3, rfl⟩ .arrived
  have leads : apart.Leads [] (FileTree.walkSegments "/o/../p/link") 1 ["p", "sub"] := by
    rw [segments]
    exact .down root ⟨by decide, by decide, by decide⟩ ⟨1, rfl⟩ <| .up ⟨1, rfl⟩ <|
      .down root ⟨by decide, by decide, by decide⟩ ⟨2, rfl⟩ <|
        .through ⟨2, rfl⟩ ⟨by decide, by decide, by decide⟩ rfl (by decide) sub
  exact FileTree.resolve_of_leads (show FileTree.startOf (some ["o"]) _ = .ok [] from rfl) leads

/-- The process beside the project is where the path of its working directory leads. -/
theorem isPlaced_besides : besides.world.IsPlaced := by
  intro here located
  obtain rfl : ["o"] = here := Option.some.inj located
  have only : FileTree.walkSegments (FileTree.pathOf ["o"]) = ["o"] := by decide +kernel
  refine ⟨by decide, by unfold Words.HoldsNul; decide, rfl, 0, ?_⟩
  rw [only]
  exact .down ⟨0, rfl⟩ ⟨by decide, by decide, by decide⟩ ⟨1, rfl⟩ .arrived

/-- A root that goes up from a directory, and then through a link, takes no link back. -/
theorem contains_of_no_link_back_apart :
    besides.world.repositoryDirectory "/o/../p/link" "." = .ok ⟨true, ["p", "link"]⟩ ∧
      apart.TakesNoLinkBack (Path.moves "/o/../p/link") ∧
      besides.world.tree.resolve besides.world.here? "/o/../p/link" = .ok ["p", "sub"] ∧
      besides.world.tree.resolve besides.world.here? "/p/link" = .ok ["p", "sub"] := by
  have full : Path.absolute besides.world.currentPath "/o/../p/link" = .ok "/o/../p/link" := rfl
  have normal : Path.normalize? "/o/../p/link" = some ⟨true, ["p", "link"]⟩ := by decide +kernel
  have link := resolve_apart_link besides.world.here?
  have found : besides.world.repositoryDirectory "/o/../p/link" "." =
      .ok ⟨true, ["p", "link"]⟩ :=
    (repositoryDirectory_of_normal full normal).2 <|
      .of_resolve shallow_apart (by decide +kernel) rfl List.prefix_rfl link rfl link List.prefix_rfl
  have moves : Path.moves "/o/../p/link" = ["o", "..", "p", "link"] := by decide +kernel
  have kept : apart.TakesNoLinkBack (Path.moves "/o/../p/link") := by
    rw [moves]
    exact takesNoLinkBack_apart
  obtain ⟨base, names, realBase, real, full', normal', ledBase, _, _, same⟩ :=
    contains_of_no_link_back found
  rw [full] at full'
  obtain rfl := Except.ok.inj full'
  rw [normal] at normal'
  obtain rfl : ["p", "link"] = names := congrArg NormalPath.names (Option.some.inj normal')
  rw [same isPlaced_besides kept _ resolve_apart_roundabout] at ledBase
  exact ⟨found, kept, resolve_apart_roundabout, ledBase⟩

end World

namespace FileTree

/-! ## Ways without links -/

open Fleet.Path (isAbsolute moves normalize?)

variable {t : FileTree} {here there base start : Location} {p q : NormalPath} {path : String}

/-- Where a walk along a path sets out. -/
def outset (start : Location) (path : String) : Location :=
  if isAbsolute path then [] else start

/-- A name that is no link leads to the entry of that name. -/
theorem Leads.eq_snoc {name : String} (leads : t.Leads here [name] 0 there) (isName : IsName name) :
    there = here ++ [name] := by
  cases leads with
  | stay => exact absurd rfl isName.notHere
  | up => exact absurd rfl isName.notUp
  | down _ _ _ onward =>
    cases onward
    rfl
  | ends => rfl

/-- A normal path whose names can be gone down from a location one by one, without a link. -/
structure Straight (t : FileTree) (base : Location) (p : NormalPath) : Prop where
  rooted : p.absolute = true → base = []
  proper : ∀ name ∈ p.names, IsName name
  leads : t.Leads base p.names 0 (base ++ p.names)

/-- Its parent is another one. -/
theorem Straight.dropLast (straight : t.Straight base p) :
    t.Straight base { p with names := p.names.dropLast } where
  rooted := straight.rooted
  proper name mem := straight.proper name ((List.dropLast_prefix p.names).subset mem)
  leads := by
    obtain ⟨-, proper, leads⟩ := straight
    dsimp only
    obtain none | ⟨front, last, whole⟩ := List.eq_nil_or_concat p.names
    · rw [none] at leads ⊢
      exact leads
    · rw [whole, List.concat_eq_append] at leads proper
      rw [whole, List.concat_eq_append, List.dropLast_concat]
      obtain ⟨middle, links₁, links₂, none, before, after⟩ := leads.split
      obtain ⟨rfl, rfl⟩ := Nat.add_eq_zero_iff.1 none.symm
      have same := after.eq_snoc (proper last (List.mem_append_right _ List.mem_cons_self))
      rw [← List.append_assoc] at same
      rwa [(List.append_inj' same rfl).1]

/-- One more move, if it meets no link. -/
theorem Straight.step {next : NormalPath} {segment : String} (straight : t.Straight base p)
    (named : segment ≠ ".." → IsName segment) (moved : p.step (stepOf segment) = some next)
    (leads : t.Leads (base ++ p.names) [segment] 0 there) :
    t.Straight base next ∧ there = base ++ next.names := by
  rw [stepOf] at moved
  split at moved
  · next up =>
    subst up
    have above := leads.singleton_up
    rw [NormalPath.step] at moved
    split at moved
    · next inhabited =>
      obtain rfl := Option.some.inj moved
      exact ⟨straight.dropLast, above.trans (List.dropLast_append_of_ne_nil inhabited)⟩
    · next bottom =>
      split at moved
      · next absolute =>
        -- the root is above itself
        obtain rfl := Option.some.inj moved
        have none : p.names = [] := Decidable.of_not_not bottom
        refine ⟨straight, ?_⟩
        rw [above, straight.rooted absolute, none]
        rfl
      · cases moved
  · next notUp =>
    obtain rfl := Option.some.inj moved
    have isName := named notUp
    have below := leads.eq_snoc isName
    subst below
    refine ⟨⟨straight.rooted, ?_, ?_⟩, List.append_assoc ..⟩
    · intro name mem
      obtain mem | mem := List.mem_append.1 mem
      · exact straight.proper name mem
      · rwa [List.mem_singleton.1 mem]
    · have onward := straight.leads.append leads
      rwa [List.append_assoc] at onward

/-- Any moves, if they meet no link. -/
theorem Straight.run {segments : List String} (straight : t.Straight base p)
    (named : ∀ segment ∈ segments, segment ≠ ".." → IsName segment)
    (normal : normalizeFrom? p (segments.map stepOf) = some q)
    (leads : t.Leads (base ++ p.names) segments 0 there) :
    t.Straight base q ∧ there = base ++ q.names := by
  induction segments generalizing p with
  | nil =>
    cases normal
    cases leads
    exact ⟨straight, rfl⟩
  | cons segment rest ih =>
    rw [List.map_cons, normalizeFrom?, List.foldlM_cons] at normal
    obtain ⟨next, moved, normal⟩ := Option.bind_eq_some_iff.1 normal
    obtain ⟨middle, links₁, links₂, none, first, after⟩ := leads.uncons
    obtain ⟨rfl, rfl⟩ := Nat.add_eq_zero_iff.1 none.symm
    obtain ⟨straight, rfl⟩ := straight.step (named segment List.mem_cons_self) moved first
    exact ih straight (fun other mem => named other (List.mem_cons_of_mem segment mem)) normal after

/-- The moves of a path that meet no link lead to where its normal form leads. -/
theorem straight_of_moves (normal : normalize? path = some q)
    (leads : t.Leads (outset start path) (moves path) 0 there) :
    t.Straight (outset start path) q ∧ there = outset start path ++ q.names := by
  have named : ∀ segment ∈ moves path, segment ≠ ".." → IsName segment :=
    fun _ => Path.isName_of_mem_moves
  have nowhere : t.Leads (outset start path) [] 0 (outset start path ++ []) := by
    rw [List.append_nil]
    exact .arrived
  have begun : ∀ absolute, (absolute = true → outset start path = []) →
      t.Straight (outset start path) ⟨absolute, []⟩ :=
    fun _ rooted => ⟨rooted, fun _ mem => absurd mem List.not_mem_nil, nowhere⟩
  rw [← List.append_nil (outset start path)] at leads
  cases absolute : isAbsolute path with
  | true =>
    rw [Path.normalize?_of_isAbsolute absolute] at normal
    exact (begun true fun _ => if_pos absolute).run named normal leads
  | false =>
    rw [Path.normalize?_of_not_isAbsolute absolute] at normal
    exact (begun false (nomatch ·)).run named normal leads

/-- A walk along an absolute path takes a segment: there is one that is not empty, or the path ends
in a slash. -/
theorem walkSegments_ne_nil_of_isAbsolute (absolute : isAbsolute path = true) :
    walkSegments path ≠ [] := by
  intro none
  obtain ⟨blank, unended⟩ := List.append_eq_nil_iff.1 none
  obtain ⟨rest, parts, whole⟩ := Path.segments_of_isAbsolute absolute
  have slash : path.toList.getLast? = some '/' := by
    obtain rfl | ⟨front, last, rfl⟩ := List.eq_nil_or_concat rest
    · rw [whole]
      decide
    · have empty : last = "" := by
        simpa using List.filter_eq_nil_iff.1 blank last (by simp [parts])
      rw [← Path.intercalate_segments path, parts, List.concat_eq_append, ← List.cons_append,
        String.intercalate_append_of_ne_nil (List.cons_ne_nil _ _) (List.cons_ne_nil _ _), empty,
        String.intercalate_singleton, String.append_empty, String.toList_append,
        List.getLast?_append]
      rfl
  rw [slash] at unended
  cases unended

/-- What a walk takes from a normal path are its names. The root is taken as `.`. -/
theorem walkSegments_toPath (proper : ∀ name ∈ q.names, IsName name) :
    walkSegments q.toPath = if q.absolute ∧ q.names = [] then ["."] else q.names := by
  by_cases named : q.names = []
  · obtain ⟨_ | _, names⟩ := q
    · obtain rfl : names = [] := named
      decide
    · obtain rfl : names = [] := named
      decide
  · have kept : q.names.filter (· ≠ "") = q.names :=
      List.filter_eq_self.2 fun name mem => by simpa using (proper name mem).nonempty
    rw [if_neg (fun root => named root.2), walkSegments,
      if_neg (by simpa using (NormalPath.getLast?_toPath proper named).2),
      NormalPath.segments_toPath proper named, List.filter_append, kept, List.append_nil]
    cases q.absolute <;> rfl

theorem walk_zero_iff {segments : List String} :
    t.walk true 0 here segments = .ok there ↔ t.Leads here segments 0 there := by
  constructor
  · intro walked
    obtain ⟨links, covered, leads⟩ := leads_of_walk walked
    obtain rfl := Nat.le_zero.1 covered
    exact leads
  · intro leads
    rw [leads.walk_eq, if_pos (Nat.le_refl 0)]

/-- If the moves of a path lead somewhere, each from a directory and without a link, then the normal
form of the path leads there too, by its names. So it is for the system, which also takes idle
segments and a slash at the end. -/
theorem walk_normalize? (normal : normalize? path = some q) (t : FileTree)
    (start there : Location) :
    (t.walk true 0 (outset start path) (moves path) = .ok there →
        there = outset start path ++ q.names ∧
          t.walk true 0 (outset start q.toPath) (moves q.toPath) = .ok there) ∧
      (t.walk true 0 (outset start path) (walkSegments path) = .ok there →
        t.walk true 0 (outset start q.toPath) (walkSegments q.toPath) = .ok there) := by
  have proper := Path.isName_of_normalize? normal
  have same : outset start q.toPath = outset start path := by
    rw [outset, outset, NormalPath.isAbsolute_toPath proper, Path.eq_of_normalize? normal]
  rw [same, NormalPath.moves_toPath proper, walk_zero_iff, walk_zero_iff, walk_zero_iff,
    walk_zero_iff]
  refine ⟨fun leads => ?_, fun leads => ?_⟩
  · obtain ⟨straight, rfl⟩ := straight_of_moves normal leads
    exact ⟨rfl, straight.leads⟩
  · obtain ⟨straight, rfl⟩ := straight_of_moves normal leads.moves
    have onward := straight.leads
    rw [walkSegments_toPath proper]
    split
    · next root =>
      -- what is walked along an absolute path asks the root for something
      have absolute : isAbsolute path = true := by
        rw [← root.1, Path.eq_of_normalize? normal]
      obtain ⟨segment, rest, taken⟩ :=
        List.exists_cons_of_ne_nil (walkSegments_ne_nil_of_isAbsolute absolute)
      rw [taken] at leads
      rw [root.2] at onward ⊢
      exact .stay leads.holdsDirectory onward
    · exact onward

open Session (apart)

/-- A way to a file and back to it, and a way back to the root. -/
theorem walk_normalize?_apart :
    normalize? "sub/.././sub//../repomux.toml" = some ⟨false, ["repomux.toml"]⟩ ∧
      apart.walk true 0 ["p"] (walkSegments "sub/.././sub//../repomux.toml") =
        .ok ["p", "repomux.toml"] ∧
      apart.walk true 0 ["p"] (walkSegments "repomux.toml") = .ok ["p", "repomux.toml"] ∧
      normalize? "/p/sub/../../../" = some ⟨true, []⟩ ∧
      apart.walk true 0 [] (moves "/p/sub/../../../") = .ok [] ∧
      apart.walk true 0 [] (moves "/") = .ok [] := by
  have normal : normalize? "sub/.././sub//../repomux.toml" = some ⟨false, ["repomux.toml"]⟩ := by
    decide +kernel
  have rooted : normalize? "/p/sub/../../../" = some ⟨true, []⟩ := by decide +kernel
  have taken : walkSegments "sub/.././sub//../repomux.toml" =
      ["sub", "..", ".", "sub", "..", "repomux.toml"] := by
    decide +kernel
  have moved : moves "/p/sub/../../../" = ["p", "sub", "..", "..", ".."] := by decide +kernel
  have walked : apart.walk true 0 ["p"] (walkSegments "sub/.././sub//../repomux.toml") =
      .ok ["p", "repomux.toml"] := by
    rw [taken]
    simp +decide [walk, find?, apart, List.lookup_cons]
  have back : apart.walk true 0 [] (moves "/p/sub/../../../") = .ok [] := by
    rw [moved]
    simp +decide [walk, find?, apart, List.lookup_cons]
  exact ⟨normal, walked, (walk_normalize? normal apart ["p"] ["p", "repomux.toml"]).2 walked,
    rooted, back, ((walk_normalize? rooted apart ["p"] []).1 back).2⟩

end FileTree

end Fleet
