import Fleet.Proofs.Names
import Fleet.Proofs.Quoting

/-!
# Walks

A walk takes segments one by one and puts the target of a link in front of those that remain, as
long as its budget of links lasts. `Leads` says the same without a budget: where segments lead, and
how many links are followed on the way. It composes, which a walk with a budget does only as far
as the budget goes.

* `Leads.walk_eq`, `leads_of_walk`: a walk succeeds just if the segments lead somewhere and its
  budget covers the links; else the links are too many.
* `leads_append_iff`: segments are taken in two goes.
* `Leads.unique`: they lead to one place.
* `Leads.moves`, `leads_of_moves`: idle segments make no difference to where a directory is.
* `resolve_eq_ok_iff`: where a path leads.
* `exists_resolve_of_prefix`: where a path of names leads on its way.
-/

namespace Fleet

namespace FileTree

/-- Whether a directory stands at a location. -/
def HoldsDirectory (t : FileTree) (location : Location) : Prop :=
  ∃ serial, t.find? location = some (.directory serial)

/-- A segment under which a directory is asked for an entry. -/
structure Asks (segment : String) : Prop where
  notHere : segment ≠ "."
  notUp : segment ≠ ".."
  short : segment.utf8ByteSize ≤ nameLimit

/-- Where segments lead from a location, and how many links are followed on the way. -/
inductive Leads (t : FileTree) : Location → List String → Nat → Location → Prop where
  /-- Nothing is left to take. -/
  | arrived {here : Location} : Leads t here [] 0 here
  | stay {here there : Location} {rest : List String} {links : Nat} :
    t.HoldsDirectory here → Leads t here rest links there → Leads t here ("." :: rest) links there
  | up {here there : Location} {rest : List String} {links : Nat} :
    t.HoldsDirectory here → Leads t here.dropLast rest links there →
      Leads t here (".." :: rest) links there
  | down {here there : Location} {name : String} {rest : List String} {links : Nat} :
    t.HoldsDirectory here → Asks name → t.HoldsDirectory (here ++ [name]) →
      Leads t (here ++ [name]) rest links there → Leads t here (name :: rest) links there
  /-- Neither a directory nor a link: nothing can come after it. -/
  | ends {here : Location} {name : String} {entry : Entry} :
    t.HoldsDirectory here → Asks name → t.find? (here ++ [name]) = some entry →
      (∀ serial, entry ≠ .directory serial) → (∀ target, entry ≠ .link target) →
        Leads t here [name] 0 (here ++ [name])
  | through {here there : Location} {name target : String} {rest : List String} {links : Nat} :
    t.HoldsDirectory here → Asks name → t.find? (here ++ [name]) = some (.link target) →
      target ≠ "" →
        Leads t (if Path.isAbsolute target then [] else here) (walkSegments target ++ rest) links
          there →
          Leads t here (name :: rest) (links + 1) there

variable {t : FileTree} {here there : Location} {segments first second : List String}
  {links : Nat}

theorem HoldsDirectory.notLink (directory : t.HoldsDirectory here) (target : String) :
    t.find? here ≠ some (.link target) := by
  obtain ⟨serial, found⟩ := directory
  rw [found]
  exact nofun

/-! ## Walks with a budget -/

/-- A walk goes where the segments lead if its budget covers the links, and fails over the links
if it does not. -/
theorem Leads.walk_eq (leads : t.Leads here segments links there) (budget : Nat) :
    t.walk true budget here segments =
      if links ≤ budget then .ok there else .error .tooManyLinks := by
  induction leads generalizing budget with
  | arrived => rw [walk, if_pos (Nat.zero_le budget)]
  | stay directory _ ih =>
    obtain ⟨serial, found⟩ := directory
    rw [walk, found]
    exact ih budget
  | up directory _ ih =>
    obtain ⟨serial, found⟩ := directory
    rw [walk, found]
    exact ih budget
  | down directory asks next _ ih =>
    obtain ⟨serial, found⟩ := directory
    obtain ⟨nextSerial, nextFound⟩ := next
    rw [walk, found]
    dsimp only
    rw [if_neg asks.notHere, if_neg asks.notUp, if_neg (Nat.not_lt.2 asks.short), nextFound]
    exact ih budget
  | @ends here name entry directory asks stands notDirectory notLink =>
    obtain ⟨serial, found⟩ := directory
    rw [walk, found]
    dsimp only
    rw [if_neg asks.notHere, if_neg asks.notUp, if_neg (Nat.not_lt.2 asks.short), stands,
      if_pos (Nat.zero_le budget)]
    cases entry with
    | directory serial => exact absurd rfl (notDirectory serial)
    | link target => exact absurd rfl (notLink target)
    | file | program | sink => rfl
  | @through here there name target rest links directory asks stands written _ ih =>
    obtain ⟨serial, found⟩ := directory
    rw [walk, found]
    dsimp only
    rw [if_neg asks.notHere, if_neg asks.notUp, if_neg (Nat.not_lt.2 asks.short), stands]
    dsimp only
    rw [if_neg (fun held => held.2 rfl), if_neg written]
    cases budget with
    | zero => rw [if_neg (Nat.not_succ_le_zero links)]
    | succ budget =>
      dsimp only
      rw [ih budget]
      simp only [Nat.add_le_add_iff_right]

/-- A walk that succeeds goes where the segments lead. -/
theorem leads_of_walk {budget : Nat} (walked : t.walk true budget here segments = .ok there) :
    ∃ links ≤ budget, t.Leads here segments links there := by
  fun_induction walk t true budget here segments with
  | case1 budget here =>
    cases walked
    exact ⟨0, Nat.zero_le budget, .arrived⟩
  | case2 budget here rest serial found ih =>
    obtain ⟨links, covered, leads⟩ := ih walked
    exact ⟨links, covered, .stay ⟨serial, found⟩ leads⟩
  | case3 budget here rest serial found _ ih =>
    obtain ⟨links, covered, leads⟩ := ih walked
    exact ⟨links, covered, .up ⟨serial, found⟩ leads⟩
  | case6 budget here segment rest serial found notHere notUp short target stands last =>
    exact absurd rfl last.2
  | case9 here segment rest serial found notHere notUp short target stands last written budget ih =>
    obtain ⟨links, covered, leads⟩ := ih walked
    exact ⟨links + 1, Nat.succ_le_succ covered,
      .through ⟨serial, found⟩ ⟨notHere, notUp, Nat.not_lt.1 short⟩ stands written leads⟩
  | case10 budget here segment rest serial found notHere notUp short next stands ih =>
    obtain ⟨links, covered, leads⟩ := ih walked
    exact ⟨links, covered,
      .down ⟨serial, found⟩ ⟨notHere, notUp, Nat.not_lt.1 short⟩ ⟨next, stands⟩ leads⟩
  | case11 budget here segment serial found notHere notUp short entry notLink notDirectory stands =>
    cases walked
    exact ⟨0, Nat.zero_le budget, .ends ⟨serial, found⟩ ⟨notHere, notUp, Nat.not_lt.1 short⟩ stands
      notDirectory notLink⟩
  | case4 | case5 | case7 | case8 | case12 | case13 => cases walked

/-- Segments lead to one place, by one number of links. -/
theorem Leads.unique {links' : Nat} {there' : Location} (leads : t.Leads here segments links there)
    (leads' : t.Leads here segments links' there') : links = links' ∧ there = there' := by
  have covered := leads.walk_eq (links + links')
  have covered' := leads'.walk_eq (links + links')
  rw [if_pos (Nat.le_add_right links links')] at covered
  rw [if_pos (Nat.le_add_left links' links), covered] at covered'
  refine ⟨?_, Except.ok.inj covered'⟩
  -- With the smaller of the two budgets both walks succeed.
  have least := leads.walk_eq links
  have least' := leads'.walk_eq links'
  rw [leads'.walk_eq links, if_pos (Nat.le_refl links)] at least
  rw [leads.walk_eq links', if_pos (Nat.le_refl links')] at least'
  split at least
  · next le =>
    split at least'
    · next ge => exact Nat.le_antisymm ge le
    · cases least'
  · cases least

/-! ## Segments in two goes -/

theorem Leads.holdsDirectory {segment : String} {rest : List String}
    (leads : t.Leads here (segment :: rest) links there) : t.HoldsDirectory here := by
  cases leads <;> assumption

theorem Leads.append {links' : Nat} {middle : Location}
    (leads : t.Leads here first links middle) (onward : t.Leads middle second links' there) :
    t.Leads here (first ++ second) (links + links') there := by
  induction leads with
  | arrived =>
    rw [Nat.zero_add]
    exact onward
  | stay directory _ ih => exact .stay directory (ih onward)
  | up directory _ ih => exact .up directory (ih onward)
  | down directory asks next _ ih => exact .down directory asks next (ih onward)
  | ends directory asks stands notDirectory notLink =>
    cases second with
    | nil =>
      cases onward
      exact .ends directory asks stands notDirectory notLink
    | cons segment rest =>
      obtain ⟨serial, found⟩ := onward.holdsDirectory
      rw [stands] at found
      exact absurd (Option.some.inj found) (notDirectory serial)
  | @through _ _ _ _ rest links directory asks stands written _ ih =>
    have onward := ih onward
    rw [List.append_assoc] at onward
    rw [Nat.add_right_comm]
    exact .through directory asks stands written onward

theorem Leads.split (leads : t.Leads here (first ++ second) links there) :
    ∃ middle links₁ links₂, links = links₁ + links₂ ∧ t.Leads here first links₁ middle ∧
      t.Leads middle second links₂ there := by
  have none : ∀ {here there : Location} {rest : List String} {links : Nat},
      t.Leads here rest links there → ∃ middle links₁ links₂, links = links₁ + links₂ ∧
        t.Leads here [] links₁ middle ∧ t.Leads middle rest links₂ there :=
    fun {here _ _ links} leads => ⟨here, 0, links, (Nat.zero_add links).symm, .arrived, leads⟩
  generalize whole : first ++ second = all at leads
  -- The first go is one segment shorter after each step; a link makes it longer by its target.
  induction leads generalizing first with
  | arrived =>
    obtain ⟨rfl, rfl⟩ := List.append_eq_nil_iff.1 whole
    exact none .arrived
  | stay directory leads ih =>
    rcases List.append_eq_cons_iff.1 whole with ⟨rfl, rfl⟩ | ⟨others, rfl, rfl⟩
    · exact none (.stay directory leads)
    · obtain ⟨middle, links₁, links₂, sum, before, after⟩ := ih rfl
      exact ⟨middle, links₁, links₂, sum, .stay directory before, after⟩
  | up directory leads ih =>
    rcases List.append_eq_cons_iff.1 whole with ⟨rfl, rfl⟩ | ⟨others, rfl, rfl⟩
    · exact none (.up directory leads)
    · obtain ⟨middle, links₁, links₂, sum, before, after⟩ := ih rfl
      exact ⟨middle, links₁, links₂, sum, .up directory before, after⟩
  | down directory asks next leads ih =>
    rcases List.append_eq_cons_iff.1 whole with ⟨rfl, rfl⟩ | ⟨others, rfl, rfl⟩
    · exact none (.down directory asks next leads)
    · obtain ⟨middle, links₁, links₂, sum, before, after⟩ := ih rfl
      exact ⟨middle, links₁, links₂, sum, .down directory asks next before, after⟩
  | ends directory asks stands notDirectory notLink =>
    have leads := Leads.ends directory asks stands notDirectory notLink
    rcases List.append_eq_cons_iff.1 whole with ⟨rfl, rfl⟩ | ⟨others, rfl, rest⟩
    · exact none leads
    · obtain ⟨rfl, rfl⟩ := List.append_eq_nil_iff.1 rest.symm
      exact ⟨_, 0, 0, rfl, leads, .arrived⟩
  | @through _ _ _ target _ _ directory asks stands written leads ih =>
    rcases List.append_eq_cons_iff.1 whole with ⟨rfl, rfl⟩ | ⟨others, rfl, rfl⟩
    · exact none (.through directory asks stands written leads)
    · obtain ⟨middle, links₁, links₂, sum, before, after⟩ :=
        @ih (walkSegments target ++ others) (List.append_assoc ..)
      exact ⟨middle, links₁ + 1, links₂, by omega, .through directory asks stands written before,
        after⟩

theorem Leads.uncons {segment : String} {rest : List String}
    (leads : t.Leads here (segment :: rest) links there) :
    ∃ middle links₁ links₂, links = links₁ + links₂ ∧ t.Leads here [segment] links₁ middle ∧
      t.Leads middle rest links₂ there :=
  have whole : t.Leads here ([segment] ++ rest) links there := leads
  whole.split

/-- Segments are taken in two goes. -/
theorem leads_append_iff :
    t.Leads here (first ++ second) links there ↔ ∃ middle links₁ links₂, links = links₁ + links₂ ∧
      t.Leads here first links₁ middle ∧ t.Leads middle second links₂ there := by
  refine ⟨Leads.split, ?_⟩
  rintro ⟨middle, links₁, links₂, rfl, before, after⟩
  exact before.append after

/-! ## Single segments -/

theorem Leads.singleton_here (leads : t.Leads here ["."] links there) : links = 0 ∧ there = here := by
  generalize taken : ["."] = segments at leads
  cases leads with
  | arrived => cases taken
  | stay directory onward =>
    obtain ⟨_, rfl⟩ := List.cons.inj taken
    cases onward
    exact ⟨rfl, rfl⟩
  | up => exact absurd (List.cons.inj taken).1 (by decide)
  | down _ asks | ends _ asks | through _ asks =>
    exact absurd (List.cons.inj taken).1.symm asks.notHere

theorem Leads.singleton_up (leads : t.Leads here [".."] links there) : there = here.dropLast := by
  generalize taken : [".."] = segments at leads
  cases leads with
  | arrived => cases taken
  | up directory onward =>
    obtain ⟨_, rfl⟩ := List.cons.inj taken
    cases onward
    rfl
  | stay => exact absurd (List.cons.inj taken).1 (by decide)
  | down _ asks | ends _ asks | through _ asks =>
    exact absurd (List.cons.inj taken).1.symm asks.notUp

/-- A name leads to the entry of that name, unless this is a link. -/
theorem Leads.singleton_name {name : String} (leads : t.Leads here [name] links there)
    (notHere : name ≠ ".") (notUp : name ≠ "..")
    (notLink : ∀ target, t.find? (here ++ [name]) ≠ some (.link target)) :
    there = here ++ [name] := by
  generalize taken : [name] = segments at leads
  cases leads with
  | arrived => cases taken
  | stay => exact absurd (List.cons.inj taken).1 notHere
  | up => exact absurd (List.cons.inj taken).1 notUp
  | down _ _ _ onward =>
    obtain ⟨rfl, rfl⟩ := List.cons.inj taken
    cases onward
    rfl
  | ends =>
    obtain ⟨rfl, _⟩ := List.cons.inj taken
    rfl
  | through _ _ stands =>
    obtain ⟨rfl, _⟩ := List.cons.inj taken
    exact absurd stands (notLink _)

/-! ## Idle segments -/

/-- A step to where one stands can be left out. -/
theorem Leads.filter (leads : t.Leads here segments links there) :
    t.Leads here (segments.filter (· ≠ ".")) links there := by
  induction segments generalizing here links with
  | nil => exact leads
  | cons segment rest ih =>
    obtain ⟨middle, links₁, links₂, rfl, before, after⟩ := leads.uncons
    by_cases stays : segment = "."
    · subst stays
      obtain ⟨rfl, rfl⟩ := before.singleton_here
      rw [List.filter_cons_of_neg (by simp), Nat.zero_add]
      exact ih after
    · rw [List.filter_cons_of_pos (by simpa using stays)]
      exact before.append (ih after)

/-- And it can be put in, on the way to a directory. -/
theorem leads_of_filter (directory : t.HoldsDirectory there)
    (leads : t.Leads here (segments.filter (· ≠ ".")) links there) :
    t.Leads here segments links there := by
  induction segments generalizing here links with
  | nil => exact leads
  | cons segment rest ih =>
    by_cases stays : segment = "."
    · subst stays
      rw [List.filter_cons_of_neg (by simp)] at leads
      have onward := ih leads
      cases rest with
      | nil =>
        cases onward
        exact .stay directory .arrived
      | cons => exact .stay onward.holdsDirectory onward
    · rw [List.filter_cons_of_pos (by simpa using stays)] at leads
      obtain ⟨middle, links₁, links₂, rfl, before, after⟩ := leads.uncons
      exact before.append (ih after)

theorem filter_walkSegments (path : String) :
    (walkSegments path).filter (· ≠ ".") = Path.moves path := by
  have slash : (if (path.toList.getLast? == some '/') = true then ["."] else []).filter
      (· ≠ ".") = [] := by
    split <;> rfl
  rw [walkSegments, List.filter_append, slash, List.append_nil, List.filter_filter, Path.moves]
  refine List.filter_congr fun segment _ => ?_
  rw [Path.isIdle, Bool.not_or, Bool.and_comm, decide_not, decide_not]
  rfl

/-- Where a path leads, its moves lead. -/
theorem Leads.moves {path : String} (leads : t.Leads here (walkSegments path) links there) :
    t.Leads here (Path.moves path) links there := by
  rw [← filter_walkSegments]
  exact leads.filter

/-- The moves of a path to a directory say enough. -/
theorem leads_of_moves {path : String} (directory : t.HoldsDirectory there)
    (leads : t.Leads here (Path.moves path) links there) :
    t.Leads here (walkSegments path) links there := by
  rw [← filter_walkSegments] at leads
  exact leads_of_filter directory leads

/-- A slash at the end asks for a directory. -/
theorem Leads.holdsDirectory_of_slash {path : String}
    (leads : t.Leads here (walkSegments path) links there)
    (slash : path.toList.getLast? = some '/') : t.HoldsDirectory there := by
  rw [walkSegments, slash, if_pos (by decide)] at leads
  obtain ⟨middle, _, _, _, _, stays⟩ := leads.split
  obtain ⟨_, rfl⟩ := stays.singleton_here
  exact stays.holdsDirectory

/-! ## Where paths lead -/

open Words (HoldsNul)

/-- A path that the system starts to walk. -/
structure Takable (path : String) : Prop where
  written : path ≠ ""
  clean : ¬HoldsNul path
  short : path.utf8ByteSize ≤ pathLimit

/-- What such a path begins with is another one. -/
theorem Takable.of_begins {path front rest : String} (takable : Takable path)
    (begins : front ++ rest = path) (written : front ≠ "") : Takable front where
  written := written
  clean := fun nul => takable.clean (begins ▸ Words.holdsNul_append.2 (.inl nul))
  short := by
    have short := takable.short
    rw [← begins, String.utf8ByteSize_append] at short
    exact Nat.le_trans (Nat.le_add_right _ _) short

theorem startOf_eq_ok_iff {here : Option Location} {path : String} {start : Location} :
    startOf here path = .ok start ↔
      Takable path ∧ if Path.isAbsolute path then start = [] else here = some start := by
  have nul : path.toList.contains '\x00' = true ↔ HoldsNul path := List.contains_iff_mem
  unfold startOf
  constructor
  · intro starts
    split at starts
    · cases starts
    · next written =>
      split at starts
      · cases starts
      · next clean =>
        split at starts
        · cases starts
        · next short =>
          refine ⟨⟨written, fun held => clean (nul.2 held), Nat.not_lt.1 short⟩, ?_⟩
          split at starts
          · next absolute =>
            rw [if_pos absolute]
            exact (Except.ok.inj starts).symm
          · next relative =>
            rw [if_neg relative]
            split at starts
            · rw [Except.ok.inj starts]
            · cases starts
  · rintro ⟨⟨written, clean, short⟩, starts⟩
    rw [if_neg written, if_neg (fun held => clean (nul.1 held)), if_neg (Nat.not_lt.2 short)]
    split at starts
    · next absolute => rw [if_pos absolute, starts]
    · next relative => rw [if_neg relative, starts]

/-- An absolute path is walked from the root. -/
theorem eq_root_of_startOf {here : Option Location} {path : String} {start : Location}
    (absolute : Path.isAbsolute path = true) (starts : startOf here path = .ok start) :
    start = [] := by
  obtain ⟨_, fromRoot⟩ := startOf_eq_ok_iff.1 starts
  rwa [if_pos absolute] at fromRoot

/-- What an absolute path begins with is walked from the root as well. -/
theorem startOf_of_begins {here : Option Location} {path front rest : String} {start : Location}
    (absolute : Path.isAbsolute front = true) (begins : front ++ rest = path)
    (starts : startOf here path = .ok start) : startOf here front = .ok start := by
  have whole : Path.isAbsolute path = true := begins ▸ Path.isAbsolute_append absolute rest
  obtain rfl := eq_root_of_startOf whole starts
  obtain ⟨takable, _⟩ := startOf_eq_ok_iff.1 starts
  rw [startOf_eq_ok_iff, if_pos absolute]
  exact ⟨takable.of_begins begins (Path.ne_empty_of_isAbsolute absolute), rfl⟩

/-- A path that is too long is not walked. -/
theorem startOf_of_long {here : Option Location} {path : String} (clean : ¬HoldsNul path)
    (long : pathLimit < path.utf8ByteSize) : startOf here path = .error .nameTooLong := by
  have written : path ≠ "" := by
    rintro rfl
    exact absurd long (by decide)
  have nul : ¬path.toList.contains '\x00' = true := mt List.contains_iff_mem.1 clean
  unfold startOf
  rw [if_neg written, if_neg nul, if_pos long]

/-- Where a path leads. -/
theorem resolve_eq_ok_iff {here : Option Location} {path : String} :
    t.resolve here path = .ok there ↔ ∃ start links, startOf here path = .ok start ∧
      links ≤ linkLimit ∧ t.Leads start (walkSegments path) links there := by
  unfold resolve
  constructor
  · intro led
    obtain ⟨start, starts, walked⟩ := of_bind_ok led
    obtain ⟨links, covered, leads⟩ := leads_of_walk walked
    exact ⟨start, links, starts, covered, leads⟩
  · rintro ⟨start, links, starts, covered, leads⟩
    rw [bind_ok starts, leads.walk_eq, if_pos covered]

theorem resolve_of_leads {here : Option Location} {path : String} {start : Location}
    (starts : startOf here path = .ok start) (leads : t.Leads start (walkSegments path) links there) :
    t.resolve here path = if links ≤ linkLimit then .ok there else .error .tooManyLinks := by
  rw [resolve, bind_ok starts, leads.walk_eq]

/-- Which paths lead to directories. -/
theorem isDirectory_iff {here : Option Location} {path : String} :
    t.isDirectory here path = true ↔
      ∃ there, t.resolve here path = .ok there ∧ t.HoldsDirectory there := by
  constructor
  · intro stands
    unfold isDirectory at stands
    split at stands
    · next serial found =>
      unfold entryAt at found
      obtain ⟨there, led, found⟩ := of_bind_ok found
      refine ⟨there, led, serial, ?_⟩
      split at found
      · next entry held =>
        rw [held]
        exact congrArg some (Except.ok.inj found)
      · cases found
    · cases stands
  · rintro ⟨there, led, serial, found⟩
    rw [isDirectory, entryAt_of_resolve led found]

/-- What a path of names to a directory begins with leads on to it by the names that remain. -/
theorem exists_resolve_of_prefix {here : Option Location} {fewer rest : List String}
    (proper : ∀ name ∈ fewer ++ rest, Path.IsName name) (directory : t.HoldsDirectory there)
    (led : t.resolve here (pathOf (fewer ++ rest)) = .ok there) :
    ∃ middle links, t.resolve here (pathOf fewer) = .ok middle ∧
      t.Leads middle rest links there := by
  obtain ⟨start, links, starts, covered, leads⟩ := resolve_eq_ok_iff.1 led
  have onward := leads.moves
  rw [Path.moves, Path.segments_pathOf proper] at onward
  obtain ⟨middle, links₁, links₂, rfl, first, second⟩ := onward.split
  have reached : t.HoldsDirectory middle := by
    cases rest with
    | nil =>
      cases second
      exact directory
    | cons => exact second.holdsDirectory
  have fewerProper : ∀ name ∈ fewer, Path.IsName name :=
    fun name mem => proper name (List.mem_append_left rest mem)
  rw [← Path.segments_pathOf fewerProper] at first
  obtain ⟨others, begins⟩ := Path.exists_append_of_prefix (List.prefix_append fewer rest)
  have whole : pathOf fewer ++ others = pathOf (fewer ++ rest) := by
    rw [pathOf, String.append_assoc, begins]
    rfl
  have origin := startOf_of_begins (Path.isAbsolute_pathOf fewer) whole starts
  exact ⟨middle, links₂, resolve_eq_ok_iff.2 ⟨start, links₁, origin, by omega,
    leads_of_moves reached first⟩, second⟩

/-! ## Joined paths -/

/-- A relative path has a segment to take. -/
theorem walkSegments_ne_nil {path : String} (relative : Path.isAbsolute path = false)
    (written : path ≠ "") : walkSegments path ≠ [] := by
  intro none
  have blank := List.filter_eq_nil_iff.1 (List.append_eq_nil_iff.1 none).1
  have whole := Path.intercalate_segments path
  match parts : Path.segments path with
  | [] => exact written (by rw [← whole, parts]; rfl)
  | first :: rest =>
    have empty : first = "" := by simpa using blank first (by rw [parts]; exact List.mem_cons_self)
    rw [parts, empty] at whole
    cases rest with
    | nil => exact written whole.symm
    | cons second others =>
      rw [String.intercalate_cons_cons, String.append_assoc, String.empty_append] at whole
      rw [← whole, Path.isAbsolute_append rfl] at relative
      cases relative

theorem walkSegments_join (base : String) {path : String}
    (relative : Path.isAbsolute path = false) (written : path ≠ "") :
    walkSegments (Path.join base path) =
      (Path.segments base).filter (· ≠ "") ++ walkSegments path := by
  obtain ⟨front, whole⟩ := Path.exists_append_join base relative
  have last : (Path.join base path).toList.getLast? = path.toList.getLast? := by
    rw [whole, String.toList_append]
    have chars : path.toList ≠ [] := mt String.toList_eq_nil_iff.1 written
    rw [List.getLast?_append, List.getLast?_eq_some_getLast chars]
    rfl
  rw [walkSegments, last, Path.filter_segments_join rfl base relative, List.append_assoc]
  rfl

/-- A joined path leads where the path leads from where the base leads. -/
theorem leads_join_iff {base path : String} (relative : Path.isAbsolute path = false)
    (written : path ≠ "") :
    t.Leads here (walkSegments (Path.join base path)) links there ↔
      ∃ middle links₁ links₂, links = links₁ + links₂ ∧
        t.Leads here (walkSegments base) links₁ middle ∧
        t.Leads middle (walkSegments path) links₂ there := by
  rw [walkSegments_join base relative written, leads_append_iff]
  constructor
  · rintro ⟨middle, links₁, links₂, sum, before, after⟩
    refine ⟨middle, links₁, links₂, sum, ?_, after⟩
    obtain ⟨segment, rest, taken⟩ := List.exists_cons_of_ne_nil (walkSegments_ne_nil relative written)
    rw [taken] at after
    rw [walkSegments]
    split
    · exact before.append (.stay after.holdsDirectory .arrived)
    · rwa [List.append_nil]
  · rintro ⟨middle, links₁, links₂, sum, before, after⟩
    refine ⟨middle, links₁, links₂, sum, ?_, after⟩
    rw [walkSegments] at before
    split at before
    · obtain ⟨_, m, n, rfl, before, stays⟩ := before.split
      obtain ⟨rfl, rfl⟩ := stays.singleton_here
      exact before
    · rwa [List.append_nil] at before

end FileTree

end Fleet
