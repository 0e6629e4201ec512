import Fleet.Proofs.Walks

/-!
# Real paths

The walk for a real path goes where the segments lead, unless it has to ask for an entry on the way
by a path that is too long. `Overlong` says that it has to, without a budget of links.

* `Leads.realWalk_cases`, `leads_of_realWalk`: the walk for a real path against where the segments
  lead.
* `canonicalize_eq_ok_iff`: which paths have a real path, and which one.
* `Overlong.append`, `Overlong.append_name`, `overlong_filter_iff`: longer ways, and ways with other
  idle segments.
* `canonicalize_of_prefix`: where a path of names has a real path, what it begins with has one.
* `canonicalize_of_deep`, `canonicalize_of_shallow`: locations that are too deep for a real path, and
  trees without such.
-/

namespace Fleet

namespace FileTree

/-- The path is too long by which the entry of a name is asked for, with the slash behind it if this
is no link and the rest of the segments need a directory. -/
def TooLong (t : FileTree) (here : Location) (name : String) (rest : List String) : Prop :=
  pathLimit < (pathOf (here ++ [name])).utf8ByteSize ∨
    (∀ target, t.find? (here ++ [name]) ≠ some (.link target)) ∧ needDirectory rest = true ∧
      pathLimit < (pathOf (here ++ [name]) ++ "/").utf8ByteSize

/-- Whether an entry on the way along segments is asked for by a path that is too long. -/
inductive Overlong (t : FileTree) : Location → List String → Prop where
  | asked {here : Location} {name : String} {rest : List String} :
    name ≠ "." → name ≠ ".." → t.TooLong here name rest → Overlong t here (name :: rest)
  | stay {here : Location} {rest : List String} :
    Overlong t here rest → Overlong t here ("." :: rest)
  | up {here : Location} {rest : List String} :
    Overlong t here.dropLast rest → Overlong t here (".." :: rest)
  | down {here : Location} {name : String} {rest : List String} :
    name ≠ "." → name ≠ ".." → t.HoldsDirectory (here ++ [name]) →
      Overlong t (here ++ [name]) rest → Overlong t here (name :: rest)
  | through {here : Location} {name target : String} {rest : List String} :
    name ≠ "." → name ≠ ".." → t.find? (here ++ [name]) = some (.link target) →
      Overlong t (if Path.isAbsolute target then [] else here) (walkSegments target ++ rest) →
        Overlong t here (name :: rest)

variable {t : FileTree} {here there middle : Location} {segments first second rest : List String}
  {name : String} {links budget : Nat}

theorem not_overlong_nil : ¬t.Overlong here [] :=
  nofun

theorem overlong_stay_iff : t.Overlong here ("." :: rest) ↔ t.Overlong here rest := by
  refine ⟨fun long => ?_, .stay⟩
  generalize taken : "." :: rest = segments at long
  cases long with
  | stay long =>
    obtain ⟨_, rfl⟩ := List.cons.inj taken
    exact long
  | up => exact absurd (List.cons.inj taken).1 (by decide)
  | asked notHere | down notHere | through notHere =>
    exact absurd (List.cons.inj taken).1.symm notHere

theorem overlong_up_iff : t.Overlong here (".." :: rest) ↔ t.Overlong here.dropLast rest := by
  refine ⟨fun long => ?_, .up⟩
  generalize taken : ".." :: rest = segments at long
  cases long with
  | up long =>
    obtain ⟨_, rfl⟩ := List.cons.inj taken
    exact long
  | stay => exact absurd (List.cons.inj taken).1 (by decide)
  | asked _ notUp | down _ notUp | through _ notUp =>
    exact absurd (List.cons.inj taken).1.symm notUp

/-- It is the entry of a name itself, or one further on. -/
theorem Overlong.uncons (long : t.Overlong here (name :: rest)) (asks : Asks name) :
    t.TooLong here name rest ∨
      (t.HoldsDirectory (here ++ [name]) ∧ t.Overlong (here ++ [name]) rest) ∨
      ∃ target, t.find? (here ++ [name]) = some (.link target) ∧
        t.Overlong (if Path.isAbsolute target then [] else here) (walkSegments target ++ rest) := by
  cases long with
  | asked _ _ tooLong => exact .inl tooLong
  | stay => exact absurd rfl asks.notHere
  | up => exact absurd rfl asks.notUp
  | down _ _ directory long => exact .inr (.inl ⟨directory, long⟩)
  | through _ _ link long => exact .inr (.inr ⟨_, link, long⟩)

theorem overlong_down_iff (asks : Asks name) (fits : ¬t.TooLong here name rest)
    (next : t.HoldsDirectory (here ++ [name])) :
    t.Overlong here (name :: rest) ↔ t.Overlong (here ++ [name]) rest := by
  refine ⟨fun beyond => ?_, .down asks.notHere asks.notUp next⟩
  rcases beyond.uncons asks with long | ⟨_, beyond⟩ | ⟨target, link, _⟩
  · exact absurd long fits
  · exact beyond
  · exact absurd link (next.notLink target)

theorem overlong_through_iff {target : String} (asks : Asks name)
    (fits : ¬t.TooLong here name rest) (link : t.find? (here ++ [name]) = some (.link target)) :
    t.Overlong here (name :: rest) ↔
      t.Overlong (if Path.isAbsolute target then [] else here) (walkSegments target ++ rest) := by
  refine ⟨fun beyond => ?_, .through asks.notHere asks.notUp link⟩
  rcases beyond.uncons asks with long | ⟨next, _⟩ | ⟨other, same, beyond⟩
  · exact absurd long fits
  · exact absurd link (next.notLink target)
  · rw [link] at same
    cases same
    exact beyond

theorem not_overlong_ends {entry : Entry} (asks : Asks name) (fits : ¬t.TooLong here name [])
    (stands : t.find? (here ++ [name]) = some entry) (notLink : ∀ target, entry ≠ .link target) :
    ¬t.Overlong here [name] := by
  intro beyond
  rcases beyond.uncons asks with long | ⟨_, beyond⟩ | ⟨target, link, _⟩
  · exact fits long
  · exact not_overlong_nil beyond
  · exact notLink target (Option.some.inj (stands.symm.trans link))

/-! ## The walk for a real path -/

theorem realWalk_of_tooLong (directory : t.HoldsDirectory here) (asks : Asks name)
    (long : t.TooLong here name rest) :
    t.realWalk budget here (name :: rest) = .error .nameTooLong := by
  obtain ⟨serial, found⟩ := directory
  rw [realWalk, found]
  dsimp only
  rw [if_neg asks.notHere, if_neg asks.notUp, if_neg (Nat.not_lt.2 asks.short)]
  rcases long with long | ⟨notLink, needs, long⟩
  · rw [if_pos long]
  · split
    · rfl
    · split
      · next target link => exact absurd link (notLink target)
      · rw [if_pos ⟨needs, long⟩]

theorem realWalk_down (directory : t.HoldsDirectory here) (asks : Asks name)
    (fits : ¬t.TooLong here name rest) (next : t.HoldsDirectory (here ++ [name])) :
    t.realWalk budget here (name :: rest) = t.realWalk budget (here ++ [name]) rest := by
  have notLink := next.notLink
  obtain ⟨serial, found⟩ := directory
  obtain ⟨nextSerial, nextFound⟩ := next
  rw [realWalk, found]
  dsimp only
  rw [if_neg asks.notHere, if_neg asks.notUp, if_neg (Nat.not_lt.2 asks.short),
    if_neg fun long => fits (.inl long), nextFound]
  dsimp only
  rw [if_neg fun long => fits (.inr ⟨notLink, long⟩)]

theorem realWalk_ends {entry : Entry} (directory : t.HoldsDirectory here) (asks : Asks name)
    (fits : ¬t.TooLong here name []) (stands : t.find? (here ++ [name]) = some entry)
    (notDirectory : ∀ serial, entry ≠ .directory serial) (notLink : ∀ target, entry ≠ .link target) :
    t.realWalk budget here [name] = .ok (here ++ [name]) := by
  obtain ⟨serial, found⟩ := directory
  rw [realWalk, found]
  dsimp only
  rw [if_neg asks.notHere, if_neg asks.notUp, if_neg (Nat.not_lt.2 asks.short),
    if_neg fun long => fits (.inl long), stands]
  cases entry with
  | directory serial => exact absurd rfl (notDirectory serial)
  | link target => exact absurd rfl (notLink target)
  | file | program | sink => rfl

theorem realWalk_through {target : String} (directory : t.HoldsDirectory here) (asks : Asks name)
    (fits : ¬t.TooLong here name rest) (link : t.find? (here ++ [name]) = some (.link target))
    (written : target ≠ "") :
    t.realWalk (budget + 1) here (name :: rest) =
      t.realWalk budget (if Path.isAbsolute target then [] else here)
        (walkSegments target ++ rest) := by
  obtain ⟨serial, found⟩ := directory
  rw [realWalk, found]
  dsimp only
  rw [if_neg asks.notHere, if_neg asks.notUp, if_neg (Nat.not_lt.2 asks.short),
    if_neg fun long => fits (.inl long), link]
  dsimp only
  rw [if_neg written]

/-- With a budget that covers the links, the walk for a real path goes where the segments lead, or
fails over a path that is too long. -/
theorem Leads.realWalk_cases (leads : t.Leads here segments links there)
    (covered : links ≤ budget) :
    (t.Overlong here segments ∧ t.realWalk budget here segments = .error .nameTooLong) ∨
      (¬t.Overlong here segments ∧ t.realWalk budget here segments = .ok there) := by
  induction leads generalizing budget with
  | arrived => exact .inr ⟨not_overlong_nil, by rw [realWalk]⟩
  | stay directory _ ih =>
    obtain ⟨serial, found⟩ := directory
    rw [overlong_stay_iff, realWalk, found]
    exact ih covered
  | up directory _ ih =>
    obtain ⟨serial, found⟩ := directory
    rw [overlong_up_iff, realWalk, found]
    exact ih covered
  | @down here there name rest links directory asks next _ ih =>
    by_cases long : t.TooLong here name rest
    · exact .inl ⟨.asked asks.notHere asks.notUp long, realWalk_of_tooLong directory asks long⟩
    · rw [overlong_down_iff asks long next, realWalk_down directory asks long next]
      exact ih covered
  | @ends here name entry directory asks stands notDirectory notLink =>
    by_cases long : t.TooLong here name []
    · exact .inl ⟨.asked asks.notHere asks.notUp long, realWalk_of_tooLong directory asks long⟩
    · exact .inr ⟨not_overlong_ends asks long stands notLink,
        realWalk_ends directory asks long stands notDirectory notLink⟩
  | @through here there name target rest links directory asks stands written _ ih =>
    by_cases long : t.TooLong here name rest
    · exact .inl ⟨.asked asks.notHere asks.notUp long, realWalk_of_tooLong directory asks long⟩
    · cases budget with
      | zero => exact absurd covered (Nat.not_succ_le_zero links)
      | succ budget =>
        rw [overlong_through_iff asks long stands,
          realWalk_through directory asks long stands written]
        exact ih (Nat.le_of_succ_le_succ covered)

/-- A walk for a real path that succeeds goes where the segments lead. -/
theorem leads_of_realWalk (walked : t.realWalk budget here segments = .ok there) :
    ∃ links ≤ budget, t.Leads here segments links there := by
  fun_induction realWalk t budget here segments with
  | case1 budget here =>
    cases walked
    exact ⟨0, Nat.zero_le budget, .arrived⟩
  | case2 budget here rest serial found ih =>
    obtain ⟨links, covered, leads⟩ := ih walked
    exact ⟨links, covered, .stay ⟨serial, found⟩ leads⟩
  | case3 budget here rest serial found _ ih =>
    obtain ⟨links, covered, leads⟩ := ih walked
    exact ⟨links, covered, .up ⟨serial, found⟩ leads⟩
  | case8 here segment rest serial found notHere notUp short _ target stands written budget ih =>
    obtain ⟨links, covered, leads⟩ := ih walked
    exact ⟨links + 1, Nat.succ_le_succ covered,
      .through ⟨serial, found⟩ ⟨notHere, notUp, Nat.not_lt.1 short⟩ stands written leads⟩
  | case11 budget here segment rest serial found notHere notUp short _ _ next _ stands ih =>
    obtain ⟨links, covered, leads⟩ := ih walked
    exact ⟨links, covered,
      .down ⟨serial, found⟩ ⟨notHere, notUp, Nat.not_lt.1 short⟩ ⟨next, stands⟩ leads⟩
  | case12 budget here segment serial found notHere notUp short _ _ notDirectory _ notLink stands =>
    cases walked
    refine ⟨0, Nat.zero_le budget, .ends ⟨serial, found⟩ ⟨notHere, notUp, Nat.not_lt.1 short⟩ stands
      notDirectory ?_⟩
    rintro target rfl
    exact notLink target stands
  | case4 | case5 | case6 | case7 | case9 | case10 | case13 | case14 => cases walked

/-! ## Which paths have a real path -/

variable {workingDirectory : Option Location} {path : String}

/-- A real path is where the path leads. -/
theorem resolve_of_canonicalize (found : t.canonicalize workingDirectory path = .ok there) :
    t.resolve workingDirectory path = .ok there := by
  obtain ⟨start, starts, walked⟩ := of_bind_ok (show _ >>= _ = _ from found)
  obtain ⟨links, covered, leads⟩ := leads_of_realWalk walked
  exact resolve_eq_ok_iff.2 ⟨start, links, starts, covered, leads⟩

/-- Where a path leads is its real path, unless that goes over a path that is too long. -/
theorem canonicalize_cases (led : t.resolve workingDirectory path = .ok there) :
    ∃ start, startOf workingDirectory path = .ok start ∧
      ((t.Overlong start (walkSegments path) ∧
          t.canonicalize workingDirectory path = .error .nameTooLong) ∨
        (¬t.Overlong start (walkSegments path) ∧
          t.canonicalize workingDirectory path = .ok there)) := by
  obtain ⟨start, links, starts, covered, leads⟩ := resolve_eq_ok_iff.1 led
  refine ⟨start, starts, ?_⟩
  rw [canonicalize, bind_ok starts]
  exact leads.realWalk_cases covered

theorem canonicalize_eq_ok_or (led : t.resolve workingDirectory path = .ok there) :
    t.canonicalize workingDirectory path = .ok there ∨
      t.canonicalize workingDirectory path = .error .nameTooLong := by
  obtain ⟨_, _, ⟨_, failed⟩ | ⟨_, found⟩⟩ := canonicalize_cases led
  · exact .inr failed
  · exact .inl found

/-- Which paths have a real path, and which one. -/
theorem canonicalize_eq_ok_iff :
    t.canonicalize workingDirectory path = .ok there ↔
      t.resolve workingDirectory path = .ok there ∧
        ∀ start, startOf workingDirectory path = .ok start →
          ¬t.Overlong start (walkSegments path) := by
  constructor
  · intro found
    have led := resolve_of_canonicalize found
    refine ⟨led, fun start starts => ?_⟩
    obtain ⟨start', starts', ⟨_, failed⟩ | ⟨fits, _⟩⟩ := canonicalize_cases led
    · rw [found] at failed
      cases failed
    · obtain rfl := Except.ok.inj (starts.symm.trans starts')
      exact fits
  · rintro ⟨led, fits⟩
    obtain ⟨start, starts, ⟨beyond, _⟩ | ⟨_, found⟩⟩ := canonicalize_cases led
    · exact absurd beyond (fits start starts)
    · exact found

/-! ## Longer ways -/

/-- What comes later on the way is asked for in the same way. -/
theorem Overlong.append {links' : Nat} (leads : t.Leads here first links middle)
    (onward : t.Leads middle second links' there) (long : t.Overlong middle second) :
    t.Overlong here (first ++ second) := by
  induction leads with
  | arrived => exact long
  | stay _ _ ih => exact .stay (ih onward long)
  | up _ _ ih => exact .up (ih onward long)
  | down _ asks next _ ih => exact .down asks.notHere asks.notUp next (ih onward long)
  | ends _ _ stands notDirectory =>
    cases second with
    | nil => exact absurd long not_overlong_nil
    | cons segment rest =>
      obtain ⟨serial, found⟩ := onward.holdsDirectory
      rw [stands] at found
      exact absurd (Option.some.inj found) (notDirectory serial)
  | @through _ _ _ _ rest links _ asks stands _ _ ih =>
    have long := ih onward long
    rw [List.append_assoc] at long
    exact .through asks.notHere asks.notUp stands long

/-- A way that goes on by a name leads on from the entry of the first one, or through it. -/
theorem Leads.uncons_name {segment : String} {others : List String}
    (leads : t.Leads here (segment :: others ++ name :: rest) links there)
    (notHere : segment ≠ ".") (notUp : segment ≠ "..") :
    (t.HoldsDirectory (here ++ [segment]) ∧
        ∃ links', t.Leads (here ++ [segment]) (others ++ name :: rest) links' there) ∨
      ∃ target links', t.find? (here ++ [segment]) = some (.link target) ∧
        t.Leads (if Path.isAbsolute target then [] else here)
          (walkSegments target ++ others ++ name :: rest) links' there := by
  generalize taken : segment :: others ++ name :: rest = segments at leads
  cases leads with
  | arrived => cases taken
  | stay => exact absurd (List.cons.inj taken).1 notHere
  | up => exact absurd (List.cons.inj taken).1 notUp
  | down _ _ next onward =>
    obtain ⟨rfl, rfl⟩ := List.cons.inj taken
    exact .inl ⟨next, _, onward⟩
  | ends => exact absurd (List.cons.inj taken).2 (by simp)
  | @through _ _ _ target _ links _ _ link _ onward =>
    obtain ⟨rfl, rfl⟩ := List.cons.inj taken
    refine .inr ⟨target, links, link, ?_⟩
    rw [List.append_assoc]
    exact onward

/-- Segments that need a directory only as long as nothing comes after them lead nowhere else. -/
theorem eq_here_of_needDirectory {segment : String} (needs : needDirectory segments = true)
    (free : needDirectory (segments ++ name :: rest) = false) (mem : segment ∈ segments) :
    segment = "." := by
  induction segments with
  | nil => cases mem
  | cons first others ih =>
    rw [needDirectory, Bool.or_eq_true, Bool.and_eq_true] at needs
    rw [List.cons_append, needDirectory, Bool.or_eq_false_iff] at free
    rcases needs with up | ⟨own, needs⟩
    · rw [free.1] at up
      cases up
    · rw [own, Bool.true_and, Bool.or_eq_false_iff] at free
      rcases List.mem_cons.1 mem with rfl | mem
      · exact of_decide_eq_true own
      · have needs : needDirectory others = true := by
          rcases Bool.or_eq_true_iff.1 needs with blank | needs
          · rw [List.isEmpty_iff.1 blank] at mem
            cases mem
          · exact needs
        exact ih needs free.2.2 mem

theorem Overlong.stay_all (idle : ∀ segment ∈ first, segment = ".") (long : t.Overlong here second) :
    t.Overlong here (first ++ second) := by
  induction first with
  | nil => exact long
  | cons segment others ih =>
    rw [idle segment List.mem_cons_self]
    exact .stay (ih fun other mem => idle other (List.mem_cons_of_mem segment mem))

theorem utf8ByteSize_append_slash (path : String) :
    (path ++ "/").utf8ByteSize = path.utf8ByteSize + 1 :=
  String.utf8ByteSize_append

theorem utf8ByteSize_pathOf_concat {front : Location} (inhabited : front ≠ []) (name : String) :
    (pathOf (front ++ [name])).utf8ByteSize =
      (pathOf front).utf8ByteSize + 1 + name.utf8ByteSize := by
  rw [pathOf, pathOf, String.intercalate_append_of_ne_nil inhabited (List.cons_ne_nil name []),
    String.intercalate_singleton, ← String.append_assoc, ← String.append_assoc,
    String.utf8ByteSize_append, utf8ByteSize_append_slash]

/-- A way that is overlong by itself is so if it goes on by a name. If only the slash made it so,
which is not asked for then, the path to the entry of that name is too long. -/
theorem Overlong.append_name (long : t.Overlong here first) (notHere : name ≠ ".")
    (notUp : name ≠ "..") (written : name ≠ "")
    (leads : t.Leads here (first ++ name :: rest) links there) :
    t.Overlong here (first ++ name :: rest) := by
  induction long generalizing links with
  | @asked here segment others segmentHere segmentUp tooLong =>
    rcases tooLong with long | ⟨notLink, needs, long⟩
    · exact .asked segmentHere segmentUp (.inl long)
    · cases free : needDirectory (others ++ name :: rest) with
      | true => exact .asked segmentHere segmentUp (.inr ⟨notLink, free, long⟩)
      | false =>
        rcases leads.uncons_name segmentHere segmentUp with ⟨next, _⟩ | ⟨target, _, link, _⟩
        · -- The rest is dots: the entry is asked for right behind the segment.
          have idle (other : String) (mem : other ∈ others) : other = "." :=
            eq_here_of_needDirectory needs free mem
          refine .down segmentHere segmentUp next (.stay_all idle (.asked notHere notUp (.inl ?_)))
          have size : name.utf8ByteSize ≠ 0 := mt String.utf8ByteSize_eq_zero_iff.1 written
          rw [utf8ByteSize_append_slash] at long
          rw [utf8ByteSize_pathOf_concat (List.concat_ne_nil segment here)]
          omega
        · exact absurd link (notLink target)
  | stay _ ih =>
    obtain ⟨_, _, _, _, before, after⟩ := leads.uncons
    obtain ⟨_, rfl⟩ := before.singleton_here
    exact .stay (ih after)
  | up _ ih =>
    obtain ⟨_, _, _, _, before, after⟩ := leads.uncons
    obtain rfl := before.singleton_up
    exact .up (ih after)
  | down segmentHere segmentUp next _ ih =>
    rcases leads.uncons_name segmentHere segmentUp with ⟨_, _, onward⟩ | ⟨target, _, link, _⟩
    · exact .down segmentHere segmentUp next (ih onward)
    · exact absurd link (next.notLink target)
  | through segmentHere segmentUp link _ ih =>
    rcases leads.uncons_name segmentHere segmentUp with ⟨next, _⟩ | ⟨_, _, other, onward⟩
    · exact absurd link (next.notLink _)
    · rw [link] at other
      cases other
      have long := ih onward
      rw [List.append_assoc] at long
      exact .through segmentHere segmentUp link long

/-! ## Idle segments -/

/-- The first segments are the other ones with one `.` more, which is not the last of them. -/
inductive Padded : List String → List String → Prop where
  | pad {rest : List String} : rest ≠ [] → Padded ("." :: rest) rest
  | keep {segment : String} {padded plain : List String} :
    Padded padded plain → Padded (segment :: padded) (segment :: plain)

/-- Segments with a `.` more or less, which is not the last of them. -/
def Alike (first second : List String) : Prop :=
  Padded first second ∨ Padded second first

theorem Padded.ne_nil (padded : Padded first second) : first ≠ [] ∧ second ≠ [] := by
  cases padded with
  | pad inhabited => exact ⟨List.cons_ne_nil _ _, inhabited⟩
  | keep => exact ⟨List.cons_ne_nil _ _, List.cons_ne_nil _ _⟩

theorem Padded.append_left (front : List String) (padded : Padded first second) :
    Padded (front ++ first) (front ++ second) := by
  induction front with
  | nil => exact padded
  | cons segment rest ih => exact .keep ih

theorem Alike.append_left (front : List String) (alike : Alike first second) :
    Alike (front ++ first) (front ++ second) :=
  alike.imp (.append_left front) (.append_left front)

theorem Padded.needDirectory_eq (padded : Padded first second) :
    needDirectory first = needDirectory second := by
  induction padded with
  | @pad rest inhabited =>
    have blank : rest.isEmpty = false := by rwa [← Bool.not_eq_true, List.isEmpty_iff]
    rw [needDirectory, blank]
    simp
  | @keep segment padded plain kept ih =>
    have blank : padded.isEmpty = plain.isEmpty := by
      rw [Bool.eq_iff_iff, List.isEmpty_iff, List.isEmpty_iff]
      exact iff_of_false kept.ne_nil.1 kept.ne_nil.2
    rw [needDirectory, needDirectory, blank, ih]

theorem Alike.tooLong (alike : Alike first second) (long : t.TooLong here name first) :
    t.TooLong here name second := by
  have same : needDirectory first = needDirectory second :=
    alike.elim Padded.needDirectory_eq fun padded => padded.needDirectory_eq.symm
  rwa [TooLong, same] at long

/-- Where segments that are alike begin in different ways, or go on. -/
theorem Alike.uncons {segment : String} (alike : Alike (segment :: first) second) :
    (segment = "." ∧ second = first) ∨ second = "." :: segment :: first ∨
      ∃ others, second = segment :: others ∧ Alike first others := by
  rcases alike with padded | padded
  · cases padded with
    | pad => exact .inl ⟨rfl, rfl⟩
    | keep padded => exact .inr (.inr ⟨_, rfl, .inl padded⟩)
  · cases padded with
    | pad => exact .inr (.inl rfl)
    | keep padded => exact .inr (.inr ⟨_, rfl, .inr padded⟩)

theorem Overlong.alike (long : t.Overlong here first) (alike : Alike first second) :
    t.Overlong here second := by
  induction long generalizing second with
  | asked notHere notUp tooLong =>
    rcases alike.uncons with ⟨same, _⟩ | rfl | ⟨others, rfl, onward⟩
    · exact absurd same notHere
    · exact .stay (.asked notHere notUp tooLong)
    · exact .asked notHere notUp (onward.tooLong tooLong)
  | stay long ih =>
    rcases alike.uncons with ⟨_, rfl⟩ | rfl | ⟨others, rfl, onward⟩
    · exact long
    · exact .stay (.stay long)
    · exact .stay (ih onward)
  | up long ih =>
    rcases alike.uncons with ⟨same, _⟩ | rfl | ⟨others, rfl, onward⟩
    · exact absurd same (by decide)
    · exact .stay (.up long)
    · exact .up (ih onward)
  | down notHere notUp next long ih =>
    rcases alike.uncons with ⟨same, _⟩ | rfl | ⟨others, rfl, onward⟩
    · exact absurd same notHere
    · exact .stay (.down notHere notUp next long)
    · exact .down notHere notUp next (ih onward)
  | through notHere notUp link long ih =>
    rcases alike.uncons with ⟨same, _⟩ | rfl | ⟨others, rfl, onward⟩
    · exact absurd same notHere
    · exact .stay (.through notHere notUp link long)
    · exact .through notHere notUp link (ih (onward.append_left _))

/-- Steps to where one stands make no difference, but for one at the very end. -/
theorem overlong_filter_iff (front : List String) (last : segments.getLast? ≠ some ".") :
    t.Overlong here (front ++ segments.filter (· ≠ ".")) ↔ t.Overlong here (front ++ segments) := by
  induction segments generalizing front with
  | nil => rfl
  | cons segment rest ih =>
    by_cases blank : rest = []
    · subst blank
      rw [List.filter_cons_of_pos (by simpa using last)]
      rfl
    · rw [List.getLast?_cons_of_ne_nil blank] at last
      by_cases stays : segment = "."
      · subst stays
        rw [List.filter_cons_of_neg (by simp), ih front last]
        have padded : Padded ("." :: rest) rest := .pad blank
        exact ⟨fun long => long.alike (.append_left front (.inr padded)),
          fun long => long.alike (.append_left front (.inl padded))⟩
      · rw [List.filter_cons_of_pos (by simpa using stays)]
        have onward := ih (front ++ [segment]) last
        rwa [List.append_assoc, List.append_assoc] at onward

/-- The last segment of a path is the last one to take, unless there is a slash at the end. -/
theorem getLast?_walkSegments {path last : String}
    (ends : (Path.segments path).getLast? = some last) (written : last ≠ "") :
    (walkSegments path).getLast? = some last := by
  have plain : ¬(path.toList.getLast? == some '/') = true := by
    intro slash
    obtain ⟨front, rfl⟩ := Path.exists_append_slash slash
    have whole : front ++ "/" = front ++ "/" ++ "" := String.append_empty.symm
    rw [whole, Path.segments_append_slash] at ends
    have blank : Path.segments front ++ Path.segments "" = Path.segments front ++ [""] := rfl
    rw [blank, List.getLast?_concat] at ends
    exact written (Option.some.inj ends).symm
  obtain ⟨front, all⟩ := List.getLast?_eq_some_iff.1 ends
  rw [walkSegments, if_neg plain, List.append_nil, all, List.filter_append,
    List.filter_cons_of_pos (by simpa using written)]
  exact List.getLast?_concat

theorem not_overlong_of_idle (idle : ∀ segment ∈ segments, segment = ".") :
    ¬t.Overlong here segments := by
  induction segments with
  | nil => exact not_overlong_nil
  | cons segment rest ih =>
    rw [idle segment List.mem_cons_self, overlong_stay_iff]
    exact ih fun other mem => idle other (List.mem_cons_of_mem segment mem)

/-- A path that ends in a move counts by its moves. -/
theorem overlong_moves_iff {path : String} (ends : Path.EndInMove (Path.segments path)) :
    t.Overlong here (Path.moves path) ↔ t.Overlong here (walkSegments path) := by
  rw [← filter_walkSegments]
  by_cases moving : Path.moves path = []
  · rw [← filter_walkSegments] at moving
    rw [moving]
    refine iff_of_false not_overlong_nil (not_overlong_of_idle fun segment mem => ?_)
    simpa using List.filter_eq_nil_iff.1 moving segment mem
  · obtain ⟨last, found, moves⟩ := ends moving
    rw [Path.isIdle, Bool.or_eq_false_iff, beq_eq_false_iff_ne, beq_eq_false_iff_ne] at moves
    refine overlong_filter_iff [] ?_
    rw [getLast?_walkSegments found moves.1]
    exact fun same => moves.2 (Option.some.inj same)

/-- So does the path of a location. -/
theorem overlong_pathOf_iff {names : Location} (proper : ∀ name ∈ names, Path.IsName name) :
    t.Overlong here (walkSegments (pathOf names)) ↔ t.Overlong here names := by
  have ends : Path.EndInMove names := by
    intro moving
    rw [Path.filter_isIdle proper] at moving
    exact ⟨names.getLast moving, List.getLast?_eq_some_getLast moving,
      (proper _ (List.getLast_mem moving)).isIdle⟩
  have whole : ∀ name ∈ names, '/' ∉ name.toList := fun name mem => (proper name mem).whole
  have same : Path.moves (pathOf names) = names := Path.segments_pathOf proper
  have ends : Path.EndInMove (Path.segments (pathOf names)) :=
    Path.endInMove_segments_slash_intercalate whole ends
  rw [← overlong_moves_iff ends, same]

/-- Where a path of names to a directory has a real path, what it begins with has one. -/
theorem canonicalize_of_prefix {fewer rest : List String}
    (proper : ∀ name ∈ fewer ++ rest, Path.IsName name) (directory : t.HoldsDirectory there)
    (found : t.canonicalize workingDirectory (pathOf (fewer ++ rest)) = .ok there) :
    ∃ middle links, t.canonicalize workingDirectory (pathOf fewer) = .ok middle ∧
      t.Leads middle rest links there := by
  obtain ⟨led, fits⟩ := canonicalize_eq_ok_iff.1 found
  obtain ⟨middle, links, ledMiddle, onward⟩ := exists_resolve_of_prefix proper directory led
  refine ⟨middle, links, canonicalize_eq_ok_iff.2 ⟨ledMiddle, ?_⟩, onward⟩
  intro start starts beyond
  obtain ⟨origin, _, origins, _, leads⟩ := resolve_eq_ok_iff.1 led
  obtain rfl := eq_root_of_startOf (Path.isAbsolute_pathOf fewer) starts
  obtain rfl := eq_root_of_startOf (Path.isAbsolute_pathOf (fewer ++ rest)) origins
  refine fits [] origins ((overlong_pathOf_iff proper).2 ?_)
  have front : ∀ name ∈ fewer, Path.IsName name := fun name mem =>
    proper name (List.mem_append_left rest mem)
  have beyond := (overlong_pathOf_iff front).1 beyond
  cases rest with
  | nil =>
    rw [List.append_nil]
    exact beyond
  | cons name others =>
    have own := proper name (List.mem_append_right fewer List.mem_cons_self)
    have leads := leads.moves
    rw [Path.moves, Path.segments_pathOf proper] at leads
    exact beyond.append_name own.notHere own.notUp own.nonempty leads

/-! ## Depth -/

theorem utf8ByteSize_pathOf_le {fewer all : Location} (front : fewer <+: all) :
    (pathOf fewer).utf8ByteSize ≤ (pathOf all).utf8ByteSize := by
  obtain ⟨rest, whole⟩ := Path.exists_append_of_prefix front
  rw [pathOf, pathOf, ← whole, String.utf8ByteSize_append, String.utf8ByteSize_append,
    String.utf8ByteSize_append]
  omega

/-- A real path is not too long itself, if that of where it starts is not. -/
theorem Leads.fits (leads : t.Leads here segments links there) (fits : ¬t.Overlong here segments)
    (short : (pathOf here).utf8ByteSize ≤ pathLimit) :
    (pathOf there).utf8ByteSize ≤ pathLimit := by
  induction leads with
  | arrived => exact short
  | stay _ _ ih => exact ih (mt .stay fits) short
  | up _ _ ih =>
    exact ih (mt .up fits) (Nat.le_trans (utf8ByteSize_pathOf_le (List.dropLast_prefix _)) short)
  | down _ asks next _ ih =>
    refine ih (mt (.down asks.notHere asks.notUp next) fits) (Nat.not_lt.1 fun long => ?_)
    exact fits (.asked asks.notHere asks.notUp (.inl long))
  | ends _ asks =>
    exact Nat.not_lt.1 fun long => fits (.asked asks.notHere asks.notUp (.inl long))
  | through _ asks link _ _ ih =>
    refine ih (mt (.through asks.notHere asks.notUp link) fits) ?_
    split
    · decide
    · exact short

/-- What lies too deep has no real path. -/
theorem canonicalize_of_deep (absolute : Path.isAbsolute path = true)
    (led : t.resolve workingDirectory path = .ok there)
    (deep : pathLimit < (pathOf there).utf8ByteSize) :
    t.canonicalize workingDirectory path = .error .nameTooLong := by
  rcases canonicalize_eq_ok_or led with found | failed
  · obtain ⟨_, fits⟩ := canonicalize_eq_ok_iff.1 found
    obtain ⟨start, links, starts, _, leads⟩ := resolve_eq_ok_iff.1 led
    obtain rfl := eq_root_of_startOf absolute starts
    exact absurd (leads.fits (fits [] starts) (by decide)) (Nat.not_le.2 deep)
  · exact failed

/-- A tree in which no path of an entry is too long, not even with a slash behind it. -/
def Shallow (t : FileTree) : Prop :=
  ∀ entry ∈ t.entries, (pathOf entry.1).utf8ByteSize < pathLimit

instance (t : FileTree) : Decidable t.Shallow :=
  inferInstanceAs (Decidable (∀ entry ∈ t.entries, (pathOf entry.1).utf8ByteSize < pathLimit))

theorem Shallow.fits (shallow : t.Shallow) {entry : Entry}
    (stands : t.find? (here ++ [name]) = some entry) : ¬t.TooLong here name rest := by
  have short : (pathOf (here ++ [name])).utf8ByteSize < pathLimit := by
    rw [find?, if_neg (List.concat_ne_nil name here), List.lookup_eq_some_iff] at stands
    obtain ⟨before, after, all, _⟩ := stands
    exact shallow (here ++ [name], entry) (all ▸ List.mem_append_right before List.mem_cons_self)
  rintro (long | ⟨_, _, long⟩)
  · omega
  · rw [utf8ByteSize_append_slash] at long
    omega

theorem Shallow.not_overlong (shallow : t.Shallow) (leads : t.Leads here segments links there) :
    ¬t.Overlong here segments := by
  induction leads with
  | arrived => exact not_overlong_nil
  | stay _ _ ih => exact mt overlong_stay_iff.1 ih
  | up _ _ ih => exact mt overlong_up_iff.1 ih
  | down _ asks next _ ih =>
    obtain ⟨serial, found⟩ := next
    exact mt (overlong_down_iff asks (shallow.fits found) ⟨serial, found⟩).1 ih
  | ends _ asks stands _ notLink =>
    exact not_overlong_ends asks (shallow.fits stands) stands notLink
  | through _ asks stands _ _ ih =>
    exact mt (overlong_through_iff asks (shallow.fits stands) stands).1 ih

/-- In such a tree a path has a real path wherever it leads. -/
theorem canonicalize_of_shallow (shallow : t.Shallow)
    (led : t.resolve workingDirectory path = .ok there) :
    t.canonicalize workingDirectory path = .ok there := by
  refine canonicalize_eq_ok_iff.2 ⟨led, fun start starts => ?_⟩
  obtain ⟨start', links, starts', _, leads⟩ := resolve_eq_ok_iff.1 led
  obtain rfl := Except.ok.inj (starts.symm.trans starts')
  exact shallow.not_overlong leads

end FileTree

end Fleet
