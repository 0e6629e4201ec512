import Fleet.Path.Normal
import Fleet.Proofs.Attempts
import Fleet.World.Basic

/-!
# Names in paths

A name under which a directory can hold an entry is neither empty nor one of the two dots, and no
slash is in it. The path of a location of such names says the location and nothing more.

* `steps_pathOf`, `normalize?_pathOf`, `absolute_pathOf`: reading the path of a location gives the
  location back.
* `isName_of_normalize?`: a normal form has proper names only.
* `isName_of_resolve`: so has the location that a path leads to.
* `moves_join`, `isParent_of_parent?`, `absolute_spec`: what joining paths, leaving out a last step
  and making a path absolute do to the segments that name steps.
-/

namespace Fleet

namespace Path

/-- A name that an entry of a directory can have. -/
structure IsName (name : String) : Prop where
  nonempty : name ≠ ""
  notHere : name ≠ "."
  notUp : name ≠ ".."
  whole : '/' ∉ name.toList

/-! ## Segments -/

theorem not_mem_of_mem_splitOn {text part : List Char} (mem : part ∈ text.splitOn '/') :
    '/' ∉ part := by
  induction text generalizing part with
  | nil =>
    rw [List.splitOn_nil, List.mem_singleton] at mem
    rw [mem]
    exact List.not_mem_nil
  | cons c rest ih =>
    rw [List.splitOn_cons_eq_if_modifyHead] at mem
    by_cases slash : (c == '/') = true
    · rw [if_pos slash] at mem
      rcases List.mem_cons.1 mem with rfl | mem
      · exact List.not_mem_nil
      · exact ih mem
    · rw [if_neg slash] at mem
      match parts : rest.splitOn '/' with
      | [] => exact absurd parts (List.splitOn_ne_nil '/' rest)
      | first :: others =>
        rw [parts, List.modifyHead_cons] at mem
        rw [parts] at ih
        rcases List.mem_cons.1 mem with rfl | mem
        · intro held
          rcases List.mem_cons.1 held with rfl | held
          · exact slash rfl
          · exact ih List.mem_cons_self held
        · exact ih (List.mem_cons_of_mem first mem)

/-- The slashes are between the segments. -/
theorem slash_not_mem_of_mem_segments {path segment : String} (mem : segment ∈ segments path) :
    '/' ∉ segment.toList := by
  obtain ⟨part, partMem, rfl⟩ := List.mem_map.1 mem
  rw [String.toList_ofList]
  exact not_mem_of_mem_splitOn partMem

theorem isName_of_mem_segments {path segment : String} (mem : segment ∈ segments path)
    (moves : isIdle segment = false) (notUp : segment ≠ "..") : IsName segment := by
  rw [isIdle, Bool.or_eq_false_iff, beq_eq_false_iff_ne, beq_eq_false_iff_ne] at moves
  exact ⟨moves.1, moves.2, notUp, slash_not_mem_of_mem_segments mem⟩

theorem isName_of_mem_moves {path segment : String} (mem : segment ∈ moves path)
    (notUp : segment ≠ "..") : IsName segment := by
  obtain ⟨held, moving⟩ := List.mem_filter.1 mem
  exact isName_of_mem_segments held (by simpa using moving) notUp

theorem IsName.isIdle {name : String} (proper : IsName name) : isIdle name = false := by
  rw [Path.isIdle, Bool.or_eq_false_iff, beq_eq_false_iff_ne, beq_eq_false_iff_ne]
  exact ⟨proper.nonempty, proper.notHere⟩

/-- Names are all moves. -/
theorem filter_isIdle {names : List String} (proper : ∀ name ∈ names, IsName name) :
    names.filter (!isIdle ·) = names := by
  refine List.filter_eq_self.2 fun name mem => ?_
  rw [(proper name mem).isIdle]
  rfl

/-- The entries that a path names have proper names. -/
theorem isName_of_down_mem {path name : String} (mem : .down name ∈ steps path) :
    IsName name := by
  have moves : .down name ∈ ((segments path).filter (!isIdle ·)).map stepOf := by
    unfold steps at mem
    dsimp only at mem
    split at mem
    · exact (List.mem_cons.1 mem).resolve_left Step.noConfusion
    · split at mem
      · exact (List.mem_cons.1 mem).resolve_left Step.noConfusion
      · exact mem
  obtain ⟨segment, segmentMem, same⟩ := List.mem_map.1 moves
  obtain ⟨segmentMem, moving⟩ := List.mem_filter.1 segmentMem
  unfold stepOf at same
  split at same
  · cases same
  · next notUp =>
    obtain rfl := Step.down.inj same
    have moving : isIdle segment = false := by simpa using moving
    exact isName_of_mem_segments segmentMem moving notUp

/-! ## Normal forms -/

theorem isName_of_normalizeFrom? {start p : NormalPath} {moves : List Step}
    (normal : normalizeFrom? start moves = some p) (first : ∀ name ∈ start.names, IsName name)
    (proper : ∀ name, .down name ∈ moves → IsName name) : ∀ name ∈ p.names, IsName name := by
  induction moves generalizing start with
  | nil =>
    cases normal
    exact first
  | cons move rest ih =>
    rw [normalizeFrom?, List.foldlM_cons] at normal
    obtain ⟨next, moved, normal⟩ := Option.bind_eq_some_iff.1 normal
    refine ih normal ?_ fun name mem => proper name (List.mem_cons_of_mem move mem)
    cases move with
    | root =>
      cases moved
      exact fun name mem => absurd mem List.not_mem_nil
    | here =>
      cases moved
      exact first
    | up =>
      rw [NormalPath.step] at moved
      split at moved
      · cases moved
        exact fun name mem => first name ((List.dropLast_prefix start.names).subset mem)
      · split at moved
        · cases moved
          exact first
        · cases moved
    | down name =>
      cases moved
      intro other mem
      rcases List.mem_append.1 mem with mem | mem
      · exact first other mem
      · rw [List.mem_singleton.1 mem]
        exact proper name List.mem_cons_self

/-- A normal form has proper names only. -/
theorem isName_of_normalize? {path : String} {p : NormalPath} (normal : normalize? path = some p) :
    ∀ name ∈ p.names, IsName name :=
  isName_of_normalizeFrom? normal (fun _ mem => absurd mem List.not_mem_nil)
    fun _ => isName_of_down_mem

theorem normalizeFrom?_down (start : NormalPath) (names : List String) :
    normalizeFrom? start (names.map .down) =
      some { start with names := start.names ++ names } := by
  induction names generalizing start with
  | nil =>
    rw [List.append_nil]
    rfl
  | cons name rest ih =>
    have taken : start.names ++ name :: rest = start.names ++ [name] ++ rest := by
      rw [List.append_assoc, List.singleton_append]
    rw [taken, List.map_cons]
    exact ih { start with names := start.names ++ [name] }

/-! ## Joined paths -/

theorem ne_empty_of_isAbsolute {path : String} (absolute : isAbsolute path = true) :
    path ≠ "" := by
  rintro rfl
  cases absolute

theorem isAbsolute_append {front : String} (absolute : isAbsolute front = true) (rest : String) :
    isAbsolute (front ++ rest) = true := by
  rw [isAbsolute, beq_iff_eq, List.head?_eq_some_iff] at absolute ⊢
  obtain ⟨chars, begins⟩ := absolute
  exact ⟨chars ++ rest.toList, by rw [String.toList_append, begins, List.cons_append]⟩

theorem exists_append_join (base : String) {path : String}
    (relative : isAbsolute path = false) : ∃ front, join base path = front ++ path := by
  unfold join
  rw [relative, if_neg Bool.false_ne_true]
  split
  · exact ⟨base, rfl⟩
  · exact ⟨base ++ "/", rfl⟩

theorem exists_append_eq_join (base : String) {path : String}
    (relative : isAbsolute path = false) : ∃ rest, base ++ rest = join base path := by
  unfold join
  rw [relative, if_neg Bool.false_ne_true]
  split
  · exact ⟨path, rfl⟩
  · exact ⟨"/" ++ path, by rw [String.append_assoc]⟩

theorem isAbsolute_join {base path : String} (absolute : isAbsolute base = true) :
    isAbsolute (join base path) = true := by
  unfold join
  split
  · assumption
  · split
    · exact isAbsolute_append absolute path
    · exact isAbsolute_append (isAbsolute_append absolute "/") path

theorem segments_append_slash (first second : String) :
    segments (first ++ "/" ++ second) = segments first ++ segments second := by
  have chars : (first ++ "/" ++ second).toList = first.toList ++ '/' :: second.toList := by
    rw [String.toList_append, String.toList_append, List.append_assoc]
    rfl
  rw [segments, chars, List.splitOn_append_cons_self, List.map_append]
  rfl

/-- A path that ends in a slash is another one with that slash. -/
theorem exists_append_slash {path : String} (slash : (path.toList.getLast? == some '/') = true) :
    ∃ front, path = front ++ "/" := by
  obtain ⟨front, chars⟩ := List.getLast?_eq_some_iff.1 (beq_iff_eq.1 slash)
  refine ⟨String.ofList front, String.toList_injective ?_⟩
  rw [chars, String.toList_append, String.toList_ofList]
  rfl

/-- Segments of a joined path are those of the one and then those of the other, but for an empty one
at the seam. -/
theorem filter_segments_join {keeps : String → Bool} (empty : keeps "" = false) (base : String)
    {path : String} (relative : isAbsolute path = false) :
    (segments (join base path)).filter keeps =
      (segments base).filter keeps ++ (segments path).filter keeps := by
  have idle : (segments "").filter keeps = [] := List.filter_cons_of_neg (by simp [empty])
  unfold join
  rw [relative, if_neg Bool.false_ne_true]
  split
  · next seam =>
    rcases Bool.or_eq_true_iff.1 seam with blank | slash
    · rw [of_decide_eq_true blank, String.empty_append, idle, List.nil_append]
    · obtain ⟨front, rfl⟩ := exists_append_slash slash
      have whole : front ++ "/" = front ++ "/" ++ "" := String.append_empty.symm
      rw [segments_append_slash, List.filter_append, whole, segments_append_slash,
        List.filter_append, idle, List.append_nil]
  · rw [segments_append_slash, List.filter_append]

/-- The moves of a joined path. -/
theorem moves_join (base : String) {path : String} (relative : isAbsolute path = false) :
    moves (join base path) = moves base ++ moves path :=
  filter_segments_join rfl base relative

/-! ## Parents -/

theorem intercalate_segments (path : String) :
    String.intercalate "/" (segments path) = path := by
  apply String.toList_injective
  have same : (segments path).map String.toList = path.toList.splitOn '/' := by
    rw [segments, List.map_map]
    exact (List.map_congr_left fun _ _ => String.toList_ofList).trans (List.map_id _)
  rw [String.toList_intercalate, same]
  exact List.intercalate_splitOn '/'

/-- Segments that are put together are read back. -/
theorem segments_intercalate {parts : List String} (whole : ∀ part ∈ parts, '/' ∉ part.toList)
    (inhabited : parts ≠ []) : segments (String.intercalate "/" parts) = parts := by
  have wholeChars : ∀ part ∈ parts.map String.toList, '/' ∉ part := by
    intro part mem
    obtain ⟨name, nameMem, rfl⟩ := List.mem_map.1 mem
    exact whole name nameMem
  have read : (['/'].intercalate (parts.map String.toList)).splitOn '/' =
      parts.map String.toList :=
    List.splitOn_intercalate '/' wholeChars (mt List.map_eq_nil_iff.1 inhabited)
  have slash : "/".toList = ['/'] := rfl
  rw [segments, String.toList_intercalate, slash, read, List.map_map]
  exact (List.map_congr_left fun _ _ => String.ofList_toList).trans (List.map_id _)

/-- Fewer segments from the start make a path that the whole one begins with. -/
theorem exists_append_of_prefix {fewer all : List String} (front : fewer <+: all) :
    ∃ rest, String.intercalate "/" fewer ++ rest = String.intercalate "/" all := by
  obtain ⟨others, rfl⟩ := front
  by_cases blank : fewer = []
  · exact ⟨String.intercalate "/" others, by rw [blank, List.nil_append]; rfl⟩
  · by_cases ended : others = []
    · exact ⟨"", by rw [ended, List.append_nil, String.append_empty]⟩
    · exact ⟨"/" ++ String.intercalate "/" others, by
        rw [String.intercalate_append_of_ne_nil blank ended, String.append_assoc]⟩

theorem filter_tail_dropWhile_isIdle (all : List String) :
    ((all.dropWhile isIdle).tail).filter (!isIdle ·) = (all.filter (!isIdle ·)).tail := by
  induction all with
  | nil => rfl
  | cons segment rest ih =>
    cases idle : isIdle segment with
    | true => rw [List.dropWhile_cons_of_pos idle, ih, List.filter_cons_of_neg (by simp [idle])]
    | false =>
      rw [List.dropWhile_cons_of_neg (by simp [idle]), List.filter_cons_of_pos (by simp [idle]),
        List.tail_cons, List.tail_cons]

theorem filter_dropWhile_isIdle (all : List String) :
    (all.dropWhile isIdle).filter (!isIdle ·) = all.filter (!isIdle ·) := by
  induction all with
  | nil => rfl
  | cons segment rest ih =>
    cases idle : isIdle segment with
    | true => rw [List.dropWhile_cons_of_pos idle, ih, List.filter_cons_of_neg (by simp [idle])]
    | false => rw [List.dropWhile_cons_of_neg (by simp [idle])]

/-- The last segment that names a step is gone, and no other that does. -/
theorem filter_withoutLast (all : List String) :
    (withoutLast all).filter (!isIdle ·) = (all.filter (!isIdle ·)).dropLast := by
  unfold withoutLast
  rw [List.filter_reverse, filter_dropWhile_isIdle, filter_tail_dropWhile_isIdle,
    List.filter_reverse, List.tail_reverse, List.reverse_reverse]

theorem isPrefix_withoutLast (all : List String) : withoutLast all <+: all := by
  unfold withoutLast
  rw [← List.reverse_suffix, List.reverse_reverse]
  exact (List.dropWhile_suffix _).trans ((List.tail_suffix _).trans (List.dropWhile_suffix _))

/-- The segments of an absolute path start with an empty one. -/
theorem segments_of_isAbsolute {path : String} (absolute : isAbsolute path = true) :
    ∃ rest, segments path = "" :: rest ∧ path = "/" ++ String.intercalate "/" rest := by
  rw [isAbsolute, beq_iff_eq, List.head?_eq_some_iff] at absolute
  obtain ⟨chars, begins⟩ := absolute
  have whole : path = "" ++ "/" ++ String.ofList chars := by
    apply String.toList_injective
    simp [begins]
  refine ⟨segments (String.ofList chars), ?_, ?_⟩
  · rw [whole, segments_append_slash]
    rfl
  · rw [intercalate_segments, whole]
    rfl

/-- The last of segments names a step, if one of them does. -/
def EndInMove (all : List String) : Prop :=
  all.filter (!isIdle ·) ≠ [] → ∃ last, all.getLast? = some last ∧ isIdle last = false

/-- What a parent is: a path that the other one begins with, and with one move less, and that ends
in a move. -/
structure IsParent (parent path : String) : Prop where
  begins : ∃ rest, parent ++ rest = path
  absolute : isAbsolute parent = isAbsolute path
  moves : moves parent = (moves path).dropLast
  trimmed : EndInMove (segments parent)

theorem moves_slash_intercalate {parts : List String} (whole : ∀ part ∈ parts, '/' ∉ part.toList) :
    moves ("/" ++ String.intercalate "/" parts) = parts.filter (!isIdle ·) := by
  have seam : "/" ++ String.intercalate "/" parts = "" ++ "/" ++ String.intercalate "/" parts := rfl
  rw [moves, seam, segments_append_slash]
  by_cases blank : parts = []
  · rw [blank]
    rfl
  · rw [segments_intercalate whole blank]
    rfl

theorem moves_intercalate {parts : List String} (whole : ∀ part ∈ parts, '/' ∉ part.toList) :
    moves (String.intercalate "/" parts) = parts.filter (!isIdle ·) := by
  by_cases blank : parts = []
  · rw [blank]
    rfl
  · rw [moves, segments_intercalate whole blank]

theorem endInMove_withoutLast (all : List String) : EndInMove (withoutLast all) := by
  intro moving
  have whole : withoutLast all = ((all.reverse.dropWhile isIdle).tail.dropWhile isIdle).reverse := rfl
  have first := List.head?_dropWhile_not isIdle (all.reverse.dropWhile isIdle).tail
  rw [whole] at moving ⊢
  rw [List.getLast?_reverse]
  cases remains : (all.reverse.dropWhile isIdle).tail.dropWhile isIdle with
  | nil =>
    rw [remains] at moving
    exact absurd rfl moving
  | cons last others =>
    rw [remains] at first
    exact ⟨last, rfl, first⟩

/-- Idle segments in front do not matter. -/
theorem EndInMove.append_left {front all : List String}
    (idle : ∀ segment ∈ front, isIdle segment = true) (ends : EndInMove all) :
    EndInMove (front ++ all) := by
  intro moving
  have none : front.filter (!isIdle ·) = [] :=
    List.filter_eq_nil_iff.2 fun segment mem => by simp [idle segment mem]
  rw [List.filter_append, none, List.nil_append] at moving
  obtain ⟨last, found, moves⟩ := ends moving
  exact ⟨last, by rw [List.getLast?_append, found]; rfl, moves⟩

theorem endInMove_segments_intercalate {parts : List String}
    (whole : ∀ part ∈ parts, '/' ∉ part.toList) (ends : EndInMove parts) :
    EndInMove (segments (String.intercalate "/" parts)) := by
  by_cases blank : parts = []
  · rw [blank]
    exact fun moving => absurd rfl moving
  · rwa [segments_intercalate whole blank]

theorem endInMove_segments_slash_intercalate {parts : List String}
    (whole : ∀ part ∈ parts, '/' ∉ part.toList) (ends : EndInMove parts) :
    EndInMove (segments ("/" ++ String.intercalate "/" parts)) := by
  have seam : "/" ++ String.intercalate "/" parts = "" ++ "/" ++ String.intercalate "/" parts := rfl
  rw [seam, segments_append_slash]
  exact .append_left (by decide) (endInMove_segments_intercalate whole ends)

/-- What a relative path begins with is relative too. -/
theorem isAbsolute_of_append {front rest path : String} (relative : isAbsolute path = false)
    (begins : front ++ rest = path) : isAbsolute front = false := by
  refine Bool.eq_false_iff.2 fun absolute => ?_
  rw [← begins, isAbsolute_append absolute] at relative
  cases relative

/-- A parent is one. -/
theorem isParent_of_parent? {path parent : String} (found : parent? path = some parent) :
    IsParent parent path := by
  have whole : ∀ {all : List String}, (∀ segment ∈ all, '/' ∉ segment.toList) →
      ∀ segment ∈ withoutLast all, '/' ∉ segment.toList :=
    fun all segment mem => all segment ((isPrefix_withoutLast _).subset mem)
  have clean : ∀ segment ∈ segments path, '/' ∉ segment.toList :=
    fun _ => slash_not_mem_of_mem_segments
  unfold parent? at found
  split at found
  · next absolute =>
    split at found
    · cases found
    · obtain ⟨tail, parts, written⟩ := segments_of_isAbsolute absolute
      rw [parts, List.tail_cons] at found
      obtain rfl := Option.some.inj found
      obtain ⟨rest, begins⟩ := exists_append_of_prefix (isPrefix_withoutLast tail)
      rw [parts] at clean
      have tailClean : ∀ segment ∈ tail, '/' ∉ segment.toList :=
        fun segment mem => clean segment (List.mem_cons_of_mem _ mem)
      refine ⟨⟨rest, ?_⟩, ?_, ?_,
        endInMove_segments_slash_intercalate (whole tailClean) (endInMove_withoutLast tail)⟩
      · rw [String.append_assoc, begins, ← written]
      · rw [absolute]
        exact isAbsolute_append rfl _
      · rw [moves_slash_intercalate (whole tailClean), filter_withoutLast, moves, parts]
        rfl
  · next relative =>
    rw [Bool.not_eq_true] at relative
    split at found
    · next rest parts =>
      rw [parts] at clean
      have restClean : ∀ segment ∈ rest, '/' ∉ segment.toList :=
        fun segment mem => clean segment (List.mem_cons_of_mem _ mem)
      have pathMoves : moves path = rest.filter (!isIdle ·) := by
        rw [moves, parts]
        rfl
      split at found
      · next idle =>
        obtain rfl := Option.some.inj found
        refine ⟨⟨path, String.empty_append⟩, relative.symm, ?_, fun moving => absurd rfl moving⟩
        have none : rest.filter (!isIdle ·) = [] := by
          rw [List.filter_eq_nil_iff]
          intro segment mem
          rw [List.all_eq_true.1 idle segment mem]
          decide
        rw [pathMoves, none]
        rfl
      · obtain rfl := Option.some.inj found
        have front : "." :: withoutLast rest <+: "." :: rest :=
          (List.prefix_cons_inj _).2 (isPrefix_withoutLast rest)
        obtain ⟨after, begins⟩ := exists_append_of_prefix front
        rw [← parts, intercalate_segments] at begins
        have frontClean : ∀ segment ∈ "." :: withoutLast rest, '/' ∉ segment.toList :=
          fun segment mem => clean segment (front.subset mem)
        have ends : EndInMove (["."] ++ withoutLast rest) :=
          .append_left (by decide) (endInMove_withoutLast rest)
        refine ⟨⟨after, begins⟩, (isAbsolute_of_append relative begins).trans relative.symm, ?_,
          endInMove_segments_intercalate frontClean ends⟩
        rw [moves_intercalate frontClean, List.filter_cons_of_neg (by decide), filter_withoutLast,
          pathMoves]
    · split at found
      · cases found
      · obtain rfl := Option.some.inj found
        obtain ⟨after, begins⟩ := exists_append_of_prefix (isPrefix_withoutLast (segments path))
        rw [intercalate_segments] at begins
        refine ⟨⟨after, begins⟩, (isAbsolute_of_append relative begins).trans relative.symm, ?_,
          endInMove_segments_intercalate (whole clean) (endInMove_withoutLast _)⟩
        rw [moves_intercalate (whole clean), filter_withoutLast, moves]

/-- A path with a move has a parent. -/
theorem exists_parent? {path : String} (moving : moves path ≠ []) :
    ∃ parent, parent? path = some parent := by
  have busy : (segments path).all isIdle = false := by
    refine Bool.eq_false_iff.2 fun idle => moving (List.filter_eq_nil_iff.2 fun segment mem => ?_)
    rw [List.all_eq_true.1 idle segment mem]
    decide
  unfold parent?
  split
  · rw [busy]
    exact ⟨_, rfl⟩
  · split
    · split
      · exact ⟨_, rfl⟩
      · exact ⟨_, rfl⟩
    · rw [busy]
      exact ⟨_, rfl⟩

/-- The steps of a path are its moves, after one that moves nowhere or to the root. -/
theorem exists_steps_eq (path : String) :
    ∃ first, (∀ name, .down name ∉ first) ∧ .up ∉ first ∧ (.root ∈ first ↔ isAbsolute path = true) ∧
      steps path = first ++ (moves path).map stepOf := by
  unfold steps
  dsimp only
  split
  · next absolute => exact ⟨[.root], by simp, by simp, by simp [absolute], rfl⟩
  · next relative =>
    split
    · exact ⟨[.here], by simp, by simp, by simp [relative], rfl⟩
    · exact ⟨[], by simp, by simp, by simp [relative], rfl⟩

theorem stepOf_eq_down_iff {segment name : String} :
    stepOf segment = .down name ↔ segment = name ∧ name ≠ ".." := by
  unfold stepOf
  split
  · next up =>
    rw [up]
    exact ⟨fun same => (nomatch same), fun same => absurd same.1.symm same.2⟩
  · next other =>
    rw [Step.down.injEq]
    exact ⟨fun same => ⟨same, same ▸ other⟩, And.left⟩

/-- The last move of a path, unless it goes up. -/
theorem fileName?_eq_some_iff {path name : String} :
    fileName? path = some name ↔ (moves path).getLast? = some name ∧ name ≠ ".." := by
  obtain ⟨first, names, _, _, all⟩ := exists_steps_eq path
  have last : fileName? path = some name ↔ (steps path).getLast? = some (.down name) := by
    unfold fileName?
    split
    · next other found => rw [found, Option.some.injEq, Option.some.injEq, Step.down.injEq]
    · next none => exact ⟨fun found => (nomatch found), fun found => absurd found (none name)⟩
  rw [last, all, List.getLast?_append, List.getLast?_map]
  cases found : (moves path).getLast? with
  | none =>
    refine ⟨fun held => absurd (List.mem_of_getLast? held) (names name), fun held => nomatch held.1⟩
  | some segment =>
    show some (stepOf segment) = _ ↔ _
    rw [Option.some.injEq, Option.some.injEq, stepOf_eq_down_iff]

/-! ## Absolute forms -/

theorem moves_append_slash (first second : String) :
    moves (first ++ "/" ++ second) = moves first ++ moves second := by
  rw [moves, segments_append_slash, List.filter_append]
  rfl

theorem moves_withTrailingSlash (path : String) : moves (withTrailingSlash path) = moves path := by
  have seam : path ++ "/" = path ++ "/" ++ "" := String.append_empty.symm
  unfold withTrailingSlash
  split
  · rfl
  · rw [seam, moves_append_slash]
    exact List.append_nil _

theorem isAbsolute_withTrailingSlash {path : String} (absolute : isAbsolute path = true) :
    isAbsolute (withTrailingSlash path) = true := by
  unfold withTrailingSlash
  split
  · exact absolute
  · exact isAbsolute_append absolute "/"

/-- A move is a relative path whose only move it is. -/
theorem moves_of_mem_moves {path segment : String} (mem : segment ∈ moves path) :
    isAbsolute segment = false ∧ moves segment = [segment] := by
  obtain ⟨held, moving⟩ := List.mem_filter.1 mem
  have whole := slash_not_mem_of_mem_segments held
  constructor
  · refine Bool.eq_false_iff.2 fun absolute => whole ?_
    rw [isAbsolute, beq_iff_eq] at absolute
    exact List.mem_of_mem_head? absolute
  · have single : String.intercalate "/" [segment] = segment := rfl
    have read : moves (String.intercalate "/" [segment]) = [segment].filter (!isIdle ·) :=
      moves_intercalate fun part mem => List.mem_singleton.1 mem ▸ whole
    rw [single] at read
    rw [read]
    exact List.filter_cons_of_pos moving

theorem moves_foldl_join (base : String) {parts : List String}
    (each : ∀ part ∈ parts, isAbsolute part = false ∧ moves part = [part]) :
    moves (parts.foldl join base) = moves base ++ parts := by
  induction parts generalizing base with
  | nil => exact (List.append_nil _).symm
  | cons part rest ih =>
    obtain ⟨relative, single⟩ := each part List.mem_cons_self
    rw [List.foldl_cons, ih (join base part) fun other mem => each other (List.mem_cons_of_mem _ mem),
      moves_join base relative, single, List.append_assoc, List.singleton_append]

theorem isAbsolute_foldl_join {base : String} (absolute : isAbsolute base = true)
    (parts : List String) : isAbsolute (parts.foldl join base) = true := by
  induction parts generalizing base with
  | nil => exact absolute
  | cons part rest ih => exact ih (isAbsolute_join absolute)

theorem moves_leadingSlashes_append (path rest : String) :
    moves (leadingSlashes path ++ rest) = moves rest := by
  unfold leadingSlashes
  split
  · exact moves_append_slash "/" rest
  · exact moves_append_slash "" rest

theorem isAbsolute_leadingSlashes_append (path rest : String) :
    isAbsolute (leadingSlashes path ++ rest) = true := by
  refine isAbsolute_append ?_ rest
  unfold leadingSlashes
  split <;> rfl

/-- The absolute form of a path has its moves, after those of the working directory if the path is
relative. -/
theorem absolute_spec {workingDirectory : Except OsError String} {path full : String}
    (rooted : ∀ base, workingDirectory = .ok base → isAbsolute base = true)
    (made : absolute workingDirectory path = .ok full) :
    isAbsolute full = true ∧
      if isAbsolute path = true then moves full = moves path
      else ∃ base, workingDirectory = .ok base ∧ moves full = moves base ++ moves path := by
  have each : ∀ part ∈ moves path, isAbsolute part = false ∧ moves part = [part] :=
    fun _ => moves_of_mem_moves
  have read : moves (String.intercalate "/" (moves path)) = moves path := by
    refine (moves_intercalate fun part mem => ?_).trans ?_
    · exact slash_not_mem_of_mem_segments (List.mem_filter.1 mem).1
    · rw [moves, List.filter_filter]
      exact List.filter_congr fun _ _ => Bool.and_self _
  have ended : ∀ front, isAbsolute front = true →
      isAbsolute (if path.toList.getLast? == some '/' then withTrailingSlash front else front) =
          true ∧
        moves (if path.toList.getLast? == some '/' then withTrailingSlash front else front) =
          moves front := by
    intro front absolute
    split
    · exact ⟨isAbsolute_withTrailingSlash absolute, moves_withTrailingSlash front⟩
    · exact ⟨absolute, rfl⟩
  unfold absolute at made
  by_cases blank : path = ""
  · rw [if_pos blank] at made
    cases made
  · rw [if_neg blank] at made
    by_cases already : isAbsolute path = true
    · rw [if_pos already] at made
      obtain rfl := Except.ok.inj made
      obtain ⟨absolute, same⟩ := ended _ (isAbsolute_leadingSlashes_append path _)
      refine ⟨absolute, ?_⟩
      rw [if_pos already]
      exact (same.trans (moves_leadingSlashes_append path _)).trans read
    · rw [if_neg already] at made
      obtain ⟨base, known, made⟩ := of_bind_ok made
      obtain rfl := Except.ok.inj made
      obtain ⟨absolute, same⟩ := ended _ (isAbsolute_foldl_join (rooted base known) (moves path))
      refine ⟨absolute, ?_⟩
      rw [if_neg already]
      exact ⟨base, known, same.trans (moves_foldl_join base each)⟩

/-! ## The path of a location -/

theorem toList_pathOf (location : Location) :
    (FileTree.pathOf location).toList =
      '/' :: ['/'].intercalate (location.map String.toList) := by
  rw [FileTree.pathOf, String.toList_append, String.toList_intercalate]
  rfl

theorem isAbsolute_pathOf (location : Location) : isAbsolute (FileTree.pathOf location) = true := by
  rw [isAbsolute, toList_pathOf]
  rfl

theorem segments_pathOf {location : Location} (proper : ∀ name ∈ location, IsName name) :
    (segments (FileTree.pathOf location)).filter (!isIdle ·) = location := by
  cases location with
  | nil => decide
  | cons first others =>
    have whole : ∀ part ∈ (first :: others).map String.toList, '/' ∉ part := by
      intro part mem
      obtain ⟨name, nameMem, rfl⟩ := List.mem_map.1 mem
      exact (proper name nameMem).whole
    have parts : ((FileTree.pathOf (first :: others)).toList.splitOn '/') =
        [] :: (first :: others).map String.toList := by
      rw [toList_pathOf, ← List.nil_append ('/' :: _),
        List.splitOn_append_cons_self_of_not_mem List.not_mem_nil,
        List.splitOn_intercalate '/' whole (List.cons_ne_nil _ _)]
    have same : ((first :: others).map String.toList).map String.ofList = first :: others := by
      rw [List.map_map]
      exact (List.map_congr_left fun _ _ => String.ofList_toList).trans (List.map_id _)
    rw [segments, parts, List.map_cons, same, List.filter_cons_of_neg (by decide),
      filter_isIdle proper]

theorem map_stepOf {names : List String} (proper : ∀ name ∈ names, IsName name) :
    names.map stepOf = names.map .down :=
  List.map_congr_left fun name mem => if_neg (proper name mem).notUp

/-- The steps of a location's path are its names. -/
theorem steps_pathOf {location : Location} (proper : ∀ name ∈ location, IsName name) :
    steps (FileTree.pathOf location) = .root :: location.map .down := by
  unfold steps
  dsimp only
  rw [if_pos (isAbsolute_pathOf location), segments_pathOf proper, map_stepOf proper]

/-- The path of a location is normal. -/
theorem normalize?_pathOf {location : Location} (proper : ∀ name ∈ location, IsName name) :
    normalize? (FileTree.pathOf location) = some ⟨true, location⟩ := by
  rw [normalize?, steps_pathOf proper]
  exact normalizeFrom?_down ⟨true, []⟩ location

/-- One slash is in front. -/
theorem leadingSlashes_pathOf {location : Location} (proper : ∀ name ∈ location, IsName name) :
    leadingSlashes (FileTree.pathOf location) = "/" := by
  have single : "//".toList.isPrefixOf (FileTree.pathOf location).toList = false := by
    rw [toList_pathOf]
    cases location with
    | nil => rfl
    | cons first others =>
      have named := proper first List.mem_cons_self
      rw [List.map_cons]
      cases chars : first.toList with
      | nil => exact absurd (String.toList_eq_nil_iff.1 chars) named.nonempty
      | cons c rest =>
        have other : c ≠ '/' := by
          rintro rfl
          exact named.whole (by rw [chars]; exact List.mem_cons_self)
        cases others <;> simp [List.isPrefixOf, other.symm]
  rw [leadingSlashes, single, Bool.false_and, if_neg Bool.false_ne_true]

/-- The path of a location is absolute as it stands. -/
theorem absolute_pathOf {location : Location} (proper : ∀ name ∈ location, IsName name)
    (workingDirectory : Except OsError String) :
    absolute workingDirectory (FileTree.pathOf location) = .ok (FileTree.pathOf location) := by
  have full : leadingSlashes (FileTree.pathOf location) ++
      String.intercalate "/" (moves (FileTree.pathOf location)) = FileTree.pathOf location := by
    rw [leadingSlashes_pathOf proper, moves, segments_pathOf proper]
    rfl
  unfold absolute
  rw [if_neg (ne_empty_of_isAbsolute (isAbsolute_pathOf location)),
    if_pos (isAbsolute_pathOf location), full]
  show Except.ok (if _ then _ else _) = _
  split
  · next slash => rw [withTrailingSlash, if_pos slash]
  · rfl

end Path

namespace FileTree

open Fleet.Path (IsName)

/-! ## Where paths lead -/

/-- A tree in which entries have proper names only, as those of file systems have. -/
def WellNamed (t : FileTree) : Prop :=
  ∀ entry ∈ t.entries, ∀ name ∈ entry.1, IsName name

/-- The location of a directory has proper names. -/
theorem isName_of_locate? {t : FileTree} {serial : Nat} {location : Location}
    (named : t.WellNamed) (found : t.locate? serial = some location) :
    ∀ name ∈ location, IsName name := by
  unfold locate? at found
  split at found
  · cases found
    exact fun _ mem => absurd mem List.not_mem_nil
  · obtain ⟨entry, held, rfl⟩ := Option.map_eq_some_iff.1 found
    exact named entry (List.mem_of_find?_eq_some held)

/-- What a walk takes from a path are names and dots. -/
theorem mem_walkSegments {path segment : String} (mem : segment ∈ walkSegments path) :
    segment ≠ "" ∧ '/' ∉ segment.toList := by
  rcases List.mem_append.1 mem with mem | mem
  · obtain ⟨mem, written⟩ := List.mem_filter.1 mem
    exact ⟨of_decide_eq_true written, Path.slash_not_mem_of_mem_segments mem⟩
  · split at mem
    · rw [List.mem_singleton.1 mem]
      decide
    · exact absurd mem List.not_mem_nil

theorem isName_snoc {here : Location} {segment : String} (proper : ∀ name ∈ here, IsName name)
    (written : segment ≠ "" ∧ '/' ∉ segment.toList) (notHere : segment ≠ ".")
    (notUp : segment ≠ "..") : ∀ name ∈ here ++ [segment], IsName name := by
  intro name mem
  rcases List.mem_append.1 mem with mem | mem
  · exact proper name mem
  · rw [List.mem_singleton.1 mem]
    exact ⟨written.1, notHere, notUp, written.2⟩

/-- A walk from a location of proper names leads to one. -/
theorem isName_of_walk {t : FileTree} {follow : Bool} {links : Nat} {here location : Location}
    {segments : List String} (walked : t.walk follow links here segments = .ok location)
    (proper : ∀ name ∈ here, IsName name)
    (taken : ∀ segment ∈ segments, segment ≠ "" ∧ '/' ∉ segment.toList) :
    ∀ name ∈ location, IsName name := by
  fun_induction walk t follow links here segments with
  | case1 =>
    cases walked
    exact proper
  | case2 links here rest _ _ ih =>
    exact ih walked proper fun segment mem => taken segment (List.mem_cons_of_mem _ mem)
  | case3 links here rest _ _ _ ih =>
    refine ih walked ?_ fun segment mem => taken segment (List.mem_cons_of_mem _ mem)
    exact fun name mem => proper name ((List.dropLast_prefix here).subset mem)
  | case6 links here segment rest _ _ notHere notUp =>
    cases walked
    exact isName_snoc proper (taken segment List.mem_cons_self) notHere notUp
  | case9 here segment rest _ _ _ _ _ target _ _ _ links ih =>
    refine ih walked ?_ ?_
    · intro name mem
      split at mem
      · exact absurd mem List.not_mem_nil
      · exact proper name mem
    · intro segment mem
      rcases List.mem_append.1 mem with mem | mem
      · exact mem_walkSegments mem
      · exact taken segment (List.mem_cons_of_mem _ mem)
  | case10 links here segment rest _ _ notHere notUp _ _ _ ih =>
    refine ih walked ?_ fun segment mem => taken segment (List.mem_cons_of_mem _ mem)
    exact isName_snoc proper (taken segment List.mem_cons_self) notHere notUp
  | case11 links here segment _ _ notHere notUp =>
    cases walked
    exact isName_snoc proper (taken segment List.mem_cons_self) notHere notUp
  | case4 | case5 | case7 | case8 | case12 | case13 => cases walked

/-- The location that a path leads to has proper names. -/
theorem isName_of_resolve {t : FileTree} {here : Option Location} {path : String} {follow : Bool}
    {location : Location} (proper : ∀ start, here = some start → ∀ name ∈ start, IsName name)
    (led : t.resolve here path follow = .ok location) : ∀ name ∈ location, IsName name := by
  unfold resolve at led
  match start : startOf here path with
  | .error _ =>
    rw [start] at led
    cases led
  | .ok first =>
    rw [start] at led
    refine isName_of_walk led ?_ fun segment mem => mem_walkSegments mem
    unfold startOf at start
    split at start
    · cases start
    · split at start
      · cases start
      · split at start
        · cases start
        · split at start
          · cases start
            exact fun _ mem => absurd mem List.not_mem_nil
          · split at start
            · next found =>
              cases start
              exact proper _ rfl
            · cases start

/-- A path is walked from where it starts. -/
theorem resolve_eq_walk {t : FileTree} {here : Option Location} {path : String} {follow : Bool}
    {start : Location} {segments : List String} (starts : startOf here path = .ok start)
    (taken : walkSegments path = segments) :
    t.resolve here path follow = t.walk follow linkLimit start segments := by
  rw [resolve, bind_ok starts, taken]

theorem entryAt_of_resolve {t : FileTree} {here : Option Location} {path : String}
    {follow : Bool} {location : Location} {entry : Entry}
    (led : t.resolve here path follow = .ok location) (stands : t.find? location = some entry) :
    t.entryAt here path follow = .ok entry := by
  rw [entryAt, bind_ok led, stands]
  rfl

/-! ## Absolute paths -/

/-- An absolute path is walked from the root. -/
theorem startOf_of_isAbsolute {path : String} (absolute : Path.isAbsolute path = true)
    (here here' : Option Location) : startOf here path = startOf here' path := by
  unfold startOf
  rw [if_pos absolute, if_pos absolute]

theorem resolve_of_isAbsolute {path : String} (absolute : Path.isAbsolute path = true)
    (t : FileTree) (here here' : Option Location) (follow : Bool) :
    t.resolve here path follow = t.resolve here' path follow := by
  rw [resolve, resolve, startOf_of_isAbsolute absolute here here']

end FileTree

namespace World

variable {w v : World} {path : String} {location : Location} {serial : Nat}

theorem directoryAt_of_resolve (led : w.tree.resolve w.here? path = .ok location)
    (stands : w.tree.find? location = some (.directory serial)) :
    w.directoryAt path = .ok serial := by
  rw [directoryAt, bind_ok (FileTree.entryAt_of_resolve led stands)]
  rfl

theorem enter_of_directoryAt (leads : w.directoryAt path = .ok serial) :
    w.enter path = .ok { w with current := serial } := by
  rw [enter, leads]
  rfl

/-- Where an absolute path leads does not depend on the working directory. -/
theorem directoryAt_of_isAbsolute (absolute : Path.isAbsolute path = true)
    (same : v.tree = w.tree) : v.directoryAt path = w.directoryAt path := by
  rw [directoryAt, directoryAt, FileTree.entryAt, FileTree.entryAt, same,
    FileTree.resolve_of_isAbsolute absolute w.tree v.here? w.here?]

end World

end Fleet
