import Fleet.Proofs.Climbs

/-!
# Normal forms

In the normal form of a path each `..` cancels the nearest name before it that is not cancelled yet.
Here this is said without running through the path: a name is cancelled if what follows it has a
`..` such that all between the two cancels itself. A relative path has a normal form if none of its
beginnings has more `..` than names. The normal form is worked out on names; worked out on the text
of a path that grows and shrinks it is the same.

* `foldlM_retext`: the normal form as a text that each step changes.
* `takesBack_iff`, `lt_rise_iff`: the `..` that cancel a name, and those that have none.
* `normalize?_eq`: the normal form by these.
* `normalize?_join_congr`: what is joined to a path counts by its normal form.
* `normalize?_cancels`: all of this about one path, and about paths joined to it.
-/

namespace Fleet

namespace Path

/-! ## Texts that grow and shrink -/

/-- The text of a normal path after one more step: what is last in it is read from it again. -/
def retext (text : String) : Step → Option String
  | .here => some text
  | .up =>
    match (steps text).getLast? with
    | some (.down _) => some ((parent? text).getD text)
    | some .root => some text
    | _ => none
  | .root => some (join text "/")
  | .down name => some (join text name)

end Path

namespace NormalPath

variable {p : NormalPath}

/-! ## Normal paths as texts -/

theorem toPath_of_relative (names : List String) :
    toPath ⟨false, names⟩ = String.intercalate "/" names :=
  String.empty_append

open Fleet.Path (IsName isAbsolute segments moves steps)

section

variable (proper : ∀ name ∈ p.names, IsName name)

include proper

theorem isAbsolute_toPath : isAbsolute p.toPath = p.absolute := by
  obtain ⟨absolute, names⟩ := p
  cases absolute with
  | true => exact Path.isAbsolute_pathOf names
  | false =>
    rw [toPath_of_relative]
    exact Path.isAbsolute_intercalate proper

theorem moves_toPath : moves p.toPath = p.names := by
  obtain ⟨absolute, names⟩ := p
  cases absolute with
  | true => exact Path.segments_pathOf proper
  | false =>
    rw [toPath_of_relative, Path.moves_intercalate fun name mem => (proper name mem).whole,
      Path.filter_isIdle proper]

/-- The segments of a normal path with names: an absolute one begins with a slash. -/
theorem segments_toPath (named : p.names ≠ []) :
    segments p.toPath = (if p.absolute then [""] else []) ++ p.names := by
  have parts := Path.segments_intercalate (fun part mem => (proper part mem).whole) named
  obtain ⟨_ | _, names⟩ := p
  · rw [toPath_of_relative, parts]
    rfl
  · have seam : toPath ⟨true, names⟩ = "" ++ "/" ++ String.intercalate "/" names := rfl
    rw [seam, Path.segments_append_slash, parts]
    rfl

/-- A relative path of names does not start with a dot. -/
theorem head?_segments_toPath (relative : p.absolute = false) :
    (segments p.toPath).head? ≠ some "." := by
  by_cases named : p.names = []
  · rw [toPath, relative, named]
    decide
  · rw [segments_toPath proper named, relative]
    exact fun first => (proper "." (List.mem_of_mem_head? first)).notHere rfl

theorem steps_toPath :
    steps p.toPath = (if p.absolute then [.root] else []) ++ p.names.map .down := by
  have taken : ((segments p.toPath).filter (!Path.isIdle ·)).map Path.stepOf =
      p.names.map .down := by
    rw [← Path.map_stepOf proper, ← moves_toPath proper, moves]
  unfold steps
  dsimp only
  rw [isAbsolute_toPath proper, taken]
  cases absolute : p.absolute with
  | true => rfl
  | false =>
    have plain := head?_segments_toPath proper absolute
    rw [if_neg Bool.false_ne_true, if_neg (by simpa using plain)]
    rfl

/-- The text of a normal path has that path as its normal form. -/
theorem normalize?_toPath : Path.normalize? p.toPath = some p := by
  rw [Path.normalize?, steps_toPath proper, Path.normalizeFrom?_append]
  obtain ⟨absolute, names⟩ := p
  cases absolute <;> exact Path.normalizeFrom?_down _ names

/-- A path of names ends as the last of them does. -/
theorem getLast?_toPath (named : p.names ≠ []) :
    p.toPath ≠ "" ∧ p.toPath.toList.getLast? ≠ some '/' := by
  obtain ⟨front, last, whole⟩ := (List.eq_nil_or_concat p.names).resolve_left named
  have isName : IsName last := proper last (by simp [whole])
  obtain ⟨before, text⟩ : ∃ before, p.toPath = before ++ last := by
    rw [toPath, whole]
    by_cases only : front = []
    · exact ⟨if p.absolute then "/" else "", by rw [only]; rfl⟩
    · exact ⟨_, by
        rw [List.concat_eq_append, String.intercalate_append_of_ne_nil only (List.cons_ne_nil _ _),
          ← String.append_assoc, ← String.append_assoc]
        rfl⟩
  have chars : last.toList ≠ [] := mt String.toList_eq_nil_iff.1 isName.nonempty
  have ends : p.toPath.toList.getLast? = some (last.toList.getLast chars) := by
    rw [text, String.toList_append, List.getLast?_append, List.getLast?_eq_some_getLast chars]
    rfl
  refine ⟨fun empty => ?_, fun slash => ?_⟩
  · rw [empty] at ends
    cases ends
  · rw [ends] at slash
    exact isName.whole (Option.some.inj slash ▸ List.getLast_mem chars)

/-- A name is added to the text of a normal path with a slash where there has to be one. -/
theorem join_toPath {name : String} (isName : IsName name) :
    Path.join p.toPath name = toPath { p with names := p.names ++ [name] } := by
  have relative : isAbsolute name = false :=
    Path.isAbsolute_intercalate fun other mem => List.mem_singleton.1 mem ▸ isName
  rw [Path.join, relative, if_neg Bool.false_ne_true]
  by_cases named : p.names = []
  · have blank : (p.toPath = "" || p.toPath.toList.getLast? == some '/') = true := by
      rw [toPath, named]
      cases p.absolute <;> rfl
    rw [if_pos (by simpa using blank), toPath, toPath, named]
    dsimp only
    rw [List.nil_append, String.intercalate_singleton]
    exact congrArg (· ++ name) String.append_empty
  · obtain ⟨written, last⟩ := getLast?_toPath proper named
    rw [if_neg (by simp [written, last]), toPath, toPath]
    dsimp only
    rw [String.intercalate_append_of_ne_nil named (List.cons_ne_nil name []),
      String.intercalate_singleton, ← String.append_assoc, ← String.append_assoc]

/-- Leaving out the last segment of proper names leaves the others. -/
theorem withoutLast_names : Path.withoutLast p.names = p.names.dropLast := by
  have others : ∀ name ∈ Path.withoutLast p.names, IsName name :=
    fun name mem => proper name ((Path.isPrefix_withoutLast p.names).subset mem)
  rw [← Path.filter_isIdle others, Path.filter_withoutLast, Path.filter_isIdle proper]

/-- The last name is taken off the text of a normal path, with the slash before it. -/
theorem parent?_toPath (named : p.names ≠ []) :
    Path.parent? p.toPath = some (toPath { p with names := p.names.dropLast }) := by
  have busy : p.names.all Path.isIdle = false := by
    obtain ⟨name, rest, parts⟩ := List.exists_cons_of_ne_nil named
    rw [parts, List.all_cons, (proper name (parts ▸ List.mem_cons_self)).isIdle, Bool.false_and]
  have parts := segments_toPath proper named
  have plain := head?_segments_toPath proper
  rw [Path.parent?, isAbsolute_toPath proper, ← withoutLast_names proper]
  cases absolute : p.absolute with
  | true =>
    rw [absolute] at parts
    rw [if_pos rfl, parts, if_pos rfl, List.singleton_append, List.all_cons, busy, Bool.and_false,
      if_neg Bool.false_ne_true, List.tail_cons]
    rfl
  | false =>
    rw [absolute] at parts
    rw [if_neg Bool.false_ne_true]
    split
    · next rest dot => exact absurd (congrArg List.head? dot) (plain absolute)
    · rw [parts, if_neg Bool.false_ne_true, List.nil_append, busy, if_neg Bool.false_ne_true]
      exact congrArg some (toPath_of_relative _).symm

/-- A step changes the text of a normal path as it changes the path. -/
theorem retext_toPath {step : Step} (named : ∀ name, step = .down name → IsName name) :
    Path.retext p.toPath step = (p.step step).map toPath := by
  cases step with
  | root => rfl
  | here => rfl
  | down name => exact congrArg some (join_toPath proper (named name rfl))
  | up =>
    rw [Path.retext, steps_toPath proper, NormalPath.step]
    by_cases bottom : p.names = []
    · rw [if_neg (not_not_intro bottom), bottom]
      cases p.absolute <;> rfl
    · obtain ⟨name, last⟩ := Option.isSome_iff_exists.1 (List.getLast?_isSome.2 bottom)
      rw [if_pos bottom, List.getLast?_append, List.getLast?_map, last]
      exact congrArg (fun parent => some (parent.getD p.toPath)) (parent?_toPath proper bottom)

end

/-- The text that steps leave is that of the normal path they lead to. -/
theorem foldlM_retext {steps : List Step} (first : ∀ name ∈ p.names, IsName name)
    (named : ∀ name, .down name ∈ steps → IsName name) :
    steps.foldlM Path.retext p.toPath = (Path.normalizeFrom? p steps).map toPath := by
  induction steps generalizing p with
  | nil => rfl
  | cons step rest ih =>
    have isName : ∀ name, step = .down name → IsName name :=
      fun name same => named name (same ▸ List.mem_cons_self)
    rw [List.foldlM_cons, retext_toPath first isName, Path.normalizeFrom?, List.foldlM_cons]
    cases taken : p.step step with
    | none => rfl
    | some next =>
      have onward : ∀ name ∈ next.names, IsName name := by
        have normal : Path.normalizeFrom? p [step] = some next := by
          rw [Path.normalizeFrom?, List.foldlM_cons, taken]
          rfl
        refine Path.isName_of_normalizeFrom? normal first fun name mem => ?_
        exact isName name (List.mem_singleton.1 mem).symm
      exact ih onward fun name mem => named name (List.mem_cons_of_mem step mem)

end NormalPath

namespace Path

/-! ## What is cancelled -/

/-- Every name among the moves is cancelled by one of them, and each of these cancels a name. -/
inductive Cancels : List String → Prop where
  | nil : Cancels []
  | pair {name : String} {between rest : List String} (named : name ≠ "..")
      (inner : Cancels between) (later : Cancels rest) :
      Cancels (name :: (between ++ ".." :: rest))

/-- A name before these moves is cancelled by one of them: all that is between cancels itself. -/
def TakesBack (after : List String) : Prop :=
  ∃ between rest, after = between ++ ".." :: rest ∧ Cancels between

/-- Some beginning of the moves has more `..` than names. -/
def Rises (segments : List String) : Prop :=
  ∃ front, front <+: segments ∧ front.countP (· ≠ "..") < front.count ".."

/-- How many `..` among the moves have no name to cancel. -/
def rise : List String → Nat
  | [] => 0
  | segment :: rest => if segment = ".." then rise rest + 1 else rise rest - 1

section

variable {segments rest after : List String} {segment name : String}

theorem rise_cons_up (rest : List String) : rise (".." :: rest) = rise rest + 1 :=
  if_pos rfl

theorem rise_cons_name (named : name ≠ "..") : rise (name :: rest) = rise rest - 1 :=
  if_neg named

theorem exists_prefix_cons_iff {P : List String → Prop} :
    (∃ front, front <+: segment :: rest ∧ P front) ↔
      P [] ∨ ∃ front, front <+: rest ∧ P (segment :: front) := by
  constructor
  · rintro ⟨front, begins, holds⟩
    obtain rfl | ⟨others, rfl, fewer⟩ := List.prefix_cons_iff.1 begins
    · exact .inl holds
    · exact .inr ⟨others, fewer, holds⟩
  · rintro (holds | ⟨others, begins, holds⟩)
    · exact ⟨[], List.nil_prefix, holds⟩
    · exact ⟨segment :: others, (List.prefix_cons_inj segment).2 begins, holds⟩

/-- More than so many `..` have no name to cancel if that is how much more of them there is in some
beginning. -/
theorem lt_rise_iff {k : Nat} : k < rise segments ↔
    ∃ front, front <+: segments ∧ front.countP (· ≠ "..") + k < front.count ".." := by
  have nowhere : ∀ k, ¬([] : List String).countP (· ≠ "..") + k < ([] : List String).count ".." :=
    fun _ => Nat.not_lt_zero _
  induction segments generalizing k with
  | nil =>
    refine ⟨fun below => absurd below (Nat.not_lt_zero k), ?_⟩
    rintro ⟨front, begins, more⟩
    exact absurd (List.prefix_nil.1 begins ▸ more) (nowhere k)
  | cons segment rest ih =>
    rw [exists_prefix_cons_iff, or_iff_right (nowhere k)]
    by_cases up : segment = ".."
    · subst up
      have counts : ∀ front : List String, (".." :: front).countP (· ≠ "..") + k <
          (".." :: front).count ".." ↔ front.countP (· ≠ "..") + k < front.count ".." + 1 := by
        intro front
        rw [List.countP_cons_of_neg (by simp), List.count_cons_self]
      simp only [counts, rise_cons_up]
      cases k with
      | zero => exact ⟨fun _ => ⟨[], List.nil_prefix, by decide⟩, fun _ => Nat.succ_pos _⟩
      | succ k =>
        refine (Nat.succ_lt_succ_iff.trans ih).trans ?_
        simp only [← Nat.add_assoc, Nat.add_lt_add_iff_right]
    · have counts : ∀ front : List String, (segment :: front).countP (· ≠ "..") + k <
          (segment :: front).count ".." ↔ front.countP (· ≠ "..") + (k + 1) < front.count ".." := by
        intro front
        rw [List.countP_cons_of_pos (by simpa using up), List.count_cons_of_ne up]
        omega
      simp only [counts, rise_cons_name up]
      exact Nat.lt_sub_iff_add_lt.trans ih

theorem rises_iff : Rises segments ↔ 0 < rise segments := by
  rw [lt_rise_iff]
  rfl

instance (segments : List String) : Decidable (Rises segments) :=
  decidable_of_iff _ rises_iff.symm

/-- Moves that cancel themselves leave no `..` over and take none from what follows. -/
theorem Cancels.rise_append {between : List String} (cancels : Cancels between)
    (rest : List String) : rise (between ++ rest) = rise rest := by
  induction cancels generalizing rest with
  | nil => rfl
  | pair named _ _ inner later =>
    rw [List.cons_append, List.append_assoc, List.cons_append, rise_cons_name named, inner,
      rise_cons_up, later, Nat.add_sub_cancel]

/-- Where some `..` has no name to cancel, all before the first of these cancels itself. -/
theorem exists_cancels (after : List String) (more : 0 < rise after) :
    ∃ between rest, after = between ++ ".." :: rest ∧ Cancels between ∧
      rise rest + 1 = rise after := by
  match after with
  | [] => cases more
  | segment :: others =>
    by_cases up : segment = ".."
    · rw [up, rise_cons_up]
      exact ⟨[], others, rfl, .nil, rfl⟩
    · -- The first `..` that is left over by the others cancels this name, the second is left over.
      rw [rise_cons_name up] at more ⊢
      obtain ⟨inner, onward, whole, cancels, left⟩ := exists_cancels others (by omega)
      have shorter : onward.length < others.length := by
        rw [whole, List.length_append, List.length_cons]
        omega
      obtain ⟨later, rest, whole', cancels', left'⟩ := exists_cancels onward (by omega)
      refine ⟨segment :: (inner ++ ".." :: later), rest, ?_, .pair up cancels cancels', by omega⟩
      rw [whole, whole', List.cons_append, List.append_assoc, List.cons_append]
termination_by after.length
decreasing_by
  · exact Nat.lt_succ_self _
  · exact Nat.lt_succ_of_lt shorter

/-- A name is cancelled just if a `..` among what follows has no other name to cancel. -/
theorem takesBack_iff : TakesBack after ↔ 0 < rise after := by
  constructor
  · rintro ⟨between, rest, rfl, cancels⟩
    rw [cancels.rise_append, rise_cons_up]
    exact Nat.succ_pos _
  · intro more
    obtain ⟨between, rest, whole, cancels, -⟩ := exists_cancels after more
    exact ⟨between, rest, whole, cancels⟩

instance (after : List String) : Decidable (TakesBack after) :=
  decidable_of_iff _ takesBack_iff.symm

end

/-- The names among the moves that are not cancelled. -/
def survivors : List String → List String
  | [] => []
  | segment :: rest =>
    if segment = ".." ∨ TakesBack rest then survivors rest else segment :: survivors rest

section

variable {rest : List String} {segment name : String}

theorem survivors_cons_up (rest : List String) : survivors (".." :: rest) = survivors rest :=
  if_pos (.inl rfl)

theorem survivors_cons_cancelled (taken : TakesBack rest) :
    survivors (segment :: rest) = survivors rest :=
  if_pos (.inr taken)

theorem survivors_cons_kept (named : name ≠ "..") (kept : ¬TakesBack rest) :
    survivors (name :: rest) = name :: survivors rest :=
  if_neg (not_or.2 ⟨named, kept⟩)

end

/-- Any moves after a climb: the `..` that have no name among them to cancel take back names of the
climb, then they step up; the names that are not cancelled are added. -/
theorem foldl_step_climb (height : Nat) (names segments : List String) :
    segments.foldl Climb.step ⟨height, names⟩ =
      ⟨height + (rise segments - names.length),
        names.take (names.length - rise segments) ++ survivors segments⟩ := by
  induction segments generalizing height names with
  | nil =>
    rw [List.foldl_nil, rise, survivors, Nat.zero_sub, Nat.sub_zero, List.take_length,
      List.append_nil]
    rfl
  | cons segment rest ih =>
    rw [List.foldl_cons, Climb.step]
    dsimp only
    by_cases up : segment = ".."
    · rw [if_pos up, up, rise_cons_up, survivors_cons_up]
      by_cases bottom : names = []
      · rw [if_pos bottom, ih, bottom]
        simp only [List.length_nil, List.take_nil, Nat.sub_zero, Nat.add_assoc, Nat.add_comm 1]
      · have inhabited : 0 < names.length := List.length_pos_iff.2 bottom
        have left : min (names.length - 1 - rise rest) (names.length - 1) =
          names.length - (rise rest + 1) := by omega
        have above : rise rest - (names.length - 1) = rise rest + 1 - names.length := by omega
        rw [if_neg bottom, ih, List.length_dropLast, List.dropLast_eq_take, List.take_take, left,
          above]
    · rw [if_neg up, rise_cons_name up, ih, List.length_append, List.length_singleton]
      by_cases taken : TakesBack rest
      · have more := takesBack_iff.1 taken
        have left : names.length + 1 - rise rest = names.length - (rise rest - 1) := by omega
        have above : rise rest - (names.length + 1) = rise rest - 1 - names.length := by omega
        rw [survivors_cons_cancelled taken, left, above,
          List.take_append_of_le_length (Nat.sub_le _ _)]
      · have level : rise rest = 0 := Nat.eq_zero_of_not_pos (mt takesBack_iff.2 taken)
        have whole : (names ++ [segment]).take (names.length + 1) = names ++ [segment] :=
          List.take_of_length_le (Nat.le_of_eq List.length_append)
        rw [survivors_cons_kept up taken, level, Nat.zero_sub, Nat.zero_sub, Nat.zero_sub,
          Nat.sub_zero, Nat.sub_zero, whole, List.take_length, List.append_assoc,
          List.singleton_append]

theorem climb_eq (path : String) : climb path = ⟨rise (moves path), survivors (moves path)⟩ := by
  rw [climb, foldl_step_climb, List.length_nil, List.take_nil, List.nil_append, Nat.sub_zero,
    Nat.zero_add]

/-- The normal form of a path: there is none if the path is relative and one of its beginnings has
more `..` than names, else it consists of the names that are not cancelled. -/
theorem normalize?_eq (path : String) :
    normalize? path =
      if isAbsolute path = false ∧ Rises (moves path) then none
      else some ⟨isAbsolute path, survivors (moves path)⟩ := by
  cases absolute : isAbsolute path with
  | true =>
    rw [normalize?_of_isAbsolute absolute, if_neg (fun both => nomatch both.1)]
    have target := normalizeFrom?_target ⟨0, []⟩ [] (moves path)
    rw [show (moves path).foldl Climb.step ⟨0, []⟩ = climb path from rfl, climb_eq, Climb.target,
      Climb.target, List.take_nil, List.take_nil] at target
    exact target
  | false =>
    rw [normalize?_eq_normal? absolute, climb_eq, Climb.normal?]
    dsimp only
    by_cases rises : Rises (moves path)
    · rw [if_neg (Nat.ne_of_gt (rises_iff.1 rises)), if_pos ⟨rfl, rises⟩]
    · rw [if_pos (Nat.eq_zero_of_not_pos (mt rises_iff.2 rises)), if_neg (fun both => rises both.2)]

theorem normalize?_eq_none_iff {path : String} :
    normalize? path = none ↔ isAbsolute path = false ∧ Rises (moves path) := by
  rw [normalize?_eq]
  split
  · next rises => exact ⟨fun _ => rises, fun _ => rfl⟩
  · next stays => exact ⟨(nomatch ·), fun rises => absurd rises stays⟩

theorem eq_of_normalize? {path : String} {q : NormalPath} (normal : normalize? path = some q) :
    q = ⟨isAbsolute path, survivors (moves path)⟩ := by
  rw [normalize?_eq] at normal
  split at normal
  · cases normal
  · exact (Option.some.inj normal).symm

/-! ## Normal forms of joined paths -/

theorem isAbsolute_join_eq (base : String) {other : String} (relative : isAbsolute other = false) :
    isAbsolute (join base other) = isAbsolute base := by
  cases absolute : isAbsolute base with
  | true => exact isAbsolute_join absolute
  | false =>
    by_cases blank : base = ""
    · rw [blank, join, relative]
      exact relative
    · obtain ⟨rest, whole⟩ := exists_append_eq_join base relative
      obtain ⟨c, chars, first⟩ := List.exists_cons_of_ne_nil (mt String.toList_eq_nil_iff.1 blank)
      rw [← whole, ← absolute, isAbsolute, isAbsolute, String.toList_append, first]
      rfl

/-- A relative path goes on from where the other one has led. -/
theorem normalize?_join_eq (base : String) {other : String} (relative : isAbsolute other = false) :
    normalize? (join base other) =
      (normalize? base).bind (normalizeFrom? · ((moves other).map stepOf)) := by
  have same := isAbsolute_join_eq base relative
  cases absolute : isAbsolute base with
  | true =>
    rw [normalize?_of_isAbsolute (same.trans absolute), normalize?_of_isAbsolute absolute,
      moves_join base relative, List.map_append, normalizeFrom?_append]
  | false =>
    rw [normalize?_of_not_isAbsolute (same.trans absolute), normalize?_of_not_isAbsolute absolute,
      moves_join base relative, List.map_append, normalizeFrom?_append]

/-- What is joined to a path counts by the normal form of the path. -/
theorem normalize?_join_congr {base base' : String} (same : normalize? base = normalize? base')
    (other : String) : normalize? (join base other) = normalize? (join base' other) := by
  cases absolute : isAbsolute other with
  | true => rw [join, join, if_pos absolute, if_pos absolute]
  | false => rw [normalize?_join_eq base absolute, normalize?_join_eq base' absolute, same]

/-- The normal form of a path. It is the same if it is worked out on texts, as one that each step
changes. A path without one is relative and has more `..` than names in one of its beginnings. Any
other is absolute if the path is, and its steps are the names that are not cancelled. It is its own
normal form, and what is joined to it has the normal form of what is joined to the path. -/
theorem normalize?_cancels (path : String) :
    (steps path).foldlM retext "" = (normalize? path).map NormalPath.toPath ∧
      (normalize? path = none ↔ isAbsolute path = false ∧ Rises (moves path)) ∧
      ∀ q, normalize? path = some q →
        isAbsolute q.toPath = isAbsolute path ∧
        (∀ step ∈ steps q.toPath, step ≠ .here ∧ step ≠ .up) ∧
        steps q.toPath =
          (if isAbsolute path then [.root] else []) ++ (survivors (moves path)).map .down ∧
        normalize? q.toPath = some q ∧
        ∀ other, normalize? (join path other) = normalize? (join q.toPath other) := by
  have first : ∀ name ∈ NormalPath.names ⟨false, []⟩, IsName name := fun _ mem => nomatch mem
  refine ⟨NormalPath.foldlM_retext first fun _ => isName_of_down_mem, normalize?_eq_none_iff,
    fun q normal => ?_⟩
  have proper := isName_of_normalize? normal
  have again := NormalPath.normalize?_toPath proper
  have taken := NormalPath.steps_toPath proper
  have absolute := NormalPath.isAbsolute_toPath proper
  have plain : ∀ step ∈ steps q.toPath, step ≠ .here ∧ step ≠ .up := by
    intro step mem
    rw [taken] at mem
    obtain mem | mem := List.mem_append.1 mem
    · split at mem
      · rw [List.mem_singleton.1 mem]
        decide
      · cases mem
    · obtain ⟨name, -, rfl⟩ := List.mem_map.1 mem
      exact ⟨Step.noConfusion, Step.noConfusion⟩
  refine ⟨?_, plain, ?_, again, normalize?_join_congr (normal.trans again.symm)⟩
  · rw [absolute, eq_of_normalize? normal]
  · rw [taken, eq_of_normalize? normal]

/-- A path from the root that climbs above it, and one that climbs above where it starts. -/
theorem normalize?_cancels_mixed :
    normalize? "/../a/./b/../../c//d/" = some ⟨true, ["c", "d"]⟩ ∧
      survivors (moves "/../a/./b/../../c//d/") = ["c", "d"] ∧
      (steps "/../a/./b/../../c//d/").foldlM retext "" = some "/c/d" ∧
      (∀ other, normalize? (join "/../a/./b/../../c//d/" other) = normalize? (join "/c/d" other)) ∧
      Rises (moves "a/../../a/b") ∧ normalize? "a/../../a/b" = none := by
  have normal : normalize? "/../a/./b/../../c//d/" = some ⟨true, ["c", "d"]⟩ := by decide +kernel
  have left : survivors (moves "/../a/./b/../../c//d/") = ["c", "d"] := by decide +kernel
  have rises : Rises (moves "a/../../a/b") := by decide +kernel
  have relative : isAbsolute "a/../../a/b" = false := by decide
  obtain ⟨text, -, form⟩ := normalize?_cancels "/../a/./b/../../c//d/"
  obtain ⟨-, -, -, -, onward⟩ := form _ normal
  rw [normal] at text
  exact ⟨normal, left, text, onward, rises,
    (normalize?_cancels "a/../../a/b").2.1.2 ⟨relative, rises⟩⟩

end Path

end Fleet
