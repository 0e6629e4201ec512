import Mathlib.Data.List.Induction
import Fleet.Proofs.Spellings

/-!
# Discovery of projects

A project is searched for by the ancestors of a path. From the one that is found the path of its
configuration file is put together, and from that path the loader works out the root again. The
search finds the nearest ancestor that is marked, and the root is where this ancestor really lies.

* `exists_above_iff`: the ancestors of a path, by their moves.
* `Path.find?_ancestors_eq_some_iff`, `Path.find?_ancestors_eq_none_iff`: what the search finds.
* `resolve_rootOf_configPath`: the root is the directory that the search found.
* `discover_decides`: what is discovered from a path.
-/

namespace Fleet

namespace Path

/-- A path at or above another one. -/
inductive Above (top : String) : String → Prop where
  | self : Above top top
  | parent {path parent : String} : parent? path = some parent → Above top parent →
    Above top path

variable {path parent top : String}

/-- An absolute path without a move has no parent. -/
theorem moves_ne_nil_of_parent? (absolute : isAbsolute path = true)
    (found : parent? path = some parent) : moves path ≠ [] := by
  intro none
  have idle : (segments path).all isIdle = true := by
    refine List.all_eq_true.2 fun segment mem => ?_
    simpa using List.filter_eq_nil_iff.1 none segment mem
  rw [parent?, if_pos absolute, if_pos idle] at found
  cases found

theorem length_lt_of_parent? (absolute : isAbsolute path = true)
    (found : parent? path = some parent) : parent.length < path.length := by
  obtain ⟨⟨rest, begins⟩, _, fewer⟩ := isParent_of_parent? found
  have written : rest.length ≠ 0 := by
    intro blank
    rw [String.length_eq_zero_iff] at blank
    rw [blank, String.append_empty] at begins
    have moving := List.length_pos_iff.2 (moves_ne_nil_of_parent? absolute found)
    have shorter := congrArg List.length fewer
    rw [begins, List.length_dropLast] at shorter
    omega
  rw [← begins, String.length_append]
  omega

theorem Above.isAbsolute (above : Above top path) (absolute : isAbsolute path = true) :
    isAbsolute top = true := by
  induction above with
  | self => exact absolute
  | parent found _ ih => exact ih ((isParent_of_parent? found).absolute.trans absolute)

theorem Above.eq_or_length_lt (above : Above top path) (absolute : Path.isAbsolute path = true) :
    top = path ∨ top.length < path.length := by
  induction above with
  | self => exact .inl rfl
  | parent found _ ih =>
    have shorter := length_lt_of_parent? absolute found
    rcases ih ((isParent_of_parent? found).absolute.trans absolute) with rfl | less
    · exact .inr shorter
    · exact .inr (Nat.lt_trans less shorter)

theorem Above.antisymm (above : Above top path) (below : Above path top)
    (absolute : Path.isAbsolute path = true) : top = path := by
  rcases above.eq_or_length_lt absolute with same | less
  · exact same
  · rcases below.eq_or_length_lt (above.isAbsolute absolute) with same | more
    · exact same.symm
    · exact absurd less (Nat.lt_asymm more)

theorem Above.moves_prefix (above : Above top path) : moves top <+: moves path := by
  induction above with
  | self => exact List.prefix_rfl
  | parent found _ ih =>
    rw [(isParent_of_parent? found).moves] at ih
    exact ih.trans (List.dropLast_prefix _)

/-- A path has an ancestor for each of the moves that it begins with. -/
theorem exists_above_iff {front : List String} :
    (∃ top, Above top path ∧ moves top = front) ↔ front <+: moves path := by
  constructor
  · rintro ⟨top, above, rfl⟩
    exact above.moves_prefix
  · intro begins
    generalize whole : moves path = all at begins
    induction all using List.reverseRecOn generalizing path with
    | nil => exact ⟨path, .self, whole.trans (List.prefix_nil.1 begins).symm⟩
    | append_singleton before last ih =>
      rcases List.prefix_concat_iff.1 begins with same | fewer
      · exact ⟨path, .self, whole.trans same.symm⟩
      · have moving : moves path ≠ [] := by
          rw [whole]
          exact List.concat_ne_nil last before
        obtain ⟨parent, found⟩ := exists_parent? moving
        have above : moves parent = before := by
          rw [(isParent_of_parent? found).moves, whole, List.dropLast_concat]
        obtain ⟨top, onward, same⟩ := ih above fewer
        exact ⟨top, .parent found onward, same⟩

/-! ## Searching ancestors -/

/-- The nearest path at or above another one of which something holds. -/
structure Nearest (holds : String → Bool) (path top : String) : Prop where
  above : Above top path
  held : holds top = true
  deepest : ∀ other, Above other path → holds other = true → Above other top

variable {holds : String → Bool}

theorem Nearest.unique {other : String} (nearest : Nearest holds path top)
    (nearest' : Nearest holds path other) (absolute : isAbsolute path = true) : top = other :=
  (nearest'.deepest top nearest.above nearest.held).antisymm
    (nearest.deepest other nearest'.above nearest'.held) (nearest'.above.isAbsolute absolute)

/-- The search finds the nearest path, and nothing only if there is none. -/
theorem find?_ancestorsUpTo {n : Nat} (absolute : isAbsolute path = true)
    (enough : path.length < n) :
    (∀ top, (ancestorsUpTo n path).find? holds = some top → Nearest holds path top) ∧
      ((ancestorsUpTo n path).find? holds = none →
        ∀ top, Above top path → holds top = false) := by
  induction n generalizing path with
  | zero => exact absurd enough (Nat.not_lt_zero _)
  | succ n ih =>
    unfold ancestorsUpTo
    cases own : holds path with
    | true =>
      rw [List.find?_cons_of_pos own]
      refine ⟨fun top found => ?_, fun none => ?_⟩
      · obtain rfl := Option.some.inj found
        exact ⟨.self, own, fun other above _ => above⟩
      · cases none
    | false =>
      rw [List.find?_cons_of_neg (by rw [own]; exact Bool.false_ne_true)]
      cases known : parent? path with
      | none =>
        refine ⟨fun top found => ?_, fun _ top above => ?_⟩
        · cases found
        · cases above with
          | self => exact own
          | parent found =>
            rw [known] at found
            cases found
      | some parent =>
        have shorter := length_lt_of_parent? absolute known
        obtain ⟨nearest, none⟩ :=
          ih ((isParent_of_parent? known).absolute.trans absolute) (by omega)
        -- What is marked above the path is above its parent, as the path is not marked itself.
        have onward : ∀ top, Above top path → top = path ∨ Above top parent := by
          intro top above
          cases above with
          | self => exact .inl rfl
          | parent found above =>
            rw [known] at found
            rw [Option.some.inj found]
            exact .inr above
        refine ⟨fun top found => ?_, fun found top above => ?_⟩
        · obtain ⟨above, held, deepest⟩ := nearest top found
          refine ⟨.parent known above, held, fun other above marked => ?_⟩
          rcases onward other above with rfl | above
          · rw [own] at marked
            cases marked
          · exact deepest other above marked
        · rcases onward top above with rfl | above
          · exact own
          · exact none found top above

theorem find?_ancestors_eq_none_iff (absolute : isAbsolute path = true) :
    (ancestors path).find? holds = none ↔ ∀ top, Above top path → holds top = false := by
  obtain ⟨nearest, none⟩ := @find?_ancestorsUpTo path holds _ absolute (Nat.lt_succ_self _)
  refine ⟨none, fun free => ?_⟩
  cases found : (ancestors path).find? holds with
  | none => rfl
  | some top =>
    obtain ⟨above, held, _⟩ := nearest top found
    rw [free top above] at held
    cases held

theorem find?_ancestors_eq_some_iff (absolute : isAbsolute path = true) :
    (ancestors path).find? holds = some top ↔ Nearest holds path top := by
  obtain ⟨nearest, none⟩ := @find?_ancestorsUpTo path holds _ absolute (Nat.lt_succ_self _)
  refine ⟨nearest top, fun is => ?_⟩
  cases found : (ancestors path).find? holds with
  | none =>
    have free := none found top is.above
    rw [is.held] at free
    cases free
  | some other => rw [(nearest other found).unique is absolute]

end Path

namespace Project

variable {w : World} {start directory : String} {there : Location}

/-! ## The layout of a project -/

/-- Whether a directory holds the configuration file of a project. -/
def isMarked (w : World) (directory : String) : Bool :=
  w.tree.isFile w.here? (configPath directory)

theorem moves_configPath (directory : String) :
    Path.moves (configPath directory) = Path.moves directory ++ [markerName] ++ [configName] := by
  have marker : Path.moves markerName = [markerName] := by decide +kernel
  have config : Path.moves configName = [configName] := by decide +kernel
  rw [configPath, Path.moves_join _ (by decide), Path.moves_join _ (by decide), marker, config]

/-- The path of the configuration file begins with that of the directory. -/
theorem exists_append_eq_configPath (directory : String) :
    ∃ rest, directory ++ rest = configPath directory := by
  obtain ⟨rest, marker⟩ := @Path.exists_append_eq_join directory markerName (by decide)
  obtain ⟨more, config⟩ :=
    @Path.exists_append_eq_join (Path.join directory markerName) configName (by decide)
  exact ⟨rest ++ more, by rw [← String.append_assoc, marker, config, configPath]⟩

/-- If the configuration file is there, the directory is, and the root that is worked out from the
path of the file is the same one. -/
theorem resolve_rootOf_configPath (absolute : Path.isAbsolute directory = true)
    (led : w.tree.resolve w.here? (configPath directory) = .ok there) :
    ∃ root, w.tree.resolve w.here? directory = .ok root ∧
      w.tree.resolve w.here? (rootOf (configPath directory)) = .ok root := by
  obtain ⟨origin, links, starts, covered, leads⟩ := FileTree.resolve_eq_ok_iff.1 led
  have all := moves_configPath directory
  have onward := leads.moves
  rw [all, List.append_assoc] at onward
  obtain ⟨root, links₁, links₂, rfl, first, second⟩ := onward.split
  -- Every path with the moves of the directory leads there.
  have found : ∀ path, FileTree.startOf w.here? path = .ok origin →
      Path.moves path = Path.moves directory → w.tree.resolve w.here? path = .ok root := by
    intro path begins same
    rw [← same] at first
    rw [FileTree.resolve_of_leads begins (FileTree.leads_of_moves second.holdsDirectory first),
      if_pos (by omega)]
  obtain ⟨rest, begins⟩ := exists_append_eq_configPath directory
  refine ⟨root, found directory (FileTree.startOf_of_begins absolute begins starts) rfl,
    found _ (startOf_rootOf all starts) ?_⟩
  rw [moves_rootOf all, rootMoves, List.getLast?_concat, if_pos rfl, List.dropLast_concat]

/-- A marked directory leads somewhere, and the root that is worked out from the path of its
configuration file leads there as well. -/
theorem root_of_isMarked (absolute : Path.isAbsolute directory = true)
    (marked : isMarked w directory = true) :
    ∃ root, w.tree.resolve w.here? directory = .ok root ∧
      w.tree.resolve w.here? (rootOf (configPath directory)) = .ok root := by
  obtain ⟨there, led⟩ : ∃ there, w.tree.resolve w.here? (configPath directory) = .ok there := by
    have leads : ∀ entry, w.tree.entryAt w.here? (configPath directory) = .ok entry →
        ∃ there, w.tree.resolve w.here? (configPath directory) = .ok there := by
      intro entry stands
      obtain ⟨there, led, _⟩ := of_bind_ok stands
      exact ⟨there, led⟩
    rw [isMarked, FileTree.isFile] at marked
    split at marked
    · next stands => exact leads _ stands
    · next stands => exact leads _ stands
    · cases marked
  exact resolve_rootOf_configPath absolute led

theorem ofText_ne_notFound {path text : String} :
    Configuration.ofText path text ≠ .error (.notFound start) := by
  intro failed
  rw [Configuration.ofText] at failed
  cases parsed : Configuration.parse text with
  | ok configuration =>
    rw [parsed] at failed
    cases failed
  | error e =>
    rw [parsed] at failed
    cases e <;> cases failed

/-- How the project of a marked directory fails to load. -/
theorem load_configPath_eq_error_iff (absolute : Path.isAbsolute directory = true)
    (marked : isMarked w directory = true) {e : LoadError} :
    load w (configPath directory) = .error e ↔
      (∃ cause, w.readText (configPath directory) = .error cause ∧
        e = .unreadable (configPath directory) cause) ∨
      (∃ text, w.readText (configPath directory) = .ok text ∧
        Configuration.ofText (configPath directory) text = .error e) ∨
      ∃ text configuration, w.readText (configPath directory) = .ok text ∧
        Configuration.ofText (configPath directory) text = .ok configuration ∧
        w.tree.canonicalize w.here? (rootOf (configPath directory)) = .error .nameTooLong ∧
        e = .unreadable (rootOf (configPath directory)) .nameTooLong := by
  obtain ⟨root, _, led⟩ := root_of_isMarked absolute marked
  unfold load
  constructor
  · intro failed
    cases read : w.readText (configPath directory) with
    | error cause =>
      rw [read] at failed
      exact .inl ⟨cause, rfl, (Except.error.inj failed).symm⟩
    | ok text =>
      rw [bind_ok (mapError_ok read)] at failed
      cases parsed : Configuration.ofText (configPath directory) text with
      | error e' =>
        rw [parsed] at failed
        exact .inr (.inl ⟨text, rfl, parsed.trans (congrArg _ (Except.error.inj failed))⟩)
      | ok configuration =>
        rw [bind_ok parsed] at failed
        dsimp only at failed
        rcases FileTree.canonicalize_eq_ok_or led with found | tooLong
        · rw [bind_ok (mapError_ok found)] at failed
          cases failed
        · rw [tooLong] at failed
          exact .inr (.inr ⟨text, configuration, rfl, parsed, tooLong,
            (Except.error.inj failed).symm⟩)
  · rintro (⟨cause, read, rfl⟩ | ⟨text, read, failed⟩ |
      ⟨text, configuration, read, parsed, tooLong, rfl⟩)
    · rw [read]
      rfl
    · rw [bind_ok (mapError_ok read), failed]
      rfl
    · rw [bind_ok (mapError_ok read), bind_ok parsed]
      dsimp only
      rw [tooLong]
      rfl

/-- What is discovered from an absolute path. Nothing is, just if no ancestor is marked. Else the
nearest marked ancestor is loaded: it fails just if its configuration file cannot be read or is no
configuration, or if the real path of its root goes over one that is too long, and its root is where
the ancestor really lies. -/
theorem discover_decides (absolute : Path.isAbsolute start = true) :
    (discover w start = .error (.notFound start) ↔
      ∀ directory, Path.Above directory start → isMarked w directory = false) ∧
    ((∃ directory, Path.Above directory start ∧ isMarked w directory = true) →
      ∃ directory, Path.Nearest (isMarked w) start directory) ∧
    ∀ directory, Path.Nearest (isMarked w) start directory →
      discover w start = load w (configPath directory) ∧
      (∀ e, discover w start = .error e ↔
        (∃ cause, w.readText (configPath directory) = .error cause ∧
          e = .unreadable (configPath directory) cause) ∨
        (∃ text, w.readText (configPath directory) = .ok text ∧
          Configuration.ofText (configPath directory) text = .error e) ∨
        ∃ text configuration, w.readText (configPath directory) = .ok text ∧
          Configuration.ofText (configPath directory) text = .ok configuration ∧
          w.tree.canonicalize w.here? (rootOf (configPath directory)) = .error .nameTooLong ∧
          e = .unreadable (rootOf (configPath directory)) .nameTooLong) ∧
      ∃ root, w.tree.resolve w.here? directory = .ok root ∧
        ∀ loaded, discover w start = .ok loaded → loaded.root = FileTree.pathOf root := by
  have missed : findRoot? w start = none ↔
      ∀ directory, Path.Above directory start → isMarked w directory = false :=
    Path.find?_ancestors_eq_none_iff absolute
  have found : ∀ directory, findRoot? w start = some directory ↔
      Path.Nearest (isMarked w) start directory :=
    fun _ => Path.find?_ancestors_eq_some_iff absolute
  have loads : ∀ directory, Path.Nearest (isMarked w) start directory →
      discover w start = load w (configPath directory) := by
    intro directory nearest
    unfold discover
    rw [(found directory).2 nearest]
  have rooted : ∀ directory, Path.Nearest (isMarked w) start directory →
      Path.isAbsolute directory = true :=
    fun _ nearest => nearest.above.isAbsolute absolute
  refine ⟨⟨fun failed => missed.1 ?_, fun free => ?_⟩, ?_, fun directory nearest => ?_⟩
  · cases search : findRoot? w start with
    | none => rfl
    | some directory =>
      have nearest := (found directory).1 search
      rw [loads directory nearest,
        load_configPath_eq_error_iff (rooted directory nearest) nearest.held] at failed
      rcases failed with ⟨_, _, same⟩ | ⟨_, _, failed⟩ | ⟨_, _, _, _, _, same⟩
      · cases same
      · exact absurd failed ofText_ne_notFound
      · cases same
  · unfold discover
    rw [missed.2 free]
  · rintro ⟨directory, above, marked⟩
    cases search : findRoot? w start with
    | none =>
      rw [missed.1 search directory above] at marked
      cases marked
    | some nearest => exact ⟨nearest, (found nearest).1 search⟩
  · obtain ⟨root, led, ledRoot⟩ := root_of_isMarked (rooted directory nearest) nearest.held
    rw [loads directory nearest]
    refine ⟨rfl, fun e => load_configPath_eq_error_iff (rooted directory nearest) nearest.held,
      root, led, fun loaded outcome => ?_⟩
    obtain ⟨_, _, _, real, ledReal, same⟩ := of_load outcome
    rw [same, Except.ok.inj (ledReal.symm.trans ledRoot)]

/-- The project `/.repomux`, with an empty configuration file and another directory. -/
def nested : World where
  tree :=
    { entries := [([".repomux"], .directory 1), ([".repomux", "sub"], .directory 2),
        ([".repomux", ".repomux"], .directory 3),
        ([".repomux", ".repomux", "repomux.toml"], .file [] 0o644)]
      nextSerial := 4 }
  current := 0
  output := []
  errors := []

theorem leads_nested : nested.tree.Leads [] [".repomux", "sub", ".."] 0 [".repomux"] :=
  .down ⟨0, rfl⟩ ⟨by decide, by decide, by decide⟩ ⟨1, rfl⟩ <|
    .down ⟨1, rfl⟩ ⟨by decide, by decide, by decide⟩ ⟨2, rfl⟩ <| .up ⟨2, rfl⟩ .arrived

theorem entryAt_nested :
    nested.tree.entryAt nested.here? (configPath "/.repomux/sub/..") = .ok (.file [] 0o644) := by
  have file : configPath "/.repomux/sub/.." = "/.repomux/sub/../.repomux/repomux.toml" := by
    decide
  have path : FileTree.walkSegments "/.repomux/sub/../.repomux/repomux.toml" =
      [".repomux", "sub", ".."] ++ [".repomux", "repomux.toml"] := by decide +kernel
  rw [file]
  have onward : nested.tree.Leads [".repomux"] [".repomux", "repomux.toml"] 0
      [".repomux", ".repomux", "repomux.toml"] :=
    .down ⟨1, rfl⟩ ⟨by decide, by decide, by decide⟩ ⟨3, rfl⟩ <|
      .ends ⟨3, rfl⟩ ⟨by decide, by decide, by decide⟩ rfl (fun _ same => nomatch same)
        fun _ same => nomatch same
  have whole := leads_nested.append onward
  rw [← path] at whole
  have starts : FileTree.startOf nested.here? "/.repomux/sub/../.repomux/repomux.toml" = .ok [] :=
    rfl
  exact FileTree.entryAt_of_resolve (FileTree.resolve_of_leads starts whole) rfl

/-- The nearest project of a path that does not exist, by a directory named as a marker and spelled
with `..` at its end. -/
theorem nearest_nested :
    Path.Nearest (isMarked nested) "/.repomux/sub/../gone" "/.repomux/sub/.." := by
  have parent : Path.parent? "/.repomux/sub/../gone" = some "/.repomux/sub/.." := by decide +kernel
  have own : isMarked nested "/.repomux/sub/../gone" = false := by
    have file : configPath "/.repomux/sub/../gone" =
        "/.repomux/sub/../gone/.repomux/repomux.toml" := by decide
    have path : FileTree.walkSegments "/.repomux/sub/../gone/.repomux/repomux.toml" =
        [".repomux", "sub", "..", "gone", ".repomux", "repomux.toml"] := by decide +kernel
    have refused : nested.tree.resolve nested.here? (configPath "/.repomux/sub/../gone") =
        .error .noSuchFile := by
      rw [file]
      rw [FileTree.resolve_eq_walk rfl path]
      simp +decide [FileTree.walk, FileTree.find?, nested, List.lookup_cons]
    rw [isMarked, FileTree.isFile, FileTree.entryAt, refused]
    rfl
  refine ⟨.parent parent .self, ?_, fun other above marked => ?_⟩
  · rw [isMarked, FileTree.isFile, entryAt_nested]
  · cases above with
    | self =>
      rw [own] at marked
      cases marked
    | parent found above =>
      rw [parent] at found
      rwa [← Option.some.inj found] at above

/-- The root is the directory that is found, though it is named as a marker. -/
theorem discover_decides_nested :
    Path.isAbsolute "/.repomux/sub/../gone" = true ∧
      Path.Nearest (isMarked nested) "/.repomux/sub/../gone" "/.repomux/sub/.." ∧
      ∃ loaded, discover nested "/.repomux/sub/../gone" = .ok loaded ∧
        loaded.root = "/.repomux" := by
  have absolute : Path.isAbsolute "/.repomux/sub/../gone" = true := by decide
  obtain ⟨_, _, decided⟩ := discover_decides (w := nested) absolute
  obtain ⟨_, fails, root, led, rooted⟩ := decided _ nearest_nested
  have read : nested.readText (configPath "/.repomux/sub/..") = .ok "" := by
    rw [World.readText, bind_ok entryAt_nested]
    rfl
  have ledRoot : nested.tree.resolve nested.here? "/.repomux/sub/.." = .ok [".repomux"] := by
    have path : FileTree.walkSegments "/.repomux/sub/.." = [".repomux", "sub", ".."] := by
      decide +kernel
    have leads := leads_nested
    rw [← path] at leads
    have starts : FileTree.startOf nested.here? "/.repomux/sub/.." = .ok [] := rfl
    exact FileTree.resolve_of_leads starts leads
  obtain rfl := Except.ok.inj (ledRoot.symm.trans led)
  refine ⟨absolute, nearest_nested, ?_⟩
  cases outcome : discover nested "/.repomux/sub/../gone" with
  | ok loaded => exact ⟨loaded, rfl, rooted loaded outcome⟩
  | error e =>
    rcases (fails e).1 outcome with ⟨_, failed, _⟩ | ⟨text, read', failed⟩ | ⟨_, _, _, _, failed, _⟩
    · rw [read] at failed
      cases failed
    · obtain rfl := Except.ok.inj (read.symm.trans read')
      cases failed
    · have shallow : nested.tree.Shallow := by decide +kernel
      obtain ⟨_, _, ledRoot⟩ :=
        root_of_isMarked (by decide +kernel) (nearest_nested.held)
      rw [FileTree.canonicalize_of_shallow shallow ledRoot] at failed
      cases failed

end Project

end Fleet
