import Fleet.Proofs.Mentions
import Fleet.Proofs.Values

/-!
# Tables of parameters

Constants, variables and attributes are tables: a key has one value or none, and the order in which
the entries are listed means nothing. What the templates for a repository can use is a table again,
and it is told here from the three tables alone, for a shell whose answer to a line is always the
same.

* `Lists.get?_ofList`: looking up a key finds what the table has.
* `Attribute.run_evaluate`: what an attribute comes to.
* `Repository.bindings_of_tables`: what the parameters of a repository are, and when they cannot be
  worked out.
-/

namespace Fleet

open Attempting (Alike alike_adapt)

/-! ## Listing a table -/

/-- The entries are those of a table, each of them once, in some order. -/
structure Lists {α : Type} (entries : List (String × α)) (table : String → Option α) : Prop where
  unique : (entries.map Prod.fst).Nodup
  mem_iff : ∀ key value, (key, value) ∈ entries ↔ table key = some value

/-- An entry is found by its key if no other has the same. -/
theorem lookup_of_mem {α : Type} {entries : List (String × α)}
    (unique : (entries.map Prod.fst).Nodup) {key : String} {value : α}
    (mem : (key, value) ∈ entries) : entries.lookup key = some value := by
  obtain ⟨before, after, rfl⟩ := List.append_of_mem mem
  refine List.lookup_eq_some_iff.2 ⟨before, after, rfl, fun entry early => bne_iff_ne.2 ?_⟩
  rw [List.map_append, List.nodup_append] at unique
  exact fun same =>
    unique.2.2 entry.1 (List.mem_map_of_mem early) key List.mem_cons_self same.symm

theorem mem_of_lookup {α : Type} {entries : List (String × α)} {key : String} {value : α}
    (found : entries.lookup key = some value) : (key, value) ∈ entries := by
  obtain ⟨before, after, rfl, -⟩ := List.lookup_eq_some_iff.1 found
  exact List.mem_append_right _ List.mem_cons_self

namespace Lists

variable {α : Type} {entries : List (String × α)} {table : String → Option α}

/-- Entries with a key each make a table. -/
theorem of_nodup (unique : (entries.map Prod.fst).Nodup) :
    Lists entries fun key => entries.lookup key :=
  ⟨unique, fun _ _ => ⟨lookup_of_mem unique, mem_of_lookup⟩⟩

/-- A key is found wherever it is listed. -/
theorem lookup_eq (lists : Lists entries table) (key : String) :
    entries.lookup key = table key := by
  refine Option.ext fun value => ?_
  rw [← lists.mem_iff]
  exact ⟨mem_of_lookup, lookup_of_mem lists.unique⟩

theorem reverse (lists : Lists entries table) : Lists entries.reverse table where
  unique := by
    rw [List.map_reverse]
    exact List.pairwise_reverse.2 (lists.unique.imp Ne.symm)
  mem_iff key value := by rw [List.mem_reverse, lists.mem_iff]

theorem get?_ofList {entries : List (String × String)} {table : String → Option String}
    (lists : Lists entries table) (key : String) :
    (Bindings.ofList entries).get? key = table key :=
  lists.reverse.lookup_eq key

end Lists

/-! ## What attributes come to -/

section

variable (answers : String → Except ExecutionError String) (bindings : Bindings)

/-- The value of a text as a template, if lines are answered like this. -/
def Template.valueOf (text : String) : Except TemplateError String :=
  ((substitute (fun line => ExceptT.mk (pure (answers line))) bindings text).run ()).1

/-- The text of a value; only text is a template. -/
def Scalar.valueOf : Scalar → Except TemplateError String
  | .text s => Template.valueOf answers bindings s
  | value => .ok value.render

/-- The text of an attribute. That of a list has a blank between two values, and fails as the first
of them that fails. -/
def Attribute.valueOf : Attribute → Except TemplateError String
  | .scalar value => value.valueOf answers bindings
  | .list values =>
    (values.mapM (Scalar.valueOf answers bindings)).map (String.intercalate " ")

end

section

variable {σ : Type} {capture : Capture σ} {answers : String → Except ExecutionError String}
  {bindings bindings' : Bindings}

/-- The answer to a line is always the same. -/
def Steady (capture : Capture σ) (answers : String → Except ExecutionError String) : Prop :=
  ∀ line s, ((capture line).run s).1 = answers line

variable (steady : Steady capture answers) (same : ∀ key, bindings.get? key = bindings'.get? key)

include steady same

theorem Template.run_substitute (text : String) (s : σ) :
    ((substitute capture bindings text).run s).1 = valueOf answers bindings' text := by
  have captured : ∀ line, Alike (fun (_ : σ) (_ : Unit) => True) (capture line)
      (ExceptT.mk (pure (answers line))) := fun line s _ _ => ⟨steady line s, trivial⟩
  have alike : Alike _ (substitute capture bindings text) (substitute _ bindings' text) :=
    alike_substitute fun a _ => a.alike_evaluate (fun key _ => same key) fun line _ => captured line
  exact (alike s () trivial).1

theorem Scalar.run_evaluate (value : Scalar) (s : σ) :
    ((value.evaluate capture bindings).run s).1 = value.valueOf answers bindings' := by
  cases value with
  | text text => exact Template.run_substitute steady same text s
  | bool | integer | float => rfl

theorem Scalar.run_evaluateAll (values : List Scalar) (s : σ) :
    ((evaluateAll capture bindings values).run s).1 =
      values.mapM (Scalar.valueOf answers bindings') := by
  induction values generalizing s with
  | nil => rfl
  | cons value rest ih =>
    rw [evaluateAll, Attempting.run_both, value.run_evaluate steady same, ih, List.mapM_cons]
    cases value.valueOf answers bindings' with
    | error e => rfl
    | ok first => cases rest.mapM (Scalar.valueOf answers bindings') <;> rfl

theorem Attribute.run_evaluate (value : Attribute) (s : σ) :
    ((value.evaluate capture bindings).run s).1 = value.valueOf answers bindings' := by
  cases value with
  | scalar value => exact value.run_evaluate steady same s
  | list values =>
    rw [evaluate, Attempting.run_map, Scalar.run_evaluateAll steady same]
    rfl

/-- The attributes that are evaluated come to what they do by themselves. -/
theorem inOrder_entries (attributes : List (String × Attribute)) (s : σ) :
    InOrder (EntryComes fun value result => result = value.valueOf answers bindings')
      (attributes.filter fun entry => !isReservedName entry.1)
      ((evaluateAttributes capture bindings attributes).run s).1 :=
  inOrder_evaluateAttributes_of (fun value => value.run_evaluate steady same) attributes s

end

/-! ## Attributes with their values -/

/-- A text under the key of an attribute that it is the value of. -/
def Entitled (valueOf : Attribute → Except TemplateError String) (entry : String × Attribute)
    (named : String × String) : Prop :=
  entry.1 = named.1 ∧ valueOf entry.2 = .ok named.2

section

variable {valueOf : Attribute → Except TemplateError String}

theorem of_entryComes_error {entry : String × Attribute} {failure : AttributeError}
    (comes : EntryComes (fun value result => result = valueOf value) entry (.error failure)) :
    entry.1 = failure.key ∧ valueOf entry.2 = .error failure.cause := by
  obtain ⟨text, result, same⟩ := comes
  rw [result] at same
  cases outcome : valueOf entry.2 with
  | ok text =>
    rw [outcome] at same
    cases same
  | error cause =>
    rw [outcome] at same
    cases same
    exact ⟨rfl, rfl⟩

theorem of_entryComes_ok {entry : String × Attribute} {named : String × String}
    (comes : EntryComes (fun value result => result = valueOf value) entry (.ok named)) :
    Entitled valueOf entry named := by
  obtain ⟨text, result, same⟩ := comes
  rw [result] at same
  cases outcome : valueOf entry.2 with
  | ok text =>
    rw [outcome] at same
    cases same
    exact ⟨rfl, outcome⟩
  | error cause =>
    rw [outcome] at same
    cases same

/-- The values are listed under the keys of the attributes they are values of. -/
theorem forall₂_keys {evaluated : List (String × Attribute)} {named : List (String × String)}
    (all : List.Forall₂ (Entitled valueOf) evaluated named) :
    named.map Prod.fst = evaluated.map Prod.fst ∧
      (∀ key text, (key, text) ∈ named → ∃ value, (key, value) ∈ evaluated ∧
        valueOf value = .ok text) ∧
      ∀ key value, (key, value) ∈ evaluated → ∃ text, valueOf value = .ok text ∧
        (key, text) ∈ named := by
  induction all with
  | nil => exact ⟨rfl, fun _ _ mem => (nomatch mem), fun _ _ mem => (nomatch mem)⟩
  | @cons entry one rest others first _ ih =>
    obtain ⟨keys, back, forth⟩ := ih
    obtain ⟨key, value⟩ := entry
    obtain ⟨key', text⟩ := one
    obtain ⟨rfl, outcome⟩ := first
    refine ⟨congrArg (key :: ·) keys, fun key' text' mem => ?_, fun key' value' mem => ?_⟩
    · rcases List.mem_cons.1 mem with same | mem
      · cases same
        exact ⟨value, List.mem_cons_self, outcome⟩
      · obtain ⟨value', held, outcome'⟩ := back key' text' mem
        exact ⟨value', List.mem_cons_of_mem _ held, outcome'⟩
    · rcases List.mem_cons.1 mem with same | mem
      · cases same
        exact ⟨text, outcome, List.mem_cons_self⟩
      · obtain ⟨text', outcome', held⟩ := forth key' value' mem
        exact ⟨text', outcome', List.mem_cons_of_mem _ held⟩

/-- The values of attributes make a table, in which only attributes that are evaluated have a
value. -/
theorem Lists.values {attributes : List (String × Attribute)} {table : String → Option Attribute}
    (lists : Lists attributes table) {named : List (String × String)}
    (all : List.Forall₂ (Entitled valueOf)
      (attributes.filter fun entry => !isReservedName entry.1) named) :
    Lists named fun key =>
      if isReservedName key then none
      else (table key).bind fun value => (valueOf value).toOption := by
  obtain ⟨keys, back, forth⟩ := forall₂_keys all
  have evaluated : ∀ key value,
      (key, value) ∈ attributes.filter (fun entry => !isReservedName entry.1) ↔
        isReservedName key = false ∧ table key = some value := by
    intro key value
    rw [List.mem_filter, lists.mem_iff, Bool.not_eq_true', and_comm]
  refine ⟨?_, fun key text => ⟨fun mem => ?_, fun found => ?_⟩⟩
  · rw [keys]
    exact lists.unique.sublist (List.filter_sublist.map _)
  · obtain ⟨value, held, outcome⟩ := back key text mem
    obtain ⟨free, held⟩ := (evaluated key value).1 held
    rw [if_neg (by rw [free]; exact Bool.false_ne_true), held, Option.bind_some, outcome]
    rfl
  · split at found
    · cases found
    · next free =>
      obtain ⟨value, held, outcome⟩ := Option.bind_eq_some_iff.1 found
      obtain ⟨text', outcome', mem⟩ :=
        forth key value ((evaluated key value).2 ⟨Bool.eq_false_iff.2 free, held⟩)
      rw [outcome'] at outcome
      cases outcome
      exact mem

end

/-! ## The parameters of a repository -/

theorem Bindings.ofList_concat (entries : List (String × String)) (name value : String) :
    ofList (entries ++ [(name, value)]) = (ofList entries).insert name value := by
  rw [ofList, List.reverse_append]
  rfl

theorem Bindings.get?_layered (constants environment attributes : List (String × String))
    (name : String) :
    (layered constants environment attributes).get? name =
      ((ofList attributes).get? name).or
        (((ofList environment).get? name).or ((ofList constants).get? name)) := by
  rw [layered, get?_merge, get?_merge]

namespace Repository

/-- The parameters of a repository, told from the tables: its id, its path, what each of its other
attributes comes to, and else what the environment has, or the constants. -/
structure Parameters (repository : Repository) (constants environment : String → Option String)
    (attributes : String → Option Attribute) (valueOf : Attribute → Except TemplateError String)
    (bindings : Bindings) : Prop where
  id_eq : bindings.get? idName = some repository.id
  path_eq : bindings.get? pathName = some repository.path
  own : ∀ key value, isReservedName key = false → attributes key = some value →
    ∃ text, valueOf value = .ok text ∧ bindings.get? key = some text
  other : ∀ key, isReservedName key = false → attributes key = none →
    bindings.get? key = (environment key).or (constants key)

/-- An attribute that keeps the parameters from being worked out. -/
def Fails (attributes : String → Option Attribute)
    (valueOf : Attribute → Except TemplateError String) (failure : AttributeError) : Prop :=
  isReservedName failure.key = false ∧
    ∃ value, attributes failure.key = some value ∧ valueOf value = .error failure.cause

/-- The repository without the attributes that have a reserved name. -/
def unreserved (repository : Repository) : Repository :=
  { repository with
    attributes := repository.attributes.filter fun entry => !isReservedName entry.1 }

/-- Reserved attributes are not evaluated: without them nothing else is run. -/
theorem bindings_unreserved {σ : Type} (capture : Capture σ)
    (constants environment : List (String × String)) (repository : Repository) :
    repository.unreserved.bindings capture constants environment =
      repository.bindings capture constants environment := by
  have skipped : ∀ (shared : Bindings) (attributes : List (String × Attribute)),
      evaluateAttributes capture shared
          (attributes.filter fun entry => !isReservedName entry.1) =
        evaluateAttributes capture shared attributes := by
    intro shared attributes
    induction attributes with
    | nil => rfl
    | cons entry rest ih =>
      obtain ⟨name, value⟩ := entry
      by_cases reserved : isReservedName name = true
      · rw [List.filter_cons_of_neg (by simp [reserved]), ih, evaluateAttributes, if_pos reserved]
      · rw [List.filter_cons_of_pos (by simp [reserved]), evaluateAttributes, ih,
          evaluateAttributes, if_neg reserved]
  rw [bindings, bindings]
  simp only [unreserved, skipped]

variable {σ : Type} {capture : Capture σ} {answers : String → Except ExecutionError String}
  {constants environment : List (String × String)} {constantTable environmentTable :
  String → Option String} {attributeTable : String → Option Attribute} {repository : Repository}

theorem get?_parameters {valueOf : Attribute → Except TemplateError String}
    (listed : Lists constants constantTable) (listed' : Lists environment environmentTable)
    (listed'' : Lists repository.attributes attributeTable) {named : List (String × String)}
    (all : List.Forall₂ (Entitled valueOf)
      (repository.attributes.filter fun entry => !isReservedName entry.1) named) (key : String) :
    (Bindings.layered constants environment
      (named ++ [(idName, repository.id), (pathName, repository.path)])).get? key =
        (if key = pathName then some repository.path
          else if key = idName then some repository.id
          else if isReservedName key then none
          else (attributeTable key).bind fun value => (valueOf value).toOption).or
          ((environmentTable key).or (constantTable key)) := by
  -- the id and the path are listed last, so that they hide everything else
  rw [Bindings.get?_layered, listed.get?_ofList, listed'.get?_ofList,
    List.append_cons named (idName, repository.id), Bindings.ofList_concat, Bindings.ofList_concat,
    Bindings.get?_insert, Bindings.get?_insert, (listed''.values all).get?_ofList]

/-- A key that is not reserved is not that of the id, nor that of the path. -/
theorem ne_of_not_reserved {key : String} (free : isReservedName key = false) :
    key ≠ idName ∧ key ≠ pathName := by
  rw [isReservedName, Bool.or_eq_false_iff] at free
  exact ⟨beq_eq_false_iff_ne.1 free.1, beq_eq_false_iff_ne.1 free.2⟩

theorem parameters_of_forall₂ {valueOf : Attribute → Except TemplateError String}
    (listed : Lists constants constantTable) (listed' : Lists environment environmentTable)
    (listed'' : Lists repository.attributes attributeTable) {named : List (String × String)}
    (all : List.Forall₂ (Entitled valueOf)
      (repository.attributes.filter fun entry => !isReservedName entry.1) named) :
    repository.Parameters constantTable environmentTable attributeTable valueOf
      (.layered constants environment
        (named ++ [(idName, repository.id), (pathName, repository.path)])) := by
  have found := get?_parameters listed listed' listed'' all
  refine ⟨?_, ?_, fun key value free held => ?_, fun key free absent => ?_⟩
  · rw [found, if_neg (by decide), if_pos rfl, Option.some_or]
  · rw [found, if_pos rfl, Option.some_or]
  · obtain ⟨-, -, forth⟩ := forall₂_keys all
    obtain ⟨text, outcome, -⟩ := forth key value
      (List.mem_filter.2 ⟨(listed''.mem_iff key value).2 held, by rw [free]; rfl⟩)
    obtain ⟨notId, notPath⟩ := ne_of_not_reserved free
    refine ⟨text, outcome, ?_⟩
    rw [found, if_neg notPath, if_neg notId, if_neg (Bool.eq_false_iff.1 free), held,
      Option.bind_some, outcome]
    rfl
  · obtain ⟨notId, notPath⟩ := ne_of_not_reserved free
    rw [found, if_neg notPath, if_neg notId, if_neg (Bool.eq_false_iff.1 free), absent]
    rfl

theorem fails_of_inOrder {valueOf : Attribute → Except TemplateError String}
    (listed : Lists repository.attributes attributeTable) {failure : AttributeError}
    (comes : InOrder (EntryComes fun value result => result = valueOf value)
      (repository.attributes.filter fun entry => !isReservedName entry.1) (.error failure)) :
    Fails attributeTable valueOf failure := by
  obtain ⟨⟨key, value⟩, mem, fails⟩ := comes.exists_error
  obtain ⟨held, free⟩ := List.mem_filter.1 mem
  obtain ⟨rfl, cause⟩ := of_entryComes_error fails
  exact ⟨by simpa using free, value, (listed.mem_iff _ _).1 held, cause⟩

/-- For a shell that always answers a line alike, in whatever order constants, variables and
attributes are listed: the parameters of a repository cannot be worked out just if one of its
attributes fails, and the failure is that of such an attribute; else they are its id, its path, what
its attributes come to, and whatever is shared. An attribute is evaluated with what is shared, and
nothing else; reserved attributes are not evaluated at all. -/
theorem bindings_of_tables (steady : Steady capture answers)
    (listed : Lists constants constantTable) (listed' : Lists environment environmentTable)
    (listed'' : Lists repository.attributes attributeTable) {shared : Bindings}
    (merged : ∀ key, shared.get? key = (environmentTable key).or (constantTable key)) (s : σ) :
    let result := ((repository.bindings capture constants environment).run s).1
    let valueOf := Attribute.valueOf answers shared
    ((∃ failure, result = .error failure) ↔ ∃ failure, Fails attributeTable valueOf failure) ∧
      (∀ failure, result = .error failure → Fails attributeTable valueOf failure) ∧
      (∀ bindings, result = .ok bindings →
        repository.Parameters constantTable environmentTable attributeTable valueOf bindings) ∧
      repository.unreserved.bindings capture constants environment =
        repository.bindings capture constants environment := by
  intro result valueOf
  -- lookups are all that evaluation knows of a table, and they do not tell how it is listed
  have same : ∀ key, (Bindings.layered constants environment []).get? key = shared.get? key := by
    intro key
    rw [Bindings.get?_layered, listed.get?_ofList, listed'.get?_ofList, merged]
    rfl
  have comes := inOrder_entries steady same repository.attributes s
  have made : result = _ := congrArg Prod.fst (run_bindings capture constants environment repository s)
  generalize ((evaluateAttributes capture (.layered constants environment [])
    repository.attributes).run s).1 = evaluated at comes made
  rw [made]
  have skipped := bindings_unreserved capture constants environment repository
  cases evaluated with
  | error failure =>
    have fails := fails_of_inOrder listed'' comes
    refine ⟨⟨fun _ => ⟨failure, fails⟩, fun _ => ⟨failure, rfl⟩⟩, fun other same => ?_,
      fun _ never => (nomatch never), skipped⟩
    cases same
    exact fails
  | ok named =>
    have parameters := parameters_of_forall₂ listed listed' listed''
      (comes.forall₂.imp fun _ _ => of_entryComes_ok)
    refine ⟨⟨fun ⟨_, never⟩ => (nomatch never), fun ⟨failure, free, value, held, fails⟩ => ?_⟩,
      fun _ never => (nomatch never), fun bindings same => ?_, skipped⟩
    · obtain ⟨text, succeeds, -⟩ := parameters.own _ value free held
      cases fails.symm.trans succeeds
    · cases same
      exact parameters

/-- A repository with an attribute that has the name of a constant, one that is not evaluated, and a
list. -/
def crowded : Repository where
  id := "core"
  path := "~/core"
  attributes := [("path", .scalar (.text "{__shell__:rm}")),
    ("owner", .scalar (.text "{owner} of {name|$TEAM}")),
    ("label", .list [.text "{__shell__:whoami}", .bool true, .integer (-7)])]

/-- Constants, one of which has the name of a variable. -/
def crowdedConstants : List (String × String) :=
  [("owner", "ops"), ("$TEAM", "none"), ("branch", "main")]

/-- An environment. -/
def crowdedEnvironment : List (String × String) :=
  [("$TEAM", "blue"), ("$HOME", "/home/ops")]

/-- A shell that knows one command. -/
def whoami (line : String) : Except ExecutionError String :=
  if line = "whoami" then .ok "me" else .error (.nonZeroExit line 1)

/-- The shell, with a count of the lines it is given. -/
def counting : Capture Nat := fun line =>
  ExceptT.mk fun n => (whoami line, n + 1)

/-- One line is run, the constants stay behind the variables, and the attributes hide them all; the
id is not known to the attributes. -/
theorem bindings_of_tables_crowded :
    ∃ bindings, (crowded.bindings counting crowdedConstants crowdedEnvironment).run 0 =
        (.ok bindings, 1) ∧
      crowded.Parameters (fun key => crowdedConstants.lookup key)
        (fun key => crowdedEnvironment.lookup key) (fun key => crowded.attributes.lookup key)
        (Attribute.valueOf whoami (.layered crowdedConstants crowdedEnvironment [])) bindings ∧
      ["name", "path", "owner", "label", "$TEAM", "branch", "team"].map bindings.get? =
        [some "core", some "~/core", some "ops of blue", some "me true -7", some "blue",
          some "main", none] := by
  have listed : Lists crowdedConstants fun key => crowdedConstants.lookup key :=
    .of_nodup (by decide)
  have listed' : Lists crowdedEnvironment fun key => crowdedEnvironment.lookup key :=
    .of_nodup (by decide)
  have listed'' : Lists crowded.attributes fun key => crowded.attributes.lookup key :=
    .of_nodup (by decide)
  have merged : ∀ key, (Bindings.layered crowdedConstants crowdedEnvironment []).get? key =
      (crowdedEnvironment.lookup key).or (crowdedConstants.lookup key) := by
    intro key
    rw [Bindings.get?_layered, listed.get?_ofList, listed'.get?_ofList]
    rfl
  have ran : ((crowded.bindings counting crowdedConstants crowdedEnvironment).run 0).1.toOption.map
      (fun bindings => ["name", "path", "owner", "label", "$TEAM", "branch", "team"].map
        bindings.get?) =
      some [some "core", some "~/core", some "ops of blue", some "me true -7", some "blue",
          some "main", none] := by
    decide +kernel
  have lines : ((crowded.bindings counting crowdedConstants crowdedEnvironment).run 0).2 = 1 := by
    decide +kernel
  have steady : Steady counting whoami := fun _ _ => rfl
  obtain ⟨-, -, parameters, -⟩ := bindings_of_tables steady listed listed' listed'' merged 0
  match (crowded.bindings counting crowdedConstants crowdedEnvironment).run 0, ran, lines,
    parameters with
  | (.ok bindings, _), ran, rfl, parameters =>
    exact ⟨bindings, rfl, parameters bindings rfl, Option.some.inj ran⟩

end Repository

end Fleet
