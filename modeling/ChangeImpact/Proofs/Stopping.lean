import ChangeImpact.Proofs.Building

/-!
When a build is stopped. A token is asked once before each file is handed out and once before each extraction is
collected, so that it stops the build if and only if it is due before twice as many checks as there are files. A token
that is due later makes no difference.
-/

set_option autoImplicit false

namespace ChangeImpact

/-! ### Texts without a null character -/

theorem Path.join_hasNull {directory path : String} (before : Text.hasNull directory = false)
    (after : Text.hasNull path = false) : Text.hasNull (join directory path) = false := by
  have append : ∀ {left right : String}, Text.hasNull left = false → Text.hasNull right = false →
      Text.hasNull (left ++ right) = false := by
    intro left right one two
    unfold Text.hasNull at *
    rw [String.toList_append, List.contains_eq_any_beq, List.any_append]
    rw [List.contains_eq_any_beq] at one two
    rw [one, two]
    rfl
  unfold join
  split
  · exact after
  split
  · exact append before after
  · exact append (append before (by decide +kernel)) after

namespace Workspace

theorem follow_ne_nullCharacter (tree : List (String × Entry)) (purpose : Purpose) (links : Nat)
    (here parts : List String) : follow tree purpose links here parts ≠ .error .nullCharacter := by
  fun_induction follow tree purpose links here parts
  case case2 | case3 | case4 | case8 | case13 => assumption
  all_goals nofun

theorem locate_ne_nullCharacter (workspace : Workspace) {path : String}
    (plain : Text.hasNull path = false) : workspace.locate path ≠ .error .nullCharacter := by
  have routed : workspace.route .target path ≠ .error .nullCharacter := by
    unfold route
    rw [plain]
    simp only [Bool.false_eq_true, if_false]
    split
    · nofun
    · exact follow_ne_nullCharacter _ _ _ _ _
  intro failed
  rcases Outcome.bind_error failed with unrouted | ⟨route, _, ended⟩
  · exact routed unrouted
  split at ended
  · cases ended
  split at ended <;> cases ended

theorem readFile_ne_nullCharacter (workspace : Workspace) {path : String}
    (plain : Text.hasNull path = false) : workspace.readFile path ≠ .error .nullCharacter := by
  intro failed
  rcases Outcome.bind_error failed with unlocated | ⟨found, _, ended⟩
  · exact workspace.locate_ne_nullCharacter plain unlocated
  split at ended <;> cases ended

end Workspace

/-! ### Tokens -/

namespace Cancellation

variable {due asked : Nat}

theorem check_of_lt (early : asked < due) :
    ({ atCheck := some due, checks := asked } : Cancellation).check =
      some { atCheck := some due, checks := asked + 1 } := by
  simp [check, isDue, early]

theorem check_due (due : Nat) :
    ({ atCheck := some due, checks := due } : Cancellation).check = none := by
  simp [check, isDue]

/-- A row of checks goes through if the token is not due before its end. -/
theorem checkEach_eq {α : Type} (items : List α) (early : asked ≤ due) :
    checkEach items { atCheck := some due, checks := asked } =
      if due < asked + items.length then none
      else some { atCheck := some due, checks := asked + items.length } := by
  induction items generalizing asked with
  | nil =>
      rw [checkEach, List.length_nil, Nat.add_zero, if_neg (Nat.not_lt.mpr early)]
  | cons item rest ih =>
      unfold checkEach
      rcases Nat.lt_or_eq_of_le early with before | rfl
      · have shifted : asked + 1 + rest.length = asked + (rest.length + 1) := by omega
        rw [check_of_lt before, List.length_cons, ← shifted]
        exact ih before
      · have here : asked < asked + (item :: rest).length := by
          rw [List.length_cons]
          omega
        rw [check_due, if_pos here]
        rfl

end Cancellation

namespace Sources

variable {extract : String → Except Interruption Extraction} {due asked : Nat} {files : List String}

theorem collect_due {cancel : Cancellation} {file : String} (due : cancel.check = none) :
    collect cancel extract (file :: files) = .error .cancelled := by
  rw [collect, due]
  rfl

/-- A token that is due after the last check makes no difference. -/
theorem collect_unstopped (late : asked + files.length ≤ due) (checks : Nat) :
    collect { atCheck := some due, checks := asked } extract files =
      collect { atCheck := none, checks } extract files := by
  induction files generalizing asked checks with
  | nil => rfl
  | cons file rest ih =>
      rw [List.length_cons] at late
      have later : asked + 1 + rest.length ≤ due := by omega
      have free : ({ atCheck := none, checks } : Cancellation).check =
          some { atCheck := none, checks := checks + 1 } := rfl
      rw [collect_cons (Cancellation.check_of_lt (by omega)), collect_cons free,
        ih later (checks + 1)]

/-- A token that is due before the last check stops the reader, if every file that comes first can be read. -/
theorem collect_stopped (early : asked ≤ due) (soon : due < asked + files.length)
    (readable : ∀ file ∈ files, ∃ extraction, extract file = .ok extraction) :
    collect { atCheck := some due, checks := asked } extract files = .error .cancelled := by
  induction files generalizing asked with
  | nil =>
      rw [List.length_nil] at soon
      omega
  | cons file rest ih =>
      rw [List.length_cons] at soon
      obtain ⟨⟨extraction, extracted⟩, others⟩ := List.forall_mem_cons.mp readable
      rcases Nat.lt_or_eq_of_le early with before | rfl
      · have stopped := ih before (by omega) others
        rw [collect_cons (Cancellation.check_of_lt before), extracted, stopped]
        rfl
      · exact collect_due (Cancellation.check_due asked)

theorem collect_ne_cancelled (checks : Nat) (reads : ∀ file, extract file ≠ .error .cancelled) :
    collect { atCheck := none, checks } extract files ≠ .error .cancelled := by
  induction files generalizing checks with
  | nil => nofun
  | cons file rest ih =>
      have free : ({ atCheck := none, checks } : Cancellation).check =
          some { atCheck := none, checks := checks + 1 } := rfl
      rw [collect_cons free]
      intro failed
      rcases Outcome.bind_error failed with unread | ⟨extraction, _, failed⟩
      · exact reads file unread
      rcases Outcome.bind_error failed with uncollected | ⟨others, _, ended⟩
      · exact ih (checks + 1) uncollected
      · cases ended

variable {extractor : Extractor} {workspace : Workspace} {project : String}

theorem extractFile_ne_cancelled (file : String) :
    extractFile extractor workspace project file ≠ .error .cancelled := by
  unfold extractFile
  dsimp only
  split <;> nofun

theorem extractFile_readable (plain : Text.hasNull project = false)
    (names : ∀ file ∈ files, Text.hasNull file = false) :
    ∀ file ∈ files, ∃ extraction, extractFile extractor workspace project file = .ok extraction := by
  intro file member
  have read := workspace.readFile_ne_nullCharacter (Path.join_hasNull plain (names file member))
  unfold extractFile
  dsimp only
  split
  · exact ⟨_, rfl⟩
  · rename_i failed
    exact absurd failed read
  · exact ⟨_, rfl⟩

theorem extractAll_stopped (soon : due < 2 * files.length) (plain : Text.hasNull project = false)
    (names : ∀ file ∈ files, Text.hasNull file = false) :
    extractAll extractor workspace project { atCheck := some due } files = .error .cancelled := by
  unfold extractAll
  rw [Cancellation.checkEach_eq files (Nat.zero_le due), Nat.zero_add]
  split
  · rfl
  · rename_i handedOut
    exact collect_stopped (Nat.not_lt.mp handedOut) (by omega) (extractFile_readable plain names)

theorem extractAll_unstopped (late : 2 * files.length ≤ due) :
    extractAll extractor workspace project { atCheck := some due } files =
      extractAll extractor workspace project {} files := by
  unfold extractAll
  rw [Cancellation.checkEach_eq files (Nat.zero_le due), Cancellation.checkEach_never files 0,
    if_neg (Nat.not_lt.mpr (by omega))]
  exact collect_unstopped (by omega) _

theorem extractAll_ne_cancelled :
    extractAll extractor workspace project {} files ≠ .error .cancelled := by
  unfold extractAll
  rw [Cancellation.checkEach_never files 0]
  exact collect_ne_cancelled _ extractFile_ne_cancelled

end Sources

/-! ### Builds -/

namespace Builder

variable {builder : Builder} {workspace : Workspace} {options : BuildOptions} {due : Nat}
  {files : List String}

theorem extract_cancelled_iff (plain : Text.hasNull options.project = false)
    (names : ∀ file ∈ files, Text.hasNull file = false) :
    builder.extract workspace options { atCheck := some due } files =
        .error (.cancelled options.analysis) ↔
      0 ≤ builder.workers ∧ due < 2 * files.length := by
  unfold extract
  constructor
  · intro failed
    split at failed
    · cases failed
    rename_i working
    refine ⟨Int.not_lt.mp working, ?_⟩
    by_contra late
    rw [Sources.extractAll_unstopped (Nat.not_lt.mp late)] at failed
    split at failed
    · rename_i stopped
      exact Sources.extractAll_ne_cancelled stopped
    · cases failed
    · cases failed
  · rintro ⟨working, soon⟩
    rw [if_neg (Int.not_lt.mpr working), Sources.extractAll_stopped soon plain names]

theorem extract_unstopped (late : 2 * files.length ≤ due) :
    builder.extract workspace options { atCheck := some due } files =
      builder.extract workspace options {} files := by
  unfold extract
  rw [Sources.extractAll_unstopped late]

/-- What lets a build come to its files: the name of the analysis can be written, the path of the project can be one,
and there is someone to read. -/
structure Starts (builder : Builder) (options : BuildOptions) : Prop where
  written : Text.encodeFault? options.analysis = none
  plain : Text.hasNull options.project = false
  working : 0 ≤ builder.workers

theorem storing_ne_cancelled {α : Type} {action : Store.Action Store.Fault α} {store after : Store}
    {analysis : String} : storing action store ≠ (.error (.cancelled analysis), after) := by
  rw [storing_run]
  intro same
  cases result : (action store).1 with
  | error fault =>
      rw [result] at same
      cases same
  | ok value =>
      rw [result] at same
      cases same

/-- A build that is stopped came to its files and was stopped there. -/
theorem extract_of_build_cancelled {cancel : Cancellation} {store after : Store}
    (failed : builder.build workspace options cancel store =
      (.error (.cancelled options.analysis), after)) :
    Text.encodeFault? options.analysis = none ∧ Text.hasNull options.project = false ∧
      builder.extract workspace options cancel (builder.discoveryOf workspace options).files =
        .error (.cancelled options.analysis) := by
  rcases Operation.bind_error failed with undeleted | ⟨_, cleared, deleted, run⟩
  · exact absurd undeleted storing_ne_cancelled
  obtain ⟨_, _, written⟩ := Store.deleteGraph_ok (storing_ok deleted)
  dsimp only at run
  split at run
  · cases run
  rename_i plain
  rcases Operation.bind_error run with unread | ⟨extractions, read, _, run⟩
  · rw [lift_run] at unread
    refine ⟨?_, Bool.eq_false_iff.mpr plain, (Prod.mk.inj unread).1⟩
    simpa using written
  rcases Operation.bind_error run with unstored | ⟨counts, filled, _, run⟩
  · exact absurd unstored storing_ne_cancelled
  rcases Operation.bind_error run with unfound | ⟨graph, last, _, ended⟩
  · exact absurd unfound storing_ne_cancelled
  · cases ended

/-- A build that comes to its files fails if they cannot be read. -/
theorem build_of_unread {store : Store} (isOpen : store.isClosed = false)
    (written : Text.encodeFault? options.analysis = none) (plain : Text.hasNull options.project = false)
    {cancel : Cancellation} {fault : Fault}
    (failed : builder.extract workspace options cancel (builder.discoveryOf workspace options).files =
      .error fault) :
    (builder.build workspace options cancel store).1 = .error fault := by
  have named : [options.analysis].findSome? Text.encodeFault? = none := by
    simpa using written
  obtain ⟨_, cleared, deleted, _⟩ := Store.succeeds_deleteGraph named store isOpen
  have stored : storing (Store.deleteGraph options.analysis) store = (.ok (), cleared) := by
    rw [storing_run, deleted]
    rfl
  unfold build buildBy
  rw [Operation.bind_of_ok stored, plain]
  dsimp only
  rw [failed]
  rfl

/-- A build is stopped exactly by a token that is due before its last check. -/
theorem build_cancelled_iff {store : Store} (isOpen : store.isClosed = false)
    (names : ∀ file ∈ (builder.discoveryOf workspace options).files, Text.hasNull file = false) :
    (builder.build workspace options { atCheck := some due } store).1 =
        .error (.cancelled options.analysis) ↔
      builder.Starts options ∧ due < 2 * (builder.discoveryOf workspace options).files.length := by
  constructor
  · intro failed
    obtain ⟨written, plain, stopped⟩ := extract_of_build_cancelled (Prod.ext failed rfl)
    obtain ⟨working, soon⟩ := (extract_cancelled_iff plain names).mp stopped
    exact ⟨⟨written, plain, working⟩, soon⟩
  · rintro ⟨starts, soon⟩
    exact build_of_unread isOpen starts.written starts.plain
      ((extract_cancelled_iff starts.plain names).mpr ⟨starts.working, soon⟩)

theorem build_unstopped (late : 2 * (builder.discoveryOf workspace options).files.length ≤ due) :
    builder.build workspace options { atCheck := some due } =
      builder.build workspace options {} := by
  have same : builder.extract workspace options { atCheck := some due }
      (builder.discoveryOf workspace options).files = _ := extract_unstopped late
  unfold build buildBy
  dsimp only
  rw [same]

end Builder

end ChangeImpact
