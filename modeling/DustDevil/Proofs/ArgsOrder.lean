import DustDevil.Lib.Commute
import DustDevil.Proofs.Args

/-!
# The order of the options

Each option reads and changes one part of the arguments: so options about different parts may change
places, and so may those about the events, the log file and the output, which look at each other's
effects (`parseArguments_swap`).
-/

namespace DustDevil

open Wire

/-! ## Parts of the arguments -/

/-- What `-s`, `-d` and `-o` are about. -/
structure EventsArguments where
  silent : Bool
  eventsEnabled : Bool
  logFile : Option Str

inductive ArgumentsPart where
  | socks5BindSockets
  | sandstormBindSockets
  | verbose
  | events
  | usersFile
  | users
  | authEnabled (authMethod : AuthMethod)
  | bufferSize
  deriving DecidableEq

namespace ArgumentsPart

abbrev Value : ArgumentsPart → Type
  | socks5BindSockets | sandstormBindSockets => List SocketAddr
  | verbose | authEnabled _ => Bool
  | events => EventsArguments
  | usersFile => Str
  | users => UserMap
  | bufferSize => UInt32

def component : (p : ArgumentsPart) → Component StartupArguments p.Value
  | socks5BindSockets =>
    ⟨StartupArguments.socks5BindSockets, fun s sockets => { s with socks5BindSockets := sockets }⟩
  | sandstormBindSockets =>
    ⟨StartupArguments.sandstormBindSockets,
      fun s sockets => { s with sandstormBindSockets := sockets }⟩
  | verbose => ⟨StartupArguments.verbose, fun s verbose => { s with verbose := verbose }⟩
  | events =>
    ⟨fun s => ⟨s.silent, s.eventsEnabled, s.logFile⟩, fun s e =>
      { s with silent := e.silent, eventsEnabled := e.eventsEnabled, logFile := e.logFile }⟩
  | usersFile => ⟨StartupArguments.usersFile, fun s path => { s with usersFile := path }⟩
  | users => ⟨StartupArguments.users, fun s users => { s with users := users }⟩
  | authEnabled .noAuth =>
    ⟨StartupArguments.noAuthEnabled, fun s enabled => { s with noAuthEnabled := enabled }⟩
  | authEnabled .usernameAndPassword =>
    ⟨StartupArguments.userpassAuthEnabled,
      fun s enabled => { s with userpassAuthEnabled := enabled }⟩
  | bufferSize => ⟨StartupArguments.bufferSize, fun s size => { s with bufferSize := size }⟩

/-- The options that may be about it. -/
def arguments : ArgumentsPart → List Argument
  | socks5BindSockets => [.listen]
  | sandstormBindSockets => [.management]
  | verbose => [.verbose]
  | events => [.silent, .disableEvents, .logFile]
  | usersFile => [.usersFile]
  | users => [.user]
  | authEnabled _ => [.authEnable, .authDisable]
  | bufferSize => [.bufferSize]

theorem component_apart {p q : ArgumentsPart} (h : p ≠ q) :
    p.component.Apart q.component := by
  cases p with
  | authEnabled m =>
    cases m <;> rcases q with _ | _ | _ | _ | _ | _ | (_ | _) | _
    all_goals first
    | exact absurd rfl h
    | exact ⟨fun _ _ => rfl, fun _ _ => rfl, fun _ _ _ => rfl⟩
  | _ =>
    rcases q with _ | _ | _ | _ | _ | _ | (_ | _) | _
    all_goals first
    | exact absurd rfl h
    | exact ⟨fun _ _ => rfl, fun _ _ => rfl, fun _ _ _ => rfl⟩

end ArgumentsPart

/-! ## Groups -/

/-- The method that a value of `-A` and `-a` names. -/
def authMethodOf (value : Str) : Option AuthMethod :=
  if eqIgnoreAsciiCase value "noauth".toList then some .noAuth
  else if eqIgnoreAsciiCase value "userpass".toList then some .usernameAndPassword
  else none

/-- An option other than `-h` and `-V` as it is written, with its value where it takes one. -/
structure OptionGroup where
  argument : Argument
  arg : Str
  value : Option Str
  ofText_eq : Argument.ofText arg = some argument
  isSome_value : value.isSome = argument.takesNext
  value_ne_nil : value ≠ some []
  ne_help : argument ≠ .help
  ne_version : argument ≠ .version

namespace OptionGroup

/-- What the command line has of it. -/
def args (g : OptionGroup) : List Str := g.arg :: g.value.toList

/-- The authentication method that it enables or disables. -/
def authMethod (g : OptionGroup) : Option AuthMethod :=
  match g.argument with
  | .authEnable | .authDisable => g.value.bind authMethodOf
  | _ => none

/-- They are different options, or options for authentication methods, and not about the same
one. -/
def Swappable (g g' : OptionGroup) : Prop :=
  (g.argument ≠ g'.argument ∨ g.argument = .authEnable ∨ g.argument = .authDisable)
    ∧ ∀ m, ¬ (g.authMethod = some m ∧ g'.authMethod = some m)

/-- The part of the arguments that it is about, if its value is accepted for any. -/
def part (g : OptionGroup) : Option ArgumentsPart :=
  match g.argument with
  | .help | .version => none
  | .verbose => some .verbose
  | .silent | .disableEvents | .logFile => some .events
  | .listen => some .socks5BindSockets
  | .management => some .sandstormBindSockets
  | .usersFile => some .usersFile
  | .user => some .users
  | .authEnable | .authDisable => g.authMethod.map .authEnabled
  | .bufferSize => some .bufferSize

def step (env : ArgsEnv) (result : StartupArguments) (g : OptionGroup) : Option StartupArguments :=
  (g.argument.apply env result g.arg g.value).toOption

variable {env : ArgsEnv} {g g' : OptionGroup}

/-! ## What a group does -/

/-- What `-s`, `-d` and `-o` do. -/
def changeEvents (argument : Argument) (value : Option Str) (e : EventsArguments) :
    Option EventsArguments :=
  match argument with
  | .silent => some { e with silent := true }
  | .disableEvents =>
    if e.logFile.isSome then none else some { e with eventsEnabled := false, silent := true }
  | .logFile =>
    if e.eventsEnabled = false then none
    else
      ((parseFileArg [] (e.logFile.getD []) value).toOption).map fun path =>
        { e with logFile := some path }
  | _ => none

theorem toOption_parseFileArg (arg arg' path : Str) (value : Option Str) :
    (parseFileArg arg path value).toOption = (parseFileArg arg' path value).toOption := by
  cases value with
  | none => rfl
  | some value =>
    simp only [parseFileArg]
    split_ifs <;> rfl

theorem step_of_events (h : g.part = some .events) (result : StartupArguments) :
    step env result g
      = ArgumentsPart.events.component.on (changeEvents g.argument g.value) result := by
  unfold part at h
  unfold step Component.on
  cases hargument : g.argument <;> rw [hargument] at h <;>
    simp only [Option.some.injEq, reduceCtorEq, Option.map_eq_some_iff, and_false,
      exists_false] at h
  · rfl
  · obtain ⟨_, _, _, _, _, logFile, _, _, _, _, _⟩ := result
    cases logFile <;> rfl
  · obtain ⟨_, _, _, _, eventsEnabled, logFile, _, _, _, _, _⟩ := result
    cases eventsEnabled with
    | false => rfl
    | true =>
      show (Argument.apply env _ g.arg g.value .logFile).toOption
        = Option.map _ (((parseFileArg [] (logFile.getD []) g.value).toOption).map _)
      rw [toOption_parseFileArg [] g.arg]
      simp only [Argument.apply, Bool.true_eq_false, if_false]
      cases parseFileArg g.arg (logFile.getD []) g.value <;> rfl

theorem toOption_parseAuthArg (arg : Str) (enable : Bool) (value : Option Str)
    (result : StartupArguments) :
    (parseAuthArg result arg enable value).toOption
      = (value.bind authMethodOf).map fun m =>
        (ArgumentsPart.authEnabled m).component.set result enable := by
  cases value with
  | none => rfl
  | some value =>
    simp only [parseAuthArg, authMethodOf, Option.bind_some]
    split_ifs <;> rfl

theorem toOption_mapError {ε ε' α : Type} (f : ε → ε') (x : Except ε α) :
    (x.mapError f).toOption = x.toOption := by
  cases x <;> rfl

theorem step_of_part_none (h : g.part = none) (result : StartupArguments) :
    step env result g = none := by
  unfold part at h
  unfold step
  cases hargument : g.argument <;> rw [hargument] at h <;>
    simp only [reduceCtorEq, Option.map_eq_none_iff] at h
  · exact absurd hargument g.ne_help
  · exact absurd hargument g.ne_version
  all_goals
    simp only [authMethod, hargument] at h
    simp only [Argument.apply, toOption_mapError, toOption_parseAuthArg, h]
    rfl

/-- A group reads and changes the part that it is about. -/
theorem exists_step_eq (env : ArgsEnv) {p : ArgumentsPart} (h : g.part = some p) :
    ∃ f, ∀ result, step env result g = p.component.on f result := by
  by_cases hevents : p = .events
  · subst hevents
    exact ⟨_, step_of_events h⟩
  unfold part at h
  unfold step Component.on
  cases hargument : g.argument <;> rw [hargument] at h <;>
    simp only [Option.some.injEq, reduceCtorEq, Option.map_eq_some_iff] at h
  case verbose =>
    subst h
    exact ⟨fun _ => some true, fun _ => rfl⟩
  case silent | disableEvents | logFile => exact absurd h.symm hevents
  case listen =>
    subst h
    refine ⟨fun sockets => (parseSocketArg env g.arg sockets g.value defaultSocks5Port).toOption,
      fun result => ?_⟩
    simp only [Argument.apply, ArgumentsPart.component]
    cases parseSocketArg env g.arg result.socks5BindSockets g.value defaultSocks5Port <;> rfl
  case management =>
    subst h
    refine ⟨fun sockets => (parseSocketArg env g.arg sockets g.value defaultSandstormPort).toOption,
      fun result => ?_⟩
    simp only [Argument.apply, ArgumentsPart.component]
    cases parseSocketArg env g.arg result.sandstormBindSockets g.value defaultSandstormPort <;> rfl
  case usersFile =>
    subst h
    refine ⟨fun path => (parseFileArg g.arg path g.value).toOption, fun result => ?_⟩
    simp only [Argument.apply, ArgumentsPart.component]
    cases parseFileArg g.arg result.usersFile g.value <;> rfl
  case user =>
    subst h
    refine ⟨fun users => ((parseNewUserArg env { StartupArguments.empty with users := users } g.arg
      g.value).toOption).map StartupArguments.users, fun result => ?_⟩
    obtain ⟨_, _, _, _, _, _, _, users, _, _, _⟩ := result
    simp only [Argument.apply, ArgumentsPart.component, toOption_mapError, parseNewUserArg]
    cases g.value with
    | none => rfl
    | some value =>
      simp only
      split
      case h_1 username user _ =>
        by_cases hdup : (users.lookup username).isSome <;> simp [hdup, Except.toOption]
      case h_2 => rfl
  case bufferSize =>
    subst h
    refine ⟨fun size => ((parseBufferSizeArg { StartupArguments.empty with bufferSize := size }
      g.arg g.value).toOption).map StartupArguments.bufferSize, fun result => ?_⟩
    simp only [Argument.apply, ArgumentsPart.component, toOption_mapError, parseBufferSizeArg]
    cases g.value with
    | none => rfl
    | some value =>
      simp only
      by_cases hgiven : result.bufferSize = 0
      · cases parsePrettyBufferSize value <;> simp [hgiven, Except.toOption]
      · simp [hgiven, Except.toOption]
  case authEnable =>
    obtain ⟨m, hm, rfl⟩ := h
    simp only [authMethod, hargument] at hm
    refine ⟨fun _ => some true, fun result => ?_⟩
    simp only [Argument.apply, toOption_mapError, toOption_parseAuthArg, hm]
    rfl
  case authDisable =>
    obtain ⟨m, hm, rfl⟩ := h
    simp only [authMethod, hargument] at hm
    refine ⟨fun _ => some false, fun result => ?_⟩
    simp only [Argument.apply, toOption_mapError, toOption_parseAuthArg, hm]
    rfl

/-! ## Two groups -/

theorem argument_mem_arguments {p : ArgumentsPart} (h : g.part = some p) :
    g.argument ∈ p.arguments := by
  unfold part at h
  cases hargument : g.argument <;> rw [hargument] at h <;>
    simp only [reduceCtorEq, Option.some.injEq, Option.map_eq_some_iff] at h
  case authEnable | authDisable =>
    obtain ⟨m, -, rfl⟩ := h
    simp [ArgumentsPart.arguments]
  all_goals
    subst h
    simp [ArgumentsPart.arguments]

theorem authMethod_of_part {m : AuthMethod} (h : g.part = some (.authEnabled m)) :
    g.authMethod = some m := by
  have hargument := argument_mem_arguments h
  unfold part at h
  simp only [ArgumentsPart.arguments, List.mem_cons, List.not_mem_nil, or_false] at hargument
  rcases hargument with hargument | hargument <;> simpa [hargument] using h

theorem silent_commutes_disableEvents (value value' : Option Str) :
    Commutes (changeEvents .silent value) (changeEvents .disableEvents value') := by
  rintro ⟨silent, eventsEnabled, logFile⟩
  cases logFile <;> rfl

theorem silent_commutes_logFile (value value' : Option Str) :
    Commutes (changeEvents .silent value) (changeEvents .logFile value') := by
  rintro ⟨silent, eventsEnabled, logFile⟩
  cases eventsEnabled with
  | false => rfl
  | true =>
    simp only [changeEvents, Option.bind_some, Bool.true_eq_false, if_false]
    cases parseFileArg [] (logFile.getD []) value' <;> rfl

theorem disableEvents_commutes_logFile (value value' : Option Str) :
    Commutes (changeEvents .disableEvents value) (changeEvents .logFile value') := by
  rintro ⟨silent, eventsEnabled, logFile⟩
  cases eventsEnabled with
  | false => cases logFile <;> rfl
  | true =>
    simp only [changeEvents, Bool.true_eq_false, if_false]
    cases logFile <;> cases parseFileArg [] _ value' <;> rfl

theorem changeEvents_commutes (h : g.part = some .events) (h' : g'.part = some .events)
    (hne : g.argument ≠ g'.argument) :
    Commutes (changeEvents g.argument g.value) (changeEvents g'.argument g'.value) := by
  have hmem := argument_mem_arguments h
  have hmem' := argument_mem_arguments h'
  simp only [ArgumentsPart.arguments, List.mem_cons, List.not_mem_nil, or_false] at hmem hmem'
  rcases hmem with ha | ha | ha <;> rcases hmem' with ha' | ha' | ha' <;> rw [ha, ha'] at hne ⊢
  case inr.inr.inr.inr | inl.inl | inr.inl.inr.inl => exact absurd rfl hne
  · exact silent_commutes_disableEvents _ _
  · exact silent_commutes_logFile _ _
  · exact (silent_commutes_disableEvents _ _).symm
  · exact disableEvents_commutes_logFile _ _
  · exact (silent_commutes_logFile _ _).symm
  · exact (disableEvents_commutes_logFile _ _).symm

/-- Two groups about the same part are both about the events. -/
theorem Swappable.part_events (h : g.Swappable g') {p : ArgumentsPart} (hg : g.part = some p)
    (hg' : g'.part = some p) : p = .events ∧ g.argument ≠ g'.argument := by
  have hmem := argument_mem_arguments hg
  have hmem' := argument_mem_arguments hg'
  cases p with
  | authEnabled m => exact absurd ⟨authMethod_of_part hg, authMethod_of_part hg'⟩ (h.2 m)
  | events =>
    refine ⟨rfl, fun heq => ?_⟩
    rcases h.1 with hne | ha | ha
    · exact hne heq
    all_goals simp [ArgumentsPart.arguments, ha] at hmem
  | _ =>
    simp only [ArgumentsPart.arguments, List.mem_singleton] at hmem hmem'
    rcases h.1 with hne | ha | ha
    · exact absurd (hmem.trans hmem'.symm) hne
    all_goals simp [hmem] at ha

theorem Swappable.commutes (h : g.Swappable g') :
    Commutes (step env · g) (step env · g') := by
  cases hg : g.part with
  | none => exact commutes_of_none (step_of_part_none hg) _
  | some p =>
    cases hg' : g'.part with
    | none => exact (commutes_of_none (step_of_part_none hg') _).symm
    | some q =>
      by_cases hpq : p = q
      · subst hpq
        obtain ⟨rfl, hne⟩ := h.part_events hg hg'
        rw [funext (step_of_events hg), funext (step_of_events hg')]
        exact Component.commutes_of_same (fun _ _ => rfl) (fun _ _ _ => rfl)
          (changeEvents_commutes hg hg' hne)
      · obtain ⟨f, hf⟩ := exists_step_eq env hg
        obtain ⟨f', hf'⟩ := exists_step_eq env hg'
        rw [funext hf, funext hf']
        exact (ArgumentsPart.component_apart hpq).commutes f f'

/-! ## `-d` and `-o` -/

/-- A group that is not about the events leaves them as they are. -/
theorem events_of_step {result result' : StartupArguments} (hg : g.part ≠ some .events)
    (h : step env result g = some result') :
    ArgumentsPart.events.component.get result' = ArgumentsPart.events.component.get result := by
  cases hp : g.part with
  | none => simp [step_of_part_none hp] at h
  | some p =>
    obtain ⟨f, hf⟩ := exists_step_eq env hp
    rw [hf] at h
    obtain ⟨value, -, rfl⟩ := Option.map_eq_some_iff.1 h
    have hne : ArgumentsPart.events ≠ p := fun heq => hg (hp.trans (congrArg some heq.symm))
    exact (ArgumentsPart.component_apart hne).get_set result value

/-- What a group does to whether there are events and to the log file. -/
theorem step_cases {result result' : StartupArguments} (h : step env result g = some result') :
    (g.argument ≠ .disableEvents ∧ g.argument ≠ .logFile
        ∧ result'.eventsEnabled = result.eventsEnabled ∧ result'.logFile = result.logFile)
      ∨ (g.argument = .disableEvents ∧ result.logFile = none
        ∧ result'.eventsEnabled = false ∧ result'.logFile = none)
      ∨ (g.argument = .logFile ∧ result.eventsEnabled = true
        ∧ result'.eventsEnabled = true ∧ result'.logFile ≠ none) := by
  by_cases hg : g.part = some .events
  · rw [step_of_events hg] at h
    obtain ⟨e, he, rfl⟩ := Option.map_eq_some_iff.1 h
    cases hargument : g.argument <;> rw [hargument] at he
    case silent =>
      obtain rfl := Option.some.inj he
      exact .inl ⟨by decide, by decide, rfl, rfl⟩
    case disableEvents =>
      simp only [changeEvents] at he
      split_ifs at he with hlog
      obtain rfl := Option.some.inj he
      have hnone : result.logFile = none := Option.not_isSome_iff_eq_none.1 hlog
      exact .inr (.inl ⟨rfl, hnone, rfl, hnone⟩)
    case logFile =>
      simp only [changeEvents] at he
      split_ifs at he with henabled
      obtain ⟨path, -, rfl⟩ := Option.map_eq_some_iff.1 he
      have hon : result.eventsEnabled = true := Bool.eq_true_of_not_eq_false henabled
      exact .inr (.inr ⟨rfl, hon, hon, Option.some_ne_none path⟩)
    all_goals cases he
  · have he := events_of_step hg h
    refine .inl ⟨fun hd => hg ?_, fun ho => hg ?_, congrArg EventsArguments.eventsEnabled he,
      congrArg EventsArguments.logFile he⟩
    · simp [part, hd]
    · simp [part, ho]

theorem eventsEnabled_of_step (result : StartupArguments) (g : OptionGroup)
    (result' : StartupArguments) (hresult : result.eventsEnabled = false)
    (h : step env result g = some result') : result'.eventsEnabled = false := by
  obtain ⟨-, -, henabled, -⟩ | ⟨-, -, henabled, -⟩ | ⟨-, hon, -⟩ := step_cases h
  · exact henabled.trans hresult
  · exact henabled
  · exact absurd (hon.symm.trans hresult) (by decide)

theorem logFile_of_step (result : StartupArguments) (g : OptionGroup)
    (result' : StartupArguments) (hresult : result.logFile ≠ none)
    (h : step env result g = some result') : result'.logFile ≠ none := by
  obtain ⟨-, -, -, hlog⟩ | ⟨-, hnone, -⟩ | ⟨-, -, -, hlog⟩ := step_cases h
  · exact hlog.trans_ne hresult
  · exact absurd hnone hresult
  · exact hlog

/-- There is a log file only while the events are enabled. -/
theorem logFile_of_eventsEnabled (result : StartupArguments) (g : OptionGroup)
    (result' : StartupArguments) (hresult : result.eventsEnabled = false → result.logFile = none)
    (h : step env result g = some result') :
    result'.eventsEnabled = false → result'.logFile = none := by
  intro hoff
  obtain ⟨-, -, henabled, hlog⟩ | ⟨-, -, -, hlog⟩ | ⟨-, -, hon, -⟩ := step_cases h
  · exact hlog.trans (hresult (henabled.symm.trans hoff))
  · exact hlog
  · exact absurd (hon.symm.trans hoff) (by decide)

theorem runSteps_disableEvents_logFile {groups : List OptionGroup} (hg : g ∈ groups)
    (hg' : g' ∈ groups) (hd : g.argument = .disableEvents) (ho : g'.argument = .logFile) :
    runSteps (step env) .empty groups = none := by
  refine Option.eq_none_iff_forall_ne_some.2 fun result hrun => ?_
  have hoff : result.eventsEnabled = false := by
    refine runSteps_establishes eventsEnabled_of_step (fun r r' h => ?_) hg hrun
    obtain ⟨hne, -⟩ | ⟨-, -, henabled, -⟩ | ⟨ho, -⟩ := step_cases h
    · exact absurd hd hne
    · exact henabled
    · exact absurd (hd.symm.trans ho) (by decide)
  have hlog : result.logFile ≠ none := by
    refine runSteps_establishes logFile_of_step (fun r r' h => ?_) hg' hrun
    obtain ⟨-, hne, -⟩ | ⟨hd, -⟩ | ⟨-, -, -, hlog⟩ := step_cases h
    · exact absurd ho hne
    · exact absurd (ho.symm.trans hd) (by decide)
    · exact hlog
  exact hlog (runSteps_keeps logFile_of_eventsEnabled (fun _ => rfl) hrun hoff)

theorem arg_ne_nil (g : OptionGroup) : g.arg ≠ [] := by
  intro h
  have hnone : Argument.ofText [] = none := by decide
  exact Option.some_ne_none _ (g.ofText_eq.symm.trans (h ▸ hnone))

/-! ## Lines of groups -/

theorem apply_of_takesNext_false {argument : Argument} (h : argument.takesNext = false)
    (result : StartupArguments) (arg : Str) (arg2 arg2' : Option Str) :
    argument.apply env result arg arg2 = argument.apply env result arg arg2' := by
  cases argument <;> first | rfl | cases h

theorem parseArgumentsLoop_group (g : OptionGroup) (result : StartupArguments) (rest : List Str) :
    (parseArgumentsLoop env result (g.args ++ rest)).toOption
      = (step env result g).bind fun r => (parseArgumentsLoop env r rest).toOption := by
  obtain ⟨c, s, harg⟩ := List.exists_cons_of_ne_nil g.arg_ne_nil
  have hofText := harg ▸ g.ofText_eq
  have hvalue := g.isSome_value
  unfold step args
  rw [harg, List.cons_append, parseArgumentsLoop]
  split
  case h_1 hnone => simp [hofText] at hnone
  case h_2 hhelp => exact absurd (Option.some.inj (hofText.symm.trans hhelp)) g.ne_help
  case h_3 hversion => exact absurd (Option.some.inj (hofText.symm.trans hversion)) g.ne_version
  case h_4 argument _ _ hargument =>
    obtain rfl : g.argument = argument := Option.some.inj (hofText.symm.trans hargument)
    cases hv : g.value with
    | none =>
      have hnext : g.argument.takesNext = false := by rw [← hvalue, hv]; rfl
      simp only [Option.toList_none, List.nil_append]
      rw [apply_of_takesNext_false hnext result _ rest.head? none]
      cases g.argument.apply env result (c :: s) none with
      | error e => rfl
      | ok r => cases rest <;> simp [hnext, Except.toOption]
    | some v =>
      have hnext : g.argument.takesNext = true := by rw [← hvalue, hv]; rfl
      simp only [Option.toList_some, List.singleton_append, List.head?_cons]
      cases g.argument.apply env result (c :: s) (some v) with
      | error e => rfl
      | ok r => simp [hnext, Except.toOption]

/-- A line of groups is accepted if each of them is, and does what they do one after the other. -/
theorem parseArgumentsLoop_groups (groups : List OptionGroup) (result : StartupArguments) :
    (parseArgumentsLoop env result (groups.flatMap args)).toOption
      = (runSteps (step env) result groups).map fun r => .run r.fillEmptyFieldsWithDefaults := by
  induction groups generalizing result with
  | nil => rfl
  | cons g groups ih =>
    rw [List.flatMap_cons, parseArgumentsLoop_group, runSteps, Option.map_bind]
    exact congrArg _ (funext ih)

end OptionGroup

/-- Swapping two groups next to each other changes neither whether the line is accepted nor what
it asks for, and a line with both `-d` and `-o` is refused. -/
theorem parseArguments_swap (env : ArgsEnv) (program : Str) :
    (∀ (before after : List OptionGroup) (g g' : OptionGroup), g.Swappable g' →
      (parseArguments env
          (program :: (before ++ g :: g' :: after).flatMap OptionGroup.args)).toOption
        = (parseArguments env
          (program :: (before ++ g' :: g :: after).flatMap OptionGroup.args)).toOption)
      ∧ ∀ (groups : List OptionGroup) (g g' : OptionGroup), g ∈ groups → g' ∈ groups →
        g.argument = .disableEvents → g'.argument = .logFile →
        (parseArguments env (program :: groups.flatMap OptionGroup.args)).toOption = none := by
  simp only [parseArguments, List.tail_cons, OptionGroup.parseArgumentsLoop_groups]
  constructor
  · intro before after g g' h
    exact congrArg _ (runSteps_swap h.commutes before after _)
  · intro groups g g' hg hg' hd ho
    rw [OptionGroup.runSteps_disableEvents_logFile hg hg' hd ho]
    rfl

/-- `-A noauth` and `-a userpass` in both orders. -/
theorem parseArguments_swap_auth :
    (parseArguments offline (["dust-devil", "-v", "-A", "noauth", "-a", "userpass"].map
        String.toList)).toOption
      = (parseArguments offline (["dust-devil", "-v", "-a", "userpass", "-A", "noauth"].map
        String.toList)).toOption :=
  (parseArguments_swap offline "dust-devil".toList).1
    [⟨.verbose, "-v".toList, none, by decide, rfl, by decide, by decide, by decide⟩] []
    ⟨.authEnable, "-A".toList, some "noauth".toList, by decide, rfl, by decide, by decide,
      by decide⟩
    ⟨.authDisable, "-a".toList, some "userpass".toList, by decide, rfl, by decide, by decide,
      by decide⟩
    ⟨.inl (by decide), by rintro (_ | _) <;> decide⟩

end DustDevil
