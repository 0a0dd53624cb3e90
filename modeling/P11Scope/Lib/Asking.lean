import Mathlib

/-!
# Programs that ask an environment

A program asks queries and continues with the answers.  Against a fixed
environment it computes a value; against one that changes its answers as it
likes it also leaves a record of what was asked.  A rule of pre- and
postconditions covers every such environment at once.
-/

namespace P11Scope.Lib

open List

variable {Query : Type} {Answer : Query → Type} {α β : Type}

/-- A value, or a query whose answer decides how to go on. -/
inductive Asking (Query : Type) (Answer : Query → Type) (α : Type) : Type where
  | done (value : α) : Asking Query Answer α
  | ask (query : Query) (next : Answer query → Asking Query Answer α) : Asking Query Answer α

namespace Asking

def bind : Asking Query Answer α → (α → Asking Query Answer β) → Asking Query Answer β
  | .done value, next => next value
  | .ask query rest, next => .ask query fun answer => (rest answer).bind next

instance : Monad (Asking Query Answer) where
  pure := .done
  bind := bind

instance : LawfulMonad (Asking Query Answer) := by
  refine LawfulMonad.mk' (Asking Query Answer) ?_ (fun _ _ => rfl) ?_
  · intro result program
    induction program with
    | done value => rfl
    | ask query rest ih => exact congrArg (Asking.ask query) (funext ih)
  · intro first second third program next last
    induction program with
    | done value => rfl
    | ask query rest ih => exact congrArg (Asking.ask query) (funext ih)

/-- One query, answered. -/
def query (asked : Query) : Asking Query Answer (Answer asked) := .ask asked .done

/-- A loop that only updates a state with each visit's value can visit first. -/
theorem foldlM_eq_mapM {State : Type} (visit : α → Asking Query Answer β)
    (update : State → α → β → State) (items : List α) (start : State) :
    items.foldlM (fun state item => update state item <$> visit item) start =
      (fun values =>
          (items.zip values).foldl (fun state pair => update state pair.1 pair.2) start) <$>
        items.mapM visit := by
  induction items generalizing start with
  | nil => simp
  | cons item rest ih => simp [foldlM_cons, mapM_cons, ih]

theorem mapM_congr {visit other : α → Asking Query Answer β} {items : List α}
    (same : ∀ item ∈ items, visit item = other item) : items.mapM visit = items.mapM other := by
  induction items with
  | nil => rfl
  | cons item rest ih =>
    rw [mapM_cons, mapM_cons, same item mem_cons_self,
      ih fun next member => same next (mem_cons_of_mem _ member)]

/-! ## A fixed environment -/

/-- The value against an environment that answers each query the same way. -/
def against (environment : (query : Query) → Answer query) : Asking Query Answer α → α
  | .done value => value
  | .ask query next => (next (environment query)).against environment

section

variable (environment : (query : Query) → Answer query)

@[simp]
theorem against_pure (value : α) :
    (pure value : Asking Query Answer α).against environment = value := rfl

@[simp]
theorem against_query (asked : Query) :
    (query asked : Asking Query Answer _).against environment = environment asked := rfl

@[simp]
theorem against_bind (program : Asking Query Answer α) (next : α → Asking Query Answer β) :
    (program >>= next).against environment =
      (next (program.against environment)).against environment := by
  induction program with
  | done value => rfl
  | ask query rest ih => exact ih (environment query)

@[simp]
theorem against_map (view : α → β) (program : Asking Query Answer α) :
    (view <$> program).against environment = view (program.against environment) :=
  against_bind environment program (pure ∘ view)

@[simp]
theorem against_ite (condition : Prop) [Decidable condition]
    (yes no : Asking Query Answer α) :
    (if condition then yes else no).against environment =
      if condition then yes.against environment else no.against environment := by
  split
  · rfl
  · rfl

/-- A fixed environment turns a loop that asks into a loop that does not. -/
theorem against_mapM (visit : α → Asking Query Answer β) (items : List α) :
    (items.mapM visit).against environment =
      items.map fun item => (visit item).against environment := by
  induction items with
  | nil => rfl
  | cons item rest ih => simp [mapM_cons, ih]

theorem against_foldlM {State : Type} (visit : State → α → Asking Query Answer State)
    (items : List α) (start : State) :
    (items.foldlM visit start).against environment =
      items.foldl (fun state item => (visit state item).against environment) start := by
  induction items generalizing start with
  | nil => rfl
  | cons item rest ih => simp [foldlM_cons, ih]

end

/-! ## An environment that changes its answers -/

/-- A query and its answer. -/
abbrev Exchange (Query : Type) (Answer : Query → Type) := (query : Query) × Answer query

/-- Play against an environment with a state of its own; the second part lists
the exchanges in order. -/
def play {Environment : Type}
    (respond : Environment → (query : Query) → Answer query × Environment) :
    Environment → Asking Query Answer α → α × List (Exchange Query Answer)
  | _, .done value => (value, [])
  | state, .ask query next =>
    let (answer, later) := respond state query
    let (value, exchanges) := (next answer).play respond later
    (value, ⟨query, answer⟩ :: exchanges)

/-- Whatever answers are given, the value and all exchanges satisfy `post`. -/
def Always (post : List (Exchange Query Answer) → α → Prop) :
    List (Exchange Query Answer) → Asking Query Answer α → Prop
  | before, .done value => post before value
  | before, .ask query next =>
    ∀ answer, (next answer).Always post (before ++ [⟨query, answer⟩])

namespace Always

variable {before : List (Exchange Query Answer)}

theorem bind_iff {post : List (Exchange Query Answer) → β → Prop}
    (program : Asking Query Answer α) (next : α → Asking Query Answer β) :
    (program >>= next).Always post before ↔
      program.Always (fun after value => (next value).Always post after) before := by
  induction program generalizing before with
  | done value => exact Iff.rfl
  | ask query rest ih => exact forall_congr' fun answer => ih answer

variable {post : List (Exchange Query Answer) → α → Prop} {program : Asking Query Answer α}

theorem mono {weaker : List (Exchange Query Answer) → α → Prop}
    (weaken : ∀ after value, post after value → weaker after value)
    (holds : program.Always post before) : program.Always weaker before := by
  induction program generalizing before with
  | done value => exact weaken before value holds
  | ask query rest ih => exact fun answer => ih answer (holds answer)

theorem bind {post : List (Exchange Query Answer) → β → Prop}
    {middle : List (Exchange Query Answer) → α → Prop} {next : α → Asking Query Answer β}
    (first : program.Always middle before)
    (rest : ∀ after value, middle after value → (next value).Always post after) :
    (program >>= next).Always post before :=
  (bind_iff program next).mpr (first.mono rest)

theorem query_bind {asked : Query} {next : Answer asked → Asking Query Answer α}
    (every : ∀ answer, (next answer).Always post (before ++ [⟨asked, answer⟩])) :
    (query asked >>= next).Always post before := every

/-- What was exchanged before stays exchanged. -/
theorem extends_before (holds : program.Always post before) :
    program.Always (fun after value => before <+: after ∧ post after value) before := by
  induction program generalizing before with
  | done value => exact ⟨prefix_rfl, holds⟩
  | ask query rest ih =>
    intro answer
    refine (ih answer (holds answer)).mono ?_
    rintro after value ⟨extended, good⟩
    exact ⟨(prefix_append _ _).trans extended, good⟩

/-- A loop keeps an invariant that may depend on the items already visited. -/
theorem mapM {visit : α → Asking Query Answer β} {items : List α}
    (invariant : List α → List (Exchange Query Answer) → Prop)
    (each : ∀ done item rest, items = done ++ item :: rest → ∀ after, invariant done after →
      (visit item).Always (fun later _ => invariant (done ++ [item]) later) after)
    (start : invariant [] before) :
    (items.mapM visit).Always (fun after _ => invariant items after) before := by
  induction items generalizing invariant before with
  | nil => exact start
  | cons item rest ih =>
    rw [mapM_cons]
    refine (each [] item rest rfl before start).bind fun after value kept => ?_
    have onward := ih (fun done => invariant (item :: done))
      (fun done next tail split => each (item :: done) next tail (congrArg _ split)) kept
    exact onward.bind fun later values keptLater => keptLater

/-- What always holds, holds of every play. -/
theorem play {Environment : Type}
    (respond : Environment → (query : Query) → Answer query × Environment)
    (holds : program.Always post before) (state : Environment) :
    post (before ++ (program.play respond state).2) (program.play respond state).1 := by
  induction program generalizing before state with
  | done value => exact (append_nil before).symm ▸ holds
  | ask query rest ih =>
    have later := ih _ (holds (respond state query).1) (respond state query).2
    rw [append_assoc] at later
    exact later

end Always

/-! ## Outcomes that some answers bring about -/

/-- Some answers lead the program to this value and these exchanges. -/
inductive Reaches : Asking Query Answer α → List (Exchange Query Answer) → α →
    List (Exchange Query Answer) → Prop
  | done (value : α) (before : List (Exchange Query Answer)) :
      Reaches (.done value) before value before
  | ask {query : Query} {next : Answer query → Asking Query Answer α}
      {before after : List (Exchange Query Answer)} {value : α} (answer : Answer query)
      (onward : Reaches (next answer) (before ++ [⟨query, answer⟩]) value after) :
      Reaches (.ask query next) before value after

namespace Reaches

variable {before middle after : List (Exchange Query Answer)} {value : α}

theorem bind {program : Asking Query Answer α} {next : α → Asking Query Answer β} {last : β}
    (first : program.Reaches before value middle) (rest : (next value).Reaches middle last after) :
    (program >>= next).Reaches before last after := by
  induction first with
  | done value before => exact rest
  | ask answer onward ih => exact .ask answer (ih rest)

theorem query_bind {asked : Query} {next : Answer asked → Asking Query Answer α}
    (answer : Answer asked)
    (onward : (next answer).Reaches (before ++ [⟨asked, answer⟩]) value after) :
    (query asked >>= next).Reaches before value after := .ask answer onward

/-- A loop reaches what its turns reach. -/
theorem mapM {visit : α → Asking Query Answer β} {items : List α} (result : β → Prop)
    (each : ∀ item ∈ items, ∀ before, ∃ value after, before <+: after ∧ result value ∧
      (visit item).Reaches before value after) (before : List (Exchange Query Answer)) :
    ∃ values after, before <+: after ∧ (∀ value ∈ values, result value) ∧
      (items.mapM visit).Reaches before values after := by
  induction items generalizing before with
  | nil =>
    exact ⟨[], before, prefix_rfl, nofun, .done [] before⟩
  | cons item rest ih =>
    obtain ⟨value, middle, extended, good, reached⟩ := each item mem_cons_self before
    obtain ⟨values, after, further, all, onward⟩ :=
      ih (fun other member => each other (mem_cons_of_mem _ member)) middle
    refine ⟨value :: values, after, extended.trans further, ?_, ?_⟩
    · exact forall_mem_cons.mpr ⟨good, all⟩
    · rw [mapM_cons]
      exact reached.bind (onward.bind (.done _ _))

/-- Every program reaches something, and what was exchanged stays exchanged. -/
theorem exists_of_nonempty [∀ query, Nonempty (Answer query)] (program : Asking Query Answer α)
    (before : List (Exchange Query Answer)) :
    ∃ value after, before <+: after ∧ program.Reaches before value after := by
  induction program generalizing before with
  | done value => exact ⟨value, before, prefix_rfl, .done value before⟩
  | ask query next ih =>
    obtain ⟨answer⟩ := (inferInstance : Nonempty (Answer query))
    obtain ⟨value, after, extended, reached⟩ := ih answer (before ++ [⟨query, answer⟩])
    exact ⟨value, after, (prefix_append _ _).trans extended, .ask answer reached⟩

/-- One more state in front of an environment. -/
def prepend {Environment : Type} [DecidableEq Query] [∀ query, Inhabited (Answer query)]
    (respond : Environment → (query : Query) → Answer query × Environment) (state : Environment)
    (first : Exchange Query Answer) :
    Option Environment → (query : Query) → Answer query × Option Environment
  | none, query =>
    if same : first.1 = query then (same ▸ first.2, some state) else (default, some state)
  | some later, query => ((respond later query).1, some (respond later query).2)

theorem play_prepend {Environment : Type} [DecidableEq Query] [∀ query, Inhabited (Answer query)]
    (respond : Environment → (query : Query) → Answer query × Environment) (state : Environment)
    (first : Exchange Query Answer) (program : Asking Query Answer α) (later : Environment) :
    program.play (prepend respond state first) (some later) = program.play respond later := by
  induction program generalizing later with
  | done value => rfl
  | ask query next ih =>
    exact congrArg (fun rest => (rest.1, (⟨query, (respond later query).1⟩ :: rest.2)))
      (ih (respond later query).1 (respond later query).2)

/-- What is reached is played by some environment. -/
theorem exists_play [DecidableEq Query] [∀ query, Inhabited (Answer query)]
    {program : Asking Query Answer α} (reached : program.Reaches before value after) :
    ∃ (Environment : Type) (respond : Environment → (query : Query) → Answer query × Environment)
      (state : Environment), (program.play respond state).1 = value ∧
        after = before ++ (program.play respond state).2 := by
  induction reached with
  | done value before => exact ⟨Unit, fun _ _ => (default, ()), (), rfl, (append_nil _).symm⟩
  | @ask query next before after value answer onward ih =>
    obtain ⟨Environment, respond, state, same, trace⟩ := ih
    have first : prepend respond state ⟨query, answer⟩ none query = (answer, some state) :=
      dif_pos rfl
    refine ⟨Option Environment, prepend respond state ⟨query, answer⟩, none, ?_, ?_⟩
    · simp only [play, first, play_prepend]
      exact same
    · simp only [play, first, play_prepend]
      rw [trace, append_assoc]
      rfl

end Reaches

/-! ## Values that no answer can spoil -/

/-- Whatever honest answers are given, the value satisfies `post`. -/
def Yields (honest : (query : Query) → Answer query → Prop) (post : α → Prop) :
    Asking Query Answer α → Prop
  | .done value => post value
  | .ask query next => ∀ answer, honest query answer → (next answer).Yields honest post

namespace Yields

variable {honest : (query : Query) → Answer query → Prop}

theorem bind_iff {post : β → Prop} (program : Asking Query Answer α)
    (next : α → Asking Query Answer β) :
    (program >>= next).Yields honest post ↔
      program.Yields honest fun value => (next value).Yields honest post := by
  induction program with
  | done value => exact Iff.rfl
  | ask query rest ih => exact forall_congr' fun answer => imp_congr_right fun _ => ih answer

variable {post : α → Prop} {program : Asking Query Answer α}

theorem mono {weaker : α → Prop} (weaken : ∀ value, post value → weaker value)
    (holds : program.Yields honest post) : program.Yields honest weaker := by
  induction program with
  | done value => exact weaken value holds
  | ask query rest ih => exact fun answer fair => ih answer (holds answer fair)

theorem and {other : α → Prop} (one : program.Yields honest post)
    (two : program.Yields honest other) :
    program.Yields honest fun value => post value ∧ other value := by
  induction program with
  | done value => exact ⟨one, two⟩
  | ask query rest ih => exact fun answer fair => ih answer (one answer fair) (two answer fair)

theorem bind {post : β → Prop} {middle : α → Prop} {next : α → Asking Query Answer β}
    (first : program.Yields honest middle)
    (rest : ∀ value, middle value → (next value).Yields honest post) :
    (program >>= next).Yields honest post :=
  (bind_iff program next).mpr (first.mono rest)

theorem map {post : β → Prop} {view : α → β}
    (holds : program.Yields honest fun value => post (view value)) :
    (view <$> program).Yields honest post :=
  holds.bind fun _ good => good

/-- Views that agree on all possible values give the same program. -/
theorem map_congr {view other : α → β} (agree : ∀ value, post value → view value = other value)
    (holds : program.Yields (fun _ _ => True) post) : view <$> program = other <$> program := by
  induction program with
  | done value => exact congrArg Asking.done (agree value holds)
  | ask query rest ih =>
    exact congrArg (Asking.ask query) (funext fun answer => ih answer (holds answer trivial))

theorem query_bind {asked : Query} {next : Answer asked → Asking Query Answer α}
    (every : ∀ answer, honest asked answer → (next answer).Yields honest post) :
    (Asking.query asked >>= next).Yields honest post := every

/-- A loop whose every turn keeps an invariant keeps it. -/
theorem foldlM {State : Type} {visit : State → α → Asking Query Answer State} {items : List α}
    (invariant : State → Prop)
    (each : ∀ item ∈ items, ∀ state, invariant state → (visit state item).Yields honest invariant)
    {start : State} (begins : invariant start) :
    (items.foldlM visit start).Yields honest invariant := by
  induction items generalizing start with
  | nil => exact begins
  | cons item rest ih =>
    refine (each item mem_cons_self start begins).bind fun state kept => ?_
    exact ih (fun other member => each other (mem_cons_of_mem _ member)) kept

/-- A counted loop keeps an invariant that may depend on the count. -/
theorem foldlM_range {State : Type} {visit : State → Nat → Asking Query Answer State}
    (invariant : Nat → State → Prop) (count : Nat)
    (each : ∀ index, index < count → ∀ state, invariant index state →
      (visit state index).Yields honest (invariant (index + 1)))
    {start : State} (begins : invariant 0 start) :
    ((List.range count).foldlM visit start).Yields honest (invariant count) := by
  induction count with
  | zero => exact begins
  | succ count ih =>
    rw [range_succ, foldlM_append]
    refine (ih fun index below => each index (below.trans (Nat.lt_succ_self count))).bind ?_
    intro state kept
    exact (each count (Nat.lt_succ_self count) state kept).bind fun _ next => next

theorem mapM {visit : α → Asking Query Answer β} {items : List α} {result : β → Prop}
    (each : ∀ item ∈ items, (visit item).Yields honest result) :
    (items.mapM visit).Yields honest fun values => ∀ value ∈ values, result value := by
  induction items with
  | nil => exact nofun
  | cons item rest ih =>
    rw [mapM_cons]
    refine (each item mem_cons_self).bind fun value good => ?_
    refine (ih fun other member => each other (mem_cons_of_mem _ member)).bind ?_
    exact fun values all => forall_mem_cons.mpr ⟨good, all⟩

theorem of_forall (every : ∀ value, post value) (program : Asking Query Answer α) :
    program.Yields honest post := by
  induction program with
  | done value => exact every value
  | ask query rest ih => exact fun answer _ => ih answer

theorem mapM_length (visit : α → Asking Query Answer β) (items : List α) :
    (items.mapM visit).Yields honest fun values => values.length = items.length := by
  induction items with
  | nil => exact rfl
  | cons item rest ih =>
    rw [mapM_cons, bind_iff]
    refine of_forall (fun value => ih.bind fun values same => ?_) _
    exact congrArg Nat.succ same

theorem play {Environment : Type}
    (respond : Environment → (query : Query) → Answer query × Environment)
    (fair : ∀ state query, honest query (respond state query).1)
    (holds : program.Yields honest post) (state : Environment) :
    post (program.play respond state).1 := by
  induction program generalizing state with
  | done value => exact holds
  | ask query rest ih => exact ih _ (holds _ (fair state query)) _

end Yields

end Asking

end P11Scope.Lib
