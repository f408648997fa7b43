import CallingService.Foundation.Run

/-!
# Handlers of requests

A handler asks a service for one thing at a time and goes on with the answer.
Many handlers run at once: between two questions of a handler the service
answers those of others and changes on its own.  What a handler asks for
follows from its own questions and answers, and each of its answers was given
at a moment of the whole run.
-/

namespace CallingService.Foundation

/-- A handler ends or asks a question. -/
inductive Handler (Question : Type) (Answer : Question → Type)
    (Outcome : Type) where
  | done (outcome : Outcome)
  | ask (question : Question)
      (next : Answer question → Handler Question Answer Outcome)

/-- A question with its answer. -/
structure Exchange (Question : Type) (Answer : Question → Type) where
  question : Question
  answer : Answer question

abbrev Exchanges (Question : Type) (Answer : Question → Type) :=
  List (Exchange Question Answer)

variable {Question : Type} {Answer : Question → Type}
variable {Outcome First Second : Type}
variable {permits : Exchanges Question Answer → Question → Prop}
variable {past : Exchanges Question Answer}
variable {ends weaker : Exchanges Question Answer → Outcome → Prop}
variable {asked : Question} {answer : Answer asked}

namespace Handler

variable {origin rest handler : Handler Question Answer Outcome}
variable {next : Answer asked → Handler Question Answer Outcome}

def bind (first : Handler Question Answer First)
    (next : First → Handler Question Answer Second) :
    Handler Question Answer Second :=
  match first with
  | .done outcome => next outcome
  | .ask question rest => .ask question fun answer => (rest answer).bind next

instance : Monad (Handler Question Answer) where
  pure := .done
  bind := bind

/-- Ask one question and end with its answer. -/
def question (asked : Question) : Handler Question Answer (Answer asked) :=
  .ask asked .done

/-! ## What a handler asks for -/

/-- `origin` has become `rest` after the exchanges. -/
inductive Reaches (origin : Handler Question Answer Outcome) :
    Exchanges Question Answer → Handler Question Answer Outcome → Prop where
  | start : Reaches origin [] origin
  | answered {past : Exchanges Question Answer} {asked : Question}
      {next : Answer asked → Handler Question Answer Outcome}
      (before : Reaches origin past (.ask asked next))
      (answer : Answer asked) :
      Reaches origin (past ++ [⟨asked, answer⟩]) (next answer)

theorem Reaches.head (later : Reaches (next answer) past rest) :
    Reaches (.ask asked next) (⟨asked, answer⟩ :: past) rest := by
  induction later with
  | start => exact .answered .start answer
  | answered before last ih => exact .answered ih last

/-- Whatever the answers are, each question is permitted after the exchanges
before it, and so is the outcome after all of them. -/
def Keeps (permits : Exchanges Question Answer → Question → Prop)
    (ends : Exchanges Question Answer → Outcome → Prop) :
    Exchanges Question Answer → Handler Question Answer Outcome → Prop
  | past, .done outcome => ends past outcome
  | past, .ask question next =>
      permits past question ∧
        ∀ answer, (next answer).Keeps permits ends
          (past ++ [⟨question, answer⟩])

theorem keeps_bind {ends : Exchanges Question Answer → Second → Prop}
    {first : Handler Question Answer First}
    {next : First → Handler Question Answer Second} :
    (first.bind next).Keeps permits ends past ↔
      first.Keeps permits
        (fun later outcome => (next outcome).Keeps permits ends later)
        past := by
  induction first generalizing past with
  | done outcome => rfl
  | ask asked rest ih =>
      exact and_congr_right fun _ => forall_congr' fun answer => ih answer

theorem Keeps.mono (keeps : handler.Keeps permits ends past)
    (implied : ∀ later outcome, ends later outcome → weaker later outcome) :
    handler.Keeps permits weaker past := by
  induction handler generalizing past with
  | done outcome => exact implied past outcome keeps
  | ask asked next ih =>
      exact ⟨keeps.1, fun answer => ih answer (keeps.2 answer)⟩

/-- The exchanges only grow. -/
theorem Keeps.prefixed (keeps : handler.Keeps permits ends past) :
    handler.Keeps permits
      (fun later outcome => past <+: later ∧ ends later outcome) past := by
  induction handler generalizing past with
  | done outcome => exact ⟨List.prefix_rfl, keeps⟩
  | ask asked next ih =>
      refine ⟨keeps.1, fun answer => (ih answer (keeps.2 answer)).mono ?_⟩
      intro later outcome known
      exact ⟨(List.prefix_append _ _).trans known.1, known.2⟩

theorem Keeps.of_reaches (keeps : origin.Keeps permits ends [])
    (reached : Reaches origin past rest) : rest.Keeps permits ends past := by
  induction reached with
  | start => exact keeps
  | answered before answer ih => exact ih.2 answer

end Handler

/-! ## Handlers that may fail -/

abbrev FallibleHandler (Question : Type) (Answer : Question → Type)
    (Failure : Type) :=
  ExceptT Failure (Handler Question Answer)

namespace FallibleHandler

open Handler

variable {Failure Other : Type}
variable {ends weaker : Exchanges Question Answer → First → Prop}
variable {endsSecond : Exchanges Question Answer → Second → Prop}
variable {failure : Failure} {result : Except Failure First}
variable {handler : FallibleHandler Question Answer Failure First}
variable {next : First → FallibleHandler Question Answer Failure Second}

/-- Ask a question that has an answer in any case. -/
def query (asked : Question) :
    FallibleHandler Question Answer Failure (Answer asked) :=
  ExceptT.mk ((question asked).bind fun answer => .done (.ok answer))

/-- Whatever the failure is, it becomes `failure`. -/
def orFail (failure : Failure)
    (answered : Handler Question Answer (Except Other First)) :
    FallibleHandler Question Answer Failure First :=
  ExceptT.mk (answered.bind fun answer =>
    .done (answer.mapError fun _ => failure))

def ofResult (result : Except Failure First) :
    FallibleHandler Question Answer Failure First :=
  ExceptT.mk (.done result)

/-- Each question is permitted, and where the handler succeeds its value is
as it should be. -/
def Yields (permits : Exchanges Question Answer → Question → Prop)
    (ends : Exchanges Question Answer → First → Prop)
    (past : Exchanges Question Answer)
    (handler : FallibleHandler Question Answer Failure First) : Prop :=
  Handler.Keeps permits
    (fun later result => ∀ value, result = .ok value → ends later value)
    past handler.run

theorem yields_pure {value : First} (holds : ends past value) :
    Yields permits ends past
      (pure value : FallibleHandler Question Answer Failure First) := by
  rintro _ ⟨⟩
  exact holds

theorem yields_throw :
    Yields permits ends past
      (throw failure : FallibleHandler Question Answer Failure First) := by
  rintro _ ⟨⟩

theorem yields_ofResult
    (holds : ∀ value, result = .ok value → ends past value) :
    Yields permits ends past (ofResult result) :=
  holds

theorem yields_orFail
    {answered : Handler Question Answer (Except Other First)}
    (holds : answered.Keeps permits
      (fun later result => ∀ value, result = .ok value → ends later value)
      past) :
    Yields permits ends past (orFail failure answered) := by
  apply keeps_bind.mpr
  apply holds.mono
  intro later result known value same
  cases result with
  | error other => cases same
  | ok found =>
      cases same
      exact known value rfl

theorem yields_bind (yields : Yields permits ends past handler)
    (continues : ∀ later value, past <+: later → ends later value →
      Yields permits endsSecond later (next value)) :
    Yields permits endsSecond past (handler >>= next) := by
  apply keeps_bind.mpr
  apply yields.prefixed.mono
  intro later result known
  cases result with
  | error failure => rintro _ ⟨⟩
  | ok value => exact continues later value known.1 (known.2 value rfl)

theorem yields_any_bind (yields : Yields permits (fun _ _ => True) past handler)
    (continues : ∀ later value,
      Yields permits endsSecond later (next value)) :
    Yields permits endsSecond past (handler >>= next) :=
  yields_bind yields fun later value _ _ => continues later value

theorem yields_query_bind
    {next : Answer asked → FallibleHandler Question Answer Failure Second}
    (permitted : permits past asked)
    (continues : ∀ answer,
      Yields permits endsSecond (past ++ [⟨asked, answer⟩]) (next answer)) :
    Yields permits endsSecond past (query asked >>= next) :=
  ⟨permitted, continues⟩

theorem yields_ofResult_bind
    (continues : ∀ value, result = .ok value →
      Yields permits endsSecond past (next value)) :
    Yields permits endsSecond past (ofResult result >>= next) := by
  cases result with
  | error failure => rintro _ ⟨⟩
  | ok value => exact continues value rfl

theorem yields_adapt {change : Failure → Other}
    (yields : Yields permits ends past handler) :
    Yields permits ends past (handler.adapt change) := by
  apply keeps_bind.mpr
  apply Keeps.mono yields
  intro later result known value same
  cases result with
  | error other => cases same
  | ok found =>
      cases same
      exact known value rfl

end FallibleHandler

/-! ## Many handlers -/

section Pools

open Handler

variable {Origin State Action : Type}

/-- A request in progress: where it began, what it asked so far and what it
still has to do. -/
structure Task (handle : Origin → Handler Question Answer Outcome) where
  origin : Origin
  past : Exchanges Question Answer
  rest : Handler Question Answer Outcome
  reached : Reaches (handle origin) past rest

variable {handle : Origin → Handler Question Answer Outcome}

def Task.begin (origin : Origin) : Task handle where
  origin := origin
  past := []
  rest := handle origin
  reached := .start

/-- The task after the answer to its question. -/
def Task.answered (task : Task handle) {asked : Question}
    {next : Answer asked → Handler Question Answer Outcome}
    (asks : task.rest = .ask asked next) (answer : Answer asked) :
    Task handle where
  origin := task.origin
  past := task.past ++ [⟨asked, answer⟩]
  rest := next answer
  reached := .answered (asks ▸ task.reached) answer

structure Pool (handle : Origin → Handler Question Answer Outcome)
    (State : Type) where
  state : State
  tasks : List (Task handle)

inductive PoolEvent (Origin Question : Type) (Answer : Question → Type)
    (Outcome Action : Type) where
  | began (origin : Origin)
  | answered (exchange : Exchange Question Answer)
  | ended (origin : Origin) (outcome : Outcome)
  /-- The service changes on its own. -/
  | acted (action : Action)

/-- The service that answers the questions. -/
structure Service (State Question : Type) (Answer : Question → Type)
    (Action : Type) where
  answers : State → Exchange Question Answer → State → Prop
  acts : State → Action → State → Prop

variable (service : Service State Question Answer Action)

def PoolStep (before : Pool handle State) :
    PoolEvent Origin Question Answer Outcome Action → Pool handle State → Prop
  | .began origin, after =>
      after = ⟨before.state, before.tasks ++ [.begin origin]⟩
  | .answered exchange, after =>
      ∃ (earlier later : List (Task handle)) (task : Task handle)
        (next : Answer exchange.question → Handler Question Answer Outcome)
        (asks : task.rest = .ask exchange.question next) (state : State),
        before.tasks = earlier ++ task :: later ∧
        service.answers before.state exchange state ∧
        after = ⟨state, earlier ++ task.answered asks exchange.answer :: later⟩
  | .ended origin outcome, after =>
      ∃ (earlier later : List (Task handle)) (task : Task handle),
        before.tasks = earlier ++ task :: later ∧
        task.origin = origin ∧ task.rest = .done outcome ∧
        after = ⟨before.state, earlier ++ later⟩
  | .acted action, after =>
      ∃ state, service.acts before.state action state ∧
        after = ⟨state, before.tasks⟩

variable {service}
variable {start : State} {finish : Pool handle State} {origin : Origin}
variable {events before since :
  List (PoolEvent Origin Question Answer Outcome Action)}
variable {exchange : Exchange Question Answer}

/-- The exchanges among the events. -/
def exchangesOf :
    List (PoolEvent Origin Question Answer Outcome Action) →
      Exchanges Question Answer
  | [] => []
  | .answered exchange :: events => exchange :: exchangesOf events
  | _ :: events => exchangesOf events

theorem exchangesOf_append :
    exchangesOf (before ++ since) = exchangesOf before ++ exchangesOf since := by
  induction before with
  | nil => rfl
  | cons event before ih => cases event <;> simp [exchangesOf, ih]

theorem exists_of_mem_exchangesOf (among : exchange ∈ exchangesOf since) :
    ∃ during later, since = during ++ .answered exchange :: later := by
  induction since with
  | nil => cases among
  | cons event since ih =>
      have found : event = .answered exchange ∨
          exchange ∈ exchangesOf since := by
        cases event with
        | answered other =>
            exact (List.mem_cons.mp among).imp_left fun same => by rw [same]
        | _ => exact .inr among
      rcases found with rfl | rest
      · exact ⟨[], since, rfl⟩
      · obtain ⟨during, later, rfl⟩ := ih rest
        exact ⟨event :: during, later, rfl⟩

/-- The request began in this history, and the exchanges are among the later
ones. -/
def BeganIn (history : List (PoolEvent Origin Question Answer Outcome Action))
    (origin : Origin) (exchanges : Exchanges Question Answer) : Prop :=
  ∃ before since, history = before ++ .began origin :: since ∧
    exchanges.Sublist (exchangesOf since)

theorem BeganIn.snoc (began : BeganIn events origin past)
    (event : PoolEvent Origin Question Answer Outcome Action) :
    BeganIn (events ++ [event]) origin past := by
  obtain ⟨before, since, rfl, among⟩ := began
  refine ⟨before, since ++ [event], by simp, ?_⟩
  rw [exchangesOf_append]
  exact among.trans (List.sublist_append_left _ _)

theorem BeganIn.answered (began : BeganIn events origin past)
    (exchange : Exchange Question Answer) :
    BeganIn (events ++ [.answered exchange]) origin (past ++ [exchange]) := by
  obtain ⟨before, since, rfl, among⟩ := began
  refine ⟨before, since ++ [.answered exchange], by simp, ?_⟩
  rw [exchangesOf_append]
  exact among.append (List.Sublist.refl [exchange])

/-- Each request in progress has begun, and its exchanges came since. -/
def TasksBegan
    (history : List (PoolEvent Origin Question Answer Outcome Action))
    (pool : Pool handle State) : Prop :=
  ∀ task ∈ pool.tasks, BeganIn history task.origin task.past

theorem PoolStep.tasksBegan {middle : Pool handle State}
    {event : PoolEvent Origin Question Answer Outcome Action}
    (began : TasksBegan events middle)
    (step : PoolStep service middle event finish) :
    TasksBegan (events ++ [event]) finish := by
  intro task member
  cases event with
  | began origin =>
      cases step
      rcases List.mem_append.mp member with old | new
      · exact (began task old).snoc _
      · rw [List.mem_singleton.mp new]
        exact ⟨events, [], rfl, List.Sublist.refl _⟩
  | answered exchange =>
      obtain ⟨earlier, later, asking, next, asks, state, isMiddle, -, rfl⟩ :=
        step
      have known : ∀ old ∈ earlier ++ asking :: later,
          BeganIn events old.origin old.past := isMiddle ▸ began
      rcases List.mem_append.mp member with old | rest
      · exact (known task (List.mem_append_left _ old)).snoc _
      · rcases List.mem_cons.mp rest with rfl | old
        · exact (known asking (by simp)).answered exchange
        · exact (known task (by simp [old])).snoc _
  | ended origin outcome =>
      obtain ⟨earlier, later, ending, isMiddle, -, -, rfl⟩ := step
      apply BeganIn.snoc
      apply began
      rw [isMiddle]
      rcases List.mem_append.mp member with old | old
      · exact List.mem_append_left _ old
      · simp [old]
  | acted action =>
      obtain ⟨state, -, rfl⟩ := step
      exact (began task member).snoc _

theorem Run.tasksBegan
    (run : Run (PoolStep service) ⟨start, []⟩ events finish) :
    TasksBegan events finish :=
  run.history_invariant (fun task member => by cases member)
    fun began step => step.tasksBegan began

/-- An answered question was asked by a request that has begun, after its own
exchanges since then. -/
theorem Run.answered_reached
    (run : Run (PoolStep service) ⟨start, []⟩
      (events ++ [.answered exchange]) finish) :
    ∃ origin past next, BeganIn events origin past ∧
      Reaches (handle origin) past (.ask exchange.question next) := by
  obtain ⟨_, earlier, _, _, task, next, asks, _, isMiddle, -, -⟩ := run.last
  refine ⟨task.origin, task.past, next, ?_, asks ▸ task.reached⟩
  exact earlier.tasksBegan task (by simp [isMiddle])

/-- A request that ended has done all that its handler does. -/
theorem Run.ended_reached {outcome : Outcome}
    (run : Run (PoolStep service) ⟨start, []⟩
      (events ++ [.ended origin outcome]) finish) :
    ∃ past, BeganIn events origin past ∧
      Reaches (handle origin) past (.done outcome) := by
  obtain ⟨_, earlier, _, _, task, isMiddle, rfl, ends, -⟩ := run.last
  refine ⟨task.past, ?_, ends ▸ task.reached⟩
  exact earlier.tasksBegan task (by simp [isMiddle])

/-- An exchange took place at a moment of the run. -/
theorem Run.exchange_answered {initial : Pool handle State}
    (run : Run (PoolStep service) initial (before ++ since) finish)
    (among : exchange ∈ exchangesOf since) :
    ∃ during later asking answering,
      since = during ++ .answered exchange :: later ∧
      Run (PoolStep service) initial (before ++ during) asking ∧
      PoolStep service asking (.answered exchange) answering ∧
      service.answers asking.state exchange answering.state := by
  obtain ⟨during, later, rfl⟩ := exists_of_mem_exchangesOf among
  rw [← List.append_assoc] at run
  obtain ⟨asking, first, rest⟩ := run.split
  obtain ⟨answering, step, -⟩ := rest.head
  have served := step
  obtain ⟨_, _, _, _, _, _, -, answers, rfl⟩ := served
  exact ⟨during, later, asking, _, rfl, first, step, answers⟩

/-- What each answer and each action keeps holds of every state. -/
theorem Run.service_invariant {Inv : State → Prop}
    {initial : Pool handle State}
    (run : Run (PoolStep service) initial events finish)
    (initially : Inv initial.state)
    (answers : ∀ {before exchange after}, Inv before →
      service.answers before exchange after → Inv after)
    (acts : ∀ {before action after}, Inv before →
      service.acts before action after → Inv after) :
    Inv finish.state := by
  induction run with
  | nil => exact initially
  | @snoc past event middle last run step ih =>
      cases event with
      | began origin =>
          cases step
          exact ih
      | answered exchange =>
          obtain ⟨_, _, _, _, _, _, -, served, rfl⟩ := step
          exact answers ih served
      | ended origin outcome =>
          obtain ⟨_, _, _, -, -, -, rfl⟩ := step
          exact ih
      | acted action =>
          obtain ⟨_, acted, rfl⟩ := step
          exact acts ih acted

/-- One request, served alone. -/
theorem Run.alone {rest : Handler Question Answer Outcome} {last : State}
    (reached : Reaches (handle origin) past rest)
    (served : Run service.answers start past last) :
    Run (PoolStep service) ⟨start, []⟩
      (.began origin :: past.map
        fun exchange =>
          (.answered exchange :
            PoolEvent Origin Question Answer Outcome Action))
      ⟨last, [⟨origin, past, rest, reached⟩]⟩ := by
  induction reached generalizing last with
  | start =>
      rw [served.eq_of_nil]
      exact .snoc .nil rfl
  | @answered earlier asked next before answer ih =>
      obtain ⟨middle, first, answers⟩ := served.last
      rw [List.map_append, ← List.cons_append]
      exact .snoc (ih first)
        ⟨[], [], ⟨origin, earlier, .ask asked next, before⟩, next, rfl, last,
          rfl, answers, rfl⟩

end Pools

end CallingService.Foundation
