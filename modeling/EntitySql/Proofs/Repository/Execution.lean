import EntitySql.Repository.Operations

/-! # Execution of plans

What a call that writes asks of a cache (`Operations.writes_handOver`): nothing, when planning fails
anywhere; and else for the cache and then for the statements of the whole plan in order, up to the
first that is rejected. No plan depends on what a cache answers, since the context of planning has
none. -/

namespace EntitySql

/-- The state when more was asked. -/
def SessionState.noted (state : SessionState) (events : List CacheEvent) : SessionState :=
  { state with history := state.history ++ events }

theorem SessionState.noted_noted (state : SessionState) (events more : List CacheEvent) :
    (state.noted events).noted more = state.noted (events ++ more) := by
  simp [noted, List.append_assoc]

namespace SessionM
variable {α β : Type} {state state' : SessionState}

theorem run_bind (x : SessionM α) (f : α → SessionM β) (state : SessionState) :
    (x >>= f).run state = (ExceptT.bindCont f (x.run state).1).run (x.run state).2 := rfl

theorem run_bind_ok {x : SessionM α} {f : α → SessionM β} {a : α}
    (h : x.run state = (.ok a, state')) : (x >>= f).run state = (f a).run state' := by
  rw [run_bind, h]
  rfl

theorem run_bind_error {x : SessionM α} {f : α → SessionM β} {e : Error}
    (h : x.run state = (.error e, state')) : (x >>= f).run state = (.error e, state') := by
  rw [run_bind, h]
  rfl

theorem run_put (event : CacheEvent) (question : List CacheEvent → Except String α)
    (state : SessionState) : (put event question).run state =
      ((question state.history).mapError .execution, state.noted [event]) := by
  have hget : (get : SessionM SessionState).run state = (.ok state, state) := rfl
  unfold put
  rw [run_bind_ok hget]
  have hnote : (note event).run state = (.ok (), state.noted [event]) := rfl
  rw [run_bind_ok hnote]
  cases question state.history <;> rfl

theorem run_openCache (provider : CacheProvider) (cache : String) (state : SessionState) :
    (openCache provider cache).run state =
      ((provider.openCache state.history cache).mapError .execution, state.noted [.asked cache]) :=
  run_put _ _ state

theorem run_execute (provider : CacheProvider) (cache : String) (statement : Statement)
    (state : SessionState) : (execute provider cache statement).run state =
      ((provider.execute state.history cache statement).mapError .execution,
        state.noted [.executed statement]) :=
  run_put _ _ state

end SessionM

/-- Whether a cache accepts all statements, each given all that was asked before. -/
def Accepts (provider : CacheProvider) (cache : String) (history : List CacheEvent) :
    List Statement → Prop
  | [] => True
  | statement :: rest =>
    (∃ count, provider.execute history cache statement = .ok count) ∧
      Accepts provider cache (history ++ [.executed statement]) rest

/-- How a plan runs: the outcome, and what was asked. -/
inductive PlanRun (provider : CacheProvider) (cache : String) (history : List CacheEvent)
    (plan : List Statement) : Except Error Unit → List CacheEvent → Prop
  | notOpened {text : String} (hopen : provider.openCache history cache = .error text) :
    PlanRun provider cache history plan (.error (.execution text)) [.asked cache]
  | finished (hopen : provider.openCache history cache = .ok ())
    (haccepts : Accepts provider cache (history ++ [.asked cache]) plan) :
    PlanRun provider cache history plan (.ok ()) (.asked cache :: plan.map .executed)
  | rejected {accepted rest : List Statement} {statement : Statement} {text : String}
    (hopen : provider.openCache history cache = .ok ())
    (hplan : plan = accepted ++ statement :: rest)
    (haccepts : Accepts provider cache (history ++ [.asked cache]) accepted)
    (hrejects : provider.execute (history ++ .asked cache :: accepted.map .executed) cache statement =
      .error text) :
    PlanRun provider cache history plan (.error (.execution text))
      (.asked cache :: (accepted ++ [statement]).map .executed)

/-- What a call does with its planning: it fails with it and asks nothing, or runs the plan and
returns the bean that planning left. -/
def HandsOver (provider : CacheProvider) (cache : String)
    (planning : SessionM (List Statement × Bean)) (call : SessionM Json) : Prop :=
  ∀ state, match planning.run state with
    | (.error e, planned) =>
      call.run state = (.error e, planned) ∧ planned.history = state.history
    | (.ok (plan, bean), planned) =>
      planned.history = state.history ∧ ∃ outcome events,
        PlanRun provider cache state.history plan outcome events ∧
        call.run state = (outcome.map fun _ => .object bean, planned.noted events)

/-- Calls one after the other, up to the first that fails. -/
inductive Successive (call : Json → SessionM Json) :
    List Json → SessionState → Except Error (List Json) → SessionState → Prop
  | done (state : SessionState) : Successive call [] state (.ok []) state
  | fails {document : Json} {rest : List Json} {state state' : SessionState} {e : Error}
    (h : (call document).run state = (.error e, state')) :
    Successive call (document :: rest) state (.error e) state'
  | succeeds {document answer : Json} {rest : List Json} {state state' state'' : SessionState}
    {outcome : Except Error (List Json)} (h : (call document).run state = (.ok answer, state'))
    (hrest : Successive call rest state' outcome state'') :
    Successive call (document :: rest) state (outcome.map (answer :: ·)) state''

namespace Operations
variable {n : Nat} {ops : Operations n} {state : SessionState}

/-- Running statements: all are accepted, or those in front of the first that is not. -/
theorem run_forM (ops : Operations n) (cache : String) (plan : List Statement) (state : SessionState) :
    (Accepts ops.provider cache state.history plan ∧
      (plan.forM fun statement => discard (SessionM.execute ops.provider cache statement)).run state =
        (.ok (), state.noted (plan.map .executed))) ∨
    ∃ accepted statement rest text, plan = accepted ++ statement :: rest ∧
      Accepts ops.provider cache state.history accepted ∧
      ops.provider.execute (state.history ++ accepted.map .executed) cache statement = .error text ∧
      (plan.forM fun statement => discard (SessionM.execute ops.provider cache statement)).run state =
        (.error (.execution text), state.noted ((accepted ++ [statement]).map .executed)) := by
  induction plan generalizing state with
  | nil => exact .inl ⟨trivial, by simp [SessionState.noted]; rfl⟩
  | cons statement plan ih =>
    have hexecute := SessionM.run_execute ops.provider cache statement state
    have hcons : (statement :: plan).forM (fun statement =>
          discard (SessionM.execute ops.provider cache statement)) =
        (discard (SessionM.execute ops.provider cache statement) >>= fun _ =>
          plan.forM fun statement => discard (SessionM.execute ops.provider cache statement)) := rfl
    rw [hcons]
    cases hanswer : ops.provider.execute state.history cache statement with
    | error text =>
      rw [hanswer] at hexecute
      refine .inr ⟨[], statement, plan, text, rfl, trivial, by simpa using hanswer, ?_⟩
      exact SessionM.run_bind_error (SessionM.run_bind_error hexecute)
    | ok count =>
      rw [hanswer] at hexecute
      have hstep : (discard (SessionM.execute ops.provider cache statement)).run state =
          (.ok (), state.noted [.executed statement]) := SessionM.run_bind_ok hexecute
      rw [SessionM.run_bind_ok hstep]
      rcases ih (state.noted [.executed statement]) with
        ⟨haccepts, hrun⟩ | ⟨accepted, rejected, rest, text, rfl, haccepts, hrejects, hrun⟩
      · refine .inl ⟨⟨⟨count, hanswer⟩, haccepts⟩, ?_⟩
        rw [hrun, SessionState.noted_noted]
        rfl
      · refine .inr ⟨statement :: accepted, rejected, rest, text, rfl, ⟨⟨count, hanswer⟩, haccepts⟩,
          ?_, ?_⟩
        · simpa [SessionState.noted, List.append_assoc] using hrejects
        · rw [hrun, SessionState.noted_noted]
          rfl

theorem run_runPlan (ops : Operations n) (cache : String) (plan : List Statement)
    (state : SessionState) :
    ∃ outcome events, PlanRun ops.provider cache state.history plan outcome events ∧
      (ops.runPlan cache plan).run state = (outcome, state.noted events) := by
  have hasked := SessionM.run_openCache ops.provider cache state
  unfold runPlan
  cases hopen : ops.provider.openCache state.history cache with
  | error text =>
    rw [hopen] at hasked
    exact ⟨_, _, .notOpened hopen, SessionM.run_bind_error hasked⟩
  | ok opened =>
    rw [hopen] at hasked
    rw [SessionM.run_bind_ok hasked]
    rcases run_forM ops cache plan (state.noted [.asked cache]) with
      ⟨haccepts, hrun⟩ | ⟨accepted, statement, rest, text, hplan, haccepts, hrejects, hrun⟩
    · refine ⟨_, _, .finished hopen haccepts, ?_⟩
      rw [hrun, SessionState.noted_noted]
      rfl
    · simp only [SessionState.noted, List.append_assoc, List.singleton_append] at hrejects
      refine ⟨_, _, .rejected hopen hplan haccepts hrejects, ?_⟩
      rw [hrun, SessionState.noted_noted]
      rfl

/-- Everything that persisting an instance does before a cache is asked for. -/
def persistPlan (ctx : BindContext n) (r : Repository) (e : Entity n) (document : Json) :
    SessionM (List Statement × Bean) := do
  let bean ← beanOf e document
  planned bean (ctx.planInsert r e)

/-- Everything that updating an instance does before a cache is asked for. -/
def updatePlan (ctx : BindContext n) (r : Repository) (e : Entity n) (document : Json) :
    SessionM (List Statement × Bean) := do
  let (template, stored) ← ctx.schema.storedUpdate r e (← get).stored
  modify fun state => { state with stored := stored }
  let bean ← beanOf e document
  planned bean (ctx.planUpdate r e template)

end Operations

/-- Work that asks nothing of a cache. -/
def SessionM.Silent {α : Type} (x : SessionM α) : Prop :=
  ∀ state, (x.run state).2.history = state.history

namespace SessionM.Silent
variable {α β : Type}

theorem bind {x : SessionM α} {f : α → SessionM β} (hx : x.Silent) (hf : ∀ a, (f a).Silent) :
    (x >>= f).Silent := by
  intro state
  have hstate := hx state
  rcases hrun : x.run state with ⟨_ | a, state'⟩
  · rw [run_bind_error hrun, ← hstate, hrun]
  · rw [run_bind_ok hrun, hf a state', ← hstate, hrun]

theorem liftM (x : Outcome α) : Silent (liftM x) := fun _ => by cases x <;> rfl

end SessionM.Silent

namespace Operations
variable {n : Nat} {ops : Operations n}

theorem silent_planned (bean : Bean) (work : BindContext.PlanM Unit) : (planned bean work).Silent :=
  fun _ => rfl

theorem silent_persistPlan (ctx : BindContext n) (r : Repository) (e : Entity n) (document : Json) :
    (persistPlan ctx r e document).Silent :=
  .bind (.liftM _) fun bean => silent_planned bean _

theorem silent_updatePlan (ctx : BindContext n) (r : Repository) (e : Entity n) (document : Json) :
    (updatePlan ctx r e document).Silent :=
  .bind (fun _ => rfl) fun _ => .bind (.liftM _) fun _ => .bind (fun _ => rfl) fun _ =>
    .bind (.liftM _) fun bean => silent_planned bean _

/-- Planning first, and then the plan. -/
theorem handsOver_runPlan {planning : SessionM (List Statement × Bean)} (cache : String)
    (hsilent : planning.Silent) :
    HandsOver ops.provider cache planning (do
      let (plan, bean) ← planning
      ops.runPlan cache plan
      return .object bean) := by
  intro state
  have hhistory := hsilent state
  rcases hrun : planning.run state with ⟨e | ⟨plan, bean⟩, planned⟩
  · rw [hrun] at hhistory
    exact ⟨SessionM.run_bind_error hrun, hhistory⟩
  · rw [hrun] at hhistory
    obtain ⟨outcome, events, hplan, hruns⟩ := run_runPlan ops cache plan planned
    have hhistory : planned.history = state.history := hhistory
    rw [hhistory] at hplan
    refine ⟨hhistory, outcome, events, hplan, ?_⟩
    rw [SessionM.run_bind_ok hrun]
    cases outcome with
    | error e => exact SessionM.run_bind_error hruns
    | ok done => exact SessionM.run_bind_ok hruns

theorem persist_eq (ops : Operations n) (r : Repository) (e : Entity n) (document : Json) :
    ops.persist r e document = (do
      let (plan, bean) ← persistPlan ops.toBindContext r e document
      ops.runPlan r.cache plan
      return .object bean) := by
  simp only [persist, persistPlan, bind_assoc]

theorem update_eq (ops : Operations n) (r : Repository) (e : Entity n) (document : Json) :
    ops.update r e document = (do
      let (plan, bean) ← updatePlan ops.toBindContext r e document
      ops.runPlan r.cache plan
      return .object bean) := by
  simp only [update, updatePlan, bind_assoc]

theorem successive_mapM (call : Json → SessionM Json) (documents : List Json)
    (state : SessionState) : ∃ outcome state', Successive call documents state outcome state' ∧
      (documents.mapM call).run state = (outcome, state') := by
  induction documents generalizing state with
  | nil => exact ⟨_, _, .done state, rfl⟩
  | cons document documents ih =>
    rw [List.mapM_cons]
    rcases hrun : (call document).run state with ⟨e | answer, state'⟩
    · exact ⟨_, _, .fails hrun, SessionM.run_bind_error hrun⟩
    · obtain ⟨outcome, state'', hrest, hruns⟩ := ih state'
      refine ⟨_, _, .succeeds hrun hrest, ?_⟩
      rw [SessionM.run_bind_ok hrun]
      cases outcome with
      | error e => exact SessionM.run_bind_error hruns
      | ok answers => exact SessionM.run_bind_ok hruns

end Operations

end EntitySql
