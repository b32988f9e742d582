import EntitySql.DataSource.SchemaGeneration
import EntitySql.Proofs.Query.JoinScope
import EntitySql.Proofs.Repository.Execution
import EntitySql.Proofs.Statement.Tables

/-! # Runs of schema generation

Generating tables asks nothing of a provider unless every statement is compiled, and then asks for the cache
and executes all statements, whichever of them the cache rejects (`Schema.generate_runs`). The tables that
are dropped before are those that are created (`Schema.dropStatements_eq`). -/

namespace EntitySql
variable {n : Nat}

/-- The steps in front of the one that fails succeed. -/
theorem Outcome.exists_first_of_mapM_eq_error {α β : Type} {f : α → Outcome β} {as : List α} {e : Error}
    (h : as.mapM f = .error e) : ∃ before a after bs,
      as = before ++ a :: after ∧ before.mapM f = .ok bs ∧ f a = .error e := by
  induction as with
  | nil => cases h
  | cons a as ih =>
    rw [List.mapM_cons] at h
    rcases Outcome.bind_eq_error.1 h with hfirst | ⟨b, hb, hrest⟩
    · exact ⟨[], a, as, [], rfl, rfl, hfirst⟩
    · rcases Outcome.bind_eq_error.1 hrest with hrest | ⟨bs, -, hpure⟩
      · obtain ⟨before, a', after, bs, rfl, hbefore, hfail⟩ := ih hrest
        refine ⟨a :: before, a', after, b :: bs, rfl, ?_, hfail⟩
        rw [Outcome.mapM_eq_ok] at hbefore ⊢
        exact .cons hb hbefore
      · cases hpure

namespace SessionM
variable {α : Type}

theorem run_liftM (x : Outcome α) (state : SessionState) : (liftM x : SessionM α).run state = (x, state) := by
  cases x <;> rfl

theorem run_tryCatch (x : SessionM α) (handle : Error → SessionM α) (state : SessionState) :
    (tryCatch x handle).run state = match x.run state with
      | (.ok a, state') => (.ok a, state')
      | (.error e, state') => (handle e).run state' := by
  show (ExceptT.tryCatch x handle : SessionM α).run state = _
  unfold ExceptT.tryCatch
  rcases hrun : x.run state with ⟨e | a, state'⟩
  all_goals
    simp only [ExceptT.run] at hrun ⊢
    simp only [ExceptT.mk, bind, StateT.bind]
    rw [hrun]
  rfl

end SessionM

theorem SessionState.noted_nil (state : SessionState) : state.noted [] = state := by
  simp [noted]

/-- What is asked by running statements without arguments. -/
def executions (statements : List String) : List CacheEvent :=
  statements.map fun sql => .executed ⟨sql, []⟩

/-- An attempt succeeds whatever the cache answers. -/
theorem run_attempt (provider : CacheProvider) (cache sql : String) (state : SessionState) :
    (attempt provider cache sql).run state = (.ok (), state.noted (executions [sql])) := by
  have hexecute := SessionM.run_execute provider cache ⟨sql, []⟩ state
  rw [attempt, SessionM.run_tryCatch]
  cases hanswer : provider.execute state.history cache ⟨sql, []⟩ with
  | error text =>
    rw [hanswer] at hexecute
    rw [show (discard (SessionM.execute provider cache ⟨sql, []⟩)).run state = _ from
      SessionM.run_bind_error hexecute]
    rfl
  | ok count =>
    rw [hanswer] at hexecute
    rw [show (discard (SessionM.execute provider cache ⟨sql, []⟩)).run state = _ from
      SessionM.run_bind_ok hexecute]
    rfl

theorem run_forM_attempt (provider : CacheProvider) (cache : String) (statements : List String)
    (state : SessionState) : (statements.forM (attempt provider cache)).run state =
      (.ok (), state.noted (executions statements)) := by
  induction statements generalizing state with
  | nil =>
    rw [show executions [] = [] from rfl, SessionState.noted_nil]
    rfl
  | cons sql statements ih =>
    have hcons : (sql :: statements).forM (attempt provider cache) =
        (attempt provider cache sql >>= fun _ => statements.forM (attempt provider cache)) := rfl
    rw [hcons, SessionM.run_bind_ok (run_attempt provider cache sql state), ih, SessionState.noted_noted]
    rfl

namespace Schema
variable {s : Schema n} {e : Entity n} {tables : List TableDefinition}

/-- The statements that entities' tables are generated with, when they can be compiled: whole groups, one
behind the other, and no table is created that is not dropped before. -/
theorem generated_tables {entities : List (Entity n)} {creates : List (List String)}
    (h : List.Forall₂ (fun e statements => s.createStatements e = .ok statements) entities creates) :
    ∃ tables : List TableDefinition, creates.flatten = tables.map (·.text) ∧
      entities.flatMap (·.dropStatements) = tables.map (·.dropText) := by
  induction h with
  | nil => exact ⟨[], rfl, rfl⟩
  | cons hfirst _ ih =>
    obtain ⟨tables, hcreates, hdrops⟩ := ih
    simp only [createStatements, Outcome.map_eq_ok] at hfirst
    obtain ⟨own, hown, rfl⟩ := hfirst
    refine ⟨own ++ tables, ?_, ?_⟩
    · simp [hcreates]
    · simp [hdrops, dropStatements_eq hown]

/-- How schema generation runs: the outcome, and what was asked. What the cache answers to a statement
makes no difference. -/
inductive GenerationRun (s : Schema n) (provider : CacheProvider) (options : DataSourceOptions)
    (history : List CacheEvent) (entities : List (Entity n)) :
    Except Error Unit → List CacheEvent → Prop
  | unknownMode {e : Error} (hmode : SchemaMode.parse options.schemaGenerate = .error e) :
    GenerationRun s provider options history entities (.error e) []
  | noMode (hmode : SchemaMode.parse options.schemaGenerate = .ok .none) :
    GenerationRun s provider options history entities (.ok ()) []
  | uncompiled {mode : SchemaMode} {before after : List (Entity n)} {failing : Entity n}
    {compiled : List (List String)} {e : Error}
    (hmode : SchemaMode.parse options.schemaGenerate = .ok mode) (hsome : mode ≠ .none)
    (hentities : entities = before ++ failing :: after)
    (hbefore : before.mapM s.createStatements = .ok compiled)
    (hfails : s.createStatements failing = .error e) :
    GenerationRun s provider options history entities (.error e) []
  | notOpened {mode : SchemaMode} {creates : List (List String)} {text : String}
    (hmode : SchemaMode.parse options.schemaGenerate = .ok mode) (hsome : mode ≠ .none)
    (hcompiled : List.Forall₂ (fun e statements => s.createStatements e = .ok statements) entities creates)
    (hopen : provider.openCache history options.cache = .error text) :
    GenerationRun s provider options history entities (.error (.execution text)) [.asked options.cache]
  | created {creates : List (List String)}
    (hmode : SchemaMode.parse options.schemaGenerate = .ok .create)
    (hcompiled : List.Forall₂ (fun e statements => s.createStatements e = .ok statements) entities creates)
    (hopen : provider.openCache history options.cache = .ok ()) :
    GenerationRun s provider options history entities (.ok ())
      (.asked options.cache :: executions creates.flatten)
  | recreated {creates : List (List String)}
    (hmode : SchemaMode.parse options.schemaGenerate = .ok .createDrop)
    (hcompiled : List.Forall₂ (fun e statements => s.createStatements e = .ok statements) entities creates)
    (hopen : provider.openCache history options.cache = .ok ()) :
    GenerationRun s provider options history entities (.ok ())
      (.asked options.cache :: (executions (entities.flatMap (·.dropStatements)) ++
        executions creates.flatten))

namespace GenerationRun
variable {provider : CacheProvider} {options : DataSourceOptions} {history events : List CacheEvent}
  {entities : List (Entity n)} {outcome : Except Error Unit}

/-- Nothing is asked without a mode, nor when the tables of some entity cannot be compiled. -/
theorem asks_nothing (h : GenerationRun s provider options history entities outcome events)
    (hnone : (∀ mode, SchemaMode.parse options.schemaGenerate = .ok mode → mode = .none) ∨
      ∃ e ∈ entities, ∃ error, s.createStatements e = .error error) : events = [] := by
  have hcompiles : ∀ {mode creates}, SchemaMode.parse options.schemaGenerate = .ok mode → mode ≠ .none →
      List.Forall₂ (fun e statements => s.createStatements e = .ok statements) entities creates → False := by
    intro mode creates hmode hsome hcompiled
    rcases hnone with hnone | ⟨e, he, error, hfails⟩
    · exact hsome (hnone mode hmode)
    · obtain ⟨k, hk⟩ := List.getElem?_of_mem he
      obtain ⟨statements, -, hstatements⟩ := getElem?_of_forall₂ hcompiled hk
      cases hfails.symm.trans hstatements
  cases h with
  | unknownMode | noMode | uncompiled => rfl
  | notOpened hmode hsome hcompiled => exact (hcompiles hmode hsome hcompiled).elim
  | created hmode hcompiled => exact (hcompiles hmode (by simp) hcompiled).elim
  | recreated hmode hcompiled => exact (hcompiles hmode (by simp) hcompiled).elim

/-- Every table that is created was dropped before, and all are dropped before the first is created. -/
theorem drops_first (h : GenerationRun s provider options history entities outcome events)
    (hmode : SchemaMode.parse options.schemaGenerate = .ok .createDrop) (hok : outcome = .ok ()) :
    ∃ tables : List TableDefinition, events = .asked options.cache ::
      (executions (tables.map (·.dropText)) ++ executions (tables.map (·.text))) := by
  cases h with
  | unknownMode h => cases hok
  | noMode h => rw [h] at hmode; cases hmode
  | uncompiled => cases hok
  | notOpened => cases hok
  | created h => rw [h] at hmode; cases hmode
  | recreated _ hcompiled =>
    obtain ⟨tables, hcreates, hdrops⟩ := generated_tables hcompiled
    exact ⟨tables, by rw [hcreates, hdrops]⟩

end GenerationRun

variable {provider : CacheProvider} {options : DataSourceOptions} {entities : List (Entity n)}
  {mode : SchemaMode} {state : SessionState}

theorem run_generate (hmode : SchemaMode.parse options.schemaGenerate = .ok mode) :
    (s.generate provider options entities).run state =
      (liftM (s.generationStatements mode entities) >>= fun statements =>
        if mode = .none then return () else do
          SessionM.openCache provider options.cache
          statements.forM (attempt provider options.cache) : SessionM Unit).run state := by
  unfold generate
  rw [SessionM.run_bind_ok (by rw [hmode]; exact SessionM.run_liftM _ state)]

theorem generationStatements_eq (s : Schema n) (entities : List (Entity n)) (hsome : mode ≠ .none) :
    s.generationStatements mode entities =
    (entities.mapM s.createStatements).map fun creates =>
      (if mode = .createDrop then entities.flatMap (·.dropStatements) else []) ++ creates.flatten := by
  rw [generationStatements, if_neg hsome]
  cases entities.mapM s.createStatements <;> rfl

/-- Statements that are compiled are run when the cache opens. -/
theorem run_generate_compiled (provider : CacheProvider) (state : SessionState) {statements : List String}
    (hmode : SchemaMode.parse options.schemaGenerate = .ok mode) (hsome : mode ≠ .none)
    (hcompiled : s.generationStatements mode entities = .ok statements) :
    (s.generate provider options entities).run state =
      match provider.openCache state.history options.cache with
      | .error text => (.error (.execution text), state.noted [.asked options.cache])
      | .ok () => (.ok (), state.noted (.asked options.cache :: executions statements)) := by
  have hasked := SessionM.run_openCache provider options.cache state
  rw [run_generate hmode, SessionM.run_bind_ok (by rw [hcompiled]; exact SessionM.run_liftM _ state),
    if_neg hsome]
  cases hopen : provider.openCache state.history options.cache with
  | error text =>
    rw [hopen] at hasked
    exact SessionM.run_bind_error hasked
  | ok opened =>
    rw [hopen] at hasked
    rw [SessionM.run_bind_ok hasked, run_forM_attempt, SessionState.noted_noted]
    rfl

/-- Without a mode that is known, or when the tables of an entity cannot be compiled, nothing is asked. Else
the cache is asked for once, and when it opens all statements are executed once each: those that drop the
tables, if they are to be dropped, and those that create them. -/
theorem generate_runs (s : Schema n) (provider : CacheProvider) (options : DataSourceOptions)
    (entities : List (Entity n)) (state : SessionState) : ∃ outcome events,
      GenerationRun s provider options state.history entities outcome events ∧
      (s.generate provider options entities).run state = (outcome, state.noted events) ∧
      ((∀ mode, SchemaMode.parse options.schemaGenerate = .ok mode → mode = .none) ∨
        (∃ e ∈ entities, ∃ error, s.createStatements e = .error error) → events = []) ∧
      (SchemaMode.parse options.schemaGenerate = .ok .createDrop → outcome = .ok () →
        ∃ tables : List TableDefinition, events = .asked options.cache ::
          (executions (tables.map (·.dropText)) ++ executions (tables.map (·.text)))) := by
  suffices hruns : ∃ outcome events,
      GenerationRun s provider options state.history entities outcome events ∧
      (s.generate provider options entities).run state = (outcome, state.noted events) by
    obtain ⟨outcome, events, hrun, hresult⟩ := hruns
    exact ⟨outcome, events, hrun, hresult, hrun.asks_nothing, hrun.drops_first⟩
  cases hmode : SchemaMode.parse options.schemaGenerate with
  | error e =>
    refine ⟨_, _, .unknownMode hmode, ?_⟩
    rw [SessionState.noted_nil, generate]
    exact SessionM.run_bind_error (by rw [hmode]; exact SessionM.run_liftM _ state)
  | ok mode =>
    by_cases hsome : mode = .none
    · subst hsome
      refine ⟨_, _, .noMode hmode, ?_⟩
      have hnothing : (liftM (s.generationStatements .none entities) : SessionM (List String)).run state =
          (.ok [], state) := rfl
      rw [run_generate hmode, SessionM.run_bind_ok hnothing, if_pos rfl, SessionState.noted_nil]
      rfl
    have hstatements := generationStatements_eq s entities hsome
    cases hcompiled : entities.mapM s.createStatements with
    | error e =>
      obtain ⟨before, failing, after, compiled, hentities, hbefore, hfails⟩ :=
        Outcome.exists_first_of_mapM_eq_error hcompiled
      refine ⟨_, _, .uncompiled hmode hsome hentities hbefore hfails, ?_⟩
      rw [hcompiled] at hstatements
      rw [SessionState.noted_nil, run_generate hmode]
      exact SessionM.run_bind_error (by rw [hstatements]; exact SessionM.run_liftM _ state)
    | ok creates =>
      rw [hcompiled] at hstatements
      have hrun := run_generate_compiled provider state hmode hsome hstatements
      rw [Outcome.mapM_eq_ok] at hcompiled
      cases hopen : provider.openCache state.history options.cache with
      | error text =>
        rw [hopen] at hrun
        exact ⟨_, _, .notOpened hmode hsome hcompiled hopen, hrun⟩
      | ok opened =>
        rw [hopen] at hrun
        cases mode with
        | none => exact absurd rfl hsome
        | create => exact ⟨_, _, .created hmode hcompiled hopen, hrun⟩
        | createDrop =>
          refine ⟨_, _, .recreated hmode hcompiled hopen, ?_⟩
          rw [hrun, if_pos rfl, executions, List.map_append]
          rfl

/-- A cache that rejects every statement. -/
def refusing : CacheProvider where
  openCache _ _ := .ok ()
  query _ _ _ := .error "refused"
  execute _ _ _ := .error "refused"

example : ((novels.generate refusing { schemaGenerate := "create-drop" } [novels.entity 0, novels.entity 2]).run
      {}).2.history.filterMap (fun | .executed statement => some statement.sql | _ => none) =
    ["DROP TABLE novel_genres;", "DROP TABLE novel;", "DROP TABLE genre;",
      "CREATE TABLE novel_genres (novel_id BIGINT,genre_id BIGINT)",
      "CREATE TABLE novel (title VARCHAR,author_id BIGINT,id BIGINT PRIMARY KEY);",
      "CREATE TABLE genre (name VARCHAR,id BIGINT PRIMARY KEY);"] := by
  decide +kernel

end Schema

end EntitySql
