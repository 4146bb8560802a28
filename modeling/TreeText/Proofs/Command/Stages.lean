/-
# The stages of commands

Both commands begin with the same stage: the configuration is found, read and checked, and its
converter is built. Only then does each go its own way, with the configuration and the converter
that are ready. The options of a command change neither what is asked of the host in the first stage
nor how it ends; they are put in the place of those that the configuration has by itself.

* `Config.run_prepare_override` says how little the options of a command do in the first stage.
* `ConvertCommand.run_eq` and `RulesCommand.run_eq` say how the commands go on, with
  `ConvertCommand.proceed` and `RulesCommand.present`.
* `ConvertCommand.run_proceed_ne_config` says that nothing that comes later is a failure of the
  first stage.
* `Command.run_runToEnd_of_error` says what the program makes of a failure.
-/
import TreeText.Command.Run
import TreeText.Proofs.Config.Found

namespace TreeText

variable {σ : Type} {m : Type → Type} [Monad m]

/-! ## The first stage -/

namespace Config

variable [Css.Language]

/-- The configuration with its converter, or why it has none. -/
def ready (config : Config) : Except ConfigError (Config × Converter) :=
  match config.build with
  | .error refusal => .error (.refused refusal)
  | .ok converter => .ok (config, converter)

/-- The converter is that of the configuration, whatever the options of the command are. -/
theorem ready_override (config : Config) (overrides : Overrides) :
    (config.override overrides).ready = config.ready.map (Prod.map (·.override overrides) id) := by
  have hbuild : (config.override overrides).build = config.build := rfl
  unfold ready
  rw [hbuild]
  cases config.build <;> rfl

/-- A configuration that is built is ready. -/
theorem ready_of_build {config : Config} {converter : Converter}
    (h : config.build = .ok converter) : config.ready = .ok (config, converter) := by
  unfold ready
  rw [h]

/-- A configuration that is refused is not ready. -/
theorem ready_of_build_eq_error {config : Config} {refusal : Refusal}
    (h : config.build = .error refusal) : config.ready = .error (.refused refusal) := by
  unfold ready
  rw [h]

variable [Toml.Reader]

/-- Once a configuration is loaded, nothing more is asked of the host. -/
theorem run_prepare_eq (host : Host (StateM σ)) (path? : Option String) (overrides : Overrides)
    (state : σ) :
    (prepare host path? overrides).run state =
      (((load host path? overrides).run state).1.bind ready,
        ((load host path? overrides).run state).2) := by
  unfold prepare
  rw [Host.run_bind]
  rcases (load host path? overrides).run state with ⟨error | config, after⟩
  · rfl
  · show _ = (config.ready, after)
    unfold ready
    cases h : config.build <;> simp only [h] <;> rfl

/-- Options change the configuration that is prepared, and nothing else. -/
theorem run_prepare_override (host : Host (StateM σ)) (path? : Option String)
    (overrides : Overrides) (state : σ) :
    (prepare host path? overrides).run state =
      (((prepare host path? .none).run state).1.map (Prod.map (·.override overrides) id),
        ((prepare host path? .none).run state).2) := by
  rw [run_prepare_eq, run_prepare_eq, run_load_override]
  rcases (load host path? .none).run state with ⟨error | config, after⟩
  · rfl
  · exact congrArg (·, after) (ready_override config overrides)

end Config

/-! ## Converting -/

namespace ConvertCommand

/-- A text that cannot be delivered is no fault of the configuration. -/
theorem run_deliver_ne_config (host : Host (StateM σ)) (command : ConvertCommand) (text : String)
    (state : σ) (error : ConfigError) :
    ((command.deliver host text).run state).1 ≠ .error (.config error) := by
  unfold deliver
  cases command.output with
  | none =>
    simp only
    rw [Host.run_bind]
    rcases (host.print text).run state with ⟨_ | _, _⟩ <;> exact nofun
  | some path =>
    simp only
    rw [Host.run_bind]
    rcases (host.write path text).run state with ⟨_ | _, _⟩ <;> exact nofun

variable [Css.Language]

/-- What the command does with a configuration and a converter that are ready. -/
def proceed (host : Host m) (command : ConvertCommand) (config : Config) (converter : Converter) :
    m (Except Failure Unit) := do
  match ← command.readPage host with
  | .error fault => return .error (.file fault)
  | .ok page =>
    match config.textOf converter page with
    | .error failure => return .error failure
    | .ok text =>
      command.reportSizes host page text
      command.deliver host text

/-- A page that gives no text is no fault of the configuration. -/
theorem textOf_ne_config (config : Config) (converter : Converter) (page : List UInt8)
    (error : ConfigError) : config.textOf converter page ≠ .error (.config error) := by
  unfold Config.textOf
  rcases (converter.convertBytes page config.options).1.result? with _ | _ | _ <;> exact nofun

/-- The command fails for its configuration in its first stage only. -/
theorem run_proceed_ne_config (host : Host (StateM σ)) (command : ConvertCommand) (config : Config)
    (converter : Converter) (state : σ) (error : ConfigError) :
    ((command.proceed host config converter).run state).1 ≠ .error (.config error) := by
  unfold proceed
  rw [Host.run_bind]
  rcases (command.readPage host).run state with ⟨fault | page, after⟩
  · exact nofun
  · simp only
    cases htext : config.textOf converter page with
    | error failure =>
      intro h
      cases h
      exact textOf_ne_config config converter page error htext
    | ok text => exact run_deliver_ne_config host command text _ error

variable [Toml.Reader]

/-- The command fails in its first stage, or goes on with its options in the place of those of the
configuration. -/
theorem run_eq (host : Host (StateM σ)) (command : ConvertCommand) (state : σ) :
    (command.run host).run state =
      match (Config.prepare host command.config .none).run state with
      | (.error error, after) => (.error (.config error), after)
      | (.ok (config, converter), after) =>
        (command.proceed host (config.override command.overrides) converter).run after := by
  unfold run
  rw [Host.run_bind, Config.run_prepare_override]
  rcases (Config.prepare host command.config .none).run state with
    ⟨error | ⟨config, converter⟩, after⟩
  · rfl
  · rfl

end ConvertCommand

/-! ## Showing the rules -/

namespace RulesCommand

variable [Css.Language]

/-- What the command does with a configuration and a converter that are ready. -/
def present (host : Host m) (config : Config) (converter : Converter) :
    m (Except Failure Unit) := do
  host.report config.originLine
  return (← host.print (config.summary converter)).mapError .file

/-- The rules that cannot be printed are no fault of the configuration. -/
theorem run_present_ne_config (host : Host (StateM σ)) (config : Config) (converter : Converter)
    (state : σ) (error : ConfigError) :
    ((present host config converter).run state).1 ≠ .error (.config error) := by
  unfold present
  rw [Host.run_bind, Host.run_bind]
  rcases (host.print (config.summary converter)).run ((host.report config.originLine).run state).2
    with ⟨_ | _, _⟩ <;> exact nofun

variable [Toml.Reader]

/-- The command fails in its first stage, or shows what is ready. -/
theorem run_eq (host : Host (StateM σ)) (command : RulesCommand) (state : σ) :
    (command.run host).run state =
      match (Config.prepare host command.config .none).run state with
      | (.error error, after) => (.error (.config error), after)
      | (.ok (config, converter), after) => (present host config converter).run after := by
  unfold run
  rw [Host.run_bind]
  rcases (Config.prepare host command.config .none).run state with
    ⟨error | ⟨config, converter⟩, after⟩
  · rfl
  · rfl

end RulesCommand

/-! ## The end -/

namespace Command

variable [Css.Language] [Toml.Reader] [Manual] {host : Host (StateM σ)} (command : Command)
  {state after : σ}

/-- The program succeeds if its command does. -/
theorem run_runToEnd_of_ok (h : (command.run host).run state = (.ok (), after)) :
    (command.runToEnd host).run state = (.success, after) := by
  unfold runToEnd
  rw [Host.run_bind, h]
  rfl

/-- The program fails if its command does, and reports the failure. -/
theorem run_runToEnd_of_error {failure : Failure}
    (h : (command.run host).run state = (.error failure, after)) :
    (command.runToEnd host).run state =
      (.failure, ((host.report ("Error: " ++ failure.message ++ "\n")).run after).2) := by
  unfold runToEnd
  rw [Host.run_bind, h]
  rfl

end Command

end TreeText
