/-
# What the rules tell about a conversion

To show the rules is to try a configuration. If this fails, a conversion with the same configuration
fails in the same way, with the same message, and has asked the host for nothing but its
configuration. If it does not, a conversion does not fail for its configuration either, and what is
printed shows the rules of the converter that it uses; the rules can still fail to be shown, where
the output does not take them.

* `Config.record_prepare` says what is asked of a host in the first stage, and
  `Command.run_runToEnd_rules_of_prepared` how the rules are shown after it.
* `Command.rules_fails_iff_convert_stops` says what the two commands have to do with each other, on
  any host.
-/
import TreeText.Proofs.Command.Stages
import TreeText.Proofs.Command.Summary

namespace TreeText

variable {σ : Type}

/-! ## The record of the first stage -/

namespace Config

/-- The file that is read once it is known which file is to be read. -/
def reads : Except ConfigError (Option String) → List Access
  | .ok (some path) => [.read path]
  | _ => []

/-- In the first stage, files are looked for, and the one that is found is read. -/
theorem record_prepare [Css.Language] [Toml.Reader] (host : Host (StateM σ))
    (path? : Option String) (overrides : Overrides) (state : σ) :
    ∃ lookups, (∀ access ∈ lookups, access.looks = true) ∧
      ((prepare host.recorded path? overrides).run (state, [])).2.2 =
        lookups ++ reads ((find host.recorded path?).run (state, [])).1 := by
  obtain ⟨lookups, hrecord, hlooks⟩ := adds_find host path? state []
  refine ⟨lookups, hlooks, ?_⟩
  rw [List.nil_append] at hrecord
  rw [run_prepare_eq, run_load_eq, ← hrecord]
  rcases (find host.recorded path?).run (state, []) with ⟨error | found | path, after⟩
  · exact (List.append_nil _).symm
  · exact (List.append_nil _).symm
  · rfl

end Config

/-! ## The two commands -/

/-- Where a configuration was found is reported, and then its summary is printed; this may fail. -/
theorem RulesCommand.run_present_recorded [Css.Language] (host : Host (StateM σ)) (config : Config)
    (converter : Converter) (state : σ) (record : List Access) :
    let printing := (host.print (config.summary converter)).run
      ((host.report config.originLine).run state).2
    (present host.recorded config converter).run (state, record) =
      (printing.1.mapError .file, printing.2,
        record ++ [.report config.originLine, .print (config.summary converter)]) := by
  intro printing
  have hrecord : record ++ [Access.report config.originLine] ++
      [.print (config.summary converter)] =
        record ++ [.report config.originLine, .print (config.summary converter)] :=
    List.append_assoc record [_] [_]
  exact congrArg (printing.1.mapError Failure.file, printing.2, ·) hrecord

/-- A host whose output takes all that is printed. -/
def Host.TakesAll (host : Host (StateM σ)) : Prop :=
  ∀ text state, ((host.print text).run state).1 = .ok ()

namespace Command

/-- Once a configuration and a converter are ready, the rules are shown, or the output does not take
them and this fault is reported. -/
theorem run_runToEnd_rules_of_prepared [Css.Language] [Toml.Reader] [Manual]
    {host : Host (StateM σ)} {state : σ} {path? : Option String} {config : Config}
    {converter : Converter} {ready : σ × List Access}
    (h : (Config.prepare host.recorded path? .none).run (state, []) =
      (.ok (config, converter), ready)) (verbose : Bool) :
    let shown := ((rules ⟨path?, verbose⟩).runToEnd host.recorded).run (state, [])
    let text := config.summary converter
    let printing := (host.print text).run ((host.report config.originLine).run ready.1).2
    let record := ready.2 ++ [.report config.originLine, .print text]
    (printing.1 = .ok () ∧ shown.1 = .success ∧ shown.2.2 = record) ∨
      ∃ fault, printing.1 = .error fault ∧ shown.1 = .failure ∧
        shown.2.2 = record ++ [.report ("Error: " ++ fault.message ++ "\n")] := by
  intro shown text printing record
  have hrun := RulesCommand.run_eq host.recorded ⟨path?, verbose⟩ (state, [])
  rw [h] at hrun
  have hlisted : (RulesCommand.run host.recorded ⟨path?, verbose⟩).run (state, []) =
      (printing.1.mapError .file, printing.2, record) :=
    hrun.trans (RulesCommand.run_present_recorded host config converter ready.1 ready.2)
  cases hprint : printing.1 with
  | ok printed =>
    rw [hprint] at hlisted
    have hshown : shown = _ := run_runToEnd_of_ok (rules _) hlisted
    exact .inl ⟨rfl, by rw [hshown], by rw [hshown]⟩
  | error fault =>
    rw [hprint] at hlisted
    have hshown : shown = _ := run_runToEnd_of_error (rules _) hlisted
    refine .inr ⟨fault, rfl, by rw [hshown], ?_⟩
    rw [hshown]
    rfl

/-- To show the rules fails for the configuration exactly if a conversion with the same configuration
does, and for the same error. Then both commands end in the same way and have asked the host for the
same: files were looked for, at most the one that was found was read, and the error was reported.
Nothing was read as an input, written or printed.

Otherwise a text is printed that shows the options of the configuration and the rules, placeholders
and ignored selectors of the converter with which the conversion goes on. If the output takes the
text, the rules are shown, and if not, this fault is reported. So where the output takes all that is
printed, the rules are not shown exactly if the conversion fails for its configuration. -/
theorem rules_fails_iff_convert_stops [Css.Language] [Toml.Reader] [Manual]
    (host : Host (StateM σ)) (state : σ) (command : ConvertCommand) (verbose : Bool) :
    let machine := host.recorded
    let listed := (RulesCommand.run machine ⟨command.config, verbose⟩).run (state, [])
    let shown := ((rules ⟨command.config, verbose⟩).runToEnd machine).run (state, [])
    let converted := (command.run machine).run (state, [])
    let ended := ((convert command).runToEnd machine).run (state, [])
    (shown.1 = .failure ∨ shown.1 = .success) ∧
    (∀ error, listed.1 = .error (.config error) ↔ converted.1 = .error (.config error)) ∧
    (host.TakesAll → (shown.1 = .failure ↔ ∃ error, converted.1 = .error (.config error))) ∧
    (∀ error, converted.1 = .error (.config error) → shown.1 = .failure ∧ ended = shown ∧
      ∃ lookups, (∀ access ∈ lookups, access.looks = true) ∧
        shown.2.2 = lookups ++
          Config.reads ((Config.find machine command.config).run (state, [])).1 ++
          [.report ("Error: " ++ error.message ++ "\n")]) ∧
    (shown.1 = .success → ∀ error, converted.1 ≠ .error (.config error)) ∧
    ((∀ error, converted.1 ≠ .error (.config error)) → ∃ config converter ready,
      (Config.prepare machine command.config .none).run (state, []) =
        (.ok (config, converter), ready) ∧
      converted =
        (command.proceed machine (config.override command.overrides) converter).run ready ∧
      ∃ text, Summary.Shows text config.options converter.registry ∧
        let printing := (host.print text).run ((host.report config.originLine).run ready.1).2
        let record := ready.2 ++ [.report config.originLine, .print text]
        (printing.1 = .ok () ∧ shown.1 = .success ∧ shown.2.2 = record) ∨
          ∃ fault, printing.1 = .error fault ∧ shown.1 = .failure ∧
            shown.2.2 = record ++ [.report ("Error: " ++ fault.message ++ "\n")]) := by
  intro machine listed shown converted ended
  have hlisted : listed = _ := RulesCommand.run_eq machine ⟨command.config, verbose⟩ (state, [])
  have hconverted : converted = _ := ConvertCommand.run_eq machine command (state, [])
  rcases hprepare : (Config.prepare machine command.config .none).run (state, []) with
    ⟨error | ⟨config, converter⟩, ready⟩
  · -- Nothing is ready: both commands end here, and report the same error.
    obtain ⟨lookups, hlooks, hrecord⟩ := Config.record_prepare host command.config .none state
    rw [hprepare] at hlisted hconverted hrecord
    have hshown : shown = _ := run_runToEnd_of_error (rules _) hlisted
    have hended : ended = _ := run_runToEnd_of_error (convert command) hconverted
    have hstops : converted.1 = .error (.config error) := by rw [hconverted]
    have hfails : shown.1 = .failure := by rw [hshown]
    refine ⟨.inl hfails, fun other => ?_, fun _ => ?_, fun other hother => ?_, ?_, ?_⟩
    · rw [hlisted, hconverted]
    · exact iff_of_true hfails ⟨error, hstops⟩
    · obtain rfl : error = other := by
        rw [hstops] at hother
        cases hother
        rfl
      refine ⟨hfails, hended.trans hshown.symm, lookups, hlooks, ?_⟩
      rw [hshown, ← hrecord]
      rfl
    · rw [hfails]
      exact nofun
    · exact fun hnone => absurd hstops (hnone error)
  · -- Something is ready: it is shown, and it is what the conversion goes on with.
    have hends := run_runToEnd_rules_of_prepared hprepare verbose
    rw [hprepare] at hlisted hconverted
    have hgoes : ∀ error, converted.1 ≠ .error (.config error) := by
      rw [hconverted]
      exact ConvertCommand.run_proceed_ne_config machine command _ converter ready
    have hlists : ∀ error, listed.1 ≠ .error (.config error) := by
      rw [hlisted]
      exact RulesCommand.run_present_ne_config machine config converter ready
    have hnone : ¬ ∃ error, converted.1 = .error (.config error) := fun ⟨error, h⟩ => hgoes error h
    refine ⟨?_, fun error => iff_of_false (hlists error) (hgoes error), fun htakes => ?_,
      fun error h => absurd h (hgoes error), fun _ => hgoes, fun _ => ?_⟩
    · rcases hends with ⟨-, hsucceeds, -⟩ | ⟨-, -, hfails, -⟩
      · exact .inr hsucceeds
      · exact .inl hfails
    · rcases hends with ⟨-, hsucceeds, -⟩ | ⟨fault, hprint, -⟩
      · have hnot : ¬ shown.1 = .failure := by
          rw [hsucceeds]
          exact nofun
        exact iff_of_false hnot hnone
      · -- The output does not take what is printed.
        have hok := htakes (config.summary converter) ((host.report config.originLine).run ready.1).2
        rw [hprint] at hok
        cases hok
    · exact ⟨config, converter, ready, rfl, hconverted, _, config.shows_summary converter, hends⟩

/-- A configuration whose rule has no selector is refused by both commands alike. The one in the root
is not, and its rule is shown; if nobody reads the output, the rules fail for this, and a conversion
does not fail for the configuration. -/
theorem rules_fails_iff_convert_stops_on_machine :
    let machine : World :=
      { entry? := fun place =>
          match place with
          | [] => some .directory
          | ["mation.toml"] => some (.file "[[rules]]\nselector='b'\nto='*'".toUTF8.toList)
          | ["other.toml"] => some (.file "[[rules]]\nto='*'".toUTF8.toList)
          | _ => none
        isLocked := fun _ => false
        directory := []
        input := []
        output := ""
        messages := "" }
    let closed := { machine with outputEnd := some (0, .brokenPipe) }
    let ended world command := (Command.runToEnd World.host.recorded command).run (world, [])
    let page config : ConvertCommand := ⟨some "page.html", config, none, false, false, true, false⟩
    (ended machine (convert (page (some "other.toml"))) =
        ended machine (rules ⟨some "other.toml", false⟩) ∧
      (ended machine (rules ⟨some "other.toml", false⟩)).2.2.getLast? =
        some (.report "Error: Configuration error: rules[0].selector cannot be empty\n")) ∧
    (∃ text options registry, Summary.Shows text options registry ∧
      (ended machine (rules ⟨none, false⟩)).2.2.getLast? = some (.print text) ∧
      text = "Options: whole_document=false normalize_whitespace=true trim=false\n" ++
        "Rules (1):\n  b -> \"*\"\nPlaceholders (0):\nIgnore: (none)\n") ∧
    (ended closed (rules ⟨none, false⟩)).2.2.getLast? =
        some (.report "Error: Broken pipe (os error 32)\n") ∧
      ∀ error, (((page none).run World.host.recorded).run (closed, [])).1 ≠
        .error (.config error) := by
  intro machine closed ended page
  refine ⟨?_, ?_, by decide +kernel, ?_⟩
  · obtain ⟨-, -, -, herror, -⟩ :=
      rules_fails_iff_convert_stops World.host machine (page (some "other.toml")) false
    have hstop : (((page (some "other.toml")).run World.host.recorded).run (machine, [])).1 =
        .error (.config (.incomplete (.ruleSelector 0))) := by
      decide +kernel
    obtain ⟨-, hsame, lookups, -, hrecord⟩ := herror _ hstop
    refine ⟨hsame, ?_⟩
    rw [show (ended machine (rules ⟨some "other.toml", false⟩)).2.2 = _ from hrecord,
      List.getLast?_append]
    rfl
  · obtain ⟨-, -, -, -, hsuccess, hready⟩ :=
      rules_fails_iff_convert_stops World.host machine (page none) false
    have hshown : (ended machine (rules ⟨none, false⟩)).1 = .success := by decide +kernel
    obtain ⟨config, converter, ready, -, -, text, hshows, hends⟩ := hready (hsuccess hshown)
    refine ⟨text, config.options, converter.registry, hshows, ?_⟩
    rcases hends with ⟨-, -, hrecord⟩ | ⟨fault, -, hfails, -⟩
    · have hlast : (ended machine (rules ⟨none, false⟩)).2.2.getLast? = some (.print text) := by
        rw [show (ended machine (rules ⟨none, false⟩)).2.2 = _ from hrecord, List.getLast?_append]
        rfl
      have htext : (ended machine (rules ⟨none, false⟩)).2.2.getLast? = some (.print
          ("Options: whole_document=false normalize_whitespace=true trim=false\n" ++
            "Rules (1):\n  b -> \"*\"\nPlaceholders (0):\nIgnore: (none)\n")) := by
        decide +kernel
      refine ⟨hlast, ?_⟩
      rw [hlast] at htext
      exact Access.print.inj (Option.some.inj htext)
    · rw [show (ended machine (rules ⟨none, false⟩)).1 = _ from hshown] at hfails
      cases hfails
  · obtain ⟨-, hiff, -⟩ := rules_fails_iff_convert_stops World.host closed (page none) false
    have hlisted : ((RulesCommand.run World.host.recorded ⟨none, false⟩).run (closed, [])).1 =
        .error (.file .brokenPipe) := by
      decide +kernel
    intro error hstops
    have hlists := (hiff error).2 hstops
    rw [show ((RulesCommand.run World.host.recorded ⟨none, false⟩).run (closed, [])).1 = _ from
      hlisted] at hlists
    cases hlists

end Command

end TreeText
