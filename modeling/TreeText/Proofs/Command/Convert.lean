/-
# The effect of converting a page

The command that converts a page goes through stages, each of which can fail: the configuration is
found, read and checked, the converter is built, the page is read and decoded, and the text is
delivered. Nothing that can be seen changes before the last of them. So the command either fails and
has changed nothing, or its text is all that has been printed, or all that is in one file.

The conversion itself is no such stage. A converter that was built from a configuration calls no
formatters, and such a conversion always ends with a text.

* `ConvertCommand.Blocked` says why there is no text to deliver, and `ConvertCommand.Yields` which
  text there is.
* `ConvertCommand.Blocked.run` and `ConvertCommand.Yields.run` say how the command goes on.
* `Command.effect_of_convert` says what the program has done in the end, on any lawful host.
-/
import TreeText.Proofs.Command.Stages
import TreeText.Proofs.Config.Loaded
import TreeText.Proofs.Conversion.Carried
import TreeText.Proofs.Conversion.Eager
import TreeText.Proofs.Host.Lawful

namespace TreeText

/-! ## Conversions of pages -/

/-- The document that a page writes has its numbers in order. -/
theorem Document.descends_ofMarkup (page : String) : (ofMarkup page).Descends :=
  descends_ofNodes _ _

/-- A converter that was built from a configuration calls no formatters. -/
theorem Config.formatters_of_build [Css.Language] {config : Config} {converter : Converter}
    (h : config.build = .ok converter) : converter.registry.formatters = [] := by
  obtain ⟨-, rfl⟩ := build_eq_ok_iff.1 h
  rw [foldl_enlarge_requests]
  refine List.append_eq_nil_iff.2 ⟨List.filterMap_eq_nil_iff.2 fun rule hm => ?_, rfl⟩
  obtain ⟨draft, -, rfl⟩ := List.mem_map.1 hm
  rfl

/-- A converter that was built from a configuration has read no selector yet. -/
theorem Config.selectors_of_build [Css.Language] {config : Config} {converter : Converter}
    (h : config.build = .ok converter) : converter.selectors = .empty := by
  obtain ⟨-, rfl⟩ := build_eq_ok_iff.1 h
  rw [foldl_enlarge_requests]

/-- The conversion of a page with a converter that was built from a configuration gives a text. -/
theorem Config.exists_convert_of_build [Css.Language] {config : Config} {converter : Converter}
    (h : config.build = .ok converter) (markup : String) (options : ConversionOptions) :
    ∃ text, (converter.convert markup options).1.result? = some (.ok text) := by
  have hasked : converter.selectors = Css.Cache.asked [] := selectors_of_build h
  have hformatters : converter.fresh.registry.formatters = [] := formatters_of_build h
  rw [Converter.convert, Converter.convertDocument, Converter.convertNode_of_asked hasked]
  exact Engine.exists_result?_convertNode hformatters (Document.descends_ofMarkup markup) _ options

variable {σ Place : Type} {host : Host (StateM σ)} {view : View σ Place}

namespace ConvertCommand

variable {command : ConvertCommand} {state : σ} {page : List UInt8}

/-! ## Reading and reporting -/

/-- To read the page changes nothing that can be seen. -/
theorem same_readPage (hl : host.Lawful view) (command : ConvertCommand) (state : σ) :
    view.Same state ((command.readPage host).run state).2 := by
  unfold readPage
  cases command.input with
  | some path =>
    show view.Same state ((host.read path).run state).2
    rw [hl.read path state]
    exact view.same_refl state
  | none => exact hl.input state

/-- A page that is read from a file is the content of that file. -/
theorem file?_of_readPage (hl : host.Lawful view) {source : String}
    (hinput : command.input = some source)
    (hread : ((command.readPage host).run state).1 = .ok page) :
    ∃ place, view.place? state source = some place ∧ view.file? state place = some page := by
  unfold readPage at hread
  rw [hinput] at hread
  exact hl.read_ok source state page hread

/-- To report sizes changes nothing that can be seen. -/
theorem same_reportSizes (hl : host.Lawful view) (command : ConvertCommand) (page : List UInt8)
    (text : String) (state : σ) :
    view.Same state ((command.reportSizes host page text).run state).2 := by
  unfold reportSizes
  cases command.verbose with
  | true => exact hl.report _ state
  | false => exact view.same_refl state

/-- The machine when a text is delivered: the page has been read, and sizes have been reported. -/
def ready (command : ConvertCommand) (host : Host (StateM σ)) (state : σ) (page : List UInt8)
    (text : String) : σ :=
  ((command.reportSizes host page text).run ((command.readPage host).run state).2).2

/-- Until a text is delivered, nothing changes that can be seen. -/
theorem same_ready (hl : host.Lawful view) (command : ConvertCommand) (state : σ)
    (page : List UInt8) (text : String) : view.Same state (command.ready host state page text) :=
  (same_readPage hl command state).trans (same_reportSizes hl command page text _)

/-! ## Delivery -/

/-- A text that is printed is added to the output, or there is a fault and a front of it is. -/
theorem run_deliver_of_no_output (hl : host.Lawful view) (houtput : command.output = none)
    (text : String) (state : σ) :
    (∃ after, (command.deliver host text).run state = (.ok (), after) ∧
      ((host.print text).run state).1 = .ok () ∧ view.Printed text state after) ∨
    ∃ fault, (command.deliver host text).run state =
        (.error (.file fault), ((host.print text).run state).2) ∧
      ((host.print text).run state).1 = .error fault ∧
      view.Begun text state ((host.print text).run state).2 := by
  unfold deliver
  simp only [houtput]
  rw [Host.run_bind]
  cases hprint : ((host.print text).run state).1 with
  | error fault => exact Or.inr ⟨fault, rfl, rfl, hl.print_error text state fault hprint⟩
  | ok printed => exact Or.inl ⟨_, rfl, rfl, hl.print_ok text state hprint⟩

/-- A text that is written is stored, or there is a fault and nothing has changed that can be
seen. -/
theorem run_deliver_of_output (hl : host.Lawful view) {path : String}
    (houtput : command.output = some path) (text : String) (state : σ) :
    (∃ after, (command.deliver host text).run state = (.ok (), after) ∧
      ((host.write path text).run state).1 = .ok () ∧ view.Stored path text state after) ∨
    ∃ fault after, (command.deliver host text).run state = (.error (.file fault), after) ∧
      ((host.write path text).run state).1 = .error fault ∧ view.Same state after := by
  unfold deliver
  simp only [houtput]
  rw [Host.run_bind]
  cases hwrite : ((host.write path text).run state).1 with
  | error fault =>
    exact Or.inr ⟨fault, _, rfl, rfl, hl.write_error path text state fault hwrite⟩
  | ok written =>
    have hstored := hl.write_ok path text state hwrite
    exact Or.inl ⟨_, rfl, rfl, hstored.of_same (view.same_refl state) (hl.report _ _)⟩

end ConvertCommand

/-! ## Stages -/

/-- On a lawful host, to prepare a conversion changes nothing. -/
theorem Config.run_prepare [Css.Language] [Toml.Reader] (hl : host.Lawful view)
    (path? : Option String) (state : σ) :
    (prepare host path? .none).run state =
      (((load host path? .none).run state).1.bind ready, state) := by
  rw [run_prepare_eq, quiet_load hl.directory hl.isThere hl.read]

namespace ConvertCommand

variable [Css.Language] [Toml.Reader] {command : ConvertCommand} {state : σ} {page : List UInt8}
  {text : String} {failure : Failure}

/-- A page and the text to which it is converted: the configuration is loaded, its converter is
built, the page is read and decoded, all as the machine is in a state, and the converter converts the
page with the options of the command in front of those of the configuration. -/
def Yields (command : ConvertCommand) (host : Host (StateM σ)) (state : σ) (page : List UInt8)
    (text : String) : Prop :=
  ∃ config converter markup,
    ((Config.load host command.config .none).run state).1 = .ok config ∧
    config.build = .ok converter ∧
    ((command.readPage host).run state).1 = .ok page ∧
    Text.Utf8.decode page = .ok markup ∧
    (converter.convert markup (command.overrides.apply config.options)).1.result? = some (.ok text)

/-- Why there is no text: there is no configuration that can be used, or it is refused, or the page
cannot be read or decoded. -/
inductive Blocked (command : ConvertCommand) (host : Host (StateM σ)) (state : σ) :
    Failure → Prop where
  | config {error : ConfigError}
      (load : ((Config.load host command.config .none).run state).1 = .error error) :
      Blocked command host state (.config error)
  | refused {config : Config} {refusal : Refusal}
      (load : ((Config.load host command.config .none).run state).1 = .ok config)
      (build : config.build = .error refusal) :
      Blocked command host state (.config (.refused refusal))
  | page {config : Config} {converter : Converter} {fault : FileFault}
      (load : ((Config.load host command.config .none).run state).1 = .ok config)
      (build : config.build = .ok converter)
      (read : ((command.readPage host).run state).1 = .error fault) :
      Blocked command host state (.file fault)
  | encoding {config : Config} {converter : Converter} {page : List UInt8}
      {fault : Text.Utf8.Fault}
      (load : ((Config.load host command.config .none).run state).1 = .ok config)
      (build : config.build = .ok converter)
      (read : ((command.readPage host).run state).1 = .ok page)
      (decode : Text.Utf8.decode page = .error fault) :
      Blocked command host state (.conversion (.invalidInput fault))

/-- There is a text, unless something is in its way: no conversion fails. -/
theorem blocked_or_yields (command : ConvertCommand) (host : Host (StateM σ)) (state : σ) :
    (∃ failure, command.Blocked host state failure) ∨
      ∃ page text, command.Yields host state page text := by
  cases hload : ((Config.load host command.config .none).run state).1 with
  | error error => exact Or.inl ⟨_, .config hload⟩
  | ok config =>
    cases hbuild : config.build with
    | error refusal => exact Or.inl ⟨_, .refused hload hbuild⟩
    | ok converter =>
      cases hread : ((command.readPage host).run state).1 with
      | error fault => exact Or.inl ⟨_, .page hload hbuild hread⟩
      | ok page =>
        cases hdecode : Text.Utf8.decode page with
        | error fault => exact Or.inl ⟨_, .encoding hload hbuild hread hdecode⟩
        | ok markup =>
          obtain ⟨text, htext⟩ := Config.exists_convert_of_build hbuild markup
            (command.overrides.apply config.options)
          exact Or.inr ⟨page, text, config, converter, markup, hload, hbuild, hread, hdecode, htext⟩

/-- The command goes on with what is ready. -/
theorem run_of_prepared (hl : host.Lawful view) {config : Config} {converter : Converter}
    (hload : ((Config.load host command.config .none).run state).1 = .ok config)
    (hbuild : config.build = .ok converter) :
    (command.run host).run state =
      (command.proceed host (config.override command.overrides) converter).run state := by
  rw [run_eq, Config.run_prepare hl, hload]
  simp only [Except.bind, Config.ready_of_build hbuild]

/-- If something is in the way, the command fails for it and changes nothing that can be seen. -/
theorem Blocked.run (hl : host.Lawful view) (h : command.Blocked host state failure) :
    ∃ after, (command.run host).run state = (.error failure, after) ∧ view.Same state after := by
  have hpage := same_readPage hl command state
  cases h with
  | config load =>
    refine ⟨state, ?_, view.same_refl state⟩
    rw [run_eq, Config.run_prepare hl, load]
    rfl
  | refused load build =>
    refine ⟨state, ?_, view.same_refl state⟩
    rw [run_eq, Config.run_prepare hl, load]
    simp only [Except.bind, Config.ready_of_build_eq_error build]
  | page load build read =>
    refine ⟨_, ?_, hpage⟩
    rw [run_of_prepared hl load build, proceed, Host.run_bind, read]
    rfl
  | encoding load build read decode =>
    refine ⟨_, ?_, hpage⟩
    rw [run_of_prepared hl load build, proceed, Host.run_bind, read]
    simp only [Config.textOf, Converter.convertBytes, decode]
    rfl

/-- The page that a text comes from is what its file holds, if it is read from a file. -/
theorem Yields.file? (hl : host.Lawful view) (h : command.Yields host state page text)
    {source : String} (hinput : command.input = some source) :
    ∃ place, view.place? state source = some place ∧ view.file? state place = some page := by
  obtain ⟨config, converter, markup, -, -, hread, -⟩ := h
  exact file?_of_readPage hl hinput hread

/-- If there is a text, the command delivers it. -/
theorem Yields.run (hl : host.Lawful view) (h : command.Yields host state page text) :
    (command.run host).run state =
      (command.deliver host text).run (command.ready host state page text) := by
  obtain ⟨config, converter, markup, hload, hbuild, hread, hdecode, htext⟩ := h
  have hoptions : (config.override command.overrides).options =
      command.overrides.apply config.options := rfl
  have htextOf : (config.override command.overrides).textOf converter page = .ok text := by
    simp only [Config.textOf, Converter.convertBytes, hdecode, hoptions, htext]
  rw [run_of_prepared hl hload hbuild, proceed, Host.run_bind, hread]
  simp only [htextOf]
  rfl

end ConvertCommand

/-! ## The program -/

namespace Command

section Ends

variable [Css.Language] [Toml.Reader] [Manual] {arguments : List String}
  {command : ConvertCommand} {state between : σ}
  (hread : Command.read arguments = .ok (.convert command))
include hread

/-- The program succeeds if the command does. -/
theorem runAll_of_ok (h : (command.run host).run state = (.ok (), between)) :
    (runAll host arguments).run state = (.success, between) := by
  unfold runAll
  rw [hread]
  exact run_runToEnd_of_ok (convert command) h

/-- The program fails if the command does, and nothing changes any more that can be seen. -/
theorem runAll_of_error (hl : host.Lawful view) {failure : Failure}
    (h : (command.run host).run state = (.error failure, between)) :
    ∃ after, (runAll host arguments).run state = (.failure, after) ∧ view.Same between after := by
  refine ⟨_, ?_, hl.report ("Error: " ++ failure.message ++ "\n") between⟩
  unfold runAll
  rw [hread]
  exact run_runToEnd_of_error (convert command) h

/-- If something is in the way, the program fails. -/
theorem runAll_of_blocked (hl : host.Lawful view) {failure : Failure}
    (h : command.Blocked host state failure) :
    ∃ after, (runAll host arguments).run state = (.failure, after) ∧ view.Same state after := by
  obtain ⟨between, hrun, hsame⟩ := h.run hl
  obtain ⟨after, hall, hreported⟩ := runAll_of_error hread hl hrun
  exact ⟨after, hall, hsame.trans hreported⟩

variable {page : List UInt8} {text : String}

/-- If there is a text to print, the program succeeds and has printed it, or the output does not take
it. -/
theorem runAll_of_no_output (hl : host.Lawful view) (h : command.Yields host state page text)
    (houtput : command.output = none) :
    let printing := (host.print text).run (command.ready host state page text)
    (printing.1 = .ok () ∧ ∃ after, (runAll host arguments).run state = (.success, after) ∧
      view.Printed text state after) ∨
    ∃ fault, printing.1 = .error fault ∧
      ∃ after, (runAll host arguments).run state = (.failure, after) ∧
        view.Begun text state after ∧
        (view.Same (command.ready host state page text) printing.2 → view.Same state after) := by
  intro printing
  have hsame := ConvertCommand.same_ready hl command state page text
  have hrun := h.run hl
  rcases ConvertCommand.run_deliver_of_no_output hl houtput text _ with
    ⟨after, hdeliver, hprint, hprinted⟩ | ⟨fault, hdeliver, hprint, hbegun⟩
  · have hall := runAll_of_ok hread (hrun.trans hdeliver)
    exact Or.inl ⟨hprint, after, hall, hprinted.of_same hsame⟩
  · obtain ⟨after, hall, hreported⟩ := runAll_of_error hread hl (hrun.trans hdeliver)
    refine Or.inr ⟨fault, hprint, after, hall, hbegun.of_same hsame hreported, fun hkept => ?_⟩
    exact hsame.trans (hkept.trans hreported)

/-- If there is a text to write, the program succeeds and has stored it, or it could not be
written. -/
theorem runAll_of_output (hl : host.Lawful view) (h : command.Yields host state page text)
    {path : String} (houtput : command.output = some path) :
    let writing := (host.write path text).run (command.ready host state page text)
    (writing.1 = .ok () ∧ ∃ after, (runAll host arguments).run state = (.success, after) ∧
      view.Stored path text state after) ∨
    ∃ fault, writing.1 = .error fault ∧
      ∃ after, (runAll host arguments).run state = (.failure, after) ∧
        view.Same state after := by
  intro writing
  have hsame := ConvertCommand.same_ready hl command state page text
  have hrun := h.run hl
  rcases ConvertCommand.run_deliver_of_output hl houtput text _ with
    ⟨after, hdeliver, hwrite, hstored⟩ | ⟨fault, between, hdeliver, hwrite, hkept⟩
  · have hall := runAll_of_ok hread (hrun.trans hdeliver)
    exact Or.inl ⟨hwrite, after, hall, hstored.of_same hsame (view.same_refl after)⟩
  · obtain ⟨after, hall, hreported⟩ := runAll_of_error hread hl (hrun.trans hdeliver)
    exact Or.inr ⟨fault, hwrite, after, hall, hsame.trans (hkept.trans hreported)⟩

/-- The program succeeds exactly if the output takes the text. -/
theorem runAll_success_iff_print (hl : host.Lawful view) (h : command.Yields host state page text)
    (houtput : command.output = none) :
    ((runAll host arguments).run state).1 = .success ↔
      ((host.print text).run (command.ready host state page text)).1 = .ok () := by
  rcases runAll_of_no_output hread hl h houtput with
    ⟨hprint, after, hall, -⟩ | ⟨fault, hprint, after, hall, -⟩
  · rw [hall, hprint]
    exact iff_of_true rfl rfl
  · rw [hall, hprint]
    exact iff_of_false nofun nofun

/-- The program succeeds exactly if the text can be written. -/
theorem runAll_success_iff_write (hl : host.Lawful view) (h : command.Yields host state page text)
    {path : String} (houtput : command.output = some path) :
    ((runAll host arguments).run state).1 = .success ↔
      ((host.write path text).run (command.ready host state page text)).1 = .ok () := by
  rcases runAll_of_output hread hl h houtput with
    ⟨hwrite, after, hall, -⟩ | ⟨fault, hwrite, after, hall, -⟩
  · rw [hall, hwrite]
    exact iff_of_true rfl rfl
  · rw [hall, hwrite]
    exact iff_of_false nofun nofun

end Ends

/-- What the program has done in the end when it is asked to convert a page, on any host that keeps
the laws. It fails or succeeds.

If it fails, something was in the way of a text, or its file could not be written, and nothing has
changed that can be seen; or the output did not take the text. Then no file has changed, and a front
of the text at most has been printed, nothing of it where texts are printed as a whole or not at all.

If it succeeds, there is a text to which the page is converted, as the machine was in the beginning,
the page being what its file held then. This text is all that has been printed, and no file has
changed; or, if it was to be written, it is the content of the file to which the path leads, be this
that of the page, and neither another file nor the output has changed.

It fails whenever something is in the way. Otherwise it succeeds exactly if the output takes the text,
or the text can be written to its file. -/
theorem effect_of_convert [Css.Language] [Toml.Reader] [Manual] (hlawful : host.Lawful view)
    {arguments : List String} {command : ConvertCommand}
    (hread : Command.read arguments = .ok (.convert command)) (state : σ) :
    let exit := ((runAll host arguments).run state).1
    let after := ((runAll host arguments).run state).2
    (exit = .failure ∨ exit = .success) ∧
    (exit = .failure →
      (view.Same state after ∧
        ((∃ failure, command.Blocked host state failure) ∨
          ∃ page text path fault, command.Yields host state page text ∧
            command.output = some path ∧
            ((host.write path text).run (command.ready host state page text)).1 = .error fault)) ∨
      ∃ page text fault, command.Yields host state page text ∧ command.output = none ∧
        ((host.print text).run (command.ready host state page text)).1 = .error fault ∧
        view.Begun text state after ∧ (host.PrintsWhole view → view.Same state after)) ∧
    (exit = .success → ∃ page text, command.Yields host state page text ∧
      (∀ source, command.input = some source → ∃ place, view.place? state source = some place ∧
        view.file? state place = some page) ∧
      (command.output = none → view.Printed text state after) ∧
      ∀ path, command.output = some path → view.Stored path text state after) ∧
    (∀ failure, command.Blocked host state failure → exit = .failure) ∧
    ∀ page text, command.Yields host state page text →
      let ready := command.ready host state page text
      view.Same state ready ∧
      (command.output = none → (exit = .success ↔ ((host.print text).run ready).1 = .ok ())) ∧
      ∀ path, command.output = some path →
        (exit = .success ↔ ((host.write path text).run ready).1 = .ok ()) := by
  intro exit after
  have hends : ∀ {way : Exit} {last : σ}, (runAll host arguments).run state = (way, last) →
      exit = way ∧ after = last := fun h => ⟨congrArg Prod.fst h, congrArg Prod.snd h⟩
  have hblocked : ∀ failure, command.Blocked host state failure → exit = .failure := by
    intro failure h
    obtain ⟨last, hall, -⟩ := runAll_of_blocked hread hlawful h
    exact (hends hall).1
  have hdelivers : ∀ page text, command.Yields host state page text →
      let ready := command.ready host state page text
      view.Same state ready ∧
      (command.output = none → (exit = .success ↔ ((host.print text).run ready).1 = .ok ())) ∧
      ∀ path, command.output = some path →
        (exit = .success ↔ ((host.write path text).run ready).1 = .ok ()) := by
    intro page text h ready
    refine ⟨ConvertCommand.same_ready hlawful command state page text, ?_, ?_⟩
    · exact runAll_success_iff_print hread hlawful h
    · exact fun path => runAll_success_iff_write hread hlawful h
  suffices hcases : (exit = .failure ∨ exit = .success) ∧ _ ∧ _ from
    ⟨hcases.1, hcases.2.1, hcases.2.2, hblocked, hdelivers⟩
  rcases ConvertCommand.blocked_or_yields command host state with
    ⟨failure, h⟩ | ⟨page, text, h⟩
  · -- There is no text.
    obtain ⟨last, hall, hsame⟩ := runAll_of_blocked hread hlawful h
    obtain ⟨hexit, hafter⟩ := hends hall
    rw [hexit, hafter]
    exact ⟨.inl rfl, fun _ => .inl ⟨hsame, .inl ⟨failure, h⟩⟩, nofun⟩
  · cases houtput : command.output with
    | none =>
      rcases runAll_of_no_output hread hlawful h houtput with
        ⟨-, last, hall, hprinted⟩ | ⟨fault, hprint, last, hall, hbegun, hkept⟩
      · obtain ⟨hexit, hafter⟩ := hends hall
        rw [hexit, hafter]
        refine ⟨.inr rfl, nofun, fun _ => ⟨page, text, h, ?_, fun _ => hprinted, nofun⟩⟩
        exact fun source => h.file? hlawful
      · obtain ⟨hexit, hafter⟩ := hends hall
        rw [hexit, hafter]
        refine ⟨.inl rfl, fun _ => .inr ⟨page, text, fault, h, rfl, hprint, hbegun, ?_⟩, nofun⟩
        exact fun hwhole => hkept (hwhole text _ fault hprint)
    | some path =>
      rcases runAll_of_output hread hlawful h houtput with
        ⟨-, last, hall, hstored⟩ | ⟨fault, hwrite, last, hall, hsame⟩
      · obtain ⟨hexit, hafter⟩ := hends hall
        rw [hexit, hafter]
        refine ⟨.inr rfl, nofun, fun _ => ⟨page, text, h, fun _ => h.file? hlawful, nofun, ?_⟩⟩
        intro other hother
        obtain rfl := Option.some.inj hother
        exact hstored
      · obtain ⟨hexit, hafter⟩ := hends hall
        rw [hexit, hafter]
        refine ⟨.inl rfl, fun _ => .inl ⟨hsame, .inr ?_⟩, nofun⟩
        exact ⟨page, text, path, fault, h, rfl, hwrite⟩

/-- A page is converted in place, with an option in front of that of the configuration. Then it is to
be converted with a configuration that is not there, and nothing changes. Where its text is to be
printed, but the output has room for two characters only, these are printed, and no file changes. -/
theorem effect_of_convert_in_place :
    let machine : World :=
      { entry? := fun place =>
          match place with
          | [] => some .directory
          | ["mation.toml"] =>
            some (.file "[[rules]]\nselector='b'\nto='*{content}*'".toUTF8.toList)
          | ["page.html"] => some (.file " <b>a</b>".toUTF8.toList)
          | _ => none
        isLocked := fun _ => false
        directory := []
        input := []
        output := ""
        messages := "" }
    let arguments := ["convert", "page.html", "-o", "page.html", "--trim"]
    let after := ((runAll World.host arguments).run machine).2
    let surplus := arguments ++ ["-c", "other.toml"]
    let short := { machine with outputEnd := some (2, .noSpace) }
    let printed := (runAll World.host ["convert", "page.html", "--trim"]).run short
    (∃ text, World.view.Stored "page.html" text machine after) ∧
      after.entry? ["page.html"] = some (.file "*a*".toUTF8.toList) ∧
      ((runAll World.host surplus).run after).1 = .failure ∧
      World.view.Same after ((runAll World.host surplus).run after).2 ∧
      printed.1 = .failure ∧ printed.2.output = "*a" ∧
      ∃ text, World.view.Begun text short printed.2 := by
  intro machine arguments after surplus short printed
  have hread : Command.read arguments = .ok (.convert
      ⟨some "page.html", none, some "page.html", false, false, true, false⟩) := by
    decide +kernel
  have hsurplus : Command.read surplus = .ok (.convert
      ⟨some "page.html", some "other.toml", some "page.html", false, false, true, false⟩) := by
    decide +kernel
  have hprints : Command.read ["convert", "page.html", "--trim"] = .ok (.convert
      ⟨some "page.html", none, none, false, false, true, false⟩) := by
    decide +kernel
  have hsuccess : ((runAll World.host arguments).run machine).1 = .success := by decide +kernel
  have hfailure : ((runAll World.host surplus).run after).1 = .failure := by decide +kernel
  have hshort : printed.1 = .failure := by decide +kernel
  have houtput : printed.2.output = "*a" := by decide +kernel
  obtain ⟨-, -, hstores, -⟩ := effect_of_convert World.lawful_host hread machine
  obtain ⟨page, text, -, -, -, hstored⟩ := hstores hsuccess
  refine ⟨⟨text, hstored "page.html" rfl⟩, by decide +kernel, hfailure, ?_, hshort, houtput, ?_⟩
  · obtain ⟨-, hfails, -⟩ := effect_of_convert World.lawful_host hsurplus after
    rcases hfails hfailure with ⟨hsame, -⟩ | ⟨-, -, -, -, hnone, -⟩
    · exact hsame
    · cases hnone
  · obtain ⟨-, hfails, -⟩ := effect_of_convert World.lawful_host hprints short
    rcases hfails hshort with ⟨hsame, -⟩ | ⟨-, text, -, -, -, -, hbegun, -⟩
    · -- The output is not what it was.
      have hempty : printed.2.output = short.output := hsame.output
      rw [houtput] at hempty
      exact absurd hempty (by decide)
    · exact ⟨text, hbegun⟩

end Command

end TreeText
