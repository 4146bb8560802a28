/-
# The configuration that is found

Where no configuration is asked for, the program looks in its directory and in those above it, up to
the root, and takes the first file of the usual name. This is the nearest one: that of the longest
front of the names of the directory in which there is such a file. Nothing else is read, and a file
that is asked for is never exchanged for one that could be found.

* `Config.Nearest` says which directory is nearest, without regard to how it is looked for.
* `Config.find?_upward_eq_some_iff` says that the first directory upward is the nearest one.
* `Config.load_takes_nearest` says what is asked of a host when a configuration is loaded, and what
  comes of it.
-/
import Mathlib.Data.List.Induction
import TreeText.Config.Shape
import TreeText.Host.World
import TreeText.Proofs.Host.Recorded

namespace TreeText.Config

/-! ## The nearest directory -/

/-- The directory itself or the nearest one above it in which there is a file of the usual name. -/
structure Nearest (there : String → Bool) (directory above : List String) : Prop where
  front : above <+: directory
  isThere : there (pathIn above) = true
  longest (other : List String) :
    other <+: directory → there (pathIn other) = true → other.length ≤ above.length

section

variable {there : String → Bool} {directory above other : List String} {name : String}

/-- Only one directory is the nearest. -/
theorem Nearest.unique (h : Nearest there directory above) (h' : Nearest there directory other) :
    above = other := by
  have hle := h'.longest above h.front h.isThere
  have hge := h.longest other h'.front h'.isThere
  exact (List.prefix_of_prefix_length_le h.front h'.front hle).eq_of_length
    (Nat.le_antisymm hle hge)

/-- Upward from a directory comes the directory itself, and then what comes from the one above. -/
theorem upward_concat (directory : List String) (name : String) :
    upward (directory ++ [name]) = (directory ++ [name]) :: upward directory := by
  have htake : ∀ n ∈ (List.range (directory.length + 1)).reverse,
      (directory ++ [name]).take n = directory.take n := by
    intro n hm
    rw [List.mem_reverse, List.mem_range] at hm
    exact List.take_append_of_le_length (by omega)
  unfold upward
  rw [List.length_append, List.length_singleton, List.range_succ, List.reverse_concat,
    List.map_cons, List.map_congr_left htake, List.take_of_length_le (by simp)]

/-- Upward lie as many directories as there are names, and the root. -/
theorem length_upward (directory : List String) :
    (upward directory).length = directory.length + 1 := by
  unfold upward
  rw [List.length_map, List.length_reverse, List.length_range]

/-- Upward from a directory lie those whose names are in front of its own. -/
theorem mem_upward_iff : above ∈ upward directory ↔ above <+: directory := by
  induction directory using List.reverseRecOn with
  | nil => rw [List.prefix_nil]; exact List.mem_singleton
  | append_singleton directory name ih =>
    rw [upward_concat, List.mem_cons, List.prefix_concat_iff, ih]

/-- The first directory upward in which there is a file is the nearest. -/
theorem nearest_of_find?_upward
    (h : (upward directory).find? (fun above => there (pathIn above)) = some above) :
    Nearest there directory above := by
  have hthere := List.find?_some h
  refine ⟨mem_upward_iff.mp (List.mem_of_find?_eq_some h), hthere, ?_⟩
  clear hthere
  induction directory using List.reverseRecOn with
  | nil =>
    intro other hfront _
    rw [List.prefix_nil.mp hfront]
    exact Nat.zero_le _
  | append_singleton directory name ih =>
    intro other hfront hthere
    rw [upward_concat, List.find?_cons] at h
    by_cases hself : there (pathIn (directory ++ [name])) = true
    · rw [hself] at h
      obtain rfl := Option.some.inj h
      exact hfront.length_le
    · rw [Bool.not_eq_true] at hself
      rw [hself] at h
      rcases List.prefix_concat_iff.mp hfront with rfl | hfront
      · rw [hself] at hthere
        cases hthere
      · exact ih h other hfront hthere

/-- No directory upward has a file exactly if none is in front. -/
theorem find?_upward_eq_none_iff :
    (upward directory).find? (fun above => there (pathIn above)) = none ↔
      ∀ above, above <+: directory → there (pathIn above) = false := by
  simp only [List.find?_eq_none, mem_upward_iff, Bool.not_eq_true]

/-- A directory is the first one upward in which there is a file exactly if it is the nearest. -/
theorem find?_upward_eq_some_iff :
    (upward directory).find? (fun above => there (pathIn above)) = some above ↔
      Nearest there directory above := by
  refine ⟨nearest_of_find?_upward, fun h => ?_⟩
  cases hfind : (upward directory).find? (fun above => there (pathIn above)) with
  | none =>
    have hnone := find?_upward_eq_none_iff.mp hfind above h.front
    rw [h.isThere] at hnone
    cases hnone
  | some first => rw [(nearest_of_find?_upward hfind).unique h]

end

/-! ## Looking for files -/

variable {σ : Type} {host : Host (StateM σ)} (state : σ)

/-- A path that is looked for is written down. -/
theorem run_isThere_recorded (hthere : ∀ path, Host.Quiet (host.isThere path)) (path : String)
    (record : List Access) :
    (host.recorded.isThere path).run (state, record) =
      (((host.isThere path).run state).1, state, record ++ [.isThere path]) :=
  (hthere path).run_noting (.isThere path) state record

/-- To look through paths gives the first one where there is something, and asks for paths in front
only. -/
theorem run_firstThere_recorded (hthere : ∀ path, Host.Quiet (host.isThere path))
    (paths : List String) (record : List Access) :
    ∃ n ≤ paths.length, (firstThere host.recorded.isThere paths).run (state, record) =
      (paths.find? fun path => ((host.isThere path).run state).1, state,
        record ++ (paths.take n).map .isThere) := by
  induction paths generalizing record with
  | nil => exact ⟨0, Nat.le_refl 0, by rw [List.take_nil, List.map_nil, List.append_nil]; rfl⟩
  | cons path paths ih =>
    rw [firstThere, Host.run_bind, run_isThere_recorded state hthere, List.find?_cons]
    cases ((host.isThere path).run state).1 with
    | true => exact ⟨1, Nat.succ_le_succ (Nat.zero_le _), rfl⟩
    | false =>
      obtain ⟨n, hle, hrun⟩ := ih (record ++ [.isThere path])
      refine ⟨n + 1, Nat.succ_le_succ hle, ?_⟩
      rw [List.take_succ_cons, List.map_cons, List.append_cons record _ (List.map _ _)]
      exact hrun

/-- To look upward from a directory gives the file of the nearest one, and asks for no file but
those of directories on the way. -/
theorem run_discover_recorded (hthere : ∀ path, Host.Quiet (host.isThere path))
    (directory : List String) (record : List Access) :
    ∃ n ≤ directory.length + 1, (discover host.recorded.isThere directory).run (state, record) =
      (((upward directory).find? fun above =>
          ((host.isThere (pathIn above)).run state).1).map pathIn, state,
        record ++ ((upward directory).take n).map fun above => .isThere (pathIn above)) := by
  obtain ⟨n, hle, hrun⟩ :=
    run_firstThere_recorded state hthere ((upward directory).map pathIn) record
  rw [List.length_map, length_upward] at hle
  refine ⟨n, hle, hrun.trans ?_⟩
  rw [List.find?_map, ← List.map_take, List.map_map]
  rfl

/-- What holds of the lookups holds of looking through paths. -/
theorem closed_firstThere {holds : ∀ {α : Type}, StateM σ α → Prop} (hc : Host.Closed holds)
    (hthere : ∀ path, holds (host.isThere path)) (paths : List String) :
    holds (firstThere host.isThere paths) := by
  induction paths with
  | nil => exact hc.pure none
  | cons path paths ih =>
    refine hc.bind (hthere path) fun isThere => ?_
    cases isThere with
    | true => exact hc.pure (some path)
    | false => exact ih

/-- What holds of the lookups holds of finding the file of a configuration. -/
theorem closed_find {holds : ∀ {α : Type}, StateM σ α → Prop} (hc : Host.Closed holds)
    (hdirectory : holds host.directory) (hthere : ∀ path, holds (host.isThere path))
    (path? : Option String) : holds (find host path?) := by
  cases path? with
  | some path =>
    refine hc.bind (hthere path) fun isThere => ?_
    cases isThere <;> exact hc.pure _
  | none =>
    refine hc.bind hdirectory fun directory? => ?_
    cases directory? with
    | none => exact hc.pure _
    | some directory => exact hc.bind (closed_firstThere hc hthere _) fun found => hc.pure _

/-- To find the file of a configuration is to look, and no more. -/
theorem adds_find (host : Host (StateM σ)) (path? : Option String) :
    Host.Adds (·.looks = true) (find host.recorded path?) :=
  closed_find (Host.closed_adds (·.looks = true)) (Host.adds_noting (by rfl) _)
    (fun _ => Host.adds_noting (by rfl) _) path?

/-- A file that is asked for is looked for, and nothing else is. -/
theorem run_find_recorded_some (hthere : ∀ path, Host.Quiet (host.isThere path)) (path : String)
    (record : List Access) :
    (find host.recorded (some path)).run (state, record) =
      (if ((host.isThere path).run state).1 then .ok (some path) else .error (.notFound path),
        state, record ++ [.isThere path]) := by
  unfold find
  rw [Host.run_bind, run_isThere_recorded state hthere]
  cases ((host.isThere path).run state).1 <;> rfl

/-- Where no file is asked for, one is looked for upward from the directory. -/
theorem run_find_recorded_none (hdirectory : Host.Quiet host.directory) {directory : List String}
    (h : (host.directory.run state).1 = some directory) (record : List Access) :
    (find host.recorded none).run (state, record) =
      let found := (discover host.recorded.isThere directory).run (state, record ++ [.directory])
      (.ok found.1, found.2) := by
  have hstep : host.recorded.directory.run (state, record) =
      (some directory, state, record ++ [.directory]) := by
    rw [← h]
    exact hdirectory.run_noting .directory state record
  unfold find
  rw [Host.run_bind, hstep]
  rfl

/-! ## Loading -/

section

variable [Toml.Reader]

/-- What comes of the answer when the file of a configuration is read. -/
def ofAnswer (path : String) (overrides : Overrides) :
    Except FileFault (List UInt8) → Except ConfigError Config
  | .error fault => .error (.unreadable fault)
  | .ok content => (ofFile path content).map (·.override overrides)

/-- To load a configuration is to find its file and to read this file, and nothing else. -/
theorem run_load_eq (host : Host (StateM σ)) (path? : Option String) (overrides : Overrides) :
    (load host path? overrides).run state =
      match (find host path?).run state with
      | (.error error, found) => (.error error, found)
      | (.ok none, found) => (.ok (standard.override overrides), found)
      | (.ok (some path), found) =>
        (ofAnswer path overrides ((host.read path).run found).1,
          ((host.read path).run found).2) := by
  unfold load
  rw [Host.run_bind]
  rcases (find host path?).run state with ⟨error | found | path, after⟩
  · rfl
  · rfl
  · show (host.read path >>= _ : StateM σ _).run after =
      (ofAnswer path overrides ((host.read path).run after).1, ((host.read path).run after).2)
    rw [Host.run_bind]
    rcases (host.read path).run after with ⟨fault | content, last⟩ <;> rfl

/-- Where lookups and reading change nothing, neither does loading. -/
theorem quiet_load (hdirectory : Host.Quiet host.directory)
    (hthere : ∀ path, Host.Quiet (host.isThere path)) (hread : ∀ path, Host.Quiet (host.read path))
    (path? : Option String) (overrides : Overrides) : Host.Quiet (load host path? overrides) := by
  intro state
  have hfind := closed_find Host.closed_quiet hdirectory hthere path? state
  rw [run_load_eq]
  rcases h : (find host path?).run state with ⟨error | found | path, after⟩
  · rwa [h] at hfind
  · rwa [h] at hfind
  · rw [h] at hfind
    exact (hread path after).trans hfind

/-- Options change what is loaded, and nothing about how it is found. -/
theorem run_load_override (host : Host (StateM σ)) (path? : Option String)
    (overrides : Overrides) :
    (load host path? overrides).run state =
      (((load host path? .none).run state).1.map (·.override overrides),
        ((load host path? .none).run state).2) := by
  rw [run_load_eq, run_load_eq]
  rcases (find host path?).run state with ⟨error | found | path, after⟩
  · rfl
  · rfl
  · rcases h : (host.read path).run after with ⟨fault | content, last⟩
    · simp only [h]
      rfl
    · simp only [h, ofAnswer]
      cases ofFile path content <;> rfl

/-- Where a file is there, the nearest one is read, and nothing else. -/
theorem run_load_recorded_of_nearest (hdirectory : Host.Quiet host.directory)
    (hthere : ∀ path, Host.Quiet (host.isThere path)) {directory above : List String}
    (h : (host.directory.run state).1 = some directory)
    (hnearest : Nearest (fun path => ((host.isThere path).run state).1) directory above)
    (overrides : Overrides) :
    ∃ lookups, (∀ access ∈ lookups, access.looks = true) ∧
      (load host.recorded none overrides).run (state, []) =
        (ofAnswer (pathIn above) overrides ((host.read (pathIn above)).run state).1,
          ((host.read (pathIn above)).run state).2, lookups ++ [.read (pathIn above)]) := by
  obtain ⟨n, -, hrun⟩ := run_discover_recorded state hthere directory [.directory]
  have hfind := run_find_recorded_none state hdirectory h []
  rw [List.nil_append, hrun, find?_upward_eq_some_iff.mpr hnearest] at hfind
  obtain ⟨lookups, hrecord, hlooks⟩ := adds_find host none state []
  rw [hfind] at hrecord
  refine ⟨lookups, hlooks, ?_⟩
  rw [run_load_eq, hfind, ← List.nil_append lookups, ← hrecord]
  rfl

/-- Where no file is there, none is read. -/
theorem run_load_recorded_of_none (hdirectory : Host.Quiet host.directory)
    (hthere : ∀ path, Host.Quiet (host.isThere path)) {directory : List String}
    (h : (host.directory.run state).1 = some directory)
    (hnone : ∀ above, above <+: directory →
      ((host.isThere (pathIn above)).run state).1 = false) (overrides : Overrides) :
    ∃ lookups, (∀ access ∈ lookups, access.looks = true) ∧
      (load host.recorded none overrides).run (state, []) =
        (.ok (standard.override overrides), state, lookups) := by
  obtain ⟨n, -, hrun⟩ := run_discover_recorded state hthere directory [.directory]
  have hfind := run_find_recorded_none state hdirectory h []
  have hupward := (@find?_upward_eq_none_iff (fun path => ((host.isThere path).run state).1)
    directory).mpr hnone
  rw [List.nil_append, hrun, hupward] at hfind
  obtain ⟨lookups, hrecord, hlooks⟩ := adds_find host none state []
  rw [hfind] at hrecord
  refine ⟨lookups, hlooks, ?_⟩
  rw [run_load_eq, hfind, ← List.nil_append lookups, ← hrecord]
  rfl

/-- A file that is asked for is read if it is there, and otherwise there is an error; no other file
is looked for. -/
theorem run_load_recorded_some (hthere : ∀ path, Host.Quiet (host.isThere path)) (path : String)
    (overrides : Overrides) :
    (load host.recorded (some path) overrides).run (state, []) =
      if ((host.isThere path).run state).1 then
        (ofAnswer path overrides ((host.read path).run state).1, ((host.read path).run state).2,
          [.isThere path, .read path])
      else (.error (.notFound path), state, [.isThere path]) := by
  rw [run_load_eq, run_find_recorded_some state hthere]
  cases ((host.isThere path).run state).1 <;> rfl

/-- To look upward from a directory ends after no more lookups than there are directories on the
way, and finds the file of the nearest directory that has one, or nothing exactly if none has. Where
no configuration is asked for, the file that is read is this one and no other, and where none is
found, the standard configuration without rules holds. A configuration that is asked for is read
from its own file, or else there is none; nothing is looked for in its place. -/
theorem load_takes_nearest (host : Host (StateM σ)) (hdirectory : Host.Quiet host.directory)
    (hthere : ∀ path, Host.Quiet (host.isThere path)) (state : σ) (overrides : Overrides) :
    let there path := ((host.isThere path).run state).1
    let answer path := (host.read path).run state
    let found directory := (discover host.recorded.isThere directory).run (state, [])
    let loaded path? := (load host.recorded path? overrides).run (state, [])
    (∀ directory,
      (∀ path, (found directory).1 = some path ↔
        ∃ above, Nearest there directory above ∧ pathIn above = path) ∧
      ((found directory).1 = none ↔ ∀ above, above <+: directory → there (pathIn above) = false) ∧
      ∃ n ≤ directory.length + 1, (found directory).2 =
        (state, ((upward directory).take n).map fun above => .isThere (pathIn above))) ∧
    (∀ directory, (host.directory.run state).1 = some directory →
      (∀ above, Nearest there directory above →
        ∃ lookups, (∀ access ∈ lookups, access.looks = true) ∧
          loaded none = (ofAnswer (pathIn above) overrides (answer (pathIn above)).1,
            (answer (pathIn above)).2, lookups ++ [.read (pathIn above)])) ∧
      ((∀ above, above <+: directory → there (pathIn above) = false) →
        ∃ lookups, (∀ access ∈ lookups, access.looks = true) ∧
          loaded none = (.ok ⟨overrides.apply .standard, [], [], [], none⟩, state, lookups))) ∧
    ∀ path, loaded (some path) =
      if there path then (ofAnswer path overrides (answer path).1, (answer path).2,
        [.isThere path, .read path])
      else (.error (.notFound path), state, [.isThere path]) := by
  intro there answer found loaded
  refine ⟨fun directory => ?_, fun directory h => ⟨fun above hnearest => ?_, fun hnone => ?_⟩,
    fun path => run_load_recorded_some state hthere path overrides⟩
  · obtain ⟨n, hle, hrun⟩ := run_discover_recorded state hthere directory []
    have hfound : found directory =
        (((upward directory).find? fun above => there (pathIn above)).map pathIn, state,
          ((upward directory).take n).map fun above => .isThere (pathIn above)) := hrun
    rw [hfound]
    refine ⟨fun path => ?_, ?_, n, hle, rfl⟩
    · simp only [Option.map_eq_some_iff, find?_upward_eq_some_iff]
    · rw [Option.map_eq_none_iff, find?_upward_eq_none_iff]
  · exact run_load_recorded_of_nearest state hdirectory hthere h hnearest overrides
  · exact run_load_recorded_of_none state hdirectory hthere h hnone overrides

end

/-- From the directory `/a/b`, the configuration in `/a` is found in front of that in the root. One
that is asked for and is not there is not exchanged for it. -/
theorem load_takes_nearest_above :
    let machine : World :=
      { entry? := fun place =>
          match place with
          | [] | ["a"] | ["a", "b"] => some .directory
          | ["mation.toml"] | ["a", "mation.toml"] => some (.file [])
          | _ => none
        isLocked := fun _ => false
        directory := ["a", "b"]
        input := []
        output := ""
        messages := "" }
    let loaded path? := (load World.host.recorded path? .none).run (machine, [])
    (∃ lookups, (∀ access ∈ lookups, access.looks = true) ∧
      (loaded none).2.2 = lookups ++ [.read "/a/mation.toml"]) ∧
    loaded (some "/b.toml") = (.error (.notFound "/b.toml"), machine, [.isThere "/b.toml"]) := by
  intro machine loaded
  obtain ⟨-, hnone, hsome⟩ :=
    load_takes_nearest World.host (fun _ => rfl) (fun _ _ => rfl) machine .none
  have hnearest : Nearest machine.isThere ["a", "b"] ["a"] :=
    nearest_of_find?_upward (by decide +kernel)
  obtain ⟨lookups, hlooks, hloaded⟩ := (hnone ["a", "b"] rfl).1 ["a"] hnearest
  have hmissing : machine.isThere "/b.toml" = false := by decide +kernel
  refine ⟨⟨lookups, hlooks, ?_⟩, ?_⟩
  · rw [show loaded none = _ from hloaded]
    rfl
  · rw [show loaded (some "/b.toml") = _ from hsome "/b.toml"]
    exact if_neg (Bool.eq_false_iff.mp hmissing)

end TreeText.Config
