/-
# Lawful hosts

What a host may be relied on for, whatever its machine is: looking and reading change nothing, what
is printed is added to the output, or the front of it that the output takes, and a file is written as
a whole or not at all. To say this, a machine is seen as places with the contents of the files there,
and an output. Paths lead to places, so that several of them may lead to the same file.

* `View` is that view of a machine. `View.Same`, `View.Printed`, `View.Begun` and `View.Stored` say
  what has become of a machine.
* `Host.Lawful` is what is asked of a host, and `World.lawful_host` says that described machines
  have it.
* `Host.Quiet` is an activity that changes nothing, and `Host.Closed` what holds of activities that
  are put together if it holds of their parts.
-/
import Mathlib.Tactic.SplitIfs
import TreeText.Host.World

namespace TreeText

/-! ## Views -/

/-- A view of the states of a machine: the place to which a path leads, the content of the file at a
place if there is one, and the output. -/
structure View (σ Place : Type) where
  place? : σ → String → Option Place
  file? : σ → Place → Option (List UInt8)
  output : σ → String

namespace View

variable {σ Place : Type} {view : View σ Place} {before between after : σ}

/-- Nothing has changed that can be seen: no file, and not the output. -/
structure Same (view : View σ Place) (before after : σ) : Prop where
  place? : view.place? after = view.place? before
  file? : view.file? after = view.file? before
  output : view.output after = view.output before

/-- A text has been added to the output, and no file has changed. -/
structure Printed (view : View σ Place) (text : String) (before after : σ) : Prop where
  place? : view.place? after = view.place? before
  file? : view.file? after = view.file? before
  output : view.output after = view.output before ++ text

/-- A text has begun to be printed: a front of it has been added to the output, be it empty or the
whole text, and no file has changed. -/
structure Begun (view : View σ Place) (text : String) (before after : σ) : Prop where
  place? : view.place? after = view.place? before
  file? : view.file? after = view.file? before
  output : ∃ front, front <+: text.toList ∧
    view.output after = view.output before ++ String.ofList front

/-- The file to which a path leads has a text as its content, and neither any other file nor the
output has changed. -/
structure Stored (view : View σ Place) (path text : String) (before after : σ) : Prop where
  output : view.output after = view.output before
  file? : ∃ place, view.place? before path = some place ∧ view.place? after path = some place ∧
    view.file? after place = some text.toUTF8.toList ∧
    ∀ other, other ≠ place → view.file? after other = view.file? before other

theorem same_refl (view : View σ Place) (state : σ) : view.Same state state :=
  ⟨rfl, rfl, rfl⟩

theorem Same.trans (h : view.Same before between) (hlater : view.Same between after) :
    view.Same before after :=
  ⟨hlater.place?.trans h.place?, hlater.file?.trans h.file?, hlater.output.trans h.output⟩

/-- Where nothing has changed before, what is printed is added to what was there at first. -/
theorem Printed.of_same {text : String} (h : view.Same before between)
    (hprinted : view.Printed text between after) : view.Printed text before after where
  place? := hprinted.place?.trans h.place?
  file? := hprinted.file?.trans h.file?
  output := by rw [hprinted.output, h.output]

/-- Where nothing has changed before or afterwards, what has begun to be printed follows what was
there at first. -/
theorem Begun.of_same {text : String} {last : σ} (h : view.Same before between)
    (hbegun : view.Begun text between after) (hlast : view.Same after last) :
    view.Begun text before last where
  place? := by rw [hlast.place?, hbegun.place?, h.place?]
  file? := by rw [hlast.file?, hbegun.file?, h.file?]
  output := by
    obtain ⟨front, hfront, houtput⟩ := hbegun.output
    refine ⟨front, hfront, ?_⟩
    rw [hlast.output, houtput, h.output]

/-- Where nothing has changed before or afterwards, what is stored takes the place of what was there
at first. -/
theorem Stored.of_same {path text : String} {last : σ} (h : view.Same before between)
    (hstored : view.Stored path text between after) (hlast : view.Same after last) :
    view.Stored path text before last where
  output := by rw [hlast.output, hstored.output, h.output]
  file? := by
    obtain ⟨place, hbefore, hafter, hcontent, hothers⟩ := hstored.file?
    rw [hlast.place?, hlast.file?, ← h.place?, ← h.file?]
    exact ⟨place, hbefore, hafter, hcontent, hothers⟩

end View

/-! ## Laws -/

namespace Host

variable {σ Place α β : Type}

/-- An activity that changes nothing about a machine. -/
def Quiet (activity : StateM σ α) : Prop :=
  ∀ state, (activity.run state).2 = state

/-- One activity after another is begun with the machine that the first one leaves. -/
theorem run_bind (first : StateM σ α) (next : α → StateM σ β) (state : σ) :
    (first >>= next).run state = (next (first.run state).1).run (first.run state).2 := rfl

theorem quiet_pure (value : α) : Quiet (pure value : StateM σ α) :=
  fun _ => rfl

/-- What follows a quiet activity is begun with the same machine. -/
theorem Quiet.run_bind {first : StateM σ α} (h : Quiet first) (next : α → StateM σ β) (state : σ) :
    (first >>= next).run state = (next (first.run state).1).run state := by
  rw [Host.run_bind, h]

/-- One quiet activity after another is quiet. -/
theorem Quiet.bind {first : StateM σ α} {next : α → StateM σ β} (h : Quiet first)
    (hnext : ∀ value, Quiet (next value)) : Quiet (first >>= next) := by
  intro state
  rw [h.run_bind, hnext]

/-- What holds of an activity that gives a value at once, and of one activity after another if it
holds of both. -/
structure Closed (holds : ∀ {α : Type}, StateM σ α → Prop) : Prop where
  pure : ∀ {α : Type} (value : α), holds (pure value : StateM σ α)
  bind : ∀ {α β : Type} {first : StateM σ α} {next : α → StateM σ β}, holds first →
    (∀ value, holds (next value)) → holds (first >>= next)

theorem closed_quiet : Closed (@Quiet σ) :=
  ⟨quiet_pure, Quiet.bind⟩

/-- What is asked of a host. To look for files and to read them changes nothing, and a file that is
read is the one to which the path leads. Reading the input and reporting change no file and not the
output. What is printed is added to the output; if there is a fault, a front of it may have been. A
text is written as a whole, to the one file to which the path leads; if there is a fault, nothing
is. -/
structure Lawful (host : Host (StateM σ)) (view : View σ Place) : Prop where
  directory : Quiet host.directory
  isThere : ∀ path, Quiet (host.isThere path)
  read : ∀ path, Quiet (host.read path)
  read_ok : ∀ path state content, ((host.read path).run state).1 = .ok content →
    ∃ place, view.place? state path = some place ∧ view.file? state place = some content
  input : ∀ state, view.Same state (host.input.run state).2
  report : ∀ text state, view.Same state ((host.report text).run state).2
  print_ok : ∀ text state, ((host.print text).run state).1 = .ok () →
    view.Printed text state ((host.print text).run state).2
  print_error : ∀ text state fault, ((host.print text).run state).1 = .error fault →
    view.Begun text state ((host.print text).run state).2
  write_ok : ∀ path text state, ((host.write path text).run state).1 = .ok () →
    view.Stored path text state ((host.write path text).run state).2
  write_error : ∀ path text state fault, ((host.write path text).run state).1 = .error fault →
    view.Same state ((host.write path text).run state).2

/-- A host that prints a text as a whole, as it writes one: if there is a fault, nothing is
printed. -/
def PrintsWhole (host : Host (StateM σ)) (view : View σ Place) : Prop :=
  ∀ text state fault, ((host.print text).run state).1 = .error fault →
    view.Same state ((host.print text).run state).2

end Host

/-! ## Described machines -/

/-- The content of a file; a directory has none. -/
def Entry.content? : Entry → Option (List UInt8)
  | file content => some content
  | directory => none

namespace World

variable {world other : World}

/-- What is seen of a described machine. -/
def view : View World (List String) where
  place? := fun world path => (world.placeOf path).toOption
  file? := fun world place => (world.entry? place).bind Entry.content?
  output := World.output

/-! ### Walks -/

/-- A walk that goes on from a place finds a directory there. -/
theorem entry?_of_walk_cons {place target : List String} {name : String} {names : List String}
    (h : world.walk place (name :: names) = .ok target) :
    world.entry? place = some .directory := by
  unfold walk at h
  cases hentry : world.entry? place with
  | none =>
    rw [hentry] at h
    cases h
  | some entry =>
    cases entry with
    | file content =>
      rw [hentry] at h
      cases h
    | directory => rfl

/-- From a directory, a walk goes on to what its next name says. -/
theorem walk_cons {place : List String} (h : world.entry? place = some .directory) (name : String)
    (names : List String) :
    world.walk place (name :: names) =
      if name = "" ∨ name = "." then world.walk place names
      else if name = ".." then world.walk place.dropLast names
      else if name.utf8ByteSize > longestName then .error .nameTooLong
      else world.walk (place ++ [name]) names := by
  rw [walk, h]

/-- Where the same is at each place, walks are the same. -/
theorem walk_of_entry?_eq (h : other.entry? = world.entry?) (names : List String)
    (place : List String) : other.walk place names = world.walk place names := by
  induction names generalizing place with
  | nil => rfl
  | cons name names ih =>
    unfold walk
    simp only [h, ih]

/-- A walk leads where it led before once a file is written where no directory is: on its way it
passes directories only. -/
theorem walk_put {place : List String} (hfile : world.entry? place ≠ some .directory)
    (content : List UInt8) {names : List String} {start target : List String}
    (h : world.walk start names = .ok target) :
    (world.put place content).walk start names = .ok target := by
  induction names generalizing start with
  | nil => exact h
  | cons name names ih =>
    have hentry := entry?_of_walk_cons h
    have hne : start ≠ place := by
      rintro rfl
      exact hfile hentry
    have hkept : World.entry? (world.put place content) start = some .directory := by
      show (if start = place then some (.file content) else world.entry? start) = _
      rw [if_neg hne, hentry]
    rw [walk_cons hentry] at h
    rw [walk_cons hkept]
    split_ifs at h ⊢ with hstay hup hlong
    · exact ih h
    · exact ih h
    · exact ih h

/-! ### Changes -/

/-- Where the same is at each place, and seen from the same directory, paths lead to the same
places. -/
theorem place?_view (h : other.entry? = world.entry?) (hd : other.directory = world.directory) :
    view.place? other = view.place? world := by
  funext path
  have hplace : other.placeOf path = world.placeOf path := by
    unfold placeOf startOf
    rw [walk_of_entry?_eq h, hd]
  exact congrArg Except.toOption hplace

/-- A text that is written is put at the place of its path, where there is no directory. -/
theorem write_eq_ok {path text : String} (h : world.write path text = .ok other) :
    ∃ place, world.placeOf path = .ok place ∧ world.entry? place ≠ some .directory ∧
      other = world.put place text.toUTF8.toList := by
  unfold write at h
  by_cases hslash : path ≠ trimSlashes path
  · -- A path that ends with a slash is not that of a file.
    simp only [if_pos hslash] at h
    split at h
    · cases h
    · split at h <;> cases h
  · simp only [if_neg hslash] at h
    cases hplace : world.placeOf path with
    | error fault =>
      rw [hplace] at h
      cases h
    | ok place =>
      simp only [hplace] at h
      split_ifs at h with hdirectory hlocked
      exact ⟨place, rfl, hdirectory, (Except.ok.inj h).symm⟩

/-- The path by which a file is written leads to the file afterwards. -/
theorem placeOf_put {path : String} {place : List String} (hplace : world.placeOf path = .ok place)
    (hfile : world.entry? place ≠ some .directory) (content : List UInt8) :
    (world.put place content).placeOf path = .ok place := by
  unfold placeOf at hplace ⊢
  split_ifs at hplace ⊢ with hempty hlong
  exact walk_put hfile content hplace

/-- What is written is stored. -/
theorem stored_of_write {path text : String} (h : world.write path text = .ok other) :
    view.Stored path text world other := by
  obtain ⟨place, hplace, hfile, rfl⟩ := write_eq_ok h
  refine ⟨rfl, place, congrArg Except.toOption hplace,
    congrArg Except.toOption (placeOf_put hplace hfile _), ?_, fun unwritten hne => ?_⟩
  · show (if place = place then some _ else world.entry? place).bind Entry.content? = _
    rw [if_pos rfl]
    rfl
  · show (if unwritten = place then some _ else world.entry? unwritten).bind Entry.content? = _
    rw [if_neg hne]
    rfl

/-- What is read is in the file to which the path leads. -/
theorem file?_of_read {path : String} {content : List UInt8} (h : world.read path = .ok content) :
    ∃ place, view.place? world path = some place ∧ view.file? world place = some content := by
  unfold read at h
  cases hplace : world.placeOf path with
  | error fault =>
    rw [hplace] at h
    cases h
  | ok place =>
    refine ⟨place, congrArg Except.toOption hplace, ?_⟩
    show (world.entry? place).bind Entry.content? = some content
    simp only [hplace] at h
    cases hentry : world.entry? place with
    | none =>
      rw [hentry] at h
      cases h
    | some entry =>
      rw [hentry] at h
      cases entry with
      | directory => cases h
      | file kept =>
        simp only at h
        split_ifs at h with hlocked
        exact congrArg some (Except.ok.inj h)

/-- Where the output has no end, all of a text is printed. -/
theorem print_of_outputEnd_eq_none (h : world.outputEnd = none) (text : String) :
    world.print text = (.ok (), { world with output := world.output ++ text }) := by
  unfold print
  rw [h]

/-- Where the output ends, so much of a text is printed as there is room for. -/
theorem print_of_outputEnd_eq_some {room : Nat} {fault : FileFault}
    (h : world.outputEnd = some (room, fault)) (text : String) :
    world.print text =
      (if text.length ≤ room then .ok () else .error fault,
        { world with
          output := world.output ++ String.ofList (text.toList.take room)
          outputEnd := some (room - text.length, fault) }) := by
  unfold print
  rw [h]

/-- What is printed is added to the output. -/
theorem printed_of_print {text : String} (h : (world.print text).1 = .ok ()) :
    view.Printed text world (world.print text).2 := by
  rcases hend : world.outputEnd with _ | ⟨room, fault⟩
  · rw [print_of_outputEnd_eq_none hend]
    exact ⟨place?_view rfl rfl, rfl, rfl⟩
  · rw [print_of_outputEnd_eq_some hend] at h ⊢
    refine ⟨place?_view rfl rfl, rfl, ?_⟩
    show world.output ++ String.ofList (text.toList.take room) = world.output ++ text
    have hroom : text.length ≤ room := by
      split_ifs at h with hfits
      exact hfits
    have hall : text.toList.take room = text.toList :=
      List.take_of_length_le (Nat.le_trans (Nat.le_of_eq String.length_toList) hroom)
    rw [hall, String.ofList_toList]

/-- Where a text does not fit, a front of it is printed. -/
theorem begun_print (world : World) (text : String) :
    view.Begun text world (world.print text).2 := by
  rcases hend : world.outputEnd with _ | ⟨room, fault⟩
  · rw [print_of_outputEnd_eq_none hend]
    refine ⟨place?_view rfl rfl, rfl, text.toList, List.prefix_rfl, ?_⟩
    show world.output ++ text = world.output ++ String.ofList text.toList
    rw [String.ofList_toList]
  · rw [print_of_outputEnd_eq_some hend]
    exact ⟨place?_view rfl rfl, rfl, text.toList.take room, List.take_prefix room _, rfl⟩

/-- A machine is another one after a text is written, and the same after a fault. -/
theorem run_write (path text : String) (world : World) :
    (host.write path text).run world =
      match world.write path text with
      | .ok changed => (.ok (), changed)
      | .error fault => (.error fault, world) := rfl

/-- The host that a described machine is keeps the laws. -/
theorem lawful_host : host.Lawful view where
  directory := fun _ => rfl
  isThere := fun _ _ => rfl
  read := fun _ _ => rfl
  read_ok := fun _ _ _ h => file?_of_read h
  input := fun _ => ⟨place?_view rfl rfl, rfl, rfl⟩
  report := fun _ _ => ⟨place?_view rfl rfl, rfl, rfl⟩
  print_ok := fun _ _ h => printed_of_print h
  print_error := fun text world _ _ => begun_print world text
  write_ok := by
    intro path text world hok
    rw [run_write] at hok ⊢
    cases hwrite : world.write path text with
    | ok changed => exact stored_of_write hwrite
    | error fault =>
      rw [hwrite] at hok
      cases hok
  write_error := by
    intro path text world fault herror
    rw [run_write] at herror ⊢
    cases hwrite : world.write path text with
    | ok changed =>
      rw [hwrite] at herror
      cases herror
    | error fault => exact view.same_refl world

end World

end TreeText
