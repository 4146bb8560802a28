/-
# Recorded hosts

A host that answers as a given one does and writes down, in order, what it is asked. So what a
program does can be told from what it ends with: which files it has looked for, which it has read,
and whether it has touched its input and its output at all.

* `Access` is one thing that a host is asked, and `Host.recorded` the host that keeps the record.
* `Host.Adds` says that an activity adds nothing to the record but accesses of one kind, and holds
  of activities one after another.
-/
import TreeText.Proofs.Host.Lawful

namespace TreeText

/-! ## Accesses -/

/-- One thing that a program asks of its surroundings. -/
inductive Access where
  | directory
  | isThere (path : String)
  | read (path : String)
  | input
  | write (path text : String)
  | print (text : String)
  | report (text : String)
  deriving DecidableEq, Repr

/-- Whether an access looks for a file, and no more. -/
def Access.looks : Access → Bool
  | directory => true
  | isThere _ => true
  | _ => false

namespace Host

variable {σ α β : Type}

/-! ## Recording -/

/-- The activity with an access written down. -/
def noting (access : Access) (activity : StateM σ α) : StateM (σ × List Access) α := fun state =>
  ((activity.run state.1).1, (activity.run state.1).2, state.2 ++ [access])

/-- The host with all that it is asked written down. -/
def recorded (host : Host (StateM σ)) : Host (StateM (σ × List Access)) where
  directory := noting .directory host.directory
  isThere path := noting (.isThere path) (host.isThere path)
  read path := noting (.read path) (host.read path)
  input := noting .input host.input
  write path text := noting (.write path text) (host.write path text)
  print text := noting (.print text) (host.print text)
  report text := noting (.report text) (host.report text)

/-- A quiet activity that is written down changes nothing but the record. -/
theorem Quiet.run_noting {activity : StateM σ α} (h : Quiet activity) (access : Access) (state : σ)
    (record : List Access) :
    (noting access activity).run (state, record) =
      ((activity.run state).1, state, record ++ [access]) := by
  show ((activity.run state).1, (activity.run state).2, record ++ [access]) = _
  rw [h]

/-! ## What is added -/

/-- An activity that adds nothing to the record but what is allowed. -/
def Adds (allowed : Access → Prop) (activity : StateM (σ × List Access) α) : Prop :=
  ∀ state record, ∃ added, (activity.run (state, record)).2.2 = record ++ added ∧
    ∀ access ∈ added, allowed access

variable {allowed : Access → Prop}

theorem adds_pure (value : α) : Adds allowed (pure value : StateM (σ × List Access) α) :=
  fun _ record => ⟨[], (List.append_nil record).symm, nofun⟩

theorem adds_noting {access : Access} (h : allowed access) (activity : StateM σ α) :
    Adds allowed (noting access activity) :=
  fun _ _ => ⟨[access], rfl, fun _ hm => List.mem_singleton.mp hm ▸ h⟩

/-- One activity after another adds what both add. -/
theorem Adds.bind {first : StateM (σ × List Access) α} {next : α → StateM (σ × List Access) β}
    (h : Adds allowed first) (hnext : ∀ value, Adds allowed (next value)) :
    Adds allowed (first >>= next) := by
  intro state record
  obtain ⟨added, hrecord, hadded⟩ := h state record
  obtain ⟨later, hlater, hall⟩ := hnext (first.run (state, record)).1
    (first.run (state, record)).2.1 (record ++ added)
  refine ⟨added ++ later, ?_, ?_⟩
  · rw [run_bind, ← List.append_assoc, ← hlater, ← hrecord]
  · exact fun access hm => (List.mem_append.mp hm).elim (hadded access) (hall access)

theorem closed_adds (allowed : Access → Prop) : Closed (fun {_} => @Adds σ _ allowed) :=
  ⟨adds_pure, Adds.bind⟩

end Host

end TreeText
